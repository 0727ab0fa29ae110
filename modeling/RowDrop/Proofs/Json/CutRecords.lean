import RowDrop.Proofs.Json.CutValues

/-!
# Cutting off the end of a text: records and lists of values

Members and values are read one after the other up to a closing bracket (`Closed`). A member whose
value is passed over may be a number that is complete at the cut; the search for the next key then
meets the end. So a record is never accepted without its closing bracket.
-/

namespace RowDrop.Json

section Members

variable {σ : Type} {fields : List (Field σ)} {front front' back rest left : List Char}

/-- All fields have readers that notice a cut. -/
def FieldsNotice (fields : List (Field σ)) : Prop :=
  ∀ field ∈ fields, ∀ record, NoticesCut (field.read record)

theorem noticesCut_field_of {α : Type} {read : List Char → Except Fault (α × List Char)}
    (hread : NoticesCut read) (name : String) (set : σ → α → σ) (record : σ) :
    NoticesCut ((Field.of name read set).read record) :=
  hread.map (set record)

/-- What is left stands behind a closing bracket, and is the same where the text goes on. -/
structure Closed (front back rest left : List Char) : Prop where
  bracket : '\x7d' :: left <:+ front ∨ ']' :: left <:+ front
  eq : rest = left ++ back

theorem Closed.kept (h : Closed front back rest left) : Kept front back rest left := by
  refine ⟨?_, h.eq⟩
  rcases h.bracket with h | h
  · exact (List.suffix_cons _ left).trans h
  · exact (List.suffix_cons _ left).trans h

theorem Closed.within (h : Closed front back rest left) (within : front <:+ front') :
    Closed front' back rest left :=
  ⟨h.bracket.imp (·.trans within) (·.trans within), h.eq⟩

theorem nextKey_agrees (first : Bool) (front back : List Char) :
    Agrees (Valued (Kept front.tail back)) (nextKey first (front ++ back))
      (nextKey first front) := by
  rcases skipBlanks_cut front back with h | ⟨c, left, h, h', hs⟩
  · exact .of_meetsEnd ⟨.endOfRecord, by rw [nextKey, h]; rfl⟩
  · have hleft : left <:+ front.tail := suffix_tail hs
    simp only [nextKey, h, h']
    split_ifs
    · exact .of_ok ⟨rfl, Kept.all.within hleft⟩
    · exact .of_ok ⟨rfl, Kept.all.within hleft⟩
    · exact .of_error
    · rcases skipBlanks_cut left back with hk | ⟨d, key, hk, hk', hks⟩
      · exact .of_meetsEnd ⟨.endOfValue, by rw [hk]; rfl⟩
      · simp only [hk, hk']
        by_cases hd : d = '"'
        · subst hd
          exact .of_ok ⟨rfl, Kept.all.within (((List.suffix_cons _ key).trans hks).trans hleft)⟩
        · refine .of_toOption ?_
          split
          · rfl
          · next heq => exact absurd (List.cons.inj heq).1 hd
          · rfl
          · rfl
    · exact .of_error

/-- There is no next key only at the closing bracket. -/
theorem bracket_of_nextKey {first : Bool} {cs rest : List Char}
    (h : nextKey first cs = .ok (false, rest)) : '\x7d' :: rest <:+ cs := by
  have hs : skipBlanks cs <:+ cs := List.dropWhile_suffix isBlank
  unfold nextKey at h
  split at h
  · cases h
  · next c left hskip =>
    rw [hskip] at hs
    split_ifs at h with hc
    · cases h
      exact hc ▸ hs
    · cases h
    · split at h <;> cases h

/-- A member that is not known may be passed over up to the cut; its value is of no account. -/
theorem readMember_agrees (notice : FieldsNotice fields) (seen : List String) (record : σ)
    (key : String) (front back : List Char) :
    Agrees (Valued (Reached front back)) (readMember fields seen record key (front ++ back))
      (readMember fields seen record key front) := by
  unfold readMember
  cases hfind : fields.find? (·.name = key) with
  | none =>
    refine (passColon_agrees front back).bind ?_
    intro _ value _ hvalue
    obtain ⟨hvalue, rfl⟩ := hvalue
    refine (passValue_agrees value back).bind ?_
    intro rest left _ hr
    exact .of_ok ⟨rfl, hr.within ((List.tail_suffix value).trans hvalue)⟩
  | some field =>
    dsimp only
    split_ifs
    · exact .of_error
    · refine (passColon_agrees front back).bind ?_
      intro _ value _ hvalue
      obtain ⟨hvalue, rfl⟩ := hvalue
      have hfield := notice field (List.mem_of_find?_eq_some hfind) record
      refine (hfield.agrees value back).bind_valued ?_
      intro record rest left _ hr
      exact .of_ok ⟨rfl, (hr.within hvalue).reached⟩

theorem readMembers_meetsEnd {fuel : Nat} {first : Bool} {seen : List String} {record : σ}
    (enough : 0 < fuel) : MeetsEnd (readMembers fields fuel first seen record []) := by
  obtain ⟨fuel, rfl⟩ := Nat.exists_eq_add_one_of_ne_zero enough.ne'
  exact ⟨.endOfRecord, rfl⟩

/-- As for values that are passed over, the fuel at the cut text has to be enough only for that. -/
theorem readMembers_agrees (notice : FieldsNotice fields) (fuel fuel' : Nat) (first : Bool)
    (seen : List String) (record : σ) (front back : List Char)
    (enough : front.length + 1 ≤ fuel') :
    Agrees (Valued (Closed front back)) (readMembers fields fuel first seen record (front ++ back))
      (readMembers fields fuel' first seen record front) := by
  induction fuel generalizing fuel' first seen record front with
  | zero => exact .of_error
  | succ fuel ih =>
    obtain ⟨fuel', rfl⟩ := Nat.exists_eq_add_one_of_ne_zero (show fuel' ≠ 0 by omega)
    cases front with
    | nil => exact .of_meetsEnd ⟨.endOfRecord, rfl⟩
    | cons c front =>
      rw [List.length_cons] at enough
      refine (nextKey_agrees first (c :: front) back).bind_valued ?_
      intro more _ key hnext hkey
      obtain ⟨hkey, rfl⟩ := hkey
      cases more with
      | false => exact .of_ok ⟨rfl, .inl (bracket_of_nextKey hnext), rfl⟩
      | true =>
        refine (readText_agrees key back).bind_valued ?_
        intro name _ colon _ hcolon
        obtain ⟨hcolon, rfl⟩ := hcolon
        refine (readMember_agrees notice seen record _ colon back).bind_valued ?_
        intro (seen, record) rest left _ hr
        have hleft : left <:+ front := hr.suffix.trans (hcolon.trans hkey)
        have hlen := hleft.length_le
        obtain rfl | rfl := hr.eq
        · exact .of_meetsEnd (readMembers_meetsEnd (by omega))
        · exact (ih fuel' false seen record left (by omega)).mono_rest fun _ _ hclosed =>
            hclosed.within (hleft.trans (List.suffix_cons c front))

end Members

section Values

variable {σ : Type} {front back : List Char}

theorem endList_agrees (front back : List Char) :
    Agrees (Closed front back) (endList (front ++ back)) (endList front) := by
  rcases skipBlanks_cut front back with h | ⟨c, left, h, h', hs⟩
  · exact .of_meetsEnd ⟨.endOfList, by rw [endList, h]; rfl⟩
  · by_cases hc : c = ']'
    · subst hc
      simp only [endList, h, h']
      exact .of_ok ⟨.inr hs, rfl⟩
    · exact .of_toOption (endList_of_ne h' hc)

theorem readValues_agrees (fields : List (Field σ)) (notice : FieldsNotice fields) (first : Bool)
    (record : σ) (front back : List Char) :
    Agrees (Valued (Closed front back)) (readValues fields first record (front ++ back))
      (readValues fields first record front) := by
  induction fields generalizing first record front with
  | nil =>
    refine (endList_agrees front back).bind ?_
    intro rest left _ hr
    exact .of_ok ⟨rfl, hr⟩
  | cons field fields ih =>
    have hvalue (here : List Char) (hhere : here <:+ front) :
        Agrees (Valued (Closed front back))
          (field.read record (here ++ back) >>= fun found =>
            readValues fields false found.1 found.2)
          (field.read record here >>= fun found => readValues fields false found.1 found.2) := by
      have hfield := notice field List.mem_cons_self record
      refine (hfield.agrees here back).bind_valued ?_
      intro record _ left _ hr
      obtain ⟨hleft, rfl⟩ := hr
      have hfields : FieldsNotice fields := fun other hother =>
        notice other (List.mem_cons_of_mem _ hother)
      exact (ih hfields false record left).mono_rest fun _ _ hclosed =>
        hclosed.within (hleft.trans hhere)
    rcases skipBlanks_cut front back with h | ⟨c, left, h, h', hs⟩
    · exact .of_meetsEnd ⟨.endOfList, by rw [readValues, h]; rfl⟩
    · have hleft : left <:+ front := (List.suffix_cons c left).trans hs
      simp only [readValues, h, h']
      split_ifs with hc
      · subst hc
        exact .of_ok ⟨rfl, .inr hs, rfl⟩
      · exact hvalue (c :: left) hs
      · rcases skipBlanks_cut left back with hk | ⟨d, value, hk, hk', hks⟩
        · exact .of_meetsEnd ⟨.endOfValue, by rw [hk]; rfl⟩
        · simp only [hk, hk']
          by_cases hd : d = ']'
          · subst hd
            exact .of_error
          · split
            · next heq => cases heq
            · next heq => exact absurd (List.cons.inj heq).1 hd
            · split
              · next heq => cases heq
              · next heq => exact absurd (List.cons.inj heq).1 hd
              · exact hvalue (d :: value) (hks.trans hleft)
      · exact .of_error

/-- Neither a record nor a list of values is accepted without its closing bracket. -/
theorem readRecord_agrees (expected : String) {fields : List (Field σ)}
    (notice : FieldsNotice fields) (record : σ) (front back : List Char) :
    Agrees (Valued (Closed front back)) (readRecord expected fields record (front ++ back))
      (readRecord expected fields record front) := by
  rcases skipBlanks_cut front back with h | ⟨c, left, h, h', hs⟩
  · exact .of_meetsEnd ⟨.endOfValue, by rw [readRecord, h]; rfl⟩
  · have hleft : left <:+ front := (List.suffix_cons c left).trans hs
    have hwithin (rest more : List Char) (h : Closed left back rest more) :
        Closed front back rest more := h.within hleft
    by_cases hrecord : c = '\x7b'
    · subst hrecord
      simp only [readRecord, h, h']
      exact (readMembers_agrees notice _ _ true [] record left back le_rfl).mono_rest hwithin
    by_cases hlist : c = '['
    · subst hlist
      simp only [readRecord, h, h']
      exact (readValues_agrees fields notice true record left back).mono_rest hwithin
    rw [readRecord_of_ne h' hrecord hlist]
    exact .of_toOption (toOption_refuse _ _)

theorem noticesCut_readRecord (expected : String) {fields : List (Field σ)}
    (notice : FieldsNotice fields) (record : σ) :
    NoticesCut (readRecord expected fields record) where
  ends := ⟨.endOfValue, rfl⟩
  agrees front back :=
    (readRecord_agrees expected notice record front back).mono_rest fun _ _ hr => hr.kept

end Values

end RowDrop.Json
