import RowDrop.Proofs.Json.Cutting
import RowDrop.Proofs.Json.Records

/-!
# Cutting off the end of a text: values and records

A value that is passed over uses up at least one character, so what is left of it stands behind the
first one. That pays for the fuel, which is smaller at the cut text. A value that is read as a
known kind is kept exactly, because it is a word, a text or a record and so has an end of its own.
-/

namespace RowDrop.Json

theorem suffix_tail {c : Char} {front left : List Char} (h : c :: left <:+ front) :
    left <:+ front.tail := by
  obtain ⟨before, rfl⟩ := h
  cases before with
  | nil => exact List.suffix_rfl
  | cons d before => exact ⟨before ++ [c], by simp⟩

section Passing

variable {front back : List Char}

theorem passColon_of_ne {c : Char} {cs tail : List Char} (hcs : skipBlanks cs = c :: tail)
    (hc : c ≠ ':') : passColon cs = .error (.next .expectedColon (c :: tail)) := by
  simp [passColon, hcs, hc]

theorem passColon_agrees (front back : List Char) :
    Agrees (Kept front back) (passColon (front ++ back)) (passColon front) := by
  rcases skipBlanks_cut front back with h | ⟨c, left, h, h', hs⟩
  · exact .of_meetsEnd ⟨_, by rw [passColon, h]; rfl⟩
  · by_cases hc : c = ':'
    · subst hc
      simp only [passColon, h, h']
      exact .of_ok (Kept.all.within ((List.suffix_cons _ left).trans hs))
    · rw [passColon_of_ne h' hc]
      exact .of_error

theorem passKey_of_ne {c : Char} {cs tail : List Char} (hcs : skipBlanks cs = c :: tail)
    (hc : c ≠ '"') : passKey cs = .error (.next .keyNotText (c :: tail)) := by
  simp [passKey, hcs, hc]

theorem passKey_agrees (front back : List Char) :
    Agrees (Kept front.tail back) (passKey (front ++ back)) (passKey front) := by
  rcases skipBlanks_cut front back with h | ⟨c, left, h, h', hs⟩
  · exact .of_meetsEnd ⟨_, by rw [passKey, h]; rfl⟩
  · by_cases hc : c = '"'
    · subst hc
      simp only [passKey, h, h']
      refine (passText_agrees left back).bind ?_
      rintro _ key - ⟨hkey, rfl⟩
      exact (passColon_agrees key back).mono fun _ _ hr => hr.within (hkey.trans (suffix_tail hs))
    · rw [passKey_of_ne h' hc]
      exact .of_error

theorem passItems_meetsEnd {fuel : Nat} {first : Bool} (enough : 0 < fuel) :
    MeetsEnd (passItems fuel first []) := by
  obtain ⟨fuel, rfl⟩ := Nat.exists_eq_add_one_of_ne_zero enough.ne'
  exact ⟨.endOfList, rfl⟩

theorem passMembers_meetsEnd {fuel : Nat} {first : Bool} (enough : 0 < fuel) :
    MeetsEnd (passMembers fuel first []) := by
  obtain ⟨fuel, rfl⟩ := Nat.exists_eq_add_one_of_ne_zero enough.ne'
  exact ⟨.endOfRecord, rfl⟩

-- The two fuels go down together. That of the whole text may be any, since running out of it is no
-- success; that of the cut text has to be enough.
mutual
/-- A value that is passed over ends in front of the cut, is a number up to it, or meets the end. -/
theorem passValueWithin_agrees (fuel fuel' : Nat) (front back : List Char)
    (enough : 2 * front.length + 1 ≤ fuel') :
    Agrees (Reached front.tail back) (passValueWithin fuel (front ++ back))
      (passValueWithin fuel' front) := by
  match fuel, fuel' with
  | 0, _ => exact .of_error
  | fuel + 1, fuel' + 1 =>
    rcases skipBlanks_cut front back with h | ⟨c, left, h, h', hs⟩
    · exact .of_meetsEnd ⟨_, by rw [passValueWithin, h]; rfl⟩
    · have hlen := hs.length_le
      have hleft := suffix_tail hs
      rw [List.length_cons] at hlen
      have hword (letters : List Char) : Agrees (Reached front.tail back)
          (readWord letters (left ++ back)) (readWord letters left) :=
        (readWord_agrees letters left back).mono fun _ _ hr => (hr.within hleft).reached
      simp only [passValueWithin, h, h']
      split_ifs
      · exact hword _
      · exact hword _
      · exact hword _
      · exact (passNumber_agrees left back).mono fun _ _ hr =>
          hr.within ((List.tail_suffix left).trans hleft)
      · exact (passNumber_agrees (c :: left) back).mono fun _ _ hr => hr.within hleft
      · exact (passText_agrees left back).mono fun _ _ hr => (hr.within hleft).reached
      · exact (passItems_agrees fuel fuel' true left back (by omega)).mono fun _ _ hr =>
          hr.within ((List.tail_suffix left).trans hleft)
      · exact (passMembers_agrees fuel fuel' true left back (by omega)).mono fun _ _ hr =>
          hr.within ((List.tail_suffix left).trans hleft)
      · exact .of_error
  termination_by fuel

theorem passItems_agrees (fuel fuel' : Nat) (first : Bool) (front back : List Char)
    (enough : 2 * front.length + 2 ≤ fuel') :
    Agrees (Reached front.tail back) (passItems fuel first (front ++ back))
      (passItems fuel' first front) := by
  match fuel, fuel' with
  | 0, _ => exact .of_error
  | fuel + 1, fuel' + 1 =>
    rcases skipBlanks_cut front back with h | ⟨c, left, h, h', hs⟩
    · exact .of_meetsEnd ⟨_, by rw [passItems, h]; rfl⟩
    · have hlen := hs.length_le
      have hleft := suffix_tail hs
      rw [List.length_cons] at hlen
      have hitem (here : List Char) (hhere : here.length ≤ left.length + 1)
          (htail : here.tail <:+ left) : Agrees (Reached front.tail back)
            (passValueWithin fuel (here ++ back) >>= passItems fuel false)
            (passValueWithin fuel' here >>= passItems fuel' false) := by
        refine (passValueWithin_agrees fuel fuel' here back (by omega)).bind ?_
        intro rest more _ hr
        have hmore := (hr.suffix.trans htail).length_le
        obtain rfl | rfl := hr.eq
        · exact .of_meetsEnd (passItems_meetsEnd (by omega))
        · refine (passItems_agrees fuel fuel' false more back (by omega)).mono ?_
          intro _ _ hr'
          exact hr'.within ((List.tail_suffix more).trans (hr.suffix.trans (htail.trans hleft)))
      simp only [passItems, h, h']
      split_ifs
      · exact .of_ok (Kept.all.within hleft).reached
      · exact hitem (c :: left) (by simp) List.suffix_rfl
      · exact hitem left (by omega) (List.tail_suffix left)
      · exact .of_error
  termination_by fuel

theorem passMembers_agrees (fuel fuel' : Nat) (first : Bool) (front back : List Char)
    (enough : 2 * front.length + 2 ≤ fuel') :
    Agrees (Reached front.tail back) (passMembers fuel first (front ++ back))
      (passMembers fuel' first front) := by
  match fuel, fuel' with
  | 0, _ => exact .of_error
  | fuel + 1, fuel' + 1 =>
    rcases skipBlanks_cut front back with h | ⟨c, left, h, h', hs⟩
    · exact .of_meetsEnd ⟨_, by rw [passMembers, h]; rfl⟩
    · have hlen := hs.length_le
      have hleft := suffix_tail hs
      rw [List.length_cons] at hlen
      have hmember (here : List Char) (htail : here.tail <:+ left) :
          Agrees (Reached front.tail back)
            (do passMembers fuel false (← passValueWithin fuel (← passKey (here ++ back))))
            (do passMembers fuel' false (← passValueWithin fuel' (← passKey here))) := by
        refine (passKey_agrees here back).bind ?_
        intro _ value _ hk
        obtain ⟨hk, rfl⟩ := hk
        have hvalue := (hk.trans htail).length_le
        refine (passValueWithin_agrees fuel fuel' value back (by omega)).bind ?_
        intro rest more _ hr
        have hs := hr.suffix.trans ((List.tail_suffix value).trans (hk.trans htail))
        have hmore := hs.length_le
        obtain rfl | rfl := hr.eq
        · exact .of_meetsEnd (passMembers_meetsEnd (by omega))
        · refine (passMembers_agrees fuel fuel' false more back (by omega)).mono ?_
          intro _ _ hr'
          exact hr'.within ((List.tail_suffix more).trans (hs.trans hleft))
      simp only [passMembers, h, h']
      split_ifs
      · exact .of_ok (Kept.all.within hleft).reached
      · exact hmember (c :: left) List.suffix_rfl
      · exact hmember left (List.tail_suffix left)
      · exact .of_error
  termination_by fuel
end

/-- A value is passed over with the fuel for the whole text and for the cut one. -/
theorem passValue_agrees (front back : List Char) :
    Agrees (Reached front.tail back) (passValue (front ++ back)) (passValue front) :=
  passValueWithin_agrees _ _ front back le_rfl

end Passing

section Kinds

variable {α β : Type} {front back : List Char}

theorem Agrees.of_toOption {R : α → β → Prop} {whole : Except Fault α} {cut : Except Fault β}
    (h : whole.toOption = none) : Agrees R whole cut := by
  intro a ha
  rw [ha] at h
  cases h

/-- A reader that notices where its text has been cut: it needs at least a character, and what it
accepts it accepts only if all of it is there. -/
structure NoticesCut (read : List Char → Except Fault (α × List Char)) : Prop where
  ends : MeetsEnd (read [])
  agrees : ∀ front back, Agrees (Valued (Kept front back)) (read (front ++ back)) (read front)

/-- A word with a meaning. -/
theorem readWord_valued {c : Char} {left : List Char} (letters : List Char) (value : α)
    (hs : c :: left <:+ front) :
    Agrees (Valued (Kept front back)) (do return (value, ← readWord letters (left ++ back)))
      (do return (value, ← readWord letters left)) := by
  refine (readWord_agrees letters left back).bind ?_
  intro rest more _ h
  exact .of_ok ⟨rfl, h.within ((List.suffix_cons c left).trans hs)⟩

theorem noticesCut_readTextAs (expected : String) : NoticesCut (readTextAs expected) where
  ends := ⟨.endOfValue, rfl⟩
  agrees front back := by
    rcases skipBlanks_cut front back with h | ⟨c, left, h, h', hs⟩
    · exact .of_meetsEnd ⟨.endOfValue, by rw [readTextAs, h]; rfl⟩
    · by_cases hc : c = '"'
      · subst hc
        simp only [readTextAs, h, h']
        refine (readText_agrees left back).bind_valued ?_
        intro text rest more _ hr
        exact .of_ok ⟨rfl, hr.within ((List.suffix_cons _ left).trans hs)⟩
      · rw [readTextAs_of_ne h' hc]
        exact .of_toOption (toOption_refuse _ _)

theorem noticesCut_readBool : NoticesCut readBool where
  ends := ⟨.endOfValue, rfl⟩
  agrees front back := by
    rcases skipBlanks_cut front back with h | ⟨c, left, h, h', hs⟩
    · exact .of_meetsEnd ⟨.endOfValue, by rw [readBool, h]; rfl⟩
    · by_cases ht : c = 't'
      · subst ht
        simp only [readBool, h, h']
        exact readWord_valued _ true hs
      · by_cases hf : c = 'f'
        · subst hf
          simp only [readBool, h, h']
          exact readWord_valued _ false hs
        · rw [readBool_of_ne h' ht hf]
          exact .of_toOption (toOption_refuse _ _)

theorem noticesCut_readNull : NoticesCut readNull where
  ends := ⟨.endOfValue, rfl⟩
  agrees front back := by
    rcases skipBlanks_cut front back with h | ⟨c, left, h, h', hs⟩
    · exact .of_meetsEnd ⟨.endOfValue, by rw [readNull, h]; rfl⟩
    · by_cases hn : c = 'n'
      · subst hn
        simp only [readNull, h, h']
        exact readWord_valued _ () hs
      · rw [readNull_of_ne h' hn]
        exact .of_toOption (toOption_refuse _ _)

/-- A value is read and changed. -/
theorem NoticesCut.map {γ : Type} {read : List Char → Except Fault (α × List Char)}
    (hread : NoticesCut read) (f : α → γ) :
    NoticesCut fun cs => do
      let (value, rest) ← read cs
      return (f value, rest) where
  ends := hread.ends.bind _
  agrees front back := by
    refine (hread.agrees front back).bind ?_
    intro _ _ _ h
    exact .of_ok ⟨congrArg f h.1, h.2⟩

theorem NoticesCut.optional {read : List Char → Except Fault (α × List Char)}
    (hread : NoticesCut read) : NoticesCut (readOptional read) where
  ends := hread.ends.bind _
  agrees front back := by
    rcases skipBlanks_cut front back with h | ⟨c, left, h, h', hs⟩
    · refine .of_meetsEnd ?_
      rw [readOptional, h]
      exact hread.ends.bind _
    · by_cases hn : c = 'n'
      · subst hn
        simp only [readOptional, h, h']
        exact readWord_valued _ none hs
      · rw [readOptional_of_ne _ h' hn, readOptional_of_ne _ h hn]
        exact ((hread.map some).agrees (c :: left) back).mono_rest fun _ _ hr => hr.within hs

/-- Behind the name of a variant in a record come the colon, null and the end. -/
theorem variantEnd_agrees (value : α) (front back : List Char) :
    Agrees (Valued (Kept front back))
      (do
        let ((), rest) ← readNull (← passColon (front ++ back))
        match skipBlanks rest with
        | '\x7d' :: rest => .ok (value, rest)
        | [] => .error (.behind .endOfRecord [])
        | rest => .error (.behind .expectedValue rest))
      (do
        let ((), rest) ← readNull (← passColon front)
        match skipBlanks rest with
        | '\x7d' :: rest => .ok (value, rest)
        | [] => .error (.behind .endOfRecord [])
        | rest => .error (.behind .expectedValue rest)) := by
  refine (passColon_agrees front back).bind ?_
  intro _ null _ hnull
  obtain ⟨hnull, rfl⟩ := hnull
  refine (noticesCut_readNull.agrees null back).bind_valued ?_
  intro _ _ brace _ hbrace
  obtain ⟨hbrace, rfl⟩ := hbrace
  rcases skipBlanks_cut brace back with h | ⟨c, left, h, h', hs⟩
  · exact .of_meetsEnd ⟨.endOfRecord, by simp only [h]; rfl⟩
  · by_cases hc : c = '\x7d'
    · subst hc
      simp only [h, h']
      have hleft : left <:+ brace := (List.suffix_cons _ left).trans hs
      exact .of_ok ⟨rfl, Kept.all.within (hleft.trans (hbrace.trans hnull))⟩
    · refine .of_toOption ?_
      simp only [h']
      split
      · next heq => exact absurd (List.cons.inj heq).1 hc
      · rfl
      · rfl

theorem noticesCut_readVariant (known : List String) (meaning : String → Option α) :
    NoticesCut (readVariant known meaning) where
  ends := ⟨.endOfValue, rfl⟩
  agrees front back := by
    rcases skipBlanks_cut front back with h | ⟨c, left, h, h', hs⟩
    · exact .of_meetsEnd ⟨.endOfValue, by rw [readVariant, h]; rfl⟩
    · have hleft : left <:+ front := (List.suffix_cons c left).trans hs
      by_cases hq : c = '"'
      · subst hq
        simp only [readVariant, h, h']
        refine (readText_agrees left back).bind_valued ?_
        intro text rest more _ hr
        dsimp only
        cases meaning (String.ofList text) with
        | none => exact .of_error
        | some value => exact .of_ok ⟨rfl, hr.within hleft⟩
      by_cases hb : c = '\x7b'
      · subst hb
        simp only [readVariant, h, h']
        rcases skipBlanks_cut left back with hk | ⟨d, key, hk, hk', hks⟩
        · exact .of_meetsEnd ⟨.endOfRecord, by rw [hk]; rfl⟩
        · simp only [hk, hk']
          by_cases hd : d = '"'
          · subst hd
            have hkey : key <:+ front := ((List.suffix_cons _ key).trans hks).trans hleft
            refine (readText_agrees key back).bind_valued ?_
            intro text _ colon _ hr
            obtain ⟨hcolon, rfl⟩ := hr
            dsimp only
            cases meaning (String.ofList text) with
            | none => exact .of_error
            | some value =>
              exact (variantEnd_agrees value colon back).mono_rest fun _ _ hr =>
                hr.within (hcolon.trans hkey)
          · refine .of_toOption ?_
            split
            · rfl
            · next heq => exact absurd (List.cons.inj heq).1 hd
            · rfl
            · rfl
      · exact .of_toOption (readVariant_of_ne h' hq hb)

end Kinds

end RowDrop.Json
