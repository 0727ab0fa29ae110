import RowDrop.Json.Record
import RowDrop.Proofs.Json.Overlay
import RowDrop.Proofs.Json.Readers

/-!
# Reading records

A reader of records lays the members on the record, whatever their order and whatever unknown ones
stand between them, or the values of a list under the first names. It fails exactly where they are
refused.
-/

namespace RowDrop.Json

variable {σ : Type} {cs rest : List Char}

/-- The field reads its value as the rule says. -/
structure Field.Follows (field : Field σ) (rule : Rule σ) : Prop where
  name : field.name = rule.name
  reads (record : σ) :
    Reads (field.read record) fun value => (rule.lay value).map fun change => change record

/-- A field that sets what its reader finds follows the rule that sets what it means. -/
theorem Field.follows_of {α : Type} {name : String} {set : σ → α → σ}
    {read : List Char → Except Fault (α × List Char)} {meaning : Value → Option α}
    (h : Reads read meaning) :
    (Field.of name read set).Follows (Rule.of name meaning set) where
  name := rfl
  reads record := by
    intro value cs blanks rest hv hb hrest
    simp only [Field.of, Rule.of, toOption_bind, h hv hb hrest]
    cases meaning value <;> rfl

section Keys

variable {first : Bool} {blanks : List Char}

theorem nextKey_end (hb : Blanks blanks) :
    nextKey first (blanks ++ '\x7d' :: rest) = .ok (false, rest) := by
  rw [nextKey, skipBlanks_append hb, skipBlanks_cons rfl]
  rfl

theorem nextKey_first (hb : Blanks blanks) :
    nextKey true (blanks ++ '"' :: rest) = .ok (true, rest) := by
  rw [nextKey, skipBlanks_append hb, skipBlanks_cons rfl]
  rfl

theorem nextKey_more {blanks' : List Char} (hb : Blanks blanks) (hb' : Blanks blanks') :
    nextKey false (blanks ++ ',' :: (blanks' ++ '"' :: rest)) = .ok (true, rest) := by
  rw [nextKey, skipBlanks_append hb, skipBlanks_cons rfl]
  have hquote : skipBlanks (blanks' ++ '"' :: rest) = '"' :: rest := by
    rw [skipBlanks_append hb', skipBlanks_cons rfl]
  simp [hquote]

end Keys

section Members

variable {fields : List (Field σ)} {rules : List (Rule σ)} {record : σ}

/-- The field of a name and its rule are found together. -/
theorem find?_follows (h : List.Forall₂ Field.Follows fields rules) (key : String) :
    (fields.find? (·.name = key) = none ∧ rules.find? (·.name = key) = none) ∨
      ∃ field rule, fields.find? (·.name = key) = some field ∧
        rules.find? (·.name = key) = some rule ∧ field.Follows rule := by
  induction h with
  | nil => exact .inl ⟨rfl, rfl⟩
  | @cons field rule fields rules hf _ ih =>
    by_cases hk : field.name = key
    · have hk' : rule.name = key := hf.name.symm.trans hk
      exact .inr ⟨field, rule, by simp [hk], by simp [hk'], hf⟩
    · have hk' : rule.name ≠ key := fun h => hk (hf.name.trans h)
      simpa [List.find?_cons, hk, hk'] using ih

/-- A member is laid on by the rule of its name, unless the name has been seen; a member with an
unknown name is passed over. -/
theorem readMember_append (hfields : List.Forall₂ Field.Follows fields rules) {seen : List String}
    {key : String} {value : Value} {blanks blanks' : List Char} (hb : Blanks blanks)
    (hb' : Blanks blanks') (hv : Spells value cs) (hrest : Delimited rest) :
    (readMember fields seen record key (blanks ++ ':' :: (blanks' ++ (cs ++ rest)))).toOption
      = match rules.find? (·.name = key) with
        | none => some ((seen, record), rest)
        | some rule =>
          if key ∈ seen then none
          else (rule.lay value).map fun change => ((key :: seen, change record), rest) := by
  rw [readMember]
  rcases find?_follows hfields key with ⟨hf, hr⟩ | ⟨field, rule, hf, hr, hfollows⟩
  · simp only [hf, hr]
    simp [passColon_append hb, passValue_append hv hb' hrest]
  · simp only [hf, hr]
    split_ifs with hseen
    · rfl
    · simp only [toOption_bind, passColon_append hb, toOption_ok, Option.bind_some,
        hfollows.reads record hv hb' hrest]
      cases rule.lay value <;> rfl

/-- One round of reading members: the next key has been found behind its quote, and the members
behind this one are read as they should be. -/
theorem readMembers_member (hfields : List.Forall₂ Field.Follows fields rules) (rest : List Char)
    {fuel : Nat}
    {first : Bool} {seen : List String} {member : List Char × Value} {members : Members}
    {start tail after : List Char} (h : SpellsMember member ('"' :: tail))
    (hkey : nextKey first start = .ok (true, tail ++ rest)) (hrest : Delimited rest)
    (hnext : ∀ seen record, (readMembers fields fuel false seen record rest).toOption
      = (readThrough rules seen record members).map fun found => (found, after)) :
    (readMembers fields (fuel + 1) first seen record start).toOption
      = (readThrough rules seen record (member :: members)).map fun found => (found, after) := by
  generalize hfull : '"' :: tail = full at h
  obtain @⟨name, value, _, blanks, blanks', cs, ⟨hchars⟩, hb, hb', hv⟩ := h
  simp only [List.append_assoc, List.cons_append, List.nil_append, List.cons.injEq,
    true_and] at hfull
  subst hfull
  simp only [List.append_assoc, List.cons_append] at hkey
  simp only [readMembers, hkey, toOption_bind, toOption_ok, Option.bind_some, if_true,
    readText_append hchars, readMember_append hfields hb hb' hv hrest, readThrough]
  cases rules.find? (·.name = String.ofList name) with
  | none => simp [hnext]
  | some rule =>
    by_cases hseen : String.ofList name ∈ seen
    · simp [hseen]
    · simp only [if_neg hseen]
      cases rule.lay value with
      | none => rfl
      | some change => exact hnext _ _

/-- The members behind the first one are read through up to the end of the record. -/
theorem readMembers_append (hfields : List.Forall₂ Field.Follows fields rules)
    {members : Members} (h : SpellsMembers members cs) {fuel : Nat} {seen : List String}
    (hfuel : cs.length ≤ fuel) :
    (readMembers fields fuel false seen record (cs ++ rest)).toOption
      = (readThrough rules seen record members).map fun found => (found, rest) := by
  induction members generalizing cs fuel seen record with
  | nil =>
    cases h with
    | @last blanks hb =>
      rw [List.length_append, List.length_singleton] at hfuel
      obtain ⟨fuel, rfl⟩ : ∃ more, fuel = more + 1 := Nat.exists_eq_succ_of_ne_zero (by omega)
      rw [List.append_assoc, List.cons_append, readMembers, nextKey_end hb]
      rfl
  | cons member members ih =>
    cases h with
    | @more _ _ blanks blanks' here cs hb hb' first others =>
      simp only [List.length_append, List.length_cons] at hfuel
      obtain ⟨fuel, rfl⟩ : ∃ more, fuel = more + 1 := Nat.exists_eq_succ_of_ne_zero (by omega)
      obtain ⟨tail, rfl⟩ := first.head
      apply readMembers_member hfields (cs ++ rest) first
      · simp only [List.append_assoc, List.cons_append]
        exact nextKey_more hb hb'
      · exact others.delimited rest
      · intro seen record
        exact ih others (by omega)

end Members

section Values

variable {fields : List (Field σ)} {rules : List (Rule σ)} {record : σ}

theorem readValues_end {first : Bool} {blanks : List Char} (hb : Blanks blanks) :
    readValues fields first record (blanks ++ ']' :: rest) = .ok (record, rest) := by
  cases fields with
  | nil =>
    rw [readValues, endList, skipBlanks_append hb, skipBlanks_cons rfl]
    rfl
  | cons field fields =>
    rw [readValues, skipBlanks_append hb, skipBlanks_cons rfl]
    rfl

theorem endList_of_more {blanks : List Char} (hb : Blanks blanks) :
    (endList (blanks ++ ',' :: rest)).toOption = none := by
  rw [endList, skipBlanks_append hb, skipBlanks_cons rfl]
  simp only
  split <;> rfl

/-- The values behind the first one are read in turn up to the end of the list. -/
theorem readValues_append (hfields : List.Forall₂ Field.Follows fields rules)
    {items : List Value} (h : SpellsItems items cs) :
    (readValues fields false record (cs ++ rest)).toOption
      = (readInTurn rules record items).map fun found => (found, rest) := by
  induction hfields generalizing items cs record with
  | nil =>
    cases h with
    | last hb =>
      rw [List.append_assoc, List.cons_append, readValues_end hb]
      rfl
    | more hb =>
      rw [List.append_assoc, List.cons_append, readValues, toOption_bind, endList_of_more hb]
      rfl
  | @cons field rule fields rules hf _ ih =>
    cases h with
    | last hb =>
      rw [List.append_assoc, List.cons_append, readValues_end hb]
      rfl
    | @more item items blanks blanks' here cs hb hb' first others =>
      have hitem := hf.reads record first .nil (others.delimited rest)
      have hskip := first.skipBlanks hb' (cs ++ rest)
      obtain ⟨c, tail, rfl, hc⟩ := first.head
      simp only [List.append_assoc, List.cons_append, List.nil_append] at hitem hskip ⊢
      rw [readValues, skipBlanks_append hb, skipBlanks_cons rfl]
      simp only [hskip, readInTurn, Char.reduceEq, if_false, Bool.false_eq_true, if_true]
      split
      · next h => cases h
      · next h => exact absurd (List.cons.inj h).1 (opens_ne hc).2
      · rw [toOption_bind, hitem]
        cases rule.lay item with
        | none => rfl
        | some change => exact ih others

theorem endList_of_ne {c : Char} {tail : List Char} (hcs : skipBlanks cs = c :: tail)
    (hc : c ≠ ']') : (endList cs).toOption = none := by
  rw [endList, hcs]
  split
  · rfl
  · next h => exact absurd (List.cons.inj h).1 hc
  · split <;> rfl
  · rfl

/-- The first value is read at its place, and the others behind it. -/
theorem readValues_first (hfields : List.Forall₂ Field.Follows fields rules) {item : Value}
    {items : List Value} {blanks here : List Char} (hb : Blanks blanks) (first : Spells item here)
    (others : SpellsItems items cs) :
    (readValues fields true record (blanks ++ (here ++ (cs ++ rest)))).toOption
      = (readInTurn rules record (item :: items)).map fun found => (found, rest) := by
  have hskip := first.skipBlanks hb (cs ++ rest)
  obtain ⟨c, tail, hhere, hc⟩ := first.head
  rw [hhere, List.cons_append] at hskip ⊢
  cases hfields with
  | nil =>
    rw [readValues, toOption_bind, endList_of_ne hskip (opens_ne hc).2]
    rfl
  | @cons field rule fields rules hf hfields =>
    have hitem := hf.reads record first .nil (others.delimited rest)
    rw [hhere, List.nil_append, List.cons_append] at hitem
    rw [readValues, hskip]
    simp only [if_neg (opens_ne hc).2, if_true, readInTurn]
    rw [toOption_bind, hitem]
    dsimp only
    cases rule.lay item with
    | none => rfl
    | some change => exact readValues_append hfields others

end Values

theorem readRecord_of_ne {expected : String} {fields : List (Field σ)} {record : σ} {c : Char}
    {tail : List Char} (hcs : skipBlanks cs = c :: tail) (hr : c ≠ '\x7b') (hl : c ≠ '[') :
    readRecord expected fields record cs = refuse expected (c :: tail) := by
  rw [readRecord, hcs]
  split
  · next h => exact absurd (List.cons.inj h).1 hr
  · next h => exact absurd (List.cons.inj h).1 hl
  · rfl

/-- A record is what its rules make of the members or values. -/
theorem reads_record (expected : String) {fields : List (Field σ)} {rules : List (Rule σ)}
    (hfields : List.Forall₂ Field.Follows fields rules) (independent : Independent rules)
    (record : σ) : Reads (readRecord expected fields record) (Rule.meaning rules record) := by
  intro value cs blanks rest h hb hrest
  have hskip := h.skipBlanks hb rest
  cases value with
  | record members =>
    rw [Rule.meaning, ← readThrough_eq_overlay? independent]
    cases h with
    | @emptyRecord inner hinner =>
      simp only [List.append_assoc, List.cons_append, List.nil_append] at hskip ⊢
      simp only [readRecord, hskip, readMembers, nextKey_end hinner]
      rfl
    | @record member members inner here cs hinner first others =>
      simp only [List.append_assoc, List.cons_append] at hskip ⊢
      simp only [readRecord, hskip]
      obtain ⟨tail, rfl⟩ := first.head
      apply readMembers_member hfields (cs ++ rest) first
      · exact nextKey_first hinner
      · exact others.delimited rest
      · intro seen record
        apply readMembers_append hfields others
        simp only [List.length_append, List.length_cons]
        omega
  | list items =>
    rw [← readInTurn_eq independent]
    cases h with
    | @emptyList inner hinner =>
      simp only [List.append_assoc, List.cons_append, List.nil_append] at hskip ⊢
      simp only [readRecord, hskip, readValues_end hinner]
      cases rules <;> rfl
    | @list item items inner here cs hinner first others =>
      simp only [List.append_assoc, List.cons_append] at hskip ⊢
      simp only [readRecord, hskip]
      exact readValues_first hfields hinner first others
  | null | bool | text | number =>
    obtain ⟨c, tail, rfl, hc⟩ := h.head
    rw [readRecord_of_ne hskip, toOption_refuse]
    · rfl
    · rintro rfl
      obtain ⟨members, h⟩ := opens_brace hc
      cases h
    · rintro rfl
      obtain ⟨items, h⟩ := opens_bracket hc
      cases h

/-- A whole text is read as the value that it spells. -/
theorem readDocument_of_spells {α : Type} {read : List Char → Except Fault (α × List Char)}
    {meaning : Value → Option α} (hread : Reads read meaning) {value : Value} {text : String}
    (h : SpellsDocument value text.toList) :
    (readDocument read text).toOption = meaning value := by
  rw [readDocument]
  generalize text.toList = full at h
  obtain ⟨hb, hb', hv⟩ := h
  have hvalue := hread hv hb hb'.delimited_self
  generalize read _ = outcome at hvalue
  cases outcome with
  | error fault =>
    cases hm : meaning value with
    | none => rfl
    | some a => simp [hm] at hvalue
  | ok found =>
    cases hm : meaning value with
    | none => simp [hm] at hvalue
    | some a =>
      obtain rfl : found = (a, _) := by simpa [hm] using hvalue
      simp [skipBlanks_of_blanks hb']

end RowDrop.Json
