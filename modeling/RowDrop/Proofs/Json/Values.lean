import RowDrop.Proofs.Json.Tokens

/-!
# Passing over values

A value of any kind and depth is passed over exactly: what is left is what stood behind it. The
fuel of the passing functions is enough wherever it is twice the length of the spelling, since
every part that takes two from it has a character of its own.
-/

namespace RowDrop.Json

section Edges

variable {value : Value} {cs rest : List Char}

theorem Blanks.delimited {blanks : List Char} (h : Blanks blanks) {c : Char}
    (hc : c ∈ [',', ']', '\x7d']) : Delimited (blanks ++ c :: rest) := by
  intro d hd
  cases blanks with
  | nil =>
    cases hd
    exact List.mem_append_right [' ', '\n', '\t', '\r'] hc
  | cons _ blanks =>
    cases hd
    rcases h _ List.mem_cons_self with rfl | rfl | rfl | rfl <;> decide

theorem Blanks.delimited_self {blanks : List Char} (h : Blanks blanks) : Delimited blanks := by
  intro d hd
  cases blanks with
  | nil => cases hd
  | cons _ blanks =>
    cases hd
    rcases h _ List.mem_cons_self with rfl | rfl | rfl | rfl <;> decide

theorem SpellsItems.delimited {items : List Value} (h : SpellsItems items cs) (rest : List Char) :
    Delimited (cs ++ rest) := by
  cases h with
  | last hb => rw [List.append_assoc]; exact hb.delimited (by decide)
  | more hb => rw [List.append_assoc]; exact hb.delimited (by decide)

theorem SpellsMembers.delimited {members : Members} (h : SpellsMembers members cs)
    (rest : List Char) : Delimited (cs ++ rest) := by
  cases h with
  | last hb => rw [List.append_assoc]; exact hb.delimited (by decide)
  | more hb => rw [List.append_assoc]; exact hb.delimited (by decide)

theorem SpellsWhole.head (h : SpellsWhole cs) : ∃ c tail, cs = c :: tail ∧ isDigit c = true := by
  cases h with
  | zero => exact ⟨'0', [], rfl, rfl⟩
  | digits hd => exact ⟨_, _, rfl, isDigit_iff.mpr (hd.2 _ List.mem_cons_self)⟩

/-- A number opens with a digit or a minus sign. -/
theorem SpellsNumber.head (h : SpellsNumber cs) :
    ∃ c tail, cs = c :: tail ∧ (c = '-' ∨ isDigit c = true) := by
  obtain ⟨hs, hw, -, -⟩ := h
  simp only [List.mem_cons, List.not_mem_nil, or_false] at hs
  rcases hs with rfl | rfl
  · obtain ⟨c, tail, rfl, hc⟩ := hw.head
    exact ⟨c, _, rfl, .inr hc⟩
  · exact ⟨_, _, rfl, .inl rfl⟩

/-- The character at which a reader knows the kind of a value. -/
def opens : Value → Char → Prop
  | .null, c => c = 'n'
  | .bool true, c => c = 't'
  | .bool false, c => c = 'f'
  | .number _, c => c = '-' ∨ isDigit c = true
  | .text _, c => c = '"'
  | .list _, c => c = '['
  | .record _, c => c = '\x7b'

theorem Spells.head (h : Spells value cs) : ∃ c tail, cs = c :: tail ∧ opens value c := by
  cases h with
  | null | true | false | emptyList | list | emptyRecord | record => exact ⟨_, _, rfl, rfl⟩
  | number h => exact h.head
  | text h =>
    cases h
    exact ⟨_, _, rfl, rfl⟩

theorem isDigit_ne {c : Char} (h : isDigit c = true) :
    isBlank c = false ∧ c ≠ ']' ∧ c ≠ 'n' ∧ c ≠ 't' ∧ c ≠ 'f' ∧ c ≠ '-' ∧ c ≠ '"' ∧ c ≠ '['
      ∧ c ≠ '\x7b' := by
  rw [isDigit_iff] at h
  refine ⟨?_, ?_, ?_, ?_, ?_, ?_, ?_, ?_, ?_⟩
  · rw [← Bool.not_eq_true, isBlank_iff]
    rintro (rfl | rfl | rfl | rfl) <;> exact absurd h (by decide)
  all_goals rintro rfl; exact absurd h (by decide)

theorem opens_ne {c : Char} (h : opens value c) : isBlank c = false ∧ c ≠ ']' := by
  cases value with
  | bool b => cases b <;> cases h <;> decide
  | number => rcases h with rfl | h
              · decide
              · exact ⟨(isDigit_ne h).1, (isDigit_ne h).2.1⟩
  | null | text | list | record => cases h; decide

/-- The blanks in front of a value are all that is skipped. -/
theorem Spells.skipBlanks {blanks : List Char} (h : Spells value cs) (hb : Blanks blanks)
    (rest : List Char) : skipBlanks (blanks ++ (cs ++ rest)) = cs ++ rest := by
  obtain ⟨c, tail, rfl, hc⟩ := h.head
  rw [skipBlanks_append hb, List.cons_append, skipBlanks_cons (opens_ne hc).1]

end Edges

section Passing

variable {cs rest : List Char}

theorem passColon_append {blanks : List Char} (hb : Blanks blanks) :
    passColon (blanks ++ ':' :: rest) = .ok rest := by
  rw [passColon, skipBlanks_append hb, skipBlanks_cons rfl]
  rfl

theorem passKey_append {name key blanks blanks' : List Char} (hk : SpellsText name key)
    (hb : Blanks blanks) (hb' : Blanks blanks') :
    passKey (blanks ++ (key ++ (blanks' ++ ':' :: rest))) = .ok rest := by
  obtain ⟨h⟩ := hk
  rw [passKey, skipBlanks_append hb, List.append_assoc, List.cons_append, skipBlanks_cons rfl]
  simp [passText_append h, passColon_append hb', bind, Except.bind]

/-- At the first character of a number the number is passed. -/
theorem passValueWithin_number {fuel : Nat} {blanks : List Char} (h : SpellsNumber cs)
    (hb : Blanks blanks) (hrest : Delimited rest) :
    passValueWithin (fuel + 1) (blanks ++ (cs ++ rest)) = .ok rest := by
  rw [passValueWithin, (Spells.number h).skipBlanks hb rest]
  obtain ⟨hs, hw, hf, he⟩ := h
  have hpass := passNumber_append hw hf he hrest
  simp only [List.mem_cons, List.not_mem_nil, or_false] at hs
  rcases hs with rfl | rfl
  · obtain ⟨c, tail, rfl, hc⟩ := hw.head
    obtain ⟨-, -, hn, ht, hf, hm, -⟩ := isDigit_ne hc
    rw [List.cons_append] at hpass
    simp [hc, hn, ht, hf, hm, hpass]
  · simp [hpass]

section Brackets

variable {fuel : Nat} {blanks : List Char}

theorem passValueWithin_list (hb : Blanks blanks) :
    passValueWithin (fuel + 1) (blanks ++ '[' :: rest) = passItems fuel true rest := by
  rw [passValueWithin, skipBlanks_append hb, skipBlanks_cons rfl]
  rfl

theorem passValueWithin_record (hb : Blanks blanks) :
    passValueWithin (fuel + 1) (blanks ++ '\x7b' :: rest) = passMembers fuel true rest := by
  rw [passValueWithin, skipBlanks_append hb, skipBlanks_cons rfl]
  rfl

theorem passItems_end {first : Bool} (hb : Blanks blanks) :
    passItems (fuel + 1) first (blanks ++ ']' :: rest) = .ok rest := by
  rw [passItems, skipBlanks_append hb, skipBlanks_cons rfl]
  rfl

theorem passMembers_end {first : Bool} (hb : Blanks blanks) :
    passMembers (fuel + 1) first (blanks ++ '\x7d' :: rest) = .ok rest := by
  rw [passMembers, skipBlanks_append hb, skipBlanks_cons rfl]
  rfl

theorem passItems_first {item : Value} (hb : Blanks blanks) (h : Spells item cs) :
    passItems (fuel + 1) true (blanks ++ (cs ++ rest))
      = passValueWithin fuel (cs ++ rest) >>= passItems fuel false := by
  rw [passItems, h.skipBlanks hb rest]
  obtain ⟨c, tail, rfl, hc⟩ := h.head
  simp [(opens_ne hc).2]

theorem passItems_more (hb : Blanks blanks) :
    passItems (fuel + 1) false (blanks ++ ',' :: rest)
      = passValueWithin fuel rest >>= passItems fuel false := by
  rw [passItems, skipBlanks_append hb, skipBlanks_cons rfl]
  rfl

theorem SpellsMember.head {member : List Char × Value} (h : SpellsMember member cs) :
    ∃ tail, cs = '"' :: tail := by
  obtain ⟨⟨-⟩, -, -, -⟩ := h
  exact ⟨_, rfl⟩

theorem passMembers_first {member : List Char × Value} (hb : Blanks blanks)
    (h : SpellsMember member cs) :
    passMembers (fuel + 1) true (blanks ++ (cs ++ rest))
      = (passKey (cs ++ rest) >>= passValueWithin fuel) >>= passMembers fuel false := by
  obtain ⟨tail, rfl⟩ := h.head
  rw [passMembers, skipBlanks_append hb, List.cons_append, skipBlanks_cons rfl]
  simp

theorem passMembers_more (hb : Blanks blanks) :
    passMembers (fuel + 1) false (blanks ++ ',' :: rest)
      = (passKey rest >>= passValueWithin fuel) >>= passMembers fuel false := by
  rw [passMembers, skipBlanks_append hb, skipBlanks_cons rfl]
  simp

end Brackets

-- The recursion follows the derivation: a value inside another one has a smaller derivation, and
-- what it takes from the fuel is covered by the bracket or comma in front of it.
mutual
/-- A value of any kind and depth is passed. -/
theorem passValueWithin_append {value : Value} {cs : List Char} (h : Spells value cs) (fuel : Nat)
    {blanks rest : List Char} (hb : Blanks blanks) (hrest : Delimited rest)
    (hfuel : 2 * cs.length ≤ fuel) :
    passValueWithin fuel (blanks ++ (cs ++ rest)) = .ok rest := by
  obtain ⟨c, tail, hcs, -⟩ := h.head
  obtain ⟨fuel, rfl⟩ : ∃ more, fuel = more + 1 :=
    Nat.exists_eq_succ_of_ne_zero (by rw [hcs, List.length_cons] at hfuel; omega)
  clear hcs
  match h with
  | .number h => exact passValueWithin_number h hb hrest
  | .null =>
    rw [passValueWithin, Spells.null.skipBlanks hb rest]
    exact readWord_append ['u', 'l', 'l'] rest
  | .true =>
    rw [passValueWithin, Spells.true.skipBlanks hb rest]
    exact readWord_append ['r', 'u', 'e'] rest
  | .false =>
    rw [passValueWithin, Spells.false.skipBlanks hb rest]
    exact readWord_append ['a', 'l', 's', 'e'] rest
  | .text ht =>
    rw [passValueWithin, (Spells.text ht).skipBlanks hb rest]
    obtain ⟨hchars⟩ := ht
    simp [isDigit, digit?, passText_append hchars]
  | .emptyList hb' =>
    obtain ⟨fuel, rfl⟩ : ∃ more, fuel = more + 1 :=
      Nat.exists_eq_succ_of_ne_zero (by simp at hfuel; omega)
    simp only [List.cons_append, List.append_assoc, List.nil_append]
    rw [passValueWithin_list hb, passItems_end hb']
  | @Spells.list _ _ blanks' here others' hb' first others =>
    simp only [List.length_cons, List.length_append] at hfuel
    obtain ⟨fuel, rfl⟩ : ∃ more, fuel = more + 1 :=
      Nat.exists_eq_succ_of_ne_zero (by omega)
    have hfirst := passValueWithin_append first fuel .nil (others.delimited rest)
      (by omega)
    rw [List.nil_append] at hfirst
    simp only [List.cons_append, List.append_assoc]
    rw [passValueWithin_list hb, passItems_first hb' first, hfirst]
    exact passItems_append others (by omega)
  | .emptyRecord hb' =>
    obtain ⟨fuel, rfl⟩ : ∃ more, fuel = more + 1 :=
      Nat.exists_eq_succ_of_ne_zero (by simp at hfuel; omega)
    simp only [List.cons_append, List.append_assoc, List.nil_append]
    rw [passValueWithin_record hb, passMembers_end hb']
  | @Spells.record _ _ blanks' here others' hb' first others =>
    simp only [List.length_cons, List.length_append] at hfuel
    obtain ⟨fuel, rfl⟩ : ∃ more, fuel = more + 1 :=
      Nat.exists_eq_succ_of_ne_zero (by omega)
    have hfirst := passMember_append first fuel .nil (others.delimited rest)
      (by omega)
    rw [List.nil_append] at hfirst
    simp only [List.cons_append, List.append_assoc]
    rw [passValueWithin_record hb, passMembers_first hb' first, hfirst]
    exact passMembers_append others (by omega)

/-- Items behind the first one are passed up to the end of their list. -/
theorem passItems_append {items : List Value} {cs : List Char} (h : SpellsItems items cs)
    {fuel : Nat} {rest : List Char} (hfuel : 2 * cs.length ≤ fuel) :
    passItems fuel false (cs ++ rest) = .ok rest := by
  obtain ⟨fuel, rfl⟩ : ∃ more, fuel = more + 1 :=
    Nat.exists_eq_succ_of_ne_zero (by cases h <;> simp at hfuel <;> omega)
  match h with
  | .last hb => rw [List.append_assoc, List.cons_append, passItems_end hb]; rfl
  | .more hb hb' first others =>
    simp only [List.length_cons, List.length_append] at hfuel
    have hfirst := passValueWithin_append first fuel hb' (others.delimited rest)
      (by omega)
    simp only [List.cons_append, List.append_assoc]
    rw [passItems_more hb, hfirst]
    exact passItems_append others (by omega)

/-- A member is passed: its key, the colon and its value. -/
theorem passMember_append {member : List Char × Value} {cs : List Char}
    (h : SpellsMember member cs) (fuel : Nat) {blanks rest : List Char} (hb : Blanks blanks)
    (hrest : Delimited rest) (hfuel : 2 * cs.length ≤ fuel) :
    passKey (blanks ++ (cs ++ rest)) >>= passValueWithin fuel = .ok rest := by
  match h with
  | .named hk hb' hb'' hv =>
    simp only [List.length_cons, List.length_append] at hfuel
    simp only [List.cons_append, List.append_assoc]
    rw [passKey_append hk hb hb']
    exact passValueWithin_append hv fuel hb'' hrest (by omega)

/-- Members behind the first one are passed up to the end of their record. -/
theorem passMembers_append {members : Members} {cs : List Char} (h : SpellsMembers members cs)
    {fuel : Nat} {rest : List Char} (hfuel : 2 * cs.length ≤ fuel) :
    passMembers fuel false (cs ++ rest) = .ok rest := by
  obtain ⟨fuel, rfl⟩ : ∃ more, fuel = more + 1 :=
    Nat.exists_eq_succ_of_ne_zero (by cases h <;> simp at hfuel <;> omega)
  match h with
  | .last hb => rw [List.append_assoc, List.cons_append, passMembers_end hb]; rfl
  | .more hb hb' first others =>
    simp only [List.length_cons, List.length_append] at hfuel
    have hfirst := passMember_append first fuel hb' (others.delimited rest)
      (by omega)
    simp only [List.cons_append, List.append_assoc]
    rw [passMembers_more hb, hfirst]
    exact passMembers_append others (by omega)
end

/-- A value is passed exactly, whatever stands behind it. -/
theorem passValue_append {value : Value} {blanks : List Char} (h : Spells value cs)
    (hb : Blanks blanks) (hrest : Delimited rest) :
    passValue (blanks ++ (cs ++ rest)) = .ok rest := by
  apply passValueWithin_append h _ hb hrest
  simp only [List.length_append]
  omega

end Passing

end RowDrop.Json
