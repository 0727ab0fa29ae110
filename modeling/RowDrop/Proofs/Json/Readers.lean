import RowDrop.Proofs.Json.Values

/-!
# What readers make of a value

A reader of one kind of value has a meaning: which values it takes, and what it makes of them.
`Reads` ties the two together. At any spelling of a value the reader either finds what the meaning
says and leaves what stood behind the value, or the meaning says nothing and the reader fails. The
rules below build the meaning of a reader from those of its parts.
-/

namespace RowDrop.Json

section Outcome

variable {ε α β : Type}

@[simp] theorem toOption_ok (a : α) : (Except.ok a : Except ε α).toOption = some a := rfl

@[simp] theorem toOption_error (e : ε) : (Except.error e : Except ε α).toOption = none := rfl

theorem toOption_eq_some_iff {x : Except ε α} {a : α} : x.toOption = some a ↔ x = .ok a := by
  cases x <;> simp [Except.toOption]

@[simp] theorem toOption_pure (a : α) : (pure a : Except ε α).toOption = some a := rfl

@[simp] theorem toOption_bind (x : Except ε α) (f : α → Except ε β) :
    (x >>= f).toOption = x.toOption.bind fun a => (f a).toOption := by
  cases x <;> rfl

end Outcome

namespace Value

/-- A text. -/
def text? : Value → Option String
  | .text chars => some (String.ofList chars)
  | _ => none

/-- A truth value. -/
def bool? : Value → Option Bool
  | .bool value => some value
  | _ => none

/-- Null for nothing, or something else with a meaning. -/
def orNull {α : Type} (meaning : Value → Option α) : Value → Option (Option α)
  | .null => some none
  | value => (meaning value).map some

/-- A name with a meaning: a text, or a record with null under the name and nothing else. -/
def variant? {α : Type} (meaning : String → Option α) : Value → Option α
  | .text name => meaning (String.ofList name)
  | .record [(name, .null)] => meaning (String.ofList name)
  | _ => none

end Value

/-- The reader takes a value whole and finds what `meaning` says, or fails where that is
nothing. -/
def Reads {α : Type} (read : List Char → Except Fault (α × List Char))
    (meaning : Value → Option α) : Prop :=
  ∀ {value : Value} {cs blanks rest : List Char}, Spells value cs → Blanks blanks →
    Delimited rest →
      (read (blanks ++ (cs ++ rest))).toOption = (meaning value).map fun a => (a, rest)

section Rules

variable {α : Type} {cs rest : List Char}

/-- A value of another kind than needed is never taken. -/
@[simp] theorem toOption_refuse (expected : String) (cs : List Char) :
    (refuse expected cs : Except Fault (α × List Char)).toOption = none := by
  cases cs with
  | nil => rfl
  | cons c cs =>
    simp only [refuse]
    split_ifs <;> simp

theorem opens_quote {value : Value} (h : opens value '"') : ∃ chars, value = .text chars := by
  cases value with
  | text chars => exact ⟨chars, rfl⟩
  | bool b => cases b <;> cases h
  | number => rcases h with h | h <;> cases h
  | null | list | record => cases h

theorem opens_brace {value : Value} (h : opens value '\x7b') :
    ∃ members, value = .record members := by
  cases value with
  | record members => exact ⟨members, rfl⟩
  | bool b => cases b <;> cases h
  | number => rcases h with h | h <;> cases h
  | null | list | text => cases h

theorem opens_bracket {value : Value} (h : opens value '[') : ∃ items, value = .list items := by
  cases value with
  | list items => exact ⟨items, rfl⟩
  | bool b => cases b <;> cases h
  | number => rcases h with h | h <;> cases h
  | null | record | text => cases h

theorem opens_n {value : Value} (h : opens value 'n') : value = .null := by
  cases value with
  | null => rfl
  | bool b => cases b <;> cases h
  | number => rcases h with h | h <;> cases h
  | list | record | text => cases h

theorem opens_t {value : Value} (h : opens value 't') : value = .bool true := by
  cases value with
  | bool b => cases b <;> cases h; rfl
  | number => rcases h with h | h <;> cases h
  | null | list | record | text => cases h

theorem opens_f {value : Value} (h : opens value 'f') : value = .bool false := by
  cases value with
  | bool b => cases b <;> cases h; rfl
  | number => rcases h with h | h <;> cases h
  | null | list | record | text => cases h

theorem readTextAs_of_ne {expected : String} {c : Char} {tail : List Char}
    (hcs : skipBlanks cs = c :: tail) (hc : c ≠ '"') :
    readTextAs expected cs = refuse expected (c :: tail) := by
  rw [readTextAs, hcs]
  split
  · next h => exact absurd (List.cons.inj h).1 hc
  · rfl

theorem reads_text (expected : String) : Reads (readTextAs expected) Value.text? := by
  intro value cs blanks rest h hb hrest
  have hskip := h.skipBlanks hb rest
  cases value with
  | text chars =>
    cases h with
    | text ht =>
      obtain ⟨hchars⟩ := ht
      simp only [List.cons_append, List.append_assoc, List.nil_append] at hskip ⊢
      simp [readTextAs, hskip, readText_append hchars, Value.text?]
  | null | bool | number | list | record =>
    obtain ⟨c, tail, rfl, hc⟩ := h.head
    rw [readTextAs_of_ne hskip, toOption_refuse]
    · rfl
    · rintro rfl
      obtain ⟨chars, h⟩ := opens_quote hc
      cases h

theorem readBool_of_ne {c : Char} {tail : List Char} (hcs : skipBlanks cs = c :: tail)
    (ht : c ≠ 't') (hf : c ≠ 'f') : readBool cs = refuse "a boolean" (c :: tail) := by
  rw [readBool, hcs]
  split
  · next h => exact absurd (List.cons.inj h).1 ht
  · next h => exact absurd (List.cons.inj h).1 hf
  · rfl

theorem reads_bool : Reads readBool Value.bool? := by
  intro value cs blanks rest h hb hrest
  have hskip := h.skipBlanks hb rest
  cases value with
  | bool b =>
    cases h with
    | true =>
      have hword := readWord_append ['r', 'u', 'e'] rest
      simp only [List.cons_append, List.nil_append] at hskip hword ⊢
      simp [readBool, hskip, hword, Value.bool?]
    | false =>
      have hword := readWord_append ['a', 'l', 's', 'e'] rest
      simp only [List.cons_append, List.nil_append] at hskip hword ⊢
      simp [readBool, hskip, hword, Value.bool?]
  | null | text | number | list | record =>
    obtain ⟨c, tail, rfl, hc⟩ := h.head
    rw [readBool_of_ne hskip, toOption_refuse]
    · rfl
    · rintro rfl
      cases opens_t hc
    · rintro rfl
      cases opens_f hc

/-- Nothing but null. -/
def Value.null? : Value → Option Unit
  | .null => some ()
  | _ => none

theorem readNull_of_ne {c : Char} {tail : List Char} (hcs : skipBlanks cs = c :: tail)
    (hn : c ≠ 'n') : readNull cs = refuse "unit" (c :: tail) := by
  rw [readNull, hcs]
  split
  · next h => exact absurd (List.cons.inj h).1 hn
  · rfl

theorem reads_null : Reads readNull Value.null? := by
  intro value cs blanks rest h hb hrest
  have hskip := h.skipBlanks hb rest
  cases value with
  | null =>
    cases h with
    | null =>
      have hword := readWord_append ['u', 'l', 'l'] rest
      simp only [List.cons_append, List.nil_append] at hskip hword ⊢
      simp [readNull, hskip, hword, Value.null?]
  | bool | text | number | list | record =>
    obtain ⟨c, tail, rfl, hc⟩ := h.head
    rw [readNull_of_ne hskip, toOption_refuse]
    · rfl
    · rintro rfl
      cases opens_n hc

theorem readOptional_of_ne {read : List Char → Except Fault (α × List Char)} {c : Char}
    (tail : List Char) (hcs : skipBlanks cs = c :: tail) (hn : c ≠ 'n') :
    readOptional read cs = do
      let (value, rest) ← read (c :: tail)
      return (some value, rest) := by
  rw [readOptional, hcs]
  split
  · next h => exact absurd (List.cons.inj h).1 hn
  · rfl

/-- Null is read as nothing, and every other value by the other reader. -/
theorem Reads.optional {read : List Char → Except Fault (α × List Char)}
    {meaning : Value → Option α} (hread : Reads read meaning) :
    Reads (readOptional read) (Value.orNull meaning) := by
  intro value cs blanks rest h hb hrest
  have hskip := h.skipBlanks hb rest
  have hvalue := hread h .nil hrest
  cases value with
  | null =>
    cases h with
    | null =>
      have hword := readWord_append ['u', 'l', 'l'] rest
      simp only [List.cons_append, List.nil_append] at hskip hword ⊢
      simp [readOptional, hskip, hword, Value.orNull]
  | bool | text | number | list | record =>
    obtain ⟨c, tail, rfl, hc⟩ := h.head
    rw [readOptional_of_ne (tail ++ rest) hskip]
    · simp only [List.nil_append, List.cons_append] at hvalue
      simp only [toOption_bind, hvalue, toOption_pure, Value.orNull]
      cases meaning _ <;> rfl
    · rintro rfl
      cases opens_n hc

theorem readVariant_of_ne {known : List String} {meaning : String → Option α} {c : Char}
    {tail : List Char} (hcs : skipBlanks cs = c :: tail) (hq : c ≠ '"') (hr : c ≠ '\x7b') :
    (readVariant known meaning cs).toOption = none := by
  rw [readVariant, hcs]
  split
  · rfl
  · next h => exact absurd (List.cons.inj h).1 hq
  · next h => exact absurd (List.cons.inj h).1 hr
  · rfl

/-- A variant is read from a text, or from a record with one member that is null. Every other
record fails: behind the name comes a value that is not null, or behind null another member. -/
theorem reads_variant (known : List String) (meaning : String → Option α) :
    Reads (readVariant known meaning) (Value.variant? meaning) := by
  intro value cs blanks rest h hb hrest
  have hskip := h.skipBlanks hb rest
  cases value with
  | text chars =>
    cases h with
    | text ht =>
      obtain ⟨hchars⟩ := ht
      simp only [List.cons_append, List.append_assoc, List.nil_append] at hskip ⊢
      simp only [readVariant, hskip, readText_append hchars, Value.variant?, toOption_bind,
        toOption_ok, Option.bind_some]
      cases meaning (String.ofList chars) <;> rfl
  | record members =>
    cases h with
    | emptyRecord hb' =>
      simp only [List.cons_append, List.append_assoc, List.nil_append] at hskip ⊢
      have hend : skipBlanks ('\x7d' :: rest) = '\x7d' :: rest := skipBlanks_cons rfl
      simp only [readVariant, hskip, skipBlanks_append hb', hend]
      rfl
    | @record member members blanks' here others hb' first hothers =>
      obtain @⟨name, value, _, _, _, _, ⟨hchars⟩, hcolon, hcolon', hv⟩ := first
      have hquote (cs : List Char) : skipBlanks ('"' :: cs) = '"' :: cs := skipBlanks_cons rfl
      have hnull := reads_null hv hcolon' (hothers.delimited rest)
      simp only [List.cons_append, List.append_assoc, List.nil_append] at hskip ⊢
      simp only [readVariant, hskip, skipBlanks_append hb', hquote, readText_append hchars,
        toOption_bind, toOption_ok, Option.bind_some]
      cases hname : meaning (String.ofList name) with
      | none =>
        cases value <;> cases members <;> simp [Value.variant?, hname]
      | some a =>
        simp only [toOption_ok, Option.bind_some, passColon_append hcolon, hnull]
        cases value with
        | null =>
          cases hothers with
          | last hend =>
            have hbrace : skipBlanks ('\x7d' :: rest) = '\x7d' :: rest := skipBlanks_cons rfl
            simp [Value.null?, Value.variant?, hname, skipBlanks_append hend, hbrace]
          | more hnext =>
            have hcomma (cs : List Char) : skipBlanks (',' :: cs) = ',' :: cs := skipBlanks_cons rfl
            simp [Value.null?, Value.variant?, skipBlanks_append hnext, hcomma]
        | bool | number | text | list | record => rfl
  | null | bool | number | list =>
    obtain ⟨c, tail, rfl, hc⟩ := h.head
    rw [readVariant_of_ne hskip]
    · rfl
    · rintro rfl
      obtain ⟨chars, h⟩ := opens_quote hc
      cases h
    · rintro rfl
      obtain ⟨members, h⟩ := opens_brace hc
      cases h

end Rules

end RowDrop.Json
