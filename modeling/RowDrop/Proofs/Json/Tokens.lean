import Mathlib.Tactic.IntervalCases
import RowDrop.Json.Value
import RowDrop.Proofs.Json.Grammar

/-!
# Reading what the grammar spells: blanks, texts and numbers

Each reader, at a text that begins with something well spelled, takes exactly that and leaves the
rest. For a text it finds the characters that were spelled, however they were escaped.
-/

namespace RowDrop.Json

section Blanks

variable {blanks cs : List Char}

theorem isBlank_iff {c : Char} :
    isBlank c = true ↔ c = ' ' ∨ c = '\n' ∨ c = '\t' ∨ c = '\r' := by
  simp [isBlank, or_assoc]

theorem skipBlanks_append (h : Blanks blanks) : skipBlanks (blanks ++ cs) = skipBlanks cs := by
  rw [skipBlanks, List.dropWhile_append_of_pos]
  · rfl
  · intro c hc
    exact isBlank_iff.mpr (h c hc)

theorem skipBlanks_cons {c : Char} (h : isBlank c = false) : skipBlanks (c :: cs) = c :: cs := by
  rw [skipBlanks, List.dropWhile_cons_of_neg]
  simp [h]

theorem skipBlanks_of_blanks (h : Blanks blanks) : skipBlanks blanks = [] := by
  have hskip : skipBlanks (blanks ++ []) = skipBlanks [] := skipBlanks_append h
  simpa [skipBlanks] using hskip

end Blanks

section Escapes

variable {rest : List Char}

theorem SpellsDigit.hexDigit? {value : Nat} {c : Char} (h : SpellsDigit value c) :
    Text.hexDigit? c = some value ∧ value < 16 := by
  have hlt : value < 16 := by
    rcases h with h | h
    · simpa using (List.getElem?_eq_some_iff.mp h).1
    · simpa using (List.getElem?_eq_some_iff.mp h).1
  refine ⟨?_, hlt⟩
  unfold SpellsDigit at h
  interval_cases value <;> rcases h with h | h <;> cases h <;> rfl

variable {code : Nat} {digits : List Char}

theorem SpellsUnit.length (h : SpellsUnit code digits) : digits.length = 4 := by
  cases h; rfl

theorem SpellsUnit.number? (h : SpellsUnit code digits) :
    Text.number? 16 digits = some code := by
  obtain ⟨ha, hb, hc, hd⟩ := h
  simp [Text.number?, ha.hexDigit?, hb.hexDigit?, hc.hexDigit?, hd.hexDigit?]

theorem length_le_size (cs : List Char) : cs.length ≤ Utf8.size cs := by
  induction cs with
  | nil => simp
  | cons c cs ih =>
    have := c.utf8Size_pos
    simp only [List.length_cons, Utf8.size_cons]
    omega

theorem readHex_append (h : SpellsUnit code digits) : readHex (digits ++ rest) = .ok code := by
  have htake : (digits ++ rest).take 4 = digits := by
    rw [← h.length, List.take_left]
  have hsize := length_le_size digits
  rw [h.length] at hsize
  simp [readHex, htake, h.number?, Nat.not_lt.mpr hsize]

theorem SpellsUnit.drop_append (h : SpellsUnit code digits) :
    (digits ++ rest).drop 4 = rest := by
  rw [← h.length, List.drop_left]

theorem shortEscape?_of_mem {letter c : Char} (h : (letter, c) ∈ shortEscapes) :
    shortEscape? letter = some c := by
  simp only [shortEscapes, List.mem_cons, Prod.mk.injEq, List.not_mem_nil, or_false] at h
  rcases h with h | h | h | h | h | h | h | h <;> obtain ⟨rfl, rfl⟩ := h <;> rfl

/-- A character is no surrogate. -/
theorem not_surrogate (c : Char) : isLeading c.toNat = false ∧ isTrailing c.toNat = false := by
  have h := c.valid
  simp only [UInt32.isValidChar, Nat.isValidChar] at h
  change c.toNat < _ ∨ _ < c.toNat ∧ c.toNat < _ at h
  simp only [isLeading, isTrailing, Bool.and_eq_false_iff, decide_eq_false_iff_not]
  omega

theorem joinPair_of_units {c : Char} (h : 0x10000 ≤ c.toNat) :
    joinPair (0xD800 + (c.toNat - 0x10000) / 0x400) (0xDC00 + (c.toNat - 0x10000) % 0x400) = c := by
  have : (c.toNat - 0x10000) / 0x400 * 0x400 + (c.toNat - 0x10000) % 0x400 + 0x10000 = c.toNat := by
    omega
  simp only [joinPair, Nat.add_sub_cancel_left, this, Char.ofNat_toNat]

/-- The halves of a pair lie in their ranges. -/
theorem halves_of_toNat {c : Char} :
    isLeading (0xD800 + (c.toNat - 0x10000) / 0x400) = true ∧
      isTrailing (0xD800 + (c.toNat - 0x10000) / 0x400) = false ∧
      isTrailing (0xDC00 + (c.toNat - 0x10000) % 0x400) = true := by
  have h : c.toNat < 0x110000 := by
    have h := c.valid
    simp only [UInt32.isValidChar, Nat.isValidChar] at h
    change c.toNat < _ ∨ _ < c.toNat ∧ c.toNat < _ at h
    omega
  simp only [isLeading, isTrailing, Bool.and_eq_false_iff, Bool.and_eq_true, decide_eq_true_eq,
    decide_eq_false_iff_not]
  omega

/-- A spelling with an escape: the escape is read as the character, takes everything behind the
backslash, and is skipped in the same way, where each half of a pair is skipped by itself. -/
theorem readEscape_append {c : Char} {here : List Char} (h : SpellsChar c ('\\' :: here)) :
    readEscape (here ++ rest) = .ok (c, here.length) := by
  generalize hfull : '\\' :: here = full at h
  cases h with
  | plain _ _ hne =>
    obtain ⟨rfl, -⟩ := List.cons.inj hfull
    exact absurd rfl hne
  | short hm =>
    obtain ⟨-, rfl⟩ := List.cons.inj hfull
    simp [readEscape, shortEscape?_of_mem hm]
  | unit hu =>
    obtain ⟨-, rfl⟩ := List.cons.inj hfull
    simp [readEscape, shortEscape?, readCode, readHex_append hu, not_surrogate, Except.bind,
      hu.length, bind, pure, Except.pure]
  | @pair leading trailing hbeyond hl ht =>
    obtain ⟨-, rfl⟩ := List.cons.inj hfull
    simp [readEscape, shortEscape?, readCode, readHex_append hl, readHex_append ht, hl.drop_append,
      readSecondHalf, halves_of_toNat, joinPair_of_units hbeyond, Except.bind, hl.length, ht.length,
      bind, pure, Except.pure]

end Escapes

section Texts

variable {chars cs rest : List Char}

theorem textFrom_append (taken : List Char) :
    textFrom taken.length (taken ++ rest) = textFrom 0 rest := by
  induction taken with
  | nil => rfl
  | cons c taken ih => exact ih

theorem passFrom_append (taken rest : List Char) :
    passFrom taken.length (taken ++ rest) = passFrom 0 rest := by
  induction taken with
  | nil => rfl
  | cons c taken ih => exact ih

/-- A character stands for itself or is escaped. -/
theorem SpellsChar.plain_or_escape {c : Char} {here : List Char} (h : SpellsChar c here) :
    (here = [c] ∧ 0x20 ≤ c.toNat ∧ c ≠ '"' ∧ c ≠ '\\') ∨ ∃ escape, here = '\\' :: escape := by
  cases h with
  | plain control quote backslash => exact .inl ⟨rfl, control, quote, backslash⟩
  | short => exact .inr ⟨_, rfl⟩
  | unit => exact .inr ⟨_, rfl⟩
  | pair => exact .inr ⟨_, rfl⟩

/-- One spelled character is read as that character. -/
theorem textFrom_char {c : Char} {here text : List Char} (h : SpellsChar c here)
    (hrest : textFrom 0 cs = .ok (text, rest)) :
    textFrom 0 (here ++ cs) = .ok (c :: text, rest) := by
  rcases h.plain_or_escape with ⟨rfl, control, quote, backslash⟩ | ⟨escape, rfl⟩
  · have hc : isControl c = false := by simpa [isControl] using control
    simp [textFrom, quote, backslash, hc, hrest, bind, Except.bind, pure, Except.pure]
  · simp [textFrom, readEscape_append h, textFrom_append, hrest, bind, Except.bind, pure,
      Except.pure]

/-- A text is read as the characters it spells. -/
theorem readText_append (h : SpellsChars chars cs) :
    readText (cs ++ '"' :: rest) = .ok (chars, rest) := by
  rw [readText]
  induction h with
  | nil => simp [textFrom]
  | cons first _ ih =>
    rw [List.append_assoc]
    exact textFrom_char first ih

theorem passFrom_unit {code : Nat} {digits : List Char} (h : SpellsUnit code digits) :
    passFrom 0 ('\\' :: 'u' :: (digits ++ cs)) = passFrom 0 cs := by
  have := passFrom_append ('u' :: digits) cs
  rw [List.length_cons, h.length] at this
  simpa [passFrom, skipEscape, shortEscape?, readHex_append h, bind, Except.bind, pure,
    Except.pure, discard, Functor.discard, Functor.mapConst, Except.map] using this

/-- One spelled character is passed; the halves of a pair are passed one after the other. -/
theorem passFrom_char {c : Char} {here : List Char} (h : SpellsChar c here) :
    passFrom 0 (here ++ cs) = passFrom 0 cs := by
  cases h with
  | plain control quote backslash =>
    have hc : isControl c = false := by simpa [isControl] using control
    simp [passFrom, quote, backslash, hc]
  | short hm =>
    simp [passFrom, skipEscape, shortEscape?_of_mem hm, bind, Except.bind]
  | unit hu => exact passFrom_unit hu
  | pair _ hl ht =>
    simp only [List.cons_append, List.append_assoc]
    rw [passFrom_unit hl, passFrom_unit ht]

/-- A text is passed up to its closing quote. -/
theorem passText_append (h : SpellsChars chars cs) :
    passText (cs ++ '"' :: rest) = .ok rest := by
  rw [passText]
  induction h with
  | nil => simp [passFrom]
  | cons first _ ih => rw [List.append_assoc, passFrom_char first, ih]

end Texts

section Words

theorem readWord_append (letters rest : List Char) :
    readWord letters (letters ++ rest) = .ok rest := by
  induction letters with
  | nil => rfl
  | cons letter letters ih => simpa [readWord] using ih

end Words

section Numbers

variable {cs rest : List Char}

theorem isDigit_iff {c : Char} : isDigit c = true ↔ '0' ≤ c ∧ c ≤ '9' := by
  simp only [isDigit, digit?]
  split <;> simp_all

theorem Delimited.not_digit {c : Char} (h : Delimited (c :: rest)) :
    isDigit c = false ∧ isExponentMark c = false ∧ c ≠ '.' := by
  have hc := h c rfl
  simp only [List.mem_cons, List.not_mem_nil, or_false] at hc
  rcases hc with rfl | rfl | rfl | rfl | rfl | rfl | rfl <;> decide

theorem skipDigits_append (h : Digits cs) (rest : List Char) :
    skipDigits (cs ++ rest) = skipDigits rest := by
  rw [skipDigits, List.dropWhile_append_of_pos]
  · rfl
  · intro c hc
    exact isDigit_iff.mpr (h.2 c hc)

theorem skipDigits_of_head (h : ∀ c ∈ rest.head?, isDigit c = false) : skipDigits rest = rest := by
  cases rest with
  | nil => rfl
  | cons c rest => simp [skipDigits, h c rfl]

theorem Digits.head?_any (h : Digits cs) : (cs ++ rest).head?.any isDigit = true := by
  obtain ⟨hne, hd⟩ := h
  cases cs with
  | nil => exact absurd rfl hne
  | cons c cs => simpa [isDigit_iff] using hd c List.mem_cons_self

theorem passTail_append {exponent : List Char} (h : SpellsExponent exponent)
    (hrest : Delimited rest) : passTail (exponent ++ rest) = .ok rest := by
  cases h with
  | none =>
    cases rest with
    | nil => rfl
    | cons c rest => simp [passTail, hrest.not_digit]
  | @digits mark sign cs hm hs hd =>
    have hmark : isExponentMark mark = true := by
      simpa [isExponentMark] using hm
    have hsign : (readSign (sign ++ (cs ++ rest))).2 = cs ++ rest := by
      simp only [List.mem_cons, List.not_mem_nil, or_false] at hs
      rcases hs with rfl | rfl | rfl
      · obtain ⟨c, cs, rfl⟩ := List.exists_cons_of_ne_nil hd.1
        have hc := hd.2 c List.mem_cons_self
        have hplus : c ≠ '+' := by rintro rfl; revert hc; decide
        have hminus : c ≠ '-' := by rintro rfl; revert hc; decide
        simp [readSign, hplus, hminus]
      · rfl
      · rfl
    have hskip : skipDigits (cs ++ rest) = rest := by
      rw [skipDigits_append hd]
      apply skipDigits_of_head
      intro c hc
      cases rest with
      | nil => cases hc
      | cons c' rest => cases hc; exact hrest.not_digit.1
    simp [passTail, hmark, passExponent, hsign, hd.head?_any, hskip, -List.head?_append]

/-- Where a fraction and an exponent may stand but no digit, the digits in front have ended. -/
theorem head_not_digit {fraction exponent : List Char} (hf : SpellsFraction fraction)
    (he : SpellsExponent exponent) (hrest : Delimited rest) :
    ∀ c ∈ (fraction ++ (exponent ++ rest)).head?, isDigit c = false := by
  intro c hc
  cases hf with
  | digits => cases hc; rfl
  | none =>
    cases he with
    | @digits mark _ _ hm =>
      simp only [List.mem_cons, List.not_mem_nil, or_false] at hm
      rcases hm with rfl | rfl <;> cases hc <;> rfl
    | none =>
      cases rest with
      | nil => cases hc
      | cons c' rest => cases hc; exact hrest.not_digit.1

theorem passPoint_append {fraction exponent : List Char} (hf : SpellsFraction fraction)
    (he : SpellsExponent exponent) (hrest : Delimited rest) :
    passPoint (fraction ++ (exponent ++ rest)) = .ok rest := by
  cases hf with
  | @digits cs hd =>
    have hskip : skipDigits (cs ++ (exponent ++ rest)) = exponent ++ rest := by
      rw [skipDigits_append hd]
      exact skipDigits_of_head (head_not_digit .none he hrest)
    simp [passPoint, hd.head?_any, hskip, passTail_append he hrest, -List.head?_append]
  | none =>
    rw [List.nil_append, passPoint, passTail_append he hrest]
    intro cs hcs
    cases he with
    | @digits mark _ _ hm =>
      obtain ⟨rfl, -⟩ := List.cons.inj hcs
      exact absurd hm (by decide)
    | none =>
      rw [List.nil_append] at hcs
      subst hcs
      exact hrest.not_digit.2.2 rfl

theorem passNumber_append {whole fraction exponent : List Char} (hw : SpellsWhole whole)
    (hf : SpellsFraction fraction) (he : SpellsExponent exponent) (hrest : Delimited rest) :
    passNumber (whole ++ (fraction ++ (exponent ++ rest))) = .ok rest := by
  have hhead := head_not_digit hf he hrest
  have hpoint := passPoint_append hf he hrest
  cases hw with
  | zero =>
    have hany : (fraction ++ (exponent ++ rest)).head?.any isDigit = false := by
      simpa [Option.any_eq_false] using hhead
    simp [passNumber, isDigit_iff, hany, hpoint, -List.head?_append]
  | @digits c cs hd nonzero =>
    have hc : isDigit c = true := isDigit_iff.mpr (hd.2 c List.mem_cons_self)
    have hskip : skipDigits (cs ++ (fraction ++ (exponent ++ rest)))
        = fraction ++ (exponent ++ rest) := by
      have := skipDigits_append hd (fraction ++ (exponent ++ rest))
      rw [skipDigits_of_head hhead] at this
      simpa [skipDigits, hc] using this
    simp [passNumber, hc, nonzero, hskip, hpoint]

end Numbers

end RowDrop.Json
