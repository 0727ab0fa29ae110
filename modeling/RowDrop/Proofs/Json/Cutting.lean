import RowDrop.Proofs.Json.Tokens

/-!
# Cutting off the end of a text: words, numbers and texts

A reader is compared with itself, at a whole text `front ++ back` and at `front` alone. Where the
whole is accepted the reader either stops in front of the cut, and then it gives the same at both
(`Kept`), or it meets the end of `front` and blames that place (`MeetsEnd`). There is one exception:
a number may be complete at the cut although more digits stand behind it, and then nothing is left
(`Reached`).
-/

namespace RowDrop.Json

section Agreement

variable {α β γ δ : Type}

/-- Reading fails, and what is blamed is the end of the text. -/
def MeetsEnd (result : Except Fault α) : Prop := ∃ problem, result = .error ⟨problem, 0⟩

theorem MeetsEnd.bind {result : Except Fault α} (h : MeetsEnd result) (next : α → Except Fault β) :
    MeetsEnd (result >>= next) := by
  obtain ⟨problem, rfl⟩ := h
  exact ⟨problem, rfl⟩

/-- Where the whole text is accepted, the cut one gives a related result or meets its end. -/
def Agrees (R : α → β → Prop) (whole : Except Fault α) (cut : Except Fault β) : Prop :=
  ∀ a, whole = .ok a → (∃ b, cut = .ok b ∧ R a b) ∨ MeetsEnd cut

namespace Agrees

variable {R R' : α → β → Prop} {S : γ → δ → Prop} {whole : Except Fault α} {cut : Except Fault β}

theorem of_meetsEnd (h : MeetsEnd cut) : Agrees R whole cut := fun _ _ => .inr h

theorem of_error {fault : Fault} : Agrees R (.error fault) cut := fun _ h => nomatch h

theorem of_ok {a : α} {b : β} (h : R a b) : Agrees R (.ok a) (.ok b) := by
  rintro _ ⟨⟩
  exact .inl ⟨b, rfl, h⟩

theorem mono (h : Agrees R whole cut) (weaken : ∀ a b, R a b → R' a b) : Agrees R' whole cut := by
  intro a ha
  refine (h a ha).imp_left ?_
  rintro ⟨b, hb, hab⟩
  exact ⟨b, hb, weaken a b hab⟩

/-- One reader after the other: the second has to agree on what the first leaves. -/
theorem bind {next : α → Except Fault γ} {next' : β → Except Fault δ} (h : Agrees R whole cut)
    (behind : ∀ a b, cut = .ok b → R a b → Agrees S (next a) (next' b)) :
    Agrees S (whole >>= next) (cut >>= next') := by
  cases whole with
  | error fault => exact of_error
  | ok a =>
    rcases h a rfl with ⟨b, rfl, hab⟩ | hend
    · exact behind a b rfl hab
    · exact of_meetsEnd (hend.bind next')

end Agrees

/-- What is left of the cut text stands at its end, and the whole one has the part that was cut off
left behind that. -/
structure Kept (front back rest left : List Char) : Prop where
  suffix : left <:+ front
  eq : rest = left ++ back

/-- The same, unless nothing is left of the cut text. -/
structure Reached (front back rest left : List Char) : Prop where
  suffix : left <:+ front
  eq : left = [] ∨ rest = left ++ back

/-- The value is the same, and what is left is related. -/
def Valued (R : List Char → List Char → Prop) (whole cut : α × List Char) : Prop :=
  whole.1 = cut.1 ∧ R whole.2 cut.2

/-- Only what is left is seen in another way; the value stays the same. -/
theorem Agrees.mono_rest {R R' : List Char → List Char → Prop}
    {whole cut : Except Fault (α × List Char)} (h : Agrees (Valued R) whole cut)
    (weaken : ∀ rest left, R rest left → R' rest left) : Agrees (Valued R') whole cut :=
  h.mono fun _ _ hr => ⟨hr.1, weaken _ _ hr.2⟩

/-- A reader behind another one that finds a value. -/
theorem Agrees.bind_valued {R : List Char → List Char → Prop} {S : γ → δ → Prop}
    {whole cut : Except Fault (α × List Char)} {next : α × List Char → Except Fault γ}
    {next' : α × List Char → Except Fault δ} (h : Agrees (Valued R) whole cut)
    (behind : ∀ value rest left, cut = .ok (value, left) → R rest left →
      Agrees S (next (value, rest)) (next' (value, left))) :
    Agrees S (whole >>= next) (cut >>= next') := by
  refine h.bind ?_
  intro (value, rest) (value', left) hcut hr
  obtain ⟨rfl : value = value', hr⟩ := hr
  exact behind value rest left hcut hr

variable {front front' back rest left : List Char}

theorem Kept.all : Kept front back (front ++ back) front := ⟨List.suffix_rfl, rfl⟩

theorem Kept.within (h : Kept front back rest left) (within : front <:+ front') :
    Kept front' back rest left :=
  ⟨h.suffix.trans within, h.eq⟩

theorem Kept.reached (h : Kept front back rest left) : Reached front back rest left :=
  ⟨h.suffix, .inr h.eq⟩

theorem Reached.nothing : Reached front back rest [] := ⟨List.nil_suffix, .inl rfl⟩

theorem Reached.within (h : Reached front back rest left) (within : front <:+ front') :
    Reached front' back rest left :=
  ⟨h.suffix.trans within, h.eq⟩

end Agreement

section Words

/-- Passing over characters of a kind uses up the cut text or stops in front of the cut. -/
theorem dropWhile_cut (p : Char → Bool) (front back : List Char) :
    front.dropWhile p = [] ∨ ∃ c left, front.dropWhile p = c :: left ∧
      (front ++ back).dropWhile p = c :: (left ++ back) ∧ c :: left <:+ front := by
  induction front with
  | nil => exact .inl rfl
  | cons d front ih =>
    by_cases hd : p d = true
    · simp only [List.cons_append, List.dropWhile_cons_of_pos hd]
      refine ih.imp_right ?_
      rintro ⟨c, left, h, h', hs⟩
      exact ⟨c, left, h, h', hs.trans (List.suffix_cons d front)⟩
    · simp only [List.cons_append, List.dropWhile_cons_of_neg hd]
      exact .inr ⟨d, front, rfl, rfl, List.suffix_rfl⟩

theorem skipBlanks_cut (front back : List Char) :
    skipBlanks front = [] ∨ ∃ c left, skipBlanks front = c :: left ∧
      skipBlanks (front ++ back) = c :: (left ++ back) ∧ c :: left <:+ front :=
  dropWhile_cut isBlank front back

theorem readWord_agrees (letters front back : List Char) :
    Agrees (Kept front back) (readWord letters (front ++ back)) (readWord letters front) := by
  induction letters generalizing front with
  | nil => exact .of_ok .all
  | cons letter letters ih =>
    cases front with
    | nil => exact .of_meetsEnd ⟨_, rfl⟩
    | cons c front =>
      simp only [List.cons_append, readWord]
      split_ifs with hc
      · exact (ih front).mono fun _ _ h => h.within (List.suffix_cons c front)
      · exact .of_error

end Words

section Numbers

variable {front back rest left : List Char}

theorem skipDigits_reached (front back : List Char) :
    Reached front back (skipDigits (front ++ back)) (skipDigits front) := by
  refine ⟨List.dropWhile_suffix _, ?_⟩
  rcases dropWhile_cut isDigit front back with h | ⟨c, left, h, h', -⟩
  · exact .inl h
  · exact .inr (h'.trans (congrArg (· ++ back) h).symm)

theorem readSign_cons (c : Char) (front back : List Char) :
    Kept (c :: front) back (readSign (c :: front ++ back)).2 (readSign (c :: front)).2 := by
  simp only [List.cons_append, readSign]
  split_ifs
  · exact Kept.all.within (List.suffix_cons c front)
  · exact Kept.all.within (List.suffix_cons c front)
  · exact .all

theorem passExponent_agrees (front back : List Char) :
    Agrees (Reached front back) (passExponent (front ++ back)) (passExponent front) := by
  cases front with
  | nil => exact .of_meetsEnd ⟨_, rfl⟩
  | cons c front =>
    obtain ⟨hs, heq⟩ := readSign_cons c front back
    simp only [passExponent, heq]
    generalize (readSign (c :: front)).2 = left at hs
    cases left with
    | nil => exact .of_meetsEnd ⟨_, rfl⟩
    | cons d left =>
      by_cases hd : isDigit d = true
      · simp only [List.cons_append, List.head?_cons, Option.any_some, hd, if_true]
        exact .of_ok ((skipDigits_reached (d :: left) back).within hs)
      · simp only [List.cons_append, List.head?_cons, Option.any_some, hd]
        exact .of_error

theorem passTail_agrees (h : Reached front back rest left) :
    Agrees (Reached front back) (passTail rest) (passTail left) := by
  cases left with
  | nil =>
    intro a _
    exact .inl ⟨[], rfl, .nothing⟩
  | cons c left =>
    obtain rfl := h.eq.resolve_left (List.cons_ne_nil c left)
    simp only [List.cons_append, passTail]
    split_ifs
    · exact (passExponent_agrees left back).mono fun _ _ hr =>
        hr.within ((List.suffix_cons c left).trans h.suffix)
    · exact .of_ok ⟨h.suffix, .inr rfl⟩

theorem passPoint_agrees (h : Reached front back rest left) :
    Agrees (Reached front back) (passPoint rest) (passPoint left) := by
  cases left with
  | nil =>
    intro a _
    exact .inl ⟨[], rfl, .nothing⟩
  | cons c left =>
    obtain rfl := h.eq.resolve_left (List.cons_ne_nil c left)
    by_cases hc : c = '.'
    · subst hc
      simp only [List.cons_append, passPoint]
      cases left with
      | nil => exact .of_meetsEnd ⟨_, rfl⟩
      | cons d left =>
        by_cases hd : isDigit d = true
        · simp only [List.cons_append, List.head?_cons, Option.any_some, hd, if_true]
          exact passTail_agrees
            ((skipDigits_reached (d :: left) back).within ((List.suffix_cons _ _).trans h.suffix))
        · simp only [List.cons_append, List.head?_cons, Option.any_some, hd]
          exact .of_error
    · have hpoint (cs : List Char) : passPoint (c :: cs) = passTail (c :: cs) := by
        simp [passPoint, hc]
      rw [List.cons_append, hpoint, hpoint]
      exact passTail_agrees h

theorem passNumber_agrees (front back : List Char) :
    Agrees (Reached front.tail back) (passNumber (front ++ back)) (passNumber front) := by
  cases front with
  | nil => exact .of_meetsEnd ⟨_, rfl⟩
  | cons c front =>
    simp only [List.cons_append, passNumber]
    -- A digit behind the zero of the cut text stands in the whole one, too.
    split_ifs with hc hzero hdigit hcut hcut
    · exact .of_error
    · exact .of_error
    · exact .of_error
    · cases front with
      | nil => exact absurd hcut (by simp)
      | cons d front => exact absurd hcut hdigit
    · exact passPoint_agrees Kept.all.reached
    · exact passPoint_agrees (skipDigits_reached front back)

end Numbers

section Escapes

variable {cs : List Char}

theorem utf8Size_of_hexDigit? {c : Char} {digit : Nat} (h : Text.hexDigit? c = some digit) :
    c.utf8Size = 1 := by
  have hle (d : Char) (hd : d.toNat ≤ 0x7F) (hc : c ≤ d) : c.utf8Size = 1 := by
    have hc : c.val ≤ 0x7F := Nat.le_trans (Char.le_def.mp hc) hd
    exact if_pos hc
  simp only [Text.hexDigit?] at h
  split_ifs at h with hd ha hA
  · simp only [Char.isDigit, Bool.and_eq_true, decide_eq_true_eq] at hd
    exact hle '9' (by decide) hd.2
  · exact hle 'f' (by decide) ha.2
  · exact hle 'F' (by decide) hA.2

/-- Digits take one byte each. -/
theorem size_of_number? {base start value : Nat} (h : (cs.foldlM (fun value c => do
    let digit ← Text.hexDigit? c
    if digit < base then some (value * base + digit) else none) start) = some value) :
    Utf8.size cs = cs.length := by
  induction cs generalizing start with
  | nil => rfl
  | cons c cs ih =>
    simp only [List.foldlM_cons, Option.bind_eq_bind, Option.bind_eq_some_iff] at h
    obtain ⟨next, ⟨digit, hdigit, -⟩, h⟩ := h
    simp only [Utf8.size_cons, utf8Size_of_hexDigit? hdigit, ih h, List.length_cons]
    omega

/-- The four digits stand in front of the cut, or the text ends among them. -/
theorem readHex_agrees (front back : List Char) :
    Agrees (fun code code' => code = code' ∧ 4 ≤ front.length) (readHex (front ++ back))
      (readHex front) := by
  by_cases hlen : 4 ≤ front.length
  · have htake : (front ++ back).take 4 = front.take 4 := List.take_append_of_le_length hlen
    simp only [readHex, htake]
    split_ifs
    · exact .of_error
    · cases Text.number? 16 (front.take 4) with
      | none => exact .of_error
      | some code => exact .of_ok ⟨rfl, hlen⟩
  · -- What is there of the four digits takes one byte each, so there are too few bytes as well.
    intro code hcode
    simp only [readHex, List.take_append, Text.number?] at hcode
    split_ifs at hcode
    split at hcode
    · next value hvalue =>
      rw [List.foldlM_append, Option.bind_eq_bind, Option.bind_eq_some_iff] at hvalue
      obtain ⟨first, hfirst, -⟩ := hvalue
      have hsize := size_of_number? hfirst
      have htake : front.take 4 = front := List.take_of_length_le (by omega)
      refine .inr ⟨.endOfText, ?_⟩
      rw [htake] at hsize
      rw [readHex, htake, if_pos (by omega)]
      rfl
    · cases hcode

theorem readSecondHalf_agrees (leading : Nat) (front back : List Char) :
    Agrees Eq (readSecondHalf leading (front ++ back)) (readSecondHalf leading front) := by
  cases front with
  | nil => exact .of_meetsEnd ⟨_, rfl⟩
  | cons c front =>
    by_cases hc : c = '\\'
    · subst hc
      cases front with
      | nil => exact .of_meetsEnd ⟨_, rfl⟩
      | cons d front =>
        by_cases hd : d = 'u'
        · subst hd
          simp only [List.cons_append, readSecondHalf]
          refine (readHex_agrees front back).bind ?_
          rintro code _ - ⟨rfl, -⟩
          split_ifs
          · exact .of_ok rfl
          · exact .of_error
        · simp only [List.cons_append, readSecondHalf]
          exact .of_error
    · have hrefused (cs : List Char) : readSecondHalf leading (c :: cs)
          = .error (.next .unpairedEscape (c :: cs)) := by
        simp [readSecondHalf, hc]
      rw [List.cons_append, hrefused]
      exact .of_error

theorem readCode_agrees (front back : List Char) :
    Agrees Eq (readCode (front ++ back)) (readCode front) := by
  refine (readHex_agrees front back).bind ?_
  rintro code _ - ⟨rfl, hlen⟩
  have hdrop : (front ++ back).drop 4 = front.drop 4 ++ back := List.drop_append_of_le_length hlen
  rw [hdrop]
  split_ifs
  · exact .of_error
  · refine (readSecondHalf_agrees code (front.drop 4) back).bind ?_
    rintro meant _ - rfl
    exact .of_ok rfl
  · exact .of_ok rfl

theorem readEscape_agrees (front back : List Char) :
    Agrees Eq (readEscape (front ++ back)) (readEscape front) := by
  cases front with
  | nil => exact .of_meetsEnd ⟨_, rfl⟩
  | cons c front =>
    simp only [List.cons_append, readEscape]
    cases shortEscape? c with
    | some meant => exact .of_ok rfl
    | none =>
      dsimp only
      split_ifs
      · refine (readCode_agrees front back).bind ?_
        rintro ⟨meant, taken⟩ _ - rfl
        exact .of_ok rfl
      · exact .of_error

theorem skipEscape_agrees (front back : List Char) :
    Agrees Eq (skipEscape (front ++ back)) (skipEscape front) := by
  cases front with
  | nil => exact .of_meetsEnd ⟨_, rfl⟩
  | cons c front =>
    simp only [List.cons_append, skipEscape]
    cases shortEscape? c with
    | some meant => exact .of_ok rfl
    | none =>
      dsimp only
      split_ifs
      · have hfive (cs : List Char) : (do discard <| readHex cs; return 5)
            = readHex cs >>= fun _ => .ok 5 := by
          cases readHex cs <;> rfl
        rw [hfive, hfive]
        refine (readHex_agrees front back).bind ?_
        intro _ _ _ _
        exact .of_ok rfl
      · exact .of_error

end Escapes

section Texts

/-- An escape may be taken to reach beyond the cut; the walk along it then meets the end. -/
theorem textFrom_agrees (taken : Nat) (front back : List Char) :
    Agrees (Valued (Kept front back)) (textFrom taken (front ++ back)) (textFrom taken front) := by
  induction front generalizing taken with
  | nil => exact .of_meetsEnd ⟨_, by cases taken <;> rfl⟩
  | cons c front ih =>
    have hs : front <:+ c :: front := List.suffix_cons c front
    cases taken with
    | succ taken => exact (ih taken).mono_rest fun _ _ h => h.within hs
    | zero =>
      simp only [List.cons_append, textFrom]
      split_ifs
      · exact .of_ok ⟨rfl, Kept.all.within hs⟩
      · refine (readEscape_agrees front back).bind ?_
        rintro ⟨meant, taken⟩ _ - rfl
        refine (ih taken).bind_valued ?_
        intro text rest left _ h
        exact .of_ok ⟨rfl, h.within hs⟩
      · exact .of_error
      · refine (ih 0).bind_valued ?_
        intro text rest left _ h
        exact .of_ok ⟨rfl, h.within hs⟩

theorem readText_agrees (front back : List Char) :
    Agrees (Valued (Kept front back)) (readText (front ++ back)) (readText front) :=
  textFrom_agrees 0 front back

theorem passFrom_agrees (taken : Nat) (front back : List Char) :
    Agrees (Kept front back) (passFrom taken (front ++ back)) (passFrom taken front) := by
  induction front generalizing taken with
  | nil => exact .of_meetsEnd ⟨_, by cases taken <;> rfl⟩
  | cons c front ih =>
    have hs : front <:+ c :: front := List.suffix_cons c front
    have hwithin (rest left : List Char) (h : Kept front back rest left) :
        Kept (c :: front) back rest left := h.within hs
    cases taken with
    | succ taken => exact (ih taken).mono hwithin
    | zero =>
      simp only [List.cons_append, passFrom]
      split_ifs
      · exact .of_ok (Kept.all.within hs)
      · refine (skipEscape_agrees front back).bind ?_
        rintro taken _ - rfl
        exact (ih taken).mono hwithin
      · exact .of_error
      · exact (ih 0).mono hwithin

theorem passText_agrees (front back : List Char) :
    Agrees (Kept front back) (passText (front ++ back)) (passText front) :=
  passFrom_agrees 0 front back

end Texts

end RowDrop.Json
