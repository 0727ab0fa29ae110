import Mathlib.Tactic.SplitIfs
import RowDrop.Text.Utf8

/-!
# Text to bytes and back

The bytes of a text decode to the text again. Every character opens with a byte that tells how
many bytes belong to it, so the bytes are cut where they were put together.
-/

namespace RowDrop.Utf8

theorem width_eq (a : UInt8) :
    width a =
      if a.toNat < 0x80 then 1
      else if 0xC2 ≤ a.toNat ∧ a.toNat ≤ 0xDF then 2
      else if 0xE0 ≤ a.toNat ∧ a.toNat ≤ 0xEF then 3
      else if 0xF0 ≤ a.toNat ∧ a.toNat ≤ 0xF4 then 4
      else 0 := by
  simp [width, UInt8.lt_iff_toNat_lt, UInt8.le_iff_toNat_le]

theorem isContinuation_iff (b : UInt8) :
    isContinuation b = true ↔ 0x80 ≤ b.toNat ∧ b.toNat ≤ 0xBF := by
  simp [isContinuation, UInt8.le_iff_toNat_le]

theorem isSecond_iff (a b : UInt8) :
    isSecond a b = true ↔
      0x80 ≤ b.toNat ∧ b.toNat ≤ 0xBF ∧ (a.toNat = 0xE0 → 0xA0 ≤ b.toNat)
        ∧ (a.toNat = 0xED → b.toNat ≤ 0x9F) ∧ (a.toNat = 0xF0 → 0x90 ≤ b.toNat)
        ∧ (a.toNat = 0xF4 → b.toNat ≤ 0x8F) := by
  have heq (c : UInt8) : a = c ↔ a.toNat = c.toNat := UInt8.toNat_inj.symm
  simp only [isSecond, isContinuation, heq, UInt8.le_iff_toNat_le]
  split_ifs <;> simp_all <;> omega

theorem toNat_bounds (c : Char) : c.toNat < 0xD800 ∨ 0xDFFF < c.toNat ∧ c.toNat < 0x110000 := by
  have h := c.valid
  simp only [UInt32.isValidChar, Nat.isValidChar] at h
  exact h

theorem toNat_toLower (c : Char) :
    c.toLower.toNat = if 0x41 ≤ c.toNat ∧ c.toNat ≤ 0x5A then c.toNat + 0x20 else c.toNat := by
  unfold Char.toLower
  simp only [Char.toNat, ge_iff_le, UInt32.le_iff_toNat_le, Char.reduceVal, UInt32.reduceToNat]
  split_ifs with capital
  · simp only [UInt32.toNat_add, UInt32.reduceSub, UInt32.reduceToNat]
    omega
  · rfl

section Pieces

variable {a b c d : UInt8} {rest : List UInt8}

theorem piece_one (hw : width a = 1) : piece a rest = (some (Char.ofNat a.toNat), 0) := by
  simp [piece, hw]

theorem piece_two (hw : width a = 2) (hb : isSecond a b) :
    piece a (b :: rest) = (some (join2 a b), 1) := by
  simp [piece, hw, hb]

theorem piece_three (hw : width a = 3) (hb : isSecond a b) (hc : isContinuation c) :
    piece a (b :: c :: rest) = (some (join3 a b c), 2) := by
  simp [piece, hw, hb, hc]

theorem piece_four (hw : width a = 4) (hb : isSecond a b) (hc : isContinuation c)
    (hd : isContinuation d) : piece a (b :: c :: d :: rest) = (some (join4 a b c d), 3) := by
  simp [piece, hw, hb, hc, hd]

end Pieces

theorem ofNat_of_eq {code : Nat} {c : Char} (h : code = c.toNat) : Char.ofNat code = c := by
  rw [h, Char.ofNat_toNat]

theorem toNat_ofNat_of {code : Nat} (h : code < 0xD800 ∨ 0xDFFF < code ∧ code < 0x110000) :
    (Char.ofNat code).toNat = code := by
  rw [Char.ofNat, dif_pos h]
  rfl

/-- The bytes of a character are cut off as one piece. -/
theorem piece_of_encodeChar (c : Char) (rest : List UInt8) :
    ∃ a tail, String.utf8EncodeChar c = a :: tail ∧
      piece a (tail ++ rest) = (some c, tail.length) := by
  have hc := toNat_bounds c
  have hval : c.val.toNat = c.toNat := rfl
  simp only [String.utf8EncodeChar, hval]
  split_ifs with h₁ h₂ h₃
  · refine ⟨_, _, rfl, ?_⟩
    rw [List.nil_append, piece_one, ofNat_of_eq]
    · rfl
    · rw [UInt8.toNat_ofNat']
      omega
    · rw [width_eq, UInt8.toNat_ofNat', if_pos (by omega)]
  · refine ⟨_, _, rfl, ?_⟩
    rw [List.cons_append, piece_two, join2, ofNat_of_eq]
    · rfl
    · simp only [UInt8.toNat_ofNat']
      omega
    · rw [width_eq, UInt8.toNat_ofNat', if_neg (by omega), if_pos (by omega)]
    · simp only [isSecond_iff, UInt8.toNat_ofNat']
      omega
  · refine ⟨_, _, rfl, ?_⟩
    simp only [List.cons_append]
    rw [piece_three, join3, ofNat_of_eq]
    · rfl
    · simp only [UInt8.toNat_ofNat']
      omega
    · rw [width_eq, UInt8.toNat_ofNat', if_neg (by omega), if_neg (by omega), if_pos (by omega)]
    · simp only [isSecond_iff, UInt8.toNat_ofNat']
      omega
    · simp only [isContinuation_iff, UInt8.toNat_ofNat']
      omega
  · refine ⟨_, _, rfl, ?_⟩
    simp only [List.cons_append]
    rw [piece_four, join4, ofNat_of_eq]
    · rfl
    · simp only [UInt8.toNat_ofNat']
      omega
    · rw [width_eq, UInt8.toNat_ofNat', if_neg (by omega), if_neg (by omega), if_neg (by omega),
        if_pos (by omega)]
    · simp only [isSecond_iff, UInt8.toNat_ofNat']
      omega
    · simp only [isContinuation_iff, UInt8.toNat_ofNat']
      omega
    · simp only [isContinuation_iff, UInt8.toNat_ofNat']
      omega

theorem encodeChar_ascii {c : Char} (ascii : c.toNat < 0x80) :
    String.utf8EncodeChar c = [UInt8.ofNat c.toNat] := by
  have value : c.val.toNat = c.toNat := rfl
  simp only [String.utf8EncodeChar, value]
  rw [if_pos (by omega)]

/-- The first byte of a character outside ASCII is outside ASCII, too. -/
theorem encodeChar_wide {c : Char} (wide : 0x80 ≤ c.toNat) :
    ∃ b tail, String.utf8EncodeChar c = b :: tail ∧ 0x80 ≤ b.toNat := by
  obtain ⟨b, tail, bytes, first⟩ := piece_of_encodeChar c []
  refine ⟨b, tail, bytes, ?_⟩
  rcases Nat.lt_or_ge b.toNat 0x80 with small | large
  · have one : width b = 1 := by rw [width_eq, if_pos small]
    rw [piece_one one, Prod.mk.injEq, Option.some.injEq] at first
    have same : (Char.ofNat b.toNat).toNat = b.toNat := toNat_ofNat_of (by omega)
    rw [first.1] at same
    omega
  · exact large

/-- A character whose first byte is ASCII is the character of that byte. -/
theorem toNat_of_encodeChar {c : Char} {b : UInt8} {tail : List UInt8}
    (bytes : String.utf8EncodeChar c = b :: tail) (ascii : b.toNat < 0x80) :
    c.toNat = b.toNat := by
  rcases Nat.lt_or_ge c.toNat 0x80 with small | wide
  · rw [encodeChar_ascii small] at bytes
    obtain ⟨rfl, -⟩ := List.cons.inj bytes
    rw [UInt8.toNat_ofNat', Nat.mod_eq_of_lt (by omega)]
  · obtain ⟨_, _, same, large⟩ := encodeChar_wide wide
    rw [same] at bytes
    obtain ⟨rfl, -⟩ := List.cons.inj bytes
    omega

theorem piecesFrom_eq_drop (taken : Nat) (bytes : List UInt8) :
    piecesFrom taken bytes = pieces (bytes.drop taken) := by
  induction bytes generalizing taken with
  | nil => cases taken <;> rfl
  | cons b bytes ih =>
    cases taken with
    | zero => rfl
    | succ taken => exact ih taken

/-- The first piece decides how the text goes on. -/
theorem decode?_cons (a : UInt8) (rest : List UInt8) :
    decode? (a :: rest) = (piece a rest).1.bind fun c =>
      (decode? (rest.drop (piece a rest).2)).map (c :: ·) := by
  rw [decode?, pieces, piecesFrom, piecesFrom_eq_drop, List.mapM_cons, decode?]
  cases (piece a rest).1 with
  | none => rfl
  | some c => cases (pieces (rest.drop (piece a rest).2)).mapM id <;> rfl

/-- The bytes of a text decode to it. -/
@[simp] theorem decode?_encode (text : List Char) : decode? (encode text) = some text := by
  induction text with
  | nil => rfl
  | cons c text ih =>
    obtain ⟨a, tail, hbytes, hpiece⟩ := piece_of_encodeChar c (encode text)
    rw [encode_cons, hbytes, List.cons_append, decode?_cons, hpiece]
    simp [ih]

section Joining

variable {a b c d : UInt8}

theorem ofNat_toNat_of {code : Nat} {b : UInt8} (h : code = b.toNat) : UInt8.ofNat code = b := by
  rw [h, UInt8.ofNat_toNat]

theorem range_of_width :
    (width a = 1 → a.toNat < 0x80) ∧ (width a = 2 → 0xC2 ≤ a.toNat ∧ a.toNat ≤ 0xDF)
      ∧ (width a = 3 → 0xE0 ≤ a.toNat ∧ a.toNat ≤ 0xEF)
      ∧ (width a = 4 → 0xF0 ≤ a.toNat ∧ a.toNat ≤ 0xF4) := by
  rw [width_eq]
  refine ⟨?_, ?_, ?_, ?_⟩ <;> split_ifs <;> intro hw <;> first | contradiction | omega

theorem encodeChar_of_width_one (hw : width a = 1) :
    String.utf8EncodeChar (Char.ofNat a.toNat) = [a] := by
  have ha := range_of_width.1 hw
  have hnat : (Char.ofNat a.toNat).val.toNat = a.toNat := toNat_ofNat_of (by omega)
  simp only [String.utf8EncodeChar, hnat]
  rw [if_pos (by omega), UInt8.ofNat_toNat]

theorem encodeChar_join2 (hw : width a = 2) (hb : isSecond a b) :
    String.utf8EncodeChar (join2 a b) = [a, b] := by
  have ha := range_of_width.2.1 hw
  rw [isSecond_iff] at hb
  have hnat : (join2 a b).val.toNat = (a.toNat - 0xC0) * 64 + (b.toNat - 0x80) :=
    toNat_ofNat_of (by omega)
  simp only [String.utf8EncodeChar, hnat]
  rw [if_neg (by omega), if_pos (by omega), ofNat_toNat_of (b := a) (by omega),
    ofNat_toNat_of (b := b) (by omega)]

theorem encodeChar_join3 (hw : width a = 3) (hb : isSecond a b) (hc : isContinuation c) :
    String.utf8EncodeChar (join3 a b c) = [a, b, c] := by
  have ha := range_of_width.2.2.1 hw
  rw [isSecond_iff] at hb
  rw [isContinuation_iff] at hc
  have hnat : (join3 a b c).val.toNat
      = ((a.toNat - 0xE0) * 64 + (b.toNat - 0x80)) * 64 + (c.toNat - 0x80) :=
    toNat_ofNat_of (by omega)
  simp only [String.utf8EncodeChar, hnat]
  rw [if_neg (by omega), if_neg (by omega), if_pos (by omega), ofNat_toNat_of (b := a) (by omega),
    ofNat_toNat_of (b := b) (by omega), ofNat_toNat_of (b := c) (by omega)]

theorem encodeChar_join4 (hw : width a = 4) (hb : isSecond a b) (hc : isContinuation c)
    (hd : isContinuation d) : String.utf8EncodeChar (join4 a b c d) = [a, b, c, d] := by
  have ha := range_of_width.2.2.2 hw
  rw [isSecond_iff] at hb
  rw [isContinuation_iff] at hc hd
  have hnat : (join4 a b c d).val.toNat
      = (((a.toNat - 0xF0) * 64 + (b.toNat - 0x80)) * 64 + (c.toNat - 0x80)) * 64
        + (d.toNat - 0x80) :=
    toNat_ofNat_of (by omega)
  simp only [String.utf8EncodeChar, hnat]
  rw [if_neg (by omega), if_neg (by omega), if_neg (by omega), ofNat_toNat_of (b := a) (by omega),
    ofNat_toNat_of (b := b) (by omega), ofNat_toNat_of (b := c) (by omega),
    ofNat_toNat_of (b := d) (by omega)]

end Joining

/-- A piece that is a character takes the bytes of that character. -/
theorem encodeChar_of_piece {a : UInt8} {rest : List UInt8} {found : Char} {taken : Nat}
    (h : piece a rest = (some found, taken)) :
    a :: rest = String.utf8EncodeChar found ++ rest.drop taken := by
  unfold piece at h
  split at h
  · next hw =>
    obtain ⟨hfound, rfl⟩ : Char.ofNat a.toNat = found ∧ 0 = taken := by simpa using h
    rw [← hfound, encodeChar_of_width_one hw]
    rfl
  · next b tail hw =>
    split_ifs at h with hb
    case neg => simp at h
    obtain ⟨hfound, rfl⟩ : join2 a b = found ∧ 1 = taken := by simpa using h
    rw [← hfound, encodeChar_join2 hw hb]
    rfl
  · next b c tail hw =>
    split_ifs at h with hb hc
    case pos | neg => simp at h
    obtain ⟨hfound, rfl⟩ : join3 a b c = found ∧ 2 = taken := by simpa using h
    rw [← hfound, encodeChar_join3 hw (by simpa using hb) hc]
    rfl
  · simp at h
  · next b c d tail hw =>
    split_ifs at h with hb hc hd
    case pos | pos | neg => simp at h
    obtain ⟨hfound, rfl⟩ : join4 a b c d = found ∧ 3 = taken := by simpa using h
    rw [← hfound, encodeChar_join4 hw (by simpa using hb) (by simpa using hc) hd]
    rfl
  all_goals simp at h

/-- Bytes that decode are the bytes of what they decode to. -/
theorem encode_of_decode? {bytes : List UInt8} {text : List Char} (h : decode? bytes = some text) :
    encode text = bytes := by
  induction hn : bytes.length using Nat.strongRecOn generalizing bytes text with
  | ind n ih =>
    cases bytes with
    | nil =>
      cases h
      rfl
    | cons a rest =>
      rw [decode?_cons] at h
      cases hp : piece a rest with
      | mk found taken =>
        cases found with
        | none => simp [hp] at h
        | some c =>
          simp only [hp, Option.bind_some, Option.map_eq_some_iff] at h
          obtain ⟨behind, hbehind, rfl⟩ := h
          have shorter : (rest.drop taken).length < n := by
            rw [← hn, List.length_drop, List.length_cons]
            omega
          have hrest := ih _ shorter hbehind rfl
          rw [encode_cons, hrest, encodeChar_of_piece hp]

theorem size_append (first second : List Char) :
    size (first ++ second) = size first + size second := by
  induction first with
  | nil => simp
  | cons c first ih =>
    rw [List.cons_append, size_cons, size_cons, ih]
    omega

end RowDrop.Utf8
