/-!
# UTF-8 text and bytes

File names and environment values are bytes, messages are text. `encode` goes from text to
bytes. `pieces` goes back: a well-formed sequence gives its character, and every maximal
ill-formed one gives a gap. Reading strictly refuses any gap (`decode?`); reading for display
writes the replacement character in its place (`decodeLossy`).
-/

namespace RowDrop.Utf8

/-- The bytes of a text. -/
def encode (text : List Char) : List UInt8 :=
  text.flatMap String.utf8EncodeChar

@[simp] theorem encode_nil : encode [] = [] := rfl

@[simp] theorem encode_cons (c : Char) (text : List Char) :
    encode (c :: text) = String.utf8EncodeChar c ++ encode text := rfl

@[simp] theorem encode_append (first second : List Char) :
    encode (first ++ second) = encode first ++ encode second := by
  simp [encode]

/-- The number of bytes that a text takes. -/
def size (text : List Char) : Nat :=
  text.foldr (fun c total => c.utf8Size + total) 0

@[simp] theorem size_nil : size [] = 0 := rfl

@[simp] theorem size_cons (c : Char) (text : List Char) :
    size (c :: text) = c.utf8Size + size text := by
  simp [size]

/-- A byte that may stand at the third or fourth place of a sequence. -/
def isContinuation (b : UInt8) : Bool :=
  0x80 ≤ b && b ≤ 0xBF

/-- The byte that may follow a given first byte: the ranges leave out overlong forms, surrogates
and values above the last code point. -/
def isSecond (first b : UInt8) : Bool :=
  if first = 0xE0 then 0xA0 ≤ b && b ≤ 0xBF
  else if first = 0xED then 0x80 ≤ b && b ≤ 0x9F
  else if first = 0xF0 then 0x90 ≤ b && b ≤ 0xBF
  else if first = 0xF4 then 0x80 ≤ b && b ≤ 0x8F
  else isContinuation b

/-- The length of the sequence that a first byte opens; zero if it opens none. -/
def width (first : UInt8) : Nat :=
  if first < 0x80 then 1
  else if 0xC2 ≤ first && first ≤ 0xDF then 2
  else if 0xE0 ≤ first && first ≤ 0xEF then 3
  else if 0xF0 ≤ first && first ≤ 0xF4 then 4
  else 0

/-- The character of a two-byte sequence. -/
def join2 (a b : UInt8) : Char :=
  Char.ofNat ((a.toNat - 0xC0) * 64 + (b.toNat - 0x80))

/-- The character of a three-byte sequence. -/
def join3 (a b c : UInt8) : Char :=
  Char.ofNat (((a.toNat - 0xE0) * 64 + (b.toNat - 0x80)) * 64 + (c.toNat - 0x80))

/-- The character of a four-byte sequence. -/
def join4 (a b c d : UInt8) : Char :=
  Char.ofNat ((((a.toNat - 0xF0) * 64 + (b.toNat - 0x80)) * 64 + (c.toNat - 0x80)) * 64
    + (d.toNat - 0x80))

/-- The piece that opens with byte `a`, and how many of the bytes behind it belong to it. -/
def piece (a : UInt8) (rest : List UInt8) : Option Char × Nat :=
  match width a, rest with
  | 1, _ => (some (Char.ofNat a.toNat), 0)
  | 2, b :: _ => if isSecond a b then (some (join2 a b), 1) else (none, 0)
  | 3, b :: c :: _ =>
    if !isSecond a b then (none, 0)
    else if isContinuation c then (some (join3 a b c), 2)
    else (none, 1)
  | 3, [b] => (none, if isSecond a b then 1 else 0)
  | 4, b :: c :: d :: _ =>
    if !isSecond a b then (none, 0)
    else if !isContinuation c then (none, 1)
    else if isContinuation d then (some (join4 a b c d), 3)
    else (none, 2)
  | 4, [b, c] => (none, if !isSecond a b then 0 else if isContinuation c then 2 else 1)
  | 4, [b] => (none, if isSecond a b then 1 else 0)
  | _, _ => (none, 0)

/-- Cuts bytes into characters and gaps, where the first `taken` bytes belong to an earlier
piece. -/
def piecesFrom : (taken : Nat) → List UInt8 → List (Option Char)
  | _, [] => []
  | taken + 1, _ :: rest => piecesFrom taken rest
  | 0, a :: rest => (piece a rest).1 :: piecesFrom (piece a rest).2 rest

/-- Cuts bytes into characters and gaps. A gap is the longest start of a well-formed sequence
that goes no further, or else a single byte. -/
def pieces (bytes : List UInt8) : List (Option Char) := piecesFrom 0 bytes

/-- The text of bytes that are well-formed throughout. -/
def decode? (bytes : List UInt8) : Option (List Char) :=
  (pieces bytes).mapM id

/-- The text of any bytes, with the replacement character for each gap. -/
def decodeLossy (bytes : List UInt8) : List Char :=
  (pieces bytes).map fun piece => piece.getD '\uFFFD'

end RowDrop.Utf8
