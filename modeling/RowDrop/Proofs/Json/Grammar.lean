import RowDrop.Json.Token

/-!
# The grammar of JSON

Which texts spell a value, as the standard has it: blanks may stand around the structural
characters, a character of a text may stand for itself or be escaped in one of several ways, and a
character beyond the basic plane is escaped as a pair of code units. The relations say nothing of
how a text is read.
-/

namespace RowDrop.Json

/-- A value. Of a number only its spelling is kept, and a record keeps its members in their order
and with all repetitions. -/
inductive Value where
  | null
  | bool (value : Bool)
  | number (spelling : List Char)
  | text (chars : List Char)
  | list (items : List Value)
  | record (members : List (List Char × Value))

/-- The members of a record: names and values. -/
abbrev Members := List (List Char × Value)

/-- Blanks and nothing else. -/
def Blanks (cs : List Char) : Prop := ∀ c ∈ cs, c = ' ' ∨ c = '\n' ∨ c = '\t' ∨ c = '\r'

theorem Blanks.nil : Blanks [] := by
  intro c hc
  cases hc

/-- Decimal digits, at least one. -/
def Digits (cs : List Char) : Prop := cs ≠ [] ∧ ∀ c ∈ cs, '0' ≤ c ∧ c ≤ '9'

/-- A hexadecimal digit, in lower or upper case. -/
def SpellsDigit (value : Nat) (c : Char) : Prop :=
  "0123456789abcdef".toList[value]? = some c ∨ "0123456789ABCDEF".toList[value]? = some c

/-- Four hexadecimal digits, the first one of the highest value. -/
inductive SpellsUnit : Nat → List Char → Prop
  | digits {a b c d : Nat} {a' b' c' d' : Char} (ha : SpellsDigit a a') (hb : SpellsDigit b b')
      (hc : SpellsDigit c c') (hd : SpellsDigit d d') :
      SpellsUnit (((a * 16 + b) * 16 + c) * 16 + d) [a', b', c', d']

/-- The characters that a letter behind a backslash can stand for. -/
def shortEscapes : List (Char × Char) :=
  [('"', '"'), ('\\', '\\'), ('/', '/'), ('b', '\x08'), ('f', '\x0C'), ('n', '\n'), ('r', '\r'),
    ('t', '\t')]

/-- How a character may stand in a text. -/
inductive SpellsChar (c : Char) : List Char → Prop
  | plain (control : 0x20 ≤ c.toNat) (quote : c ≠ '"') (backslash : c ≠ '\\') : SpellsChar c [c]
  | short {letter : Char} (h : (letter, c) ∈ shortEscapes) : SpellsChar c ['\\', letter]
  | unit {digits : List Char} (h : SpellsUnit c.toNat digits) : SpellsChar c ('\\' :: 'u' :: digits)
  | pair {leading trailing : List Char} (beyond : 0x10000 ≤ c.toNat)
      (hl : SpellsUnit (0xD800 + (c.toNat - 0x10000) / 0x400) leading)
      (ht : SpellsUnit (0xDC00 + (c.toNat - 0x10000) % 0x400) trailing) :
      SpellsChar c ('\\' :: 'u' :: leading ++ '\\' :: 'u' :: trailing)

/-- The inside of a text. -/
inductive SpellsChars : List Char → List Char → Prop
  | nil : SpellsChars [] []
  | cons {c : Char} {chars here cs : List Char} (first : SpellsChar c here)
      (others : SpellsChars chars cs) : SpellsChars (c :: chars) (here ++ cs)

/-- The inside of a text with the quotes around it. -/
inductive SpellsText (chars : List Char) : List Char → Prop
  | quoted {cs : List Char} (h : SpellsChars chars cs) : SpellsText chars ('"' :: cs ++ ['"'])

/-- The whole part of a number: no digit stands behind a zero at the front. -/
inductive SpellsWhole : List Char → Prop
  | zero : SpellsWhole ['0']
  | digits {c : Char} {cs : List Char} (h : Digits (c :: cs)) (nonzero : c ≠ '0') :
      SpellsWhole (c :: cs)

/-- The fraction of a number, which may be left out. -/
inductive SpellsFraction : List Char → Prop
  | none : SpellsFraction []
  | digits {cs : List Char} (h : Digits cs) : SpellsFraction ('.' :: cs)

/-- The exponent of a number, which may be left out. -/
inductive SpellsExponent : List Char → Prop
  | none : SpellsExponent []
  | digits {mark : Char} {sign cs : List Char} (hm : mark ∈ ['e', 'E'])
      (hs : sign ∈ [[], ['+'], ['-']]) (h : Digits cs) : SpellsExponent (mark :: sign ++ cs)

/-- A number. -/
inductive SpellsNumber : List Char → Prop
  | parts {sign whole fraction exponent : List Char} (hs : sign ∈ [[], ['-']])
      (hw : SpellsWhole whole) (hf : SpellsFraction fraction) (he : SpellsExponent exponent) :
      SpellsNumber (sign ++ (whole ++ (fraction ++ exponent)))

mutual
/-- How a value may be spelled. -/
inductive Spells : Value → List Char → Prop
  | null : Spells .null ['n', 'u', 'l', 'l']
  | true : Spells (.bool true) ['t', 'r', 'u', 'e']
  | false : Spells (.bool false) ['f', 'a', 'l', 's', 'e']
  | number {cs : List Char} (h : SpellsNumber cs) : Spells (.number cs) cs
  | text {chars cs : List Char} (h : SpellsText chars cs) : Spells (.text chars) cs
  | emptyList {blanks : List Char} (hb : Blanks blanks) :
      Spells (.list []) ('[' :: (blanks ++ [']']))
  | list {item : Value} {items : List Value} {blanks here cs : List Char} (hb : Blanks blanks)
      (first : Spells item here) (others : SpellsItems items cs) :
      Spells (.list (item :: items)) ('[' :: (blanks ++ (here ++ cs)))
  | emptyRecord {blanks : List Char} (hb : Blanks blanks) :
      Spells (.record []) ('\x7b' :: (blanks ++ ['\x7d']))
  | record {member : List Char × Value} {members : Members} {blanks here cs : List Char}
      (hb : Blanks blanks) (first : SpellsMember member here) (others : SpellsMembers members cs) :
      Spells (.record (member :: members)) ('\x7b' :: (blanks ++ (here ++ cs)))

/-- The items behind the first one, each with its comma, and the end of the list. -/
inductive SpellsItems : List Value → List Char → Prop
  | last {blanks : List Char} (hb : Blanks blanks) : SpellsItems [] (blanks ++ [']'])
  | more {item : Value} {items : List Value} {blanks blanks' here cs : List Char}
      (hb : Blanks blanks) (hb' : Blanks blanks') (first : Spells item here)
      (others : SpellsItems items cs) :
      SpellsItems (item :: items) (blanks ++ ',' :: (blanks' ++ (here ++ cs)))

/-- A member of a record: a name, a colon and a value. -/
inductive SpellsMember : List Char × Value → List Char → Prop
  | named {name : List Char} {value : Value} {key blanks blanks' cs : List Char}
      (hk : SpellsText name key) (hb : Blanks blanks) (hb' : Blanks blanks')
      (hv : Spells value cs) :
      SpellsMember (name, value) (key ++ (blanks ++ ':' :: (blanks' ++ cs)))

/-- The members behind the first one, each with its comma, and the end of the record. -/
inductive SpellsMembers : Members → List Char → Prop
  | last {blanks : List Char} (hb : Blanks blanks) : SpellsMembers [] (blanks ++ ['\x7d'])
  | more {member : List Char × Value} {members : Members} {blanks blanks' here cs : List Char}
      (hb : Blanks blanks) (hb' : Blanks blanks') (first : SpellsMember member here)
      (others : SpellsMembers members cs) :
      SpellsMembers (member :: members) (blanks ++ ',' :: (blanks' ++ (here ++ cs)))
end

/-- A whole text: one value with blanks around it. -/
inductive SpellsDocument (value : Value) : List Char → Prop
  | value {blanks blanks' cs : List Char} (hb : Blanks blanks) (hb' : Blanks blanks')
      (h : Spells value cs) : SpellsDocument value (blanks ++ (cs ++ blanks'))

/-- What follows goes on with none of the characters that a number could go on with: it is empty, or
opens with a blank or a structural character. -/
def Delimited (rest : List Char) : Prop :=
  ∀ c ∈ rest.head?, c ∈ [' ', '\n', '\t', '\r', ',', ']', '\x7d']

end RowDrop.Json
