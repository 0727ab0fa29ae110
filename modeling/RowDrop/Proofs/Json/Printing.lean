import Mathlib.Tactic.IntervalCases
import Mathlib.Tactic.SplitIfs
import RowDrop.Json.Printer
import RowDrop.Proofs.Json.Grammar

/-!
# What is printed spells what was meant

Every printed character, text and record is one of the spellings that the grammar has for it.
-/

namespace RowDrop.Json

theorem spellsDigit_hexChar (value : Nat) (h : value < 16) : SpellsDigit value (hexChar value) := by
  refine .inl ?_
  interval_cases value <;> rfl

/-- A control character is printed as the four digits of its number. -/
theorem spellsUnit_control {code : Nat} (h : code < 0x20) :
    SpellsUnit code ['0', '0', hexChar (code / 16), hexChar (code % 16)] := by
  have hcode : ((0 * 16 + 0) * 16 + code / 16) * 16 + code % 16 = code := by omega
  have hunit := SpellsUnit.digits (spellsDigit_hexChar 0 (by omega))
    (spellsDigit_hexChar 0 (by omega))
    (spellsDigit_hexChar (code / 16) (by omega))
    (spellsDigit_hexChar (code % 16) (by omega))
  rw [hcode] at hunit
  exact hunit

theorem spellsChar_writtenChar (c : Char) : SpellsChar c (writtenChar c) := by
  rw [writtenChar]
  split_ifs with h₁ h₂ h₃ h₄ h₅ h₆ h₇ h₈
  · exact .short (by simp [shortEscapes, h₁])
  · exact .short (by simp [shortEscapes, h₂])
  · exact .short (by simp [shortEscapes, h₃])
  · exact .short (by simp [shortEscapes, h₄])
  · exact .short (by simp [shortEscapes, h₅])
  · exact .short (by simp [shortEscapes, h₆])
  · exact .short (by simp [shortEscapes, h₇])
  · exact .unit (spellsUnit_control h₈)
  · exact .plain (Nat.le_of_not_lt h₈) h₁ h₂

theorem spellsText_writeText (text : String) : SpellsText text.toList (writeText text) := by
  refine .quoted ?_
  induction text.toList with
  | nil => exact .nil
  | cons c chars ih =>
    rw [List.flatMap_cons]
    exact .cons (spellsChar_writtenChar c) ih

/-- A text as a value. -/
def Value.ofText (text : String) : Value := .text text.toList

theorem spells_writeText (text : String) : Spells (.ofText text) (writeText text) :=
  .text (spellsText_writeText text)

theorem spells_writeBool (value : Bool) : Spells (.bool value) (writeBool value) := by
  cases value with
  | true => exact .true
  | false => exact .false

/-- A value that may be missing, with null for none. -/
def Value.ofOption {α : Type} (value : α → Value) : Option α → Value
  | some a => value a
  | none => .null

theorem spells_writeOptional {α : Type} {value : α → Value} {write : α → List Char}
    (h : ∀ a, Spells (value a) (write a)) (option : Option α) :
    Spells (.ofOption value option) (writeOptional write option) := by
  cases option with
  | some a => exact h a
  | none => exact .null

theorem intercalate_cons (mark : List Char) (first : List Char) (others : List (List Char)) :
    List.intercalate mark (first :: others) = first ++ others.flatMap (mark ++ ·) := by
  induction others generalizing first with
  | nil => simp [List.intercalate]
  | cons other others ih =>
    have := ih other
    simp only [List.intercalate, List.intersperse] at this ⊢
    simp [this]

/-- The printed members and the values that they print. -/
def Prints (printed : List (String × List Char)) (members : Members) : Prop :=
  List.Forall₂ (fun text member => member.1 = text.1.toList ∧ Spells member.2 text.2) printed
    members

theorem spellsMember_printed {name : String} {text : List Char} {member : List Char × Value}
    (h : member.1 = name.toList ∧ Spells member.2 text) :
    SpellsMember member (writeText name ++ ':' :: text) := by
  obtain ⟨key, value⟩ := member
  obtain ⟨rfl, hv⟩ := h
  exact .named (spellsText_writeText name) .nil .nil hv

/-- The members behind the first one are printed with a comma in front of each. -/
theorem spellsMembers_printed {printed : List (String × List Char)} {members : Members}
    (h : Prints printed members) :
    SpellsMembers members
      (printed.flatMap (fun text => ',' :: (writeText text.1 ++ ':' :: text.2)) ++ ['\x7d']) := by
  induction h with
  | nil => exact .last .nil
  | cons first _ ih =>
    have := SpellsMembers.more .nil .nil (spellsMember_printed first) ih
    simpa using this

theorem spells_writeRecord {printed : List (String × List Char)} {members : Members}
    (h : Prints printed members) : Spells (.record members) (writeRecord printed) := by
  rw [writeRecord]
  cases h with
  | nil => exact .emptyRecord .nil
  | cons first others =>
    have := Spells.record .nil (spellsMember_printed first) (spellsMembers_printed others)
    simpa [intercalate_cons, List.flatMap_map] using this

end RowDrop.Json
