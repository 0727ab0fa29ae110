import RowDrop.DomainName.Direction
import RowDrop.DomainName.Joining
import RowDrop.DomainName.Mapping
import RowDrop.DomainName.Punycode

/-!
# Domain names in the basic set

A domain name is brought into one spelling and cut into labels. A label that is written in the
basic set must stand for one that is spelled like this itself. What remains beyond the basic set
is written in it.
-/

namespace RowDrop.DomainName

/-- The character belongs to the basic set. -/
def isBasic (c : Char) : Bool := c.toNat < 0x80

/-- What labels begin with that stand for others. -/
def encodedLead : List Char := "xn--".toList

/-- The label that a label stands for. -/
def readLabel? (label : List Char) : Option (List Char) :=
  if encodedLead.isPrefixOf label then
    match Punycode.decode? (label.drop encodedLead.length) with
    | some read =>
      if !read.all isBasic ∧ isSpelled read ∧ composed read = read then some read else none
    | none => none
  else some label

/-- A label in the basic set. -/
def writeLabel (label : List Char) : List Char :=
  if label.all isBasic then label else encodedLead ++ Punycode.encode label

/-- The labels of a domain name; none if it is not one. -/
def labels? (name : List Char) : Option (List (List Char)) := do
  let labels ← (Text.split '.' (composed (← spell? name))).mapM readLabel?
  if !labels.all isFit then none
  else if labels.any (·.any isFromRight) ∧ !labels.all keepsDirection then none
  else some labels

/-- A domain name in the basic set. -/
def toAscii? (name : List Char) : Option (List Char) :=
  (labels? name).map fun labels => Text.join '.' (labels.map writeLabel)

end RowDrop.DomainName
