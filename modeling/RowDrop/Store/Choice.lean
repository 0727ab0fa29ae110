import RowDrop.Store.Failure
import RowDrop.Text.Blank
import RowDrop.Text.Digits

/-!
# Texts of choices

Some choices for a client are only meaningful for a few texts. Most of them do not change what the
client does here, but a text without meaning keeps it from being set up.
-/

namespace RowDrop.Choice

/-- Texts for a truth value, in any mix of cases. -/
def readSwitch (value : String) : Except StoreError Bool :=
  let lower := String.ofList (value.toList.map Char.toLower)
  if ["1", "true", "on", "yes", "y"].contains lower then .ok true
  else if ["0", "false", "off", "no", "n"].contains lower then .ok false
  else .error (.notBoolean value)

/-- The truth value of a choice, false where nothing is chosen. -/
def switch (value : Option String) : Except StoreError Bool :=
  match value with
  | some value => readSwitch value
  | none => .ok false

/-- A chosen text must have a property. -/
def require (value : Option String) (holds : List Char → Bool) (failure : String → StoreError) :
    Except StoreError Unit :=
  match value with
  | some value => if holds value.toList then .ok () else .error (failure value)
  | none => .ok ()

/-- The parts of a text in front of a colon and behind it. -/
def cutColon? (text : List Char) : Option (List Char × List Char) :=
  match text.dropWhile (· ≠ ':') with
  | _ :: behind => some (text.takeWhile (· ≠ ':'), behind)
  | [] => none

/-- The text is the name of a checksum. -/
def isChecksum (text : List Char) : Bool := text.map Char.toLower = "sha256".toList

/-- The text is a number of seconds: digits for a number below `2 ^ 64`, maybe with a plus. -/
def isSeconds (text : List Char) : Bool :=
  let digits := match text with
    | '+' :: rest => rest
    | text => text
  digits ≠ [] && (Text.number? 10 digits).any (· < 1 <<< 64)

/-- The text is a code that a server can answer with. -/
def isStatusCode : List Char → Bool
  | [a, b, c] => a.isDigit && a ≠ '0' && b.isDigit && c.isDigit
  | _ => false

/-- The text names a table of locks, maybe with a number of seconds behind it. -/
def isLockTable (text : List Char) : Bool :=
  match cutColon? text with
  | some (_, seconds) => isSeconds seconds
  | none => true

/-- The text says how to copy only where nothing is replaced: with a header of the request, whose
refusal may have a code of its own, or with a table of locks. -/
def isCopyCondition (text : List Char) : Bool :=
  match cutColon? text with
  | none => false
  | some (kind, value) =>
    let kind := String.ofList (Text.trim kind)
    if kind = "header" then (cutColon? value).isSome
    else if kind = "header-with-status" then
      ((cutColon? value).bind fun (_, rest) => cutColon? rest).any fun (_, code) =>
        isStatusCode (Text.trim code)
    else kind = "dynamo" && isLockTable value

/-- The text says how to put only where nothing has changed: with a tag, or with a table of
locks. -/
def isPutCondition (text : List Char) : Bool :=
  let text := Text.trim text
  text = "etag".toList
    || (cutColon? text).any fun (kind, table) => kind = "dynamo".toList && isLockTable table

/-- The text is a kind of encryption. -/
def isEncryption (text : List Char) : Bool :=
  ["AES256", "aws:kms", "aws:kms:dsse"].contains (String.ofList text)

/-- The text fits into a header: it holds no control character but tabs. -/
def fitsHeader (text : List Char) : Bool :=
  text.all fun c => c = '\t' || 0x20 ≤ c.toNat && c.toNat ≠ 0x7F

/-- The end of the names of buckets that lie in one zone. -/
def zoneEnd : List Char := "--x-s3".toList

/-- The name of a bucket holds a zone: it has two dashes in front of the end. -/
def hasZone (bucket : List Char) : Bool :=
  zoneEnd.isSuffixOf bucket
    && (List.range bucket.length).any fun start =>
      "--".toList.isPrefixOf ((bucket.take (bucket.length - zoneEnd.length)).drop start)

end RowDrop.Choice
