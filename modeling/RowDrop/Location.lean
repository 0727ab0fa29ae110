import RowDrop.Path
import RowDrop.Text.Split

/-!
# Dataset locations

A dataset is a local file or an object in a bucket. A text names an object exactly when it opens
with the scheme `s3://` in any mix of cases; then the bucket reaches up to the first slash, and
everything behind that slash is the key, slashes included. All other texts are local paths.
-/

namespace RowDrop

/-- Where a dataset is kept. -/
inductive Location where
  /-- A file of the local file system, named by a path in text form. -/
  | file (path : String)
  /-- An object in a bucket. -/
  | object (bucket key : String)
  deriving DecidableEq, Repr

namespace Location

/-- The scheme in front of object locations. -/
def scheme : String := "s3://"

/-- Two texts that differ at most in the case of ASCII letters. -/
def sameLetters : List Char → List Char → Bool
  | [], [] => true
  | a :: as, b :: bs => a.toLower = b.toLower && sameLetters as bs
  | _, _ => false

/-- The text behind the scheme, if a text opens with the scheme in any mix of cases. -/
def stripScheme (text : List Char) : Option (List Char) :=
  if sameLetters (text.take scheme.length) scheme.toList then some (text.drop scheme.length)
  else none

/-- A text up to its first slash, and what stands behind: the text is cut at every slash, and the
pieces behind the first are put together again. Without a slash there are none, and the second part
is empty. -/
def cutSlash (text : List Char) : List Char × List Char :=
  let pieces := Text.split '/' text
  (pieces.headD [], Text.join '/' pieces.tail)

/-- Bucket and key of a text, with or without the scheme in front. -/
def split (text : String) : String × String :=
  let body := (stripScheme text.toList).getD text.toList
  let parts := cutSlash body
  (String.ofList parts.1, String.ofList parts.2)

/-- The location that a text names. -/
def parse (text : String) : Location :=
  match stripScheme text.toList with
  | none => .file text
  | some _ => .object (split text).1 (split text).2

/-- The text form of an object location. -/
def objectText (bucket key : String) : String := scheme ++ bucket ++ "/" ++ key

/-- A location as messages show it. -/
def display : Location → String
  | .file path => path
  | .object bucket key => objectText bucket key

/-- Two locations of one dataset: local paths are compared part by part, objects exactly. -/
def Same : Location → Location → Prop
  | .file first, .file second => (Path.ofString first).Alike (Path.ofString second)
  | .object bucket key, .object bucket' key' => bucket = bucket' ∧ key = key'
  | _, _ => False

instance (first second : Location) : Decidable (first.Same second) :=
  match first, second with
  | .file first, .file second =>
    inferInstanceAs (Decidable ((Path.ofString first).Alike (Path.ofString second)))
  | .object bucket key, .object bucket' key' =>
    inferInstanceAs (Decidable (bucket = bucket' ∧ key = key'))
  | .file _, .object _ _ => .isFalse id
  | .object _ _, .file _ => .isFalse id

end Location
end RowDrop
