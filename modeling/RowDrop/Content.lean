import RowDrop.Codec
import RowDrop.Frame

/-!
# File contents

A file holds plain bytes, or the image of a frame, maybe with bytes behind it. The image stands
for an encoded file: it decodes to its frame, and two images are the same bytes exactly when they
are equal. How an image is spelled in bytes is left open; only its last four bytes are known, the
mark that ends every file of the format.

Decoding other contents looks at the end of the file: the mark, and in front of it the length of
the footer. What has the mark and a possible footer length has no readable footer all the same.
-/

namespace RowDrop

/-- An encoded frame. -/
structure Image where
  frame : Frame
  /-- The codec of all column chunks. -/
  codec : Codec
  /-- The largest number of rows in a group, if the writer was given one. -/
  groupRows : Option Nat
  deriving BEq

namespace Image

/-- The image of a frame. Without rows there are no column chunks, so codec and grouping leave no
mark on the bytes. -/
def ofFrame (frame : Frame) (codec : Codec) (groupRows : Option Nat) : Image :=
  if frame.height = 0 then ⟨frame, .standard, none⟩ else ⟨frame, codec, groupRows⟩

@[simp] theorem frame_ofFrame (frame : Frame) (codec : Codec) (groupRows : Option Nat) :
    (ofFrame frame codec groupRows).frame = frame := by
  unfold ofFrame
  split <;> rfl

/-- The codecs of the column chunks: one, or none if there are no rows. -/
def codecs (image : Image) : List Codec :=
  if image.frame.height = 0 then [] else [image.codec]

end Image

/-- What a file holds. -/
inductive Content where
  /-- Plain bytes. -/
  | raw (bytes : List UInt8)
  /-- An image with bytes behind it. -/
  | encoded (image : Image) (tail : List UInt8)
  deriving BEq

/-- Why contents do not decode to a frame. -/
inductive FormatError where
  /-- The file is a directory. -/
  | directory
  /-- Fewer bytes than a header and a footer take. -/
  | tooShort
  /-- The mark at the end is missing. -/
  | noEndMark
  /-- The length of the footer is negative. -/
  | negativeFooter
  /-- The footer would be longer than the file. -/
  | footerTooLarge
  /-- The footer cannot be read. -/
  | unreadableFooter
  /-- The schema has no column. -/
  | noColumns
  deriving DecidableEq, Repr

namespace FormatError

/-- The reason as messages give it. -/
def text : FormatError → String
  | directory =>
    "parquet error: OutOfSpec(\"underlying IO error: Is a directory (os error 21)\")"
  | tooShort =>
    "parquet error: OutOfSpec(\"A parquet file must containt a header and footer with "
      ++ "at least 12 bytes\")"
  | noEndMark => "parquet error: OutOfSpec(\"The file must end with PAR1\")"
  | negativeFooter =>
    "parquet error: OutOfSpec(\"Number must be zero or positive: "
      ++ "number too small to fit in target type\")"
  | footerTooLarge =>
    "parquet error: OutOfSpec(\"The footer size must be smaller or equal to the file's size\")"
  | unreadableFooter => "parquet error: OutOfSpec(\"Invalid thrift"
  | noColumns =>
    "parquet error: OutOfSpec(\"Repetition level must be defined for a primitive type\")"

end FormatError

namespace Content

/-- The mark at both ends of a file of the format: `PAR1`. -/
def mark : List UInt8 := [0x50, 0x41, 0x52, 0x31]

/-- The contents of an empty file. -/
def empty : Content := .raw []

/-- The contents that a writer makes of a frame. -/
def ofFrame (frame : Frame) (codec : Codec) : Content := .encoded (.ofFrame frame codec none) []

/-- The number of bytes, as far as it is known. -/
def size? : Content → Option Nat
  | .raw bytes => some bytes.length
  | .encoded _ _ => none

/-- Puts bytes behind the contents. -/
def append : Content → List UInt8 → Content
  | .raw bytes, more => .raw (bytes ++ more)
  | .encoded image tail, more => .encoded image (tail ++ more)

/-- The bytes from the known part on: all bytes, or for an image its end mark and what follows. -/
def knownEnd : Content → List UInt8
  | .raw bytes => bytes
  | .encoded _ tail => mark ++ tail

/-- A length that an image with bytes behind it is taken to exceed: the length of its own bytes is
open, and every footer that announces less is taken to lie inside. -/
def openLength : Nat := 1024

/-- The number of bytes that a footer has to fit into. -/
def room : Content → Nat
  | .raw bytes => bytes.length
  | .encoded _ tail => openLength + tail.length

/-- The number in four bytes, lowest byte first. -/
def littleEndian (bytes : List UInt8) : Nat :=
  bytes.foldr (fun byte value => byte.toNat + 256 * value) 0

/-- Why contents that are no bare image do not decode, given their length and the bytes known of
their end. -/
def footerError (room : Nat) (known : List UInt8) : FormatError :=
  if room < 12 then .tooShort
  else if known.drop (known.length - 4) ≠ mark then .noEndMark
  else
    let footer := littleEndian ((known.drop (known.length - 8)).take 4)
    if 0x80000000 ≤ footer then .negativeFooter
    else if room < footer + 8 then .footerTooLarge
    else .unreadableFooter

/-- The frame that contents hold. -/
def decode : Content → Except FormatError Frame
  | .encoded image [] => if image.frame.columns.isEmpty then .error .noColumns else .ok image.frame
  | content => .error (footerError content.room content.knownEnd)

/-- Contents that begin like a file of the format. -/
def startsWithMark : Content → Bool
  | .raw bytes => 12 ≤ bytes.length && bytes.take 4 = mark
  | .encoded _ _ => true

/-- What is written decodes to the frame that was written, unless it has no columns. -/
theorem decode_ofFrame (frame : Frame) (codec : Codec) (h : frame.columns ≠ []) :
    decode (ofFrame frame codec) = .ok frame := by
  simp [ofFrame, decode, h]

end Content
end RowDrop
