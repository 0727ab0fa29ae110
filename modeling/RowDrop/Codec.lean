/-!
# Compression codecs

The codecs with which the column chunks of a file can be compressed. Where no codec is chosen,
files are written with `zstd`.
-/

namespace RowDrop

/-- How the column chunks of a file are compressed. -/
inductive Codec where
  | uncompressed
  | snappy
  | zstd
  | lz4Raw
  deriving DecidableEq, Repr

namespace Codec

/-- All codecs, in the order in which messages list them. -/
def all : List Codec := [.uncompressed, .snappy, .zstd, .lz4Raw]

/-- The name that stands for a codec in settings. -/
def name : Codec → String
  | .uncompressed => "uncompressed"
  | .snappy => "snappy"
  | .zstd => "zstd"
  | .lz4Raw => "lz4_raw"

/-- The codec of a name. -/
def ofName? (name : String) : Option Codec := all.find? fun codec => codec.name = name

@[simp] theorem ofName?_name (codec : Codec) : ofName? codec.name = some codec := by
  cases codec <;> rfl

/-- The codec of files for which none is chosen. -/
def standard : Codec := .zstd

end Codec
end RowDrop
