import Mathlib.Tactic.SplitIfs
import RowDrop.Location
import RowDrop.Proofs.Text.Utf8

/-!
# Location texts and their canonical form

A text names an object exactly when its first five bytes are the scheme, in capitals or not. The
bucket and the key are then cut from the text behind the scheme, and nothing of that text is lost:
joined by a slash they are that text again (`cutSlash_join`), and what was joined is cut in the
same place (`cutSlash_append`). So the text form of a location is read back as that location, and
it is the text it was read from unless capitals or a missing slash were set right on the way
(`parse_display_canonical`).

The scheme is all ASCII, so it makes no difference whether it is looked for among the bytes or
among the characters of a text, also where the fifth byte lies inside a character
(`sameLetters_iff_bytes`).
-/

namespace RowDrop

namespace Utf8

/-- A byte, with the small letter in place of an ASCII capital. -/
def lowerByte (b : UInt8) : UInt8 := if 0x41 ≤ b ∧ b ≤ 0x5A then b + 0x20 else b

theorem toNat_lowerByte (b : UInt8) :
    (lowerByte b).toNat = if 0x41 ≤ b.toNat ∧ b.toNat ≤ 0x5A then b.toNat + 0x20 else b.toNat := by
  simp only [lowerByte, UInt8.le_iff_toNat_le, UInt8.reduceToNat]
  split_ifs with capital
  · simp only [UInt8.toNat_add, UInt8.reduceToNat]
    omega
  · rfl

end Utf8

namespace Location

open Utf8

section Scheme

/-- One ASCII letter, compared as a byte and as a character. -/
theorem lowerByte_eq_iff {c d : Char} (hc : c.toNat < 0x80) (hd : d.toNat < 0x80) :
    lowerByte (UInt8.ofNat c.toNat) = lowerByte (UInt8.ofNat d.toNat) ↔ c.toLower = d.toLower := by
  rw [← UInt8.toNat_inj, Char.ext_iff, ← UInt32.toNat_inj]
  change _ ↔ c.toLower.toNat = d.toLower.toNat
  rw [toNat_lowerByte, toNat_lowerByte, toNat_toLower, toNat_toLower, UInt8.toNat_ofNat',
    UInt8.toNat_ofNat', Nat.mod_eq_of_lt (by omega), Nat.mod_eq_of_lt (by omega)]

/-- An ASCII text opens another text up to case if it opens its bytes up to case. The induction is
on the ASCII text; a character that takes several bytes differs already in the first. -/
theorem sameLetters_iff_bytes {pattern : List Char} (ascii : ∀ c ∈ pattern, c.toNat < 0x80)
    (text : List Char) :
    sameLetters (text.take pattern.length) pattern = true ↔
      ((encode text).take pattern.length).map lowerByte = (encode pattern).map lowerByte := by
  induction pattern generalizing text with
  | nil => simp [sameLetters]
  | cons d pattern ih =>
    have hd := ascii d List.mem_cons_self
    specialize ih fun c hc => ascii c (List.mem_cons_of_mem _ hc)
    cases text with
    | nil => simp [sameLetters, encodeChar_ascii hd]
    | cons c text =>
      rw [List.length_cons, List.take_succ_cons, sameLetters, Bool.and_eq_true, decide_eq_true_iff,
        encode_cons, encode_cons, encodeChar_ascii hd]
      rcases Nat.lt_or_ge c.toNat 0x80 with hc | wide
      · rw [encodeChar_ascii hc, List.singleton_append, List.singleton_append, List.take_succ_cons,
          List.map_cons, List.map_cons, List.cons.injEq, lowerByte_eq_iff hc hd, ih]
      · obtain ⟨b, tail, bytes, hb⟩ := encodeChar_wide wide
        rw [bytes, List.cons_append, List.take_succ_cons, List.singleton_append, List.map_cons,
          List.map_cons, List.cons.injEq, ← UInt8.toNat_inj, toNat_lowerByte, toNat_lowerByte,
          UInt8.toNat_ofNat', Nat.mod_eq_of_lt (by omega)]
        refine iff_of_false (fun same => ?_) (fun same => ?_)
        · have := congrArg Char.toNat same.1
          rw [toNat_toLower, toNat_toLower] at this
          split_ifs at this <;> omega
        · have := same.1
          split_ifs at this <;> omega

/-- The first five bytes of a text are the scheme, in capitals or not. -/
def HasScheme (text : String) : Prop :=
  ((encode text.toList).take 5).map lowerByte = encode scheme.toList

instance (text : String) : Decidable (HasScheme text) :=
  inferInstanceAs (Decidable (_ = _))

/-- What stands behind the scheme of a text. -/
def behindScheme (text : String) : String := String.ofList (text.toList.drop 5)

theorem hasScheme_iff (text : String) :
    HasScheme text ↔ sameLetters (text.toList.take 5) scheme.toList = true :=
  (@sameLetters_iff_bytes scheme.toList (by simp [scheme]) text.toList).symm

theorem stripScheme_eq (text : String) :
    stripScheme text.toList = if HasScheme text then some (behindScheme text).toList else none := by
  simp only [hasScheme_iff, behindScheme, String.toList_ofList]
  rfl

theorem hasScheme_append (rest : String) : HasScheme (scheme ++ rest) := by
  rw [hasScheme_iff, String.toList_append]
  rfl

theorem behindScheme_append (rest : String) : behindScheme (scheme ++ rest) = rest := by
  rw [behindScheme, String.toList_append]
  exact String.ofList_toList

end Scheme

section Cutting

variable {text bucket key : List Char}

theorem cutSlash_of_not_mem (plain : '/' ∉ text) : cutSlash text = (text, []) := by
  rw [cutSlash, Text.split_of_not_mem plain]
  rfl

/-- Two parts joined by a slash are cut there, if that slash is the first. -/
theorem cutSlash_append (plain : '/' ∉ bucket) :
    cutSlash (bucket ++ '/' :: key) = (bucket, key) := by
  have pieces : Text.split '/' (bucket ++ '/' :: key) = bucket :: Text.split '/' key := by
    rw [Text.split_append, Text.split_of_not_mem plain, List.singleton_append]
  rw [cutSlash, pieces]
  exact congrArg (bucket, ·) (Text.join_split '/' key)

theorem not_mem_cutSlash (text : List Char) : '/' ∉ (cutSlash text).1 := by
  rw [cutSlash]
  cases pieces : Text.split '/' text with
  | nil => exact List.not_mem_nil
  | cons piece others =>
    refine Text.not_mem_of_mem_split (?_ : _ ∈ Text.split '/' text)
    rw [pieces]
    exact List.mem_cons_self

/-- The two parts of a text with a slash are that text again. -/
theorem cutSlash_join (slash : '/' ∈ text) :
    (cutSlash text).1 ++ '/' :: (cutSlash text).2 = text := by
  obtain ⟨front, back, rfl, plain⟩ := List.eq_append_cons_of_mem slash
  rw [cutSlash_append plain]

end Cutting

section Parsing

variable {text bucket key : String}

theorem split_of_hasScheme (h : HasScheme text) :
    split text = (String.ofList (cutSlash (behindScheme text).toList).1,
      String.ofList (cutSlash (behindScheme text).toList).2) := by
  rw [split, stripScheme_eq, if_pos h, Option.getD_some]

theorem split_of_not_hasScheme (h : ¬ HasScheme text) :
    split text = (String.ofList (cutSlash text.toList).1,
      String.ofList (cutSlash text.toList).2) := by
  rw [split, stripScheme_eq, if_neg h, Option.getD_none]

theorem parse_of_hasScheme (h : HasScheme text) :
    parse text = .object (split text).1 (split text).2 := by
  rw [parse, stripScheme_eq, if_pos h]

theorem parse_of_not_hasScheme (h : ¬ HasScheme text) : parse text = .file text := by
  rw [parse, stripScheme_eq, if_neg h]

theorem hasScheme_of_parse_eq_object (h : parse text = .object bucket key) : HasScheme text := by
  by_cases named : HasScheme text
  · exact named
  · cases (parse_of_not_hasScheme named).symm.trans h

theorem eq_of_parse_eq_file {path : String} (h : parse text = .file path) : path = text := by
  by_cases named : HasScheme text
  · cases (parse_of_hasScheme named).symm.trans h
  · exact Location.file.inj (h.symm.trans (parse_of_not_hasScheme named))

theorem not_mem_bucket_of_parse (h : parse text = .object bucket key) : '/' ∉ bucket.toList := by
  have named := hasScheme_of_parse_eq_object h
  rw [parse_of_hasScheme named, split_of_hasScheme named] at h
  obtain ⟨rfl, rfl⟩ := Location.object.inj h
  rw [String.toList_ofList]
  exact not_mem_cutSlash _

/-- Bucket and key hold everything behind the scheme. -/
theorem behindScheme_of_parse (h : parse text = .object bucket key) :
    if '/' ∈ (behindScheme text).toList then behindScheme text = bucket ++ "/" ++ key
    else behindScheme text = bucket ∧ key = "" := by
  have named := hasScheme_of_parse_eq_object h
  rw [parse_of_hasScheme named, split_of_hasScheme named] at h
  obtain ⟨rfl, rfl⟩ := Location.object.inj h
  split_ifs with slash
  · rw [← String.toList_inj]
    simpa using (cutSlash_join slash).symm
  · simp [cutSlash_of_not_mem slash]

/-- An object location is read back from its text form. -/
theorem parse_objectText (key : String) (plain : '/' ∉ bucket.toList) :
    parse (objectText bucket key) = .object bucket key := by
  have form : objectText bucket key = scheme ++ (bucket ++ "/" ++ key) := by
    simp only [objectText, String.append_assoc]
  have cut : cutSlash (bucket ++ "/" ++ key).toList = (bucket.toList, key.toList) := by
    rw [← cutSlash_append plain]
    simp
  rw [form, parse_of_hasScheme (hasScheme_append _), split_of_hasScheme (hasScheme_append _),
    behindScheme_append, cut, String.ofList_toList, String.ofList_toList]

/-- The text form of a location is read back as that location. -/
theorem parse_display_parse (text : String) : parse (display (parse text)) = parse text := by
  cases found : parse text with
  | file path =>
    obtain rfl := eq_of_parse_eq_file found
    exact found
  | object bucket key => exact parse_objectText key (not_mem_bucket_of_parse found)

/-- A text is the text form of its location unless that form sets something right: the capital of
the scheme, or a missing slash behind the bucket. -/
theorem display_parse_eq_iff (text : String) :
    display (parse text) = text ↔
      parse text = .file text ∨ ∃ rest, text = scheme ++ rest ∧ '/' ∈ rest.toList := by
  constructor
  · intro same
    cases found : parse text with
    | file path => exact .inl (congrArg _ (eq_of_parse_eq_file found))
    | object bucket key =>
      rw [found, display, objectText] at same
      refine .inr ⟨bucket ++ "/" ++ key, ?_, by simp⟩
      rw [← same]
      simp only [String.append_assoc]
  · rintro (local_ | ⟨rest, rfl, slash⟩)
    · rw [local_, display]
    · have joined := cutSlash_join slash
      rw [parse_of_hasScheme (hasScheme_append rest), split_of_hasScheme (hasScheme_append rest),
        behindScheme_append, display, objectText, String.append_assoc, String.append_assoc,
        ← String.toList_inj]
      simpa using joined

/-- Reading a location loses nothing, and showing it gives a canonical form. A text names an object
exactly if its first five bytes are the scheme up to the case of letters, and then the bucket has
no slash and bucket and key hold all that stands behind the scheme. Bucket and key of such a text
are also those of the text without the scheme, if that does not open with a scheme of its own. What
a location is shown as is read as that location; it is the text the location was read from exactly
if that text is a local path, or has the scheme in small letters and a slash behind the bucket. And
an object location of any bucket without a slash is read back from its text form, so two different
ones have different forms. -/
theorem parse_display_canonical (text bucket key : String) :
    ((∃ bucket key, parse text = .object bucket key) ↔ HasScheme text)
      ∧ (¬ HasScheme text → parse text = .file text)
      ∧ (∀ found behind, parse text = .object found behind →
          '/' ∉ found.toList
            ∧ if '/' ∈ (behindScheme text).toList then behindScheme text = found ++ "/" ++ behind
              else behindScheme text = found ∧ behind = "")
      ∧ (HasScheme text → ¬ HasScheme (behindScheme text) → split (behindScheme text) = split text)
      ∧ parse (display (parse text)) = parse text
      ∧ (display (parse text) = text ↔
          parse text = .file text ∨ ∃ rest, text = scheme ++ rest ∧ '/' ∈ rest.toList)
      ∧ ('/' ∉ bucket.toList →
          parse (display (.object bucket key)) = .object bucket key
            ∧ ∀ bucket' key', '/' ∉ bucket'.toList →
                display (.object bucket' key') = display (.object bucket key) →
                  Location.object bucket' key' = .object bucket key) := by
  refine ⟨⟨?_, fun named => ⟨_, _, parse_of_hasScheme named⟩⟩, parse_of_not_hasScheme, ?_, ?_,
    parse_display_parse text, display_parse_eq_iff text, ?_⟩
  · rintro ⟨bucket, key, found⟩
    exact hasScheme_of_parse_eq_object found
  · intro found behind h
    exact ⟨not_mem_bucket_of_parse h, behindScheme_of_parse h⟩
  · intro named plain
    rw [split_of_hasScheme named, split_of_not_hasScheme plain]
  · intro plain
    refine ⟨parse_objectText key plain, fun bucket' key' plain' same => ?_⟩
    -- reading is a left inverse of showing, so it tells the two apart
    rw [← parse_objectText key plain, ← parse_objectText key' plain']
    exact congrArg parse same

end Parsing

/-- A capital scheme and a run of slashes: the key keeps its slashes, and what is read without the
scheme is the same. Where the fifth byte lies inside a character the text is a local path. -/
theorem parse_display_canonical_capital :
    behindScheme "S3://b//k/" = "b" ++ "/" ++ "/k/"
      ∧ split "b//k/" = split "S3://b//k/"
      ∧ display (parse "S3://b//k/") ≠ "S3://b//k/"
      ∧ parse (display (.object "b" "/k/")) = .object "b" "/k/"
      ∧ parse "s3:/é/k" = .file "s3:/é/k" := by
  obtain ⟨_, _, cut, behind, _, same, back⟩ := parse_display_canonical "S3://b//k/" "b" "/k/"
  refine ⟨?_, ?_, ?_, ?_, ?_⟩
  · have joined := (cut "b" "/k/" (by decide +kernel)).2
    rwa [if_pos (by decide +kernel)] at joined
  · exact behind (by decide +kernel) (by decide +kernel)
  · rw [Ne, same]
    rintro (file | ⟨rest, capital, -⟩)
    · revert file
      decide +kernel
    · have := congrArg (fun text => text.toList.head?) capital
      revert this
      simp [scheme]
  · exact (back (by decide +kernel)).1
  · exact (parse_display_canonical "s3:/é/k" "b" "/k/").2.1 (by decide +kernel)

end Location
end RowDrop
