import RowDrop.Proofs.Custody
import RowDrop.Proofs.Files.Creating
import RowDrop.Proofs.Json.Printing
import RowDrop.Proofs.Settings.Overlay
import RowDrop.Settings.Printer

/-!
# Written settings are read back

The settings that are written spell a record with every field in its place, so reading gives every
field its value again, whatever the defaults are (`Settings.load_write`).
-/

namespace RowDrop

open Json

section Meanings

theorem text?_ofText (text : String) : (Value.ofText text).text? = some text := by
  simp [Value.ofText, Value.text?]

theorem textOrNull_ofOption (text : Option String) :
    textOrNull (.ofOption .ofText text) = some text := by
  cases text with
  | none => rfl
  | some text => simp [Value.ofOption, Value.ofText, textOrNull, Value.orNull, Value.text?]

theorem boolOrNull_ofOption (value : Option Bool) :
    Value.orNull Value.bool? (.ofOption .bool value) = some value := by
  cases value <;> rfl

theorem codecOrNull_ofOption (codec : Option Codec) :
    Settings.codecOrNull (.ofOption (fun codec => .ofText codec.name) codec) = some codec := by
  cases codec with
  | none => rfl
  | some codec =>
    simp [Value.ofOption, Value.ofText, Settings.codecOrNull, Value.orNull, Value.variant?]

end Meanings

/-- Values in the order of the fields are laid on in turn. -/
theorem Json.meaning_named {σ : Type} {rules : List (Rule σ)} (independent : Independent rules)
    {items : List Value} (h : items.length ≤ rules.length) (record : σ) :
    Rule.meaning rules record (.record (named rules items)) = readInTurn rules record items := by
  rw [readInTurn_eq independent, ← (Rearranged.list h).meaning_eq record]

namespace StoreSettings

/-- The values of all fields in their order. -/
def values (settings : StoreSettings) : List Value := [
  .ofOption .ofText settings.endpoint,
  .ofOption .ofText settings.region,
  .ofOption .ofText settings.accessKeyId,
  .ofOption .ofText settings.secretAccessKey,
  .ofOption .bool settings.allowHttp]

theorem spells_write (settings : StoreSettings) :
    Spells (.record (named rules settings.values)) settings.write := by
  have text := spells_writeOptional spells_writeText
  exact spells_writeRecord <| .cons ⟨rfl, text _⟩ <| .cons ⟨rfl, text _⟩ <| .cons ⟨rfl, text _⟩ <|
    .cons ⟨rfl, text _⟩ <| .cons ⟨rfl, spells_writeOptional spells_writeBool _⟩ .nil

theorem ofValue?_values (settings : StoreSettings) :
    ofValue? (.record (named rules settings.values)) = some settings := by
  rw [ofValue?_eq, meaning_named independent (by rfl)]
  simp [readInTurn, rules, values, Rule.of, textOrNull_ofOption, boolOrNull_ofOption]

end StoreSettings

namespace Settings

/-- The values of all fields in their order, where the staging path is text. -/
def values (settings : Settings) (stagingPath : String) : List Value := [
  .ofText stagingPath,
  .ofOption (fun codec => .ofText codec.name) settings.compression,
  .record (named StoreSettings.rules settings.store.values)]

variable {settings : Settings} {stagingPath : String}

/-- Settings can be written if the staging path is text. -/
theorem write_eq (h : settings.stagingPath.text? = some stagingPath) :
    ∃ text, settings.write = .ok text ∧
      SpellsDocument (.record (named rules (settings.values stagingPath))) text.toList := by
  have printed : Prints [
      ("staging_path", writeText stagingPath),
      ("compression",
        writeOptional (fun codec : Codec => writeText codec.name) settings.compression),
      ("s3", settings.store.write)] (named rules (settings.values stagingPath)) :=
    .cons ⟨rfl, spells_writeText stagingPath⟩ <|
      .cons ⟨rfl, spells_writeOptional (fun codec : Codec => spells_writeText codec.name) _⟩ <|
        .cons ⟨rfl, settings.store.spells_write⟩ .nil
  have document := SpellsDocument.value .nil .nil (spells_writeRecord printed)
  rw [write, h]
  exact ⟨_, rfl, by simpa using document⟩

/-- A text gives back the path whose bytes decode to it. -/
theorem ofString_of_text? {path : Path} {text : String} (h : path.text? = some text) :
    Path.ofString text = path := by
  obtain ⟨chars, decoded, rfl⟩ := Option.map_eq_some_iff.mp h
  rw [Path.ofString, String.toList_ofList, Utf8.encode_of_decode? decoded]

theorem text?_ofString (text : String) : (Path.ofString text).text? = some text := by
  simp [Path.text?, Path.ofString]

theorem meaning_values (h : settings.stagingPath.text? = some stagingPath) (defaults : Settings) :
    Rule.meaning rules defaults (.record (named rules (settings.values stagingPath)))
      = some settings := by
  rw [meaning_named independent (by rfl)]
  simp [readInTurn, rules, values, Rule.of, text?_ofText, codecOrNull_ofOption,
    StoreSettings.ofValue?_values, ofString_of_text? h]

end Settings

/-- A text that is written to a file stands there afterwards, if the file may be read. -/
theorem World.holds_of_writeFile {world after : World} {path : Path} {text : String}
    (formed : world.files.WellFormed)
    (written : world.reply (.writeFile path (.raw (Utf8.encode text.toList))) = (.ok (), after))
    (readable : after.files.refusesReading after.user path = false) : after.Holds path text := by
  rcases world.reply_writeFile_cases path (.raw (Utf8.encode text.toList)) with
    ⟨error, failed⟩ | ⟨inode, created, creation, replied⟩
  · rw [failed] at written
    cases written
  · rw [replied] at written
    obtain rfl := (Prod.mk.inj written).2
    obtain ⟨mode, opened⟩ := Tree.openFile_of_createFile formed creation
    have file := (Tree.openFile_eq_file.mp opened).2
    have growth := Tree.grows_of_createFile creation
    have stored := Tree.openFile_grown (growth.wellFormed formed)
      (.setContent created inode (.raw (Utf8.encode text.toList))) opened
      (Tree.file?_setContent file)
    refine ⟨inode, mode, ?_⟩
    change permitted (Tree.refusesReading _ _ path) _ = _
    rw [readable, permitted_false]
    exact stored

/-- Settings whose staging path is text can be written, and what is written is loaded as the same
settings, whatever the defaults are and the environment says. -/
theorem Settings.load_write {settings : Settings} (valid : settings.stagingPath.text?.isSome) :
    ∃ text, settings.write = .ok text ∧ (∀ defaults, parse defaults text = .ok settings) ∧
      ∀ {world after : World} {path : Path} (environment : Environment),
        world.files.WellFormed →
        world.reply (.writeFile path (.raw (Utf8.encode text.toList))) = (.ok (), after) →
        after.files.refusesReading after.user path = false →
        (Operation.run (load environment path) after).1 = .ok settings := by
  obtain ⟨stagingPath, h⟩ := Option.isSome_iff_exists.mp valid
  obtain ⟨text, written, spelled⟩ := write_eq h
  have parsed (defaults : Settings) : (parse defaults text).toOption = some settings := by
    rw [parse_of_spells _ spelled, meaning_values h]
  refine ⟨text, written, fun defaults => toOption_eq_some_iff.mp (parsed defaults), ?_⟩
  intro world after path environment formed stored readable
  have holds := World.holds_of_writeFile formed stored readable
  rw [← toOption_eq_some_iff, run_load _ holds, parsed]

/-- A staging path with a quote, a backslash, a line end and a character beyond the basic plane, an
empty endpoint and a region with the zero character come back from a new file. -/
theorem Settings.load_write_control_characters :
    let settings : Settings :=
      ⟨.ofString "a\"b\\\n𝄞", some .lz4Raw, ⟨some "", some "\x00", none, none, some false⟩⟩
    let world : World := ⟨Tree.fresh, .superuser, Store.empty, []⟩
    settings.stagingPath.text?.isSome ∧
      ∃ text after, settings.write = .ok text ∧
        world.reply (.writeFile (.ofString "c") (.raw (Utf8.encode text.toList)))
          = (.ok (), after) ∧
        (Operation.run (load .empty (.ofString "c")) after).1 = .ok settings := by
  intro settings world
  have valid : settings.stagingPath.text?.isSome := by
    rw [text?_ofString]
    rfl
  obtain ⟨text, written, -, loads⟩ := load_write valid
  refine ⟨valid, text, _, written, rfl, ?_⟩
  exact @loads world _ _ .empty Tree.wellFormed_fresh rfl (Tree.refusesReading_superuser _ _)

end RowDrop
