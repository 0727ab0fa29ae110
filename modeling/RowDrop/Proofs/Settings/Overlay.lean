import RowDrop.Proofs.Json.Printing
import RowDrop.Proofs.Json.Records
import RowDrop.Proofs.Text.Utf8
import RowDrop.Settings.Load

/-!
# A file of settings is an overlay on the standard ones

A file that holds the text of a JSON record is loaded exactly if no known field stands twice and
every known field has an admitted value, and then each field that stands there has its value and
each other one its default (`Settings.load_overlays`). So the order of the members and members with
other names have no influence, and a list of values stands for the record with the first names.
-/

namespace RowDrop

open Json

/-- What the first value under a name means, if the name stands there and its value means
something. -/
def Json.Members.found {α : Type} (members : Members) (name : String)
    (meaning : Value → Option α) : Option α :=
  (members.values name).head?.bind meaning

/-- A null or a text. -/
def textOrNull : Value → Option (Option String) := Value.orNull Value.text?

namespace StoreSettings

/-- What the fields of the object store's settings make of their values. -/
def rules : List (Rule StoreSettings) := [
  .of "endpoint" textOrNull fun settings value => { settings with endpoint := value },
  .of "region" textOrNull fun settings value => { settings with region := value },
  .of "access_key_id" textOrNull fun settings value => { settings with accessKeyId := value },
  .of "secret_access_key" textOrNull fun settings value =>
    { settings with secretAccessKey := value },
  .of "allow_http" (Value.orNull Value.bool?) fun settings value =>
    { settings with allowHttp := value }]

theorem fields_follow : List.Forall₂ Field.Follows fields rules := by
  refine .cons ?_ (.cons ?_ (.cons ?_ (.cons ?_ (.cons ?_ .nil))))
  · exact Field.follows_of (Reads.optional (reads_text _))
  · exact Field.follows_of (Reads.optional (reads_text _))
  · exact Field.follows_of (Reads.optional (reads_text _))
  · exact Field.follows_of (Reads.optional (reads_text _))
  · exact Field.follows_of (Reads.optional reads_bool)

theorem independent : Independent rules := by
  simp only [Independent, rules, List.pairwise_cons, List.forall_mem_cons, List.not_mem_nil,
    false_imp_iff, implies_true, and_true, List.Pairwise.nil]
  refine ⟨⟨?_, ?_, ?_, ?_⟩, ⟨?_, ?_, ?_⟩, ⟨?_, ?_⟩, ?_⟩
  all_goals exact Rule.apart_of (by decide) fun _ _ _ => rfl

/-- The settings that members give where they are not refused: the value of each field that stands
there, and nothing for each other one. -/
def ofMembers (members : Members) : StoreSettings where
  endpoint := (members.found "endpoint" textOrNull).getD none
  region := (members.found "region" textOrNull).getD none
  accessKeyId := (members.found "access_key_id" textOrNull).getD none
  secretAccessKey := (members.found "secret_access_key" textOrNull).getD none
  allowHttp := (members.found "allow_http" (Value.orNull Value.bool?)).getD none

theorem overlay_eq_ofMembers (members : Members) :
    overlay rules members unset = ofMembers members := by
  simp only [overlay, rules, List.foldl, Rule.change_of, Rule.name_of, ofMembers, Members.found]
  generalize (members.values "endpoint").head?.bind textOrNull = endpoint
  generalize (members.values "region").head?.bind textOrNull = region
  generalize (members.values "access_key_id").head?.bind textOrNull = accessKeyId
  generalize (members.values "secret_access_key").head?.bind textOrNull = secretAccessKey
  generalize (members.values "allow_http").head?.bind (Value.orNull Value.bool?) = allowHttp
  cases endpoint <;> cases region <;> cases accessKeyId <;> cases secretAccessKey <;>
    cases allowHttp <;> rfl

/-- The settings of the object store that members give, unless a known name stands twice or has a
value that is not admitted. -/
def ofRecord? (members : Members) : Option StoreSettings :=
  if Once rules members ∧ Admitted rules members then some (ofMembers members) else none

/-- The settings of the object store that a value gives: a record, or a list of the values of the
first fields. -/
def ofValue? : Value → Option StoreSettings
  | .record members => ofRecord? members
  | .list items => if items.length ≤ rules.length then ofRecord? (named rules items) else none
  | _ => none

theorem ofValue?_eq (value : Value) : ofValue? value = Rule.meaning rules unset value := by
  cases value with
  | record members => rw [ofValue?, ofRecord?, Rule.meaning, overlay?, overlay_eq_ofMembers]
  | list items => rw [ofValue?, ofRecord?, Rule.meaning, overlay?, overlay_eq_ofMembers]
  | null | bool | number | text => rfl

theorem reads_read : Reads read ofValue? := by
  rw [funext ofValue?_eq]
  exact reads_record _ fields_follow independent unset

end StoreSettings

namespace Settings

/-- A codec by its name, or null. -/
def codecOrNull : Value → Option (Option Codec) := Value.orNull (Value.variant? Codec.ofName?)

/-- What the fields of the settings make of their values. -/
def rules : List (Rule Settings) := [
  .of "staging_path" Value.text? fun settings value =>
    { settings with stagingPath := Path.ofString value },
  .of "compression" codecOrNull fun settings value => { settings with compression := value },
  .of "s3" StoreSettings.ofValue? fun settings value => { settings with store := value }]

theorem fields_follow : List.Forall₂ Field.Follows fields rules := by
  refine .cons ?_ (.cons ?_ (.cons ?_ .nil))
  · exact Field.follows_of (reads_text _)
  · exact Field.follows_of (Reads.optional (reads_variant _ _))
  · exact Field.follows_of StoreSettings.reads_read

theorem independent : Independent rules := by
  simp only [Independent, rules, List.pairwise_cons, List.forall_mem_cons, List.not_mem_nil,
    false_imp_iff, implies_true, and_true, List.Pairwise.nil]
  refine ⟨⟨?_, ?_⟩, ?_⟩
  all_goals exact Rule.apart_of (by decide) fun _ _ _ => rfl

/-- The settings that members give where they are not refused: the value of each field that stands
there, and the default for each other one. -/
def ofMembers (defaults : Settings) (members : Members) : Settings where
  stagingPath :=
    ((members.found "staging_path" Value.text?).map Path.ofString).getD defaults.stagingPath
  compression := (members.found "compression" codecOrNull).getD defaults.compression
  store := (members.found "s3" StoreSettings.ofValue?).getD defaults.store

theorem overlay_eq_ofMembers (defaults : Settings) (members : Members) :
    overlay rules members defaults = ofMembers defaults members := by
  simp only [overlay, rules, List.foldl, Rule.change_of, Rule.name_of, ofMembers, Members.found]
  generalize (members.values "staging_path").head?.bind Value.text? = stagingPath
  generalize (members.values "compression").head?.bind codecOrNull = compression
  generalize (members.values "s3").head?.bind StoreSettings.ofValue? = store
  cases stagingPath <;> cases compression <;> cases store <;> rfl

/-- The text of a value gives what the rules make of the value. -/
theorem parse_of_spells (defaults : Settings) {value : Value} {text : String}
    (h : SpellsDocument value text.toList) :
    (parse defaults text).toOption = Rule.meaning rules defaults value :=
  readDocument_of_spells (reads_record _ fields_follow independent defaults) h

end Settings

/-- Opening the path gives a file with the text. -/
def World.Holds (world : World) (path : Path) (text : String) : Prop :=
  ∃ inode mode,
    (world.reply (.openFile path)).1 = .ok (.file inode (.raw (Utf8.encode text.toList)) mode)

/-- How loading ends follows from the text of the file. -/
theorem Settings.load_eq (environment : Environment) {world : World} {path : Path} {text : String}
    (holds : world.Holds path text) : (Operation.run (load environment path) world).1
      = (parse (standard environment) text).mapError Error.json := by
  obtain ⟨inode, mode, hopen⟩ := holds
  rw [load, Operation.run_bind_ok (Operation.run_ask _ _), hopen,
    Operation.run_bind_ok (Operation.run_orFail_ok _ _ _)]
  have htext : (Opened.file inode (.raw (Utf8.encode text.toList)) mode).text = .ok text := by
    simp [Opened.text]
  rw [htext, Operation.run_bind_ok (Operation.run_orFail_ok _ _ _)]
  cases parse (standard environment) text with
  | ok settings => rfl
  | error failure => rfl

/-- Loading succeeds as reading the text of the file does. -/
theorem Settings.run_load (environment : Environment) {world : World} {path : Path} {text : String}
    (holds : world.Holds path text) :
    (Operation.run (load environment path) world).1.toOption
      = (parse (standard environment) text).toOption := by
  rw [load_eq environment holds]
  cases parse (standard environment) text with
  | ok settings => rfl
  | error failure => rfl

/-- The members in another order and with other unknown members among them, or the list of the
values of the first names. -/
inductive Json.Rearranged {σ : Type} (rules : List (Rule σ)) : Value → Value → Prop
  | members {members members' : Members}
      (h : (members.known (rules.map Rule.name)).Perm (members'.known (rules.map Rule.name))) :
      Rearranged rules (.record members) (.record members')
  | list {items : List Value} (h : items.length ≤ rules.length) :
      Rearranged rules (.list items) (.record (named rules items))

theorem Json.Rearranged.meaning_eq {σ : Type} {rules : List (Rule σ)} {value value' : Value}
    (h : Rearranged rules value value') (record : σ) :
    Rule.meaning rules record value = Rule.meaning rules record value' := by
  cases h with
  | members h => exact overlay?_of_known_perm record h
  | list h => simp only [Rule.meaning, if_pos h]

namespace Settings

/-- Values that give the same settings: rearranged ones, and records that differ in the order or
form of the settings of the object store. -/
inductive Rearranged : Value → Value → Prop
  | fields {value value' : Value} (h : Json.Rearranged rules value value') :
      Rearranged value value'
  | store {before behind : Members} {value value' : Value}
      (h : Json.Rearranged StoreSettings.rules value value') :
      Rearranged (.record (before ++ ("s3".toList, value) :: behind))
        (.record (before ++ ("s3".toList, value') :: behind))
  | symm {value value' : Value} (h : Rearranged value value') : Rearranged value' value
  | trans {value value' value'' : Value} (first : Rearranged value value')
      (second : Rearranged value' value'') : Rearranged value value''

theorem Rearranged.meaning_eq {value value' : Value} (h : Rearranged value value')
    (record : Settings) : Rule.meaning rules record value = Rule.meaning rules record value' := by
  induction h with
  | fields h => exact h.meaning_eq record
  | @store before behind value value' h =>
    apply overlay?_congr
    intro rule hr
    simp only [Members.values_append, List.map_append]
    apply List.Perm.append_left
    by_cases hname : rule.name = "s3"
    · have hrule : rule = .of "s3" StoreSettings.ofValue? fun settings value =>
          { settings with store := value } :=
        independent.eq_of_name hr (by simp [rules]) hname
      have hlay : rule.lay value = rule.lay value' := by
        simp only [hrule, Rule.of, StoreSettings.ofValue?_eq, h.meaning_eq]
      rw [Members.values_cons_self (by rw [hname]), Members.values_cons_self (by rw [hname])]
      simp [hlay]
    · have hne : "s3".toList ≠ rule.name.toList := fun h => hname (String.toList_inj.mp h).symm
      rw [Members.values_cons_of_ne hne, Members.values_cons_of_ne hne]
  | symm _ ih => exact ih.symm
  | trans _ _ first second => exact first.trans second

/-- A file with a record is loaded exactly if no known field stands twice and each has an admitted
value; the settings are then those of the members on top of the standard ones. A file that differs
in the order of members, in unknown ones or in lists for records ends in the same way. -/
theorem load_overlays (environment : Environment) {world world' : World} {path path' : Path}
    {text text' : String} {members : Members} {value : Value} (holds : world.Holds path text)
    (spells : SpellsDocument (.record members) text.toList) (holds' : world'.Holds path' text')
    (spells' : SpellsDocument value text'.toList) :
    ((∃ settings, (Operation.run (load environment path) world).1 = .ok settings) ↔
        Once rules members ∧ Admitted rules members) ∧
      (∀ settings, (Operation.run (load environment path) world).1 = .ok settings →
        settings = ofMembers (standard environment) members) ∧
      (Rearranged (.record members) value →
        (Operation.run (load environment path') world').1.toOption
          = (Operation.run (load environment path) world).1.toOption) := by
  have hload := run_load environment holds
  have hload' := run_load environment holds'
  rw [parse_of_spells _ spells] at hload
  rw [parse_of_spells _ spells'] at hload'
  have hok (settings : Settings) :
      (Operation.run (load environment path) world).1 = .ok settings ↔
        (Once rules members ∧ Admitted rules members)
          ∧ settings = ofMembers (standard environment) members := by
    rw [← toOption_eq_some_iff, hload, Rule.meaning, overlay?, overlay_eq_ofMembers]
    split_ifs with h
    · simp [h, eq_comm]
    · simp [h]
  refine ⟨?_, ?_, ?_⟩
  · constructor
    · rintro ⟨settings, h⟩
      exact ((hok settings).mp h).1
    · intro h
      exact ⟨_, (hok _).mpr ⟨h, rfl⟩⟩
  · intro settings h
    exact ((hok settings).mp h).2
  · intro h
    rw [hload, hload', h.meaning_eq]

/-- An unknown member, an escaped letter and a list in place of a record: both files give the same
endpoint. -/
theorem load_overlays_escaped_endpoint :
    let text := "\x7b\"x\":1,\"s3\":\x7b\"endpoint\":\"\\u0061\"\x7d\x7d"
    let text' := " \x7b\"s3\":[\"a\"]\x7d"
    let path : Path := .ofString "c"
    let holding (text : String) : World := (World.reply ⟨Tree.fresh, .superuser, Store.empty, []⟩
      (.writeFile path (.raw (Utf8.encode text.toList)))).2
    ∃ settings, (Operation.run (load .empty path) (holding text)).1 = .ok settings ∧
      (Operation.run (load .empty path) (holding text')).1 = .ok settings ∧
      settings.store.endpoint = some "a" := by
  intro text text' path holding
  have holds (text : String) : (holding text).Holds path text := ⟨3, Tree.newFileMode, rfl⟩
  let store : Value := .record [("endpoint".toList, .ofText "a")]
  let members : Members := [("x".toList, .number ['1']), ("s3".toList, store)]
  let members' : Members := [("s3".toList, .list [.ofText "a"])]
  have digits : SpellsUnit 'a'.toNat ['0', '0', '6', '1'] :=
    SpellsUnit.digits (a := 0) (b := 0) (c := 6) (d := 1) (.inl rfl) (.inl rfl) (.inl rfl)
      (.inl rfl)
  have escaped : Spells (.ofText "a") "\"\\u0061\"".toList :=
    .text (.quoted (.cons (.unit digits) .nil))
  have one : Spells (.number ['1']) ['1'] :=
    .number (@SpellsNumber.parts [] ['1'] _ _ (by decide)
      (.digits ⟨by decide, by simp⟩ (by decide)) .none .none)
  have record : Spells store (writeRecord [("endpoint", "\"\\u0061\"".toList)]) :=
    spells_writeRecord (.cons ⟨rfl, escaped⟩ .nil)
  have whole : Spells (.record members) (writeRecord [("x", ['1']), ("s3", writeRecord _)]) :=
    spells_writeRecord (.cons ⟨rfl, one⟩ (.cons ⟨rfl, record⟩ .nil))
  have printed : text.toList = [] ++ (writeRecord [("x", ['1']), ("s3", writeRecord [("endpoint",
      "\"\\u0061\"".toList)])] ++ []) := by decide
  have spells : SpellsDocument (.record members) text.toList := by
    rw [printed]
    exact .value .nil .nil whole
  have items : Spells (.list [.ofText "a"]) "[\"a\"]".toList :=
    .list .nil (spells_writeText "a") (.last .nil)
  have whole' : Spells (.record members') (writeRecord [("s3", "[\"a\"]".toList)]) :=
    spells_writeRecord (.cons ⟨rfl, items⟩ .nil)
  have blank : Blanks [' '] := by simp [Blanks]
  have printed' : text'.toList = [' '] ++ (writeRecord [("s3", "[\"a\"]".toList)] ++ []) := by
    decide
  have spells' : SpellsDocument (.record members') text'.toList := by
    rw [printed']
    exact .value blank .nil whole'
  have rearranged : Rearranged (.record members) (.record members') := by
    have listed : Json.Rearranged StoreSettings.rules (.list [.ofText "a"]) store :=
      .list (by decide)
    refine .trans (.symm (@Rearranged.store [("x".toList, .number ['1'])] [] _ _ listed)) ?_
    exact .fields (.members (.refl _))
  obtain ⟨loads, overlaid, same⟩ :=
    load_overlays .empty (holds text) spells (holds text') spells'
  obtain ⟨settings, loaded⟩ := loads.mpr ⟨by decide, by decide⟩
  refine ⟨settings, loaded, ?_, ?_⟩
  · have also := same rearranged
    rw [loaded] at also
    exact toOption_eq_some_iff.mp also
  · rw [overlaid settings loaded]
    rfl

end Settings

end RowDrop
