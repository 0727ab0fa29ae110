import Mathlib.Data.List.Basic
import RowDrop.Files.Edit
import RowDrop.Proofs.Addresses
import RowDrop.Proofs.Asking
import RowDrop.Proofs.Objects
import RowDrop.Proofs.Runs

/-!
# The object of a key

A key that is refused ends an operation before it asks for any object. With a key that is accepted,
all gets and puts are of one object, whose name is the key without a slash at either end: that is
the key itself exactly if it neither begins nor ends with a slash (`ObjectKey.name_eq_key_iff`).
All other objects stay as they are (`Setup.object?_perform`).
-/

namespace RowDrop

namespace ObjectKey

/-- A key that neither begins nor ends with a slash. -/
def Bare (key : String) : Prop := key.toList.head? ≠ some '/' ∧ key.toList.getLast? ≠ some '/'

instance (key : String) : Decidable (Bare key) :=
  inferInstanceAs (Decidable (_ ∧ _))

variable {key object : String} {text : List Char}

theorem dropLeading_of_ne (h : text.head? ≠ some '/') : dropLeading text = text := by
  unfold dropLeading
  split
  · exact absurd rfl h
  · rfl

theorem length_dropLeading_lt (h : text.head? = some '/') :
    (dropLeading text).length < text.length := by
  cases text with
  | nil => cases h
  | cons first rest =>
    obtain rfl := Option.some.inj h
    exact Nat.lt_succ_self _

theorem length_dropTrailing_le (text : List Char) : (dropTrailing text).length ≤ text.length := by
  unfold dropTrailing
  split
  · rw [List.length_dropLast]
    exact Nat.sub_le _ _
  · exact Nat.le_refl _

/-- Taking off the slashes keeps a key exactly if there are none. -/
theorem dropTrailing_dropLeading_eq_iff :
    dropTrailing (dropLeading text) = text ↔
      text.head? ≠ some '/' ∧ text.getLast? ≠ some '/' := by
  constructor
  · intro same
    have noLeading : text.head? ≠ some '/' := by
      intro leading
      have shorter := length_dropLeading_lt leading
      have := length_dropTrailing_le (dropLeading text)
      rw [same] at this
      omega
    refine ⟨noLeading, ?_⟩
    intro trailing
    rw [dropLeading_of_ne noLeading, dropTrailing, if_pos trailing] at same
    have := congrArg List.length same
    rw [List.length_dropLast] at this
    have full : text ≠ [] := by
      rintro rfl
      cases trailing
    have := List.length_pos_iff.mpr full
    omega
  · rintro ⟨noLeading, noTrailing⟩
    rw [dropLeading_of_ne noLeading, dropTrailing, if_neg noTrailing]

theorem toList_of_name (h : name key = .ok object) :
    object.toList = dropTrailing (dropLeading key.toList) := by
  unfold name at h
  dsimp only at h
  split at h
  case isTrue empty =>
    obtain rfl := Except.ok.inj h
    rw [empty]
    rfl
  case isFalse =>
    split at h
    case h_1 => cases h
    case h_2 =>
      obtain rfl := Except.ok.inj h
      exact String.toList_ofList

/-- No segment of an object's name stands for a directory. -/
theorem noDots_of_name (h : name key = .ok object) :
    ∀ segment ∈ Text.split '/' object.toList, segment ≠ ['.'] ∧ segment ≠ ['.', '.'] := by
  unfold name at h
  dsimp only at h
  split at h
  case isTrue empty =>
    obtain rfl := Except.ok.inj h
    intro segment mem
    obtain rfl := List.mem_singleton.mp mem
    exact ⟨by simp, by simp⟩
  case isFalse =>
    split at h
    case h_1 => cases h
    case h_2 none =>
      obtain rfl := Except.ok.inj h
      rw [String.toList_ofList]
      intro segment mem
      have accepted := List.findSome?_eq_none_iff.mp none segment mem
      constructor
      · rintro rfl
        cases accepted
      · rintro rfl
        cases accepted

/-- An accepted key is the name of its object exactly if it has a slash at neither end. -/
theorem name_eq_key_iff (h : name key = .ok object) : object = key ↔ Bare key := by
  rw [← String.toList_inj, toList_of_name h]
  exact dropTrailing_dropLeading_eq_iff

end ObjectKey

/-! ## Gets and puts -/

/-- A step that gets or puts an object gets or puts one with a property. -/
def Call.OnObject (property : Target → Prop) : Call → Prop
  | .getObject target | .putObject target _ => property target
  | _ => True

/-- Changes of files leave the store. -/
theorem World.store_change {α : Type} (world : World) (result : Except IoError (α × Tree)) :
    (world.change result).2.store = world.store := by
  cases result with
  | ok => rfl
  | error => rfl

/-- A step leaves the objects that it neither gets nor puts. -/
theorem World.object?_reply {object : String} {call : Call} (world : World)
    (elsewhere : call.OnObject fun target => object ≠ target.storedName) :
    (world.reply call).2.store.object? object = world.store.object? object := by
  cases call with
  | openFile | writeOpened | isFile | note => rfl
  | copyFile | createFile | writeFile | renameFile =>
    exact congrArg (·.object? object) (world.store_change _)
  | getObject target => exact world.store.object?_get target object
  | putObject target content => exact world.store.object?_put_of_ne content elsewhere

/-- The target is the object of a name in a bucket. A shared store keeps it under this name. A
server is asked for the bucket and the name behind the path of its endpoint, where endpoint and
bucket are read as they are written. -/
def Remote.Names (remote : Remote) (bucket object : String) (target : Target) : Prop :=
  target.name = object ∧ (remote = .shared → target = .direct object) ∧
    ∀ client url scheme host path, target = .remote client object url →
      client.EndpointParts scheme host path → Url.Plain bucket.toList →
      url.requestPath = path ++ "/" ++ bucket ++ "/"
        ++ String.ofList (Percent.encode Url.keepsInKey object.toList)

variable {setup : Setup} {remote : Remote} {bucket key object location : String} {path : Path}
variable {property : Target → Prop} {error : Error}

/-- Objects that an operation neither gets nor puts are as they were after every run. -/
theorem Operation.Within.object?_run {operation : Operation Unit}
    (h : operation.Within (Call.OnObject property))
    (elsewhere : ∀ target, property target → object ≠ target.storedName) (world : World) :
    (Operation.run operation world).2.store.object? object = world.store.object? object := by
  refine h.run (·.store.object? object) (fun world call asked => world.object?_reply ?_) world
  cases call with
  | getObject target | putObject target content => exact elsewhere target asked
  | _ => trivial

namespace Remote

theorem objectName_eq_ok (h : objectName bucket key = .ok object) :
    ObjectKey.name key = .ok object := by
  unfold objectName at h
  split at h
  case isTrue => cases h
  case isFalse =>
    split at h
    case h_1 name named =>
      obtain rfl := Except.ok.inj h
      exact named
    case h_2 => cases h

/-- A key is refused as a setting that cannot be used. -/
theorem objectName_eq_error (h : objectName bucket key = .error error) :
    ∃ reason, error = .settings reason := by
  unfold objectName at h
  split at h
  case isTrue =>
    obtain rfl := Except.error.inj h
    exact ⟨_, rfl⟩
  case isFalse =>
    split at h
    case h_1 => cases h
    case h_2 =>
      obtain rfl := Except.error.inj h
      exact ⟨_, rfl⟩

theorem prepare_of_refused (h : objectName bucket key = .error error) :
    remote.prepare bucket key = .error error := by
  unfold prepare
  rw [h]
  rfl

theorem name_of_address {client : Client} {target : Target}
    (h : (Prepared.remote client bucket object).target = .ok target) :
    ∃ url, Url.parse? (client.address bucket object) = some url ∧
      target = .remote client object url := by
  simp only [Prepared.target] at h
  cases parsed : Url.parse? (client.address bucket object) with
  | none =>
    simp only [parsed] at h
    cases h
  | some url =>
    simp only [parsed] at h
    split_ifs at h
    exact ⟨url, rfl, (Except.ok.inj h).symm⟩

/-- Whatever the client and its address are, the target is the object of the key. -/
theorem names_of_target {prepared : Prepared} {target : Target}
    (named : objectName bucket key = .ok object)
    (prepare : remote.prepare bucket key = .ok prepared) (address : prepared.target = .ok target) :
    remote.Names bucket object target := by
  unfold Remote.prepare at prepare
  rw [named] at prepare
  cases remote with
  | shared =>
    obtain rfl := Except.ok.inj prepare
    obtain rfl := Except.ok.inj address
    refine ⟨rfl, fun _ => rfl, ?_⟩
    intro client url scheme host path same
    cases same
  | server settings environment =>
    cases built : client settings environment bucket with
    | error error =>
      simp only [built] at prepare
      cases prepare
    | ok client =>
      simp only [built] at prepare
      obtain rfl := Except.ok.inj prepare
      obtain ⟨url, parsed, rfl⟩ := name_of_address address
      refine ⟨rfl, ?_, ?_⟩
      · intro shared
        cases shared
      · intro client' url' scheme host path same parts plain
        obtain ⟨rfl, -, rfl⟩ := Target.remote.inj same
        have noDots := ObjectKey.noDots_of_name (objectName_eq_ok named)
        exact parts.requestPath plain noDots parsed

/-- What comes out of a key that neither begins nor ends with a slash is the object of this name. -/
theorem names_of_bare {prepared : Prepared} {target : Target} (bare : ObjectKey.Bare key)
    (prepare : remote.prepare bucket key = .ok prepared) (address : prepared.target = .ok target) :
    remote.Names bucket key target := by
  cases named : objectName bucket key with
  | error error =>
    rw [prepare_of_refused named] at prepare
    cases prepare
  | ok object =>
    have same := (ObjectKey.name_eq_key_iff (objectName_eq_ok named)).mpr bare
    rw [same] at named
    exact names_of_target named prepare address

/-- With a key that is refused, nothing is done at all. -/
theorem run_download_refused (h : objectName bucket key = .error error) (world : World) :
    Operation.run (remote.download bucket key path) world = (.error error, world) := by
  unfold download
  rw [prepare_of_refused h]
  rfl

theorem run_upload_refused (h : objectName bucket key = .error error) (world : World) :
    Operation.run (remote.upload bucket key path) world = (.error error, world) := by
  unfold upload
  rw [prepare_of_refused h]
  rfl

/-- The targets that can come out of a key have a property. -/
def Fits (remote : Remote) (bucket key : String) (property : Target → Prop) : Prop :=
  ∀ prepared target, remote.prepare bucket key = .ok prepared → prepared.target = .ok target →
    property target

theorem within_download (fits : remote.Fits bucket key property) :
    (remote.download bucket key path).Within (Call.OnObject property) := by
  unfold download
  refine .orFail_bind fun prepared prepare => .orFail_bind fun target address => ?_
  have asked : Call.OnObject property (.getObject target) := fits prepared target prepare address
  refine .bind (Operation.within_ask asked) fun _ => .orFail_bind fun content _ => ?_
  refine .bind (Operation.within_ask trivial) fun _ => .orFail_bind fun _ _ => ?_
  exact .bind (Operation.within_note trivial) fun _ => Operation.within_pure content

theorem within_upload (fits : remote.Fits bucket key property) :
    (remote.upload bucket key path).Within (Call.OnObject property) := by
  unfold upload
  refine .orFail_bind fun prepared prepare => ?_
  refine .bind (Operation.within_ask trivial) fun _ => .orFail_bind fun opened _ => ?_
  refine .orFail_bind fun content _ => .orFail_bind fun target address => ?_
  have asked : Call.OnObject property (.putObject target content) :=
    fits prepared target prepare address
  refine .bind (Operation.within_ask asked) fun _ => .orFail_bind fun _ _ => ?_
  exact .bind (Operation.within_note trivial) fun _ => Operation.within_pure content

theorem fits_of_named (named : objectName bucket key = .ok object) :
    remote.Fits bucket key (remote.Names bucket object) :=
  fun _ _ prepare address => names_of_target named prepare address

/-- Nothing comes out of a key that is refused. -/
theorem fits_of_refused (h : objectName bucket key = .error error) :
    remote.Fits bucket key property := by
  intro prepared target prepare
  rw [prepare_of_refused h] at prepare
  cases prepare

end Remote

/-! ## Changes of an object -/

theorem Backup.within_take : (Backup.take path).Within (Call.OnObject property) := by
  unfold take
  refine .bind (Operation.within_ask trivial) fun _ => ?_
  refine .bind (.discard (Operation.within_orFail _ _)) fun _ => ?_
  exact .bind (Operation.within_note trivial) fun _ => Operation.within_pure _

theorem Backup.within_restore : (Backup.restore path).Within (Call.OnObject property) := by
  unfold restore
  refine .bind (Operation.within_ask trivial) fun found => ?_
  split
  · refine .bind (Operation.within_ask trivial) fun _ => .orFail_bind fun _ _ => ?_
    exact Operation.within_note trivial
  · exact Operation.within_throw _

theorem Dataset.within_load : (Dataset.load path).Within (Call.OnObject property) := by
  unfold load
  refine .bind (Operation.within_ask trivial) fun _ => .orFail_bind fun opened _ => ?_
  refine .orFail_bind fun frame _ => ?_
  exact .bind (Operation.within_note trivial) fun _ => Operation.within_pure frame

theorem Dataset.within_save {frame : Frame} {codec : Codec} :
    (Dataset.save path frame codec).Within (Call.OnObject property) := by
  unfold save
  refine .bind (Operation.within_ask trivial) fun _ => .orFail_bind fun inode _ => ?_
  refine .bind (Operation.within_ask trivial) fun _ => ?_
  exact Operation.within_note trivial

namespace Setup

theorem within_dropFromFile : (setup.dropFromFile path).Within (Call.OnObject property) := by
  unfold dropFromFile
  refine .bind Dataset.within_load fun frame => .orFail_bind fun rest _ => ?_
  refine .bind (.discard Backup.within_take) fun _ => .bind Dataset.within_save fun _ => ?_
  exact Operation.within_note trivial

theorem within_perform (here : Location.parse location = .object bucket key)
    (fits : setup.remote.Fits bucket key property) (action : Action) :
    (setup.perform location action).Within (Call.OnObject property) := by
  cases action with
  | drop =>
    simp only [perform, drop, here, dropFromObject]
    refine .bind (.discard (Remote.within_download fits)) fun _ => ?_
    exact .bind within_dropFromFile fun _ => .discard (Remote.within_upload fits)
  | undo =>
    simp only [perform, undo, here, undoObject]
    refine .bind Backup.within_restore fun _ => ?_
    refine .bind (.discard (Remote.within_upload fits)) fun _ => ?_
    exact Operation.within_note trivial

/-- A change of an object leaves all objects to which its key cannot come. -/
theorem object?_perform (here : Location.parse location = .object bucket key)
    (elsewhere : setup.remote.Fits bucket key fun target => object ≠ target.storedName)
    (action : Action) (world : World) :
    (Operation.run (setup.perform location action) world).2.store.object? object =
      world.store.object? object :=
  (within_perform here elsewhere action).object?_run (fun _ other => other) world

end Setup

/-- A key that is refused is refused as a setting, before anything is read or written; no change of
its location asks for an object, and all objects stay as they are. With a key that is accepted,
every get and every put, whatever the replies are, is of one object: the one whose name is the key
if and only if the key neither begins nor ends with a slash. A change of its location leaves all
other objects as they are. Among such keys, different ones never stand for one object. -/
theorem Setup.asks_for_key_iff (setup : Setup) (bucket key : String) :
    (∀ error, Remote.objectName bucket key = .error error →
      (∃ reason, error = .settings reason) ∧
        (∀ path world,
          Operation.run (setup.remote.download bucket key path) world = (.error error, world) ∧
            Operation.run (setup.remote.upload bucket key path) world = (.error error, world)) ∧
        ∀ location action, Location.parse location = .object bucket key →
          (setup.perform location action).Within (Call.OnObject fun _ => False) ∧
            ∀ other world,
              (Operation.run (setup.perform location action) world).2.store.object? other =
                world.store.object? other) ∧
      (∀ object, Remote.objectName bucket key = .ok object →
        setup.remote.Fits bucket key (setup.remote.Names bucket object) ∧
          (∀ path,
            (setup.remote.download bucket key path).Within
                (Call.OnObject (setup.remote.Names bucket object)) ∧
              (setup.remote.upload bucket key path).Within
                (Call.OnObject (setup.remote.Names bucket object))) ∧
          (∀ location action, Location.parse location = .object bucket key →
            (setup.perform location action).Within
                (Call.OnObject (setup.remote.Names bucket object)) ∧
              ∀ other world,
                setup.remote.Fits bucket key (fun target => other ≠ target.storedName) →
                  (Operation.run (setup.perform location action) world).2.store.object? other =
                    world.store.object? other) ∧
          (object = key ↔ ObjectKey.Bare key)) ∧
      ∀ bucket' key' object, Remote.objectName bucket key = .ok object →
        Remote.objectName bucket' key' = .ok object → ObjectKey.Bare key → ObjectKey.Bare key' →
        key = key' := by
  refine ⟨?_, ?_, ?_⟩
  · intro error refused
    refine ⟨Remote.objectName_eq_error refused, ?_, ?_⟩
    · intro path world
      exact ⟨Remote.run_download_refused refused world, Remote.run_upload_refused refused world⟩
    · intro location action here
      refine ⟨within_perform here (Remote.fits_of_refused refused) action, ?_⟩
      intro other world
      exact object?_perform here (Remote.fits_of_refused refused) action world
  · intro object named
    have fits : setup.remote.Fits bucket key (setup.remote.Names bucket object) :=
      Remote.fits_of_named named
    refine ⟨fits, ?_, ?_, ?_⟩
    · intro path
      exact ⟨Remote.within_download fits, Remote.within_upload fits⟩
    · intro location action here
      refine ⟨within_perform here fits action, ?_⟩
      intro other world elsewhere
      exact object?_perform here elsewhere action world
    · exact ObjectKey.name_eq_key_iff (Remote.objectName_eq_ok named)
  · intro bucket' key' object named named' bare bare'
    have same := (ObjectKey.name_eq_key_iff (Remote.objectName_eq_ok named)).mpr bare
    have same' := (ObjectKey.name_eq_key_iff (Remote.objectName_eq_ok named')).mpr bare'
    exact same.symm.trans same'

/-- A slash in front of a key is left out: the object of another key is replaced, and the one of
the key itself is left alone. A server is asked for the other key, too. -/
theorem Setup.asks_for_key_iff_slash :
    let content : Content := .raw [1]
    let store := Store.empty.set "k" (.raw [0])
    let world : World := ⟨Tree.fresh.put (.ofString "f") content, .superuser, store, []⟩
    let setup : Setup := ⟨.standard .empty, .shared⟩
    let server : Remote := .server ⟨some "http://[::1]/x", none, none, none, none⟩ .empty
    Remote.objectName "b" "/k" = .ok "k" ∧ Remote.objectName "b" "k" = .ok "k" ∧
      (setup.remote.upload "b" "/k" (.ofString "f")).Within
        (Call.OnObject (setup.remote.Names "b" "k")) ∧
      "k" ≠ "/k" ∧
      (Operation.run (setup.remote.upload "b" "/k" (.ofString "f")) world).2.store.objects =
        [("k", content)] ∧
      (∀ action, (Operation.run (setup.perform "s3://b//k" action) world).2.store.object? "/k" =
        none) ∧
      ∃ client url, server.prepare "b" "/k" = .ok (.remote client "b" "k") ∧
        (Remote.Prepared.remote client "b" "k").target = .ok (.remote client "k" url) ∧
        url.requestPath = "/x/b/k" := by
  intro content store world setup server
  have named : Remote.objectName "b" "/k" = .ok "k" := rfl
  obtain ⟨-, accepted, -⟩ := asks_for_key_iff setup "b" "/k"
  obtain ⟨names, moved, changed, -⟩ := accepted "k" named
  refine ⟨named, rfl, (moved (.ofString "f")).2, by decide, rfl, ?_, ?_⟩
  · intro action
    have here : Location.parse "s3://b//k" = .object "b" "/k" := rfl
    refine (changed "s3://b//k" action here).2 "/k" world fun prepared target prepare address => ?_
    rw [(names prepared target prepare address).2.1 rfl]
    decide
  · let client : Client := ⟨"http://[::1]/x", "us-east-1", none, true⟩
    let url : Url := ⟨"http".toList, [], "[::1]".toList, "/x/b/k".toList, none, none⟩
    have built : server.prepare "b" "/k" = .ok (.remote client "b" "k") := by rfl
    have bucket : Url.Plain "b".toList := Url.plain_of_kept (by simp [Url.keepsInKey]) (by decide)
    have parts : client.EndpointParts "http" "[::1]" "/x" :=
      ⟨rfl, ⟨.inl rfl, by decide, by simp⟩, .inr rfl,
        Url.plain_of_kept (by simp [Url.keepsInKey]) (by decide)⟩
    have host : Url.readHost? (.ofScheme "http".toList) "[::1]".toList =
        some ([], "[::1]".toList, []) := by
      decide +kernel
    have read : Url.parse? (client.address "b" "k") = some url := by
      rw [parts.parse?_address bucket (by decide), host]
      rfl
    have address : (Remote.Prepared.remote client "b" "k").target =
        .ok (.remote client "k" url) := by
      have plain : url.hostIsPlain := by simp [Url.hostIsPlain, url]
      simp only [Remote.Prepared.target, read, plain]
      rfl
    obtain ⟨-, accepted, -⟩ := asks_for_key_iff ⟨.standard .empty, server⟩ "b" "/k"
    obtain ⟨names, -⟩ := accepted "k" named
    have asked := (names _ _ built address).2.2 client url "http" "[::1]" "/x" rfl parts bucket
    exact ⟨client, url, built, address, asked⟩

end RowDrop
