import RowDrop.Program

/-!
# Moving objects and files

A whole object is downloaded into a local file, and a local file is uploaded in place of an object.
The key is checked first, then the client is set up, and only then anything is read or written.
-/

namespace RowDrop

/-- Where objects are kept. -/
inductive Remote where
  /-- One store for all buckets, asked directly. -/
  | shared
  /-- A server, reached as the settings and the environment say. -/
  | server (settings : StoreSettings) (environment : Environment)
  deriving DecidableEq, Repr

namespace Remote

/-- The name of the object that a key stands for. -/
def objectName (bucket key : String) : Except Error String :=
  if key = "" then .error (.settings (.noKey bucket))
  else
    match ObjectKey.name key with
    | .ok name => .ok name
    | .error error => .error (.settings (.refusedKey bucket key error))

/-- The client for a bucket of a server. -/
def client (settings : StoreSettings) (environment : Environment) (bucket : String) :
    Except Error Client :=
  match Client.build ((ClientChoices.ofEnvironment environment).withSettings settings) bucket with
  | .ok client => .ok client
  | .error error => .error (.store error)

/-- The object to ask for, once its client is set up. The address is made at the very end. -/
inductive Prepared where
  | direct (name : String)
  | remote (client : Client) (bucket name : String)

/-- Checks the key and sets up the client. -/
def prepare (remote : Remote) (bucket key : String) : Except Error Prepared := do
  let name ← objectName bucket key
  match remote with
  | shared => return .direct name
  | server settings environment =>
    return .remote (← client settings environment bucket) bucket name

/-- The object to ask for. -/
def Prepared.target : Prepared → Except Error Target
  | direct name => .ok (.direct name)
  | remote client bucket name =>
    match Url.parse? (client.address bucket name) with
    | none => .error .invalidEndpoint
    | some url =>
      if !client.canSign then .error .unfitSignature
      else if client.allows url ∧ !url.hostIsPlain then .error .invalidEndpoint
      else .ok (.remote client name url)

/-- What a failed download means. -/
def ofGet (bucket key : String) (error : StoreError) : Error :=
  if error.isMissing then .notFound (Location.objectText bucket key) else .store error

/-- Downloads an object into a file and gives its contents. -/
def download (remote : Remote) (bucket key : String) (path : Path) : Operation Content := do
  let prepared ← Operation.orFail id (remote.prepare bucket key)
  let target ← Operation.orFail id prepared.target
  let content ← Operation.orFail (ofGet bucket key) (← Operation.ask (.getObject target))
  Operation.orFail .io (← Operation.ask (.writeFile path content))
  Operation.note (.downloaded (Location.objectText bucket key) path)
  return content

/-- The contents of an opened file. -/
def contents : Opened → Except IoError Content
  | .file _ content _ => .ok content
  | .directory => .error (.os .isDirectory)

/-- Uploads a file in place of an object and gives its contents. -/
def upload (remote : Remote) (bucket key : String) (path : Path) : Operation Content := do
  let prepared ← Operation.orFail id (remote.prepare bucket key)
  let opened ← Operation.orFail .io (← Operation.ask (.openFile path))
  let content ← Operation.orFail .io (contents opened)
  let target ← Operation.orFail id prepared.target
  Operation.orFail .store (← Operation.ask (.putObject target content))
  Operation.note (.uploaded path (Location.objectText bucket key))
  return content

end Remote
end RowDrop
