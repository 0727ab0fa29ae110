import RowDrop.Content
import RowDrop.Store.Client

/-!
# Object stores

A store maps names to contents. It is asked directly, with one name space for all buckets, or by
requests to a server that names objects by the path of their address. Either way a get or a put
may be told to fail with a status; then it leaves the objects as they are.
-/

namespace RowDrop

/-- What a request wants. -/
inductive Method where
  | get
  | put
  deriving DecidableEq, Repr

/-- A request as it arrives at a server. -/
structure Request where
  method : Method
  path : String
  credentials : Option Credentials
  /-- The region that the request is signed for. -/
  region : Option String
  deriving DecidableEq, Repr

/-- The object that is asked for. -/
inductive Target where
  /-- An object of a store that is asked directly. -/
  | direct (name : String)
  /-- An object of a server, asked for by a client. -/
  | remote (client : Client) (name : String) (url : Url)
  deriving DecidableEq, Repr

namespace Target

/-- The name by which failures call the object. -/
def name : Target → String
  | direct name => name
  | remote _ name _ => name

/-- The name under which the store keeps the object. -/
def storedName : Target → String
  | direct name => name
  | remote _ _ url => String.ofList (url.path.drop 1)

end Target

/-- The state of an object store. -/
structure Store where
  objects : List (String × Content)
  /-- The status with which every get fails. -/
  getFailure : Option Status
  /-- The status with which every put fails. -/
  putFailure : Option Status
  /-- Servers can be reached. -/
  reachable : Bool
  /-- The requests that have arrived, the last one first. -/
  requests : List Request

namespace Store

/-- A store without objects, whose servers can be reached. -/
def empty : Store := ⟨[], none, none, true, []⟩

/-- The contents of an object. -/
def object? (store : Store) (name : String) : Option Content := store.objects.lookup name

/-- Puts an object in the place of one of its name. -/
def set (store : Store) (name : String) (content : Content) : Store :=
  { store with
    objects := store.objects.filter (fun (other, _) => other ≠ name) ++ [(name, content)] }

/-- Takes an object out. -/
def erase (store : Store) (name : String) : Store :=
  { store with objects := store.objects.filter fun (other, _) => other ≠ name }

/-- Lets a request come in, unless its address is not allowed or cannot be reached. -/
def accept (store : Store) (method : Method) : Target → Except StoreError Store
  | .direct _ => .ok store
  | .remote client _ url =>
    if !client.allows url then .error (.schemeRefused url.text)
    else if !store.reachable then .error (.unreachable url.text)
    else
      let request : Request := {
        method
        path := url.requestPath
        credentials := client.credentials
        region := client.credentials.map fun _ => client.region }
      .ok { store with requests := request :: store.requests }

/-- The failure for an object that is not there. -/
def absence : Target → StoreError
  | .direct name => .absent name
  | .remote _ name _ => .answered name ⟨404, "NoSuchKey"⟩

/-- Gets an object. -/
def get (store : Store) (target : Target) : Except StoreError Content × Store :=
  match store.accept .get target with
  | .error error => (.error error, store)
  | .ok store =>
    match store.getFailure with
    | some status => (.error (.answered target.name status), store)
    | none =>
      match store.object? target.storedName with
      | some content => (.ok content, store)
      | none => (.error (absence target), store)

/-- Puts an object. -/
def put (store : Store) (target : Target) (content : Content) : Except StoreError Unit × Store :=
  match store.accept .put target with
  | .error error => (.error error, store)
  | .ok store =>
    match store.putFailure with
    | some status => (.error (.answered target.name status), store)
    | none => (.ok (), store.set target.storedName content)

end Store
end RowDrop
