import RowDrop.Files.SystemError
import RowDrop.Store.Url

/-!
# Failures of an object store

A request fails because the client cannot be set up, because the address is not allowed or cannot
be reached, or because the server answers with an error status. A failure is a chain: each text
names the failure inside it, and a report lists the chain from the outermost text to the innermost.
-/

namespace RowDrop

/-- A status that a server answers with, and the text that it sends along. -/
structure Status where
  code : Nat
  body : String
  deriving DecidableEq, Repr

namespace Status

/-- The standard phrases, each with its code. -/
def phrases : List (Nat × String) := [
  (400, "Bad Request"),
  (401, "Unauthorized"),
  (402, "Payment Required"),
  (403, "Forbidden"),
  (404, "Not Found"),
  (405, "Method Not Allowed"),
  (406, "Not Acceptable"),
  (407, "Proxy Authentication Required"),
  (408, "Request Timeout"),
  (409, "Conflict"),
  (410, "Gone"),
  (411, "Length Required"),
  (412, "Precondition Failed"),
  (413, "Payload Too Large"),
  (414, "URI Too Long"),
  (415, "Unsupported Media Type"),
  (416, "Range Not Satisfiable"),
  (417, "Expectation Failed"),
  (418, "I'm a teapot"),
  (421, "Misdirected Request"),
  (422, "Unprocessable Entity"),
  (423, "Locked"),
  (424, "Failed Dependency"),
  (426, "Upgrade Required"),
  (428, "Precondition Required"),
  (429, "Too Many Requests"),
  (431, "Request Header Fields Too Large"),
  (451, "Unavailable For Legal Reasons")]

/-- The standard phrase of a code. -/
def phrase (status : Status) : String :=
  (phrases.lookup status.code).getD "<unknown status code>"

/-- The answer as messages give it. -/
def text (status : Status) : String :=
  let body := if status.body = "" then "No Body" else status.body
  s!"Client error with status {status.code} {status.phrase}: {body}"

end Status

/-- Why a request to an object store failed. -/
inductive StoreError where
  /-- A choice is no truth value. -/
  | notBoolean (value : String)
  /-- A choice is no checksum. -/
  | unknownChecksum (value : String)
  /-- A choice is no condition for copies. -/
  | unknownCopyCondition (value : String)
  /-- A choice is no condition for puts. -/
  | unknownPutCondition (value : String)
  /-- There is a secret without its key. -/
  | missingKeyId
  /-- There is a key without its secret. -/
  | missingSecret
  /-- The name of the bucket holds no zone. -/
  | noZone (bucket : String)
  /-- A choice is no kind of encryption. -/
  | unknownEncryption (value : String)
  /-- The key for the encryption does not fit into a header. -/
  | unfitEncryptionKey
  /-- The scheme of the address is not allowed. -/
  | schemeRefused (address : String)
  /-- No connection can be made. -/
  | unreachable (address : String)
  /-- The server answered a request for an object with an error status. -/
  | answered (name : String) (status : Status)
  /-- A store in memory does not have the object. -/
  | absent (name : String)
  deriving DecidableEq, Repr

namespace StoreError

/-- How often a request that got no answer is sent again. -/
def retryLimit : Nat := 10

/-- What a request ends with when it is given up after some retries. The time that went by is not
known and shown as `T`. -/
def afterRetries (retries : Nat) (inner : String) : String :=
  s!"Error after {retries} retries in T, max_retries:{retryLimit}, retry_timeout:180s, source:"
    ++ inner

/-- The failure of a choice that has no meaning. -/
def ofConfig (inner : String) : List String := ["Generic Config error: " ++ inner, inner]

/-- A failure of the store, with the failures inside it. -/
def ofStore (inner : String) (rest : List String) : List String :=
  ("Generic S3 error: " ++ inner) :: inner :: rest

/-- The failure inside out: its innermost text comes last, its outermost first. -/
def chain : StoreError → List String
  | notBoolean value => ofConfig ("failed to parse \"" ++ value ++ "\" as boolean")
  | unknownChecksum value => ofConfig ("\"" ++ value ++ "\" is not a valid checksum algorithm")
  | unknownCopyCondition value =>
    ofConfig ("Failed to parse \"" ++ value ++ "\" as S3CopyIfNotExists")
  | unknownPutCondition value =>
    ofConfig ("Failed to parse \"" ++ value ++ "\" as S3PutConditional")
  | missingKeyId => ofStore "Missing AccessKeyId" []
  | missingSecret => ofStore "Missing SecretAccessKey" []
  | noZone bucket => ofStore ("Invalid Zone suffix for bucket '" ++ bucket ++ "'") []
  | unknownEncryption value =>
    ofStore ("Invalid encryption type: " ++ value
      ++ ". Valid values are \"AES256\", \"sse:kms\", and \"sse:kms:dsse\".") []
  | unfitEncryptionKey =>
    let core := "failed to parse header value"
    ofStore ("Invalid encryption header values. Header: kms-key-id, source: " ++ core) [core]
  | schemeRefused address =>
    let core := "URL scheme is not allowed"
    let build := s!"builder error for url ({address}): {core}"
    ofStore (afterRetries 0 build) [build, core]
  | unreachable address =>
    let core := (Errno.mk 101).text
    let tcp := "tcp connect error: " ++ core
    let connect := "error trying to connect: " ++ tcp
    let send := s!"error sending request for url ({address}): " ++ connect
    ofStore (afterRetries retryLimit send) [send, connect, tcp, core]
  | answered name status =>
    let inner := status.text
    let outer :=
      if status.code = 404 then s!"Object at location {name} not found: {inner}"
      else if status.code = 409 then s!"Object at location {name} already exists: {inner}"
      else if status.code = 412 then
        s!"Request precondition failure for path {name}: {inner}"
      else "Generic S3 error: " ++ inner
    [outer, inner]
  | absent name =>
    let inner := "No data in memory found. Location: " ++ name
    [s!"Object at location {name} not found: {inner}", inner]

/-- The failure as messages give it. -/
def text (error : StoreError) : String := error.chain.headD ""

/-- The object does not exist. -/
def isMissing : StoreError → Bool
  | answered _ status => status.code = 404
  | absent _ => true
  | _ => false

end StoreError
end RowDrop
