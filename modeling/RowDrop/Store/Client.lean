import RowDrop.Settings.Basic
import RowDrop.Store.Choice
import RowDrop.Store.Url

/-!
# Clients of an object store

What a client uses comes from two layers: the variables of the environment whose names begin with
`AWS_`, and on top of them the settings that are given. Truth values out of the environment are
kept as texts and read when the client is set up, so that a text that is replaced never fails.
-/

namespace RowDrop

/-- The choices for a client, as they are collected. -/
structure ClientChoices where
  accessKeyId : Option String
  secretAccessKey : Option String
  region : Option String
  endpoint : Option String
  token : Option String
  /-- Unencrypted connections are allowed: a text that is read later, or a decision. -/
  allowHttp : Option (String ⊕ Bool)
  skipSignature : Option String
  /-- The bucket lies in one zone. -/
  expressBuckets : Option String
  unsignedPayload : Option String
  disableTagging : Option String
  checksum : Option String
  copyCondition : Option String
  putCondition : Option String
  encryption : Option String
  encryptionKey : Option String
  /-- The bucket has a key of its own for the encryption. -/
  bucketKey : Option String
  /-- The first version of the metadata service may be asked for credentials. -/
  oldMetadata : Option String
  /-- Credentials come from elsewhere if they are not chosen: from a task or for a role. -/
  otherCredentials : Bool
  deriving DecidableEq, Repr

namespace ClientChoices

/-- Nothing is chosen. -/
def unset : ClientChoices where
  accessKeyId := none
  secretAccessKey := none
  region := none
  endpoint := none
  token := none
  allowHttp := none
  skipSignature := none
  expressBuckets := none
  unsignedPayload := none
  disableTagging := none
  checksum := none
  copyCondition := none
  putCondition := none
  encryption := none
  encryptionKey := none
  bucketKey := none
  oldMetadata := none
  otherCredentials := false

/-- The names by which variables choose, without case. -/
def set (choices : ClientChoices) (name value : String) : ClientChoices :=
  if name = "aws_access_key_id" then { choices with accessKeyId := some value }
  else if name = "aws_secret_access_key" then { choices with secretAccessKey := some value }
  else if name = "aws_region" then { choices with region := some value }
  else if name = "aws_default_region" then { choices with region := choices.region.or (some value) }
  else if name = "aws_endpoint" ∨ name = "aws_endpoint_url" then
    { choices with endpoint := some value }
  else if name = "aws_session_token" ∨ name = "aws_token" then { choices with token := some value }
  else if name = "aws_allow_http" then { choices with allowHttp := some (.inl value) }
  else if name = "aws_skip_signature" then { choices with skipSignature := some value }
  else if name = "aws_s3_express" then { choices with expressBuckets := some value }
  else if name = "aws_unsigned_payload" then { choices with unsignedPayload := some value }
  else if name = "aws_disable_tagging" then { choices with disableTagging := some value }
  else if name = "aws_checksum_algorithm" then { choices with checksum := some value }
  else if name = "aws_copy_if_not_exists" then { choices with copyCondition := some value }
  else if name = "aws_conditional_put" then { choices with putCondition := some value }
  else if name = "aws_server_side_encryption" then { choices with encryption := some value }
  else if name = "aws_sse_kms_key_id" then { choices with encryptionKey := some value }
  else if name = "aws_sse_bucket_key_enabled" then { choices with bucketKey := some value }
  else if name = "aws_imdsv1_fallback" then { choices with oldMetadata := some value }
  else if name = "aws_container_credentials_relative_uri" then
    { choices with otherCredentials := true }
  else choices

/-- The beginning of the variables that count. -/
def variableLead : String := "AWS_"

/-- The variables that together give credentials for a role. -/
def roleVariables : List String := ["AWS_WEB_IDENTITY_TOKEN_FILE", "AWS_ROLE_ARN"]

/-- The choices of the environment, one variable after the other. -/
def ofEnvironment (environment : Environment) : ClientChoices :=
  let forRole := roleVariables.all fun name => (environment.text? name).isSome
  (environment.texts.filter fun (name, _) => variableLead.toList.isPrefixOf name.toList).foldl
    (fun choices (name, value) => choices.set (String.ofList (name.toList.map Char.toLower)) value)
    { unset with otherCredentials := forRole }

/-- Lays settings on top. Whether unencrypted connections are allowed is decided as soon as the
settings say so or have an endpoint. -/
def withSettings (choices : ClientChoices) (settings : StoreSettings) : ClientChoices :=
  { choices with
    accessKeyId := settings.accessKeyId.or choices.accessKeyId
    secretAccessKey := settings.secretAccessKey.or choices.secretAccessKey
    region := settings.region.or choices.region
    endpoint := settings.endpoint.or choices.endpoint
    allowHttp :=
      if settings.allowHttp.isSome ∨ settings.endpoint.isSome then
        some (.inr settings.allowsHttp)
      else choices.allowHttp }

end ClientChoices

/-- What requests are signed with. -/
structure Credentials where
  accessKeyId : String
  secretAccessKey : String
  token : Option String
  deriving DecidableEq, Repr

/-- A client that is ready to send requests. -/
structure Client where
  /-- The address in front of bucket and key. -/
  endpoint : String
  region : String
  /-- None if requests are not signed. -/
  credentials : Option Credentials
  allowHttp : Bool
  deriving DecidableEq, Repr

namespace Client

/-- The region where none is chosen. -/
def standardRegion : String := "us-east-1"

/-- The endpoint of a region where none is chosen. -/
def standardEndpoint (region : String) : String := s!"https://s3.{region}.amazonaws.com"

/-- The credentials of the choices: a key and its secret, or neither. -/
def credentials? (choices : ClientChoices) : Except StoreError (Option Credentials) :=
  match choices.accessKeyId, choices.secretAccessKey with
  | some key, some secret => .ok (some ⟨key, secret, choices.token⟩)
  | some _, none => .error .missingSecret
  | none, some _ => .error .missingKeyId
  | none, none => do
    if !choices.otherCredentials then discard <| Choice.switch choices.oldMetadata
    return none

/-- Unencrypted connections are allowed. -/
def allowsHttp (choices : ClientChoices) : Except StoreError Bool :=
  match choices.allowHttp with
  | some (.inl value) => Choice.readSwitch value
  | some (.inr value) => .ok value
  | none => .ok false

/-- The bucket must lie in a zone if the choices say that it does. Connections to the zone are set
up at once. -/
def checkZone (choices : ClientChoices) (bucket : String) : Except StoreError Unit := do
  if ← Choice.switch choices.expressBuckets then
    if !Choice.hasZone bucket.toList then throw (.noZone bucket)
    discard <| allowsHttp choices

/-- The choices for the encryption must have a meaning, if there is one. -/
def checkEncryption (choices : ClientChoices) : Except StoreError Unit := do
  if choices.encryption.isSome then
    Choice.require choices.encryption Choice.isEncryption .unknownEncryption
    discard <| Choice.switch choices.bucketKey
    Choice.require choices.encryptionKey Choice.fitsHeader fun _ => .unfitEncryptionKey

/-- Sets up a client for a bucket. The choices are read in a fixed order, and the first one without
a meaning is the failure.

A bucket in one zone is checked but not served in its own way: the endpoint where none is chosen is
always the one of the region, not of the zone, and no session is opened in front of the requests. -/
def build (choices : ClientChoices) (bucket : String) : Except StoreError Client := do
  Choice.require choices.checksum Choice.isChecksum .unknownChecksum
  Choice.require choices.copyCondition Choice.isCopyCondition .unknownCopyCondition
  Choice.require choices.putCondition Choice.isPutCondition .unknownPutCondition
  let credentials ← credentials? choices
  checkZone choices bucket
  checkEncryption choices
  discard <| Choice.switch choices.unsignedPayload
  let unsigned ← Choice.switch choices.skipSignature
  discard <| Choice.switch choices.disableTagging
  let allowHttp ← allowsHttp choices
  let region := choices.region.getD standardRegion
  return {
    endpoint := choices.endpoint.getD (standardEndpoint region)
    region
    credentials := if unsigned then none else credentials
    allowHttp }

/-- The address of an object as text, before it is read as a URL. -/
def address (client : Client) (bucket name : String) : String :=
  client.endpoint ++ "/" ++ bucket ++ "/"
    ++ String.ofList (Percent.encode Url.keepsInKey name.toList)

/-- Requests are not signed, or the signature fits into their headers. -/
def canSign (client : Client) : Bool :=
  client.credentials.all fun credentials =>
    ([credentials.accessKeyId, client.region] ++ credentials.token.toList).all fun text =>
      Choice.fitsHeader text.toList

/-- The scheme of an address may be used. -/
def allows (client : Client) (url : Url) : Bool :=
  url.schemeText = "https" || client.allowHttp && url.schemeText = "http"

end Client
end RowDrop
