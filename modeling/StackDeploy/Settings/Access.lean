/-
# Access settings

The keys, the region and the endpoint of the provider. Values are trimmed where they are used, but
for the session token; blank keys and a blank region count as missing, and are reported in that
order.
-/

import StackDeploy.Provider.Client
import StackDeploy.Settings.Sources

namespace StackDeploy.Settings

open Signing (Credentials Signer)

/-- How the provider is reached. -/
structure AccessSettings where
  accessKeyId : Option String
  secretAccessKey : Option String
  sessionToken : Option String
  region : String
  /-- An endpoint instead of the regional one. -/
  endpointUrl : Option String
deriving DecidableEq

/-- The region when none is set. -/
def defaultRegion : String := "us-east-1"

/-- The trimmed value of a field that has to be there. -/
def required (value : Option String) (field : Field) : Except SettingsError String :=
  match value.map Text.trim with
  | some text => if text.isEmpty then .error (.missing field) else .ok text
  | none => .error (.missing field)

namespace AccessSettings

/-- Loads the access settings. -/
def load (sources : Sources) : Except SettingsError AccessSettings := do
  let settings ← sources.settings "aws_"
  let accessKeyId ← textOf settings "access_key_id"
  let secretAccessKey ← textOf settings "secret_access_key"
  let sessionToken ← textOf settings "session_token"
  let region ← textOf settings "region"
  let endpointUrl ← textOf settings "endpoint_url"
  .ok ⟨accessKeyId, secretAccessKey, sessionToken, region.getD defaultRegion, endpointUrl⟩

/-- Checks that the keys and the region are there. -/
def validate (s : AccessSettings) : Except SettingsError Unit := do
  let _ ← required s.accessKeyId .accessKeyId
  let _ ← required s.secretAccessKey .secretAccessKey
  let _ ← required (some s.region) .region
  .ok ()

/-- The credentials of the keys. -/
def credentials (s : AccessSettings) : Except SettingsError Credentials := do
  let accessKeyId ← required s.accessKeyId .accessKeyId
  let secretAccessKey ← required s.secretAccessKey .secretAccessKey
  (Credentials.make accessKeyId secretAccessKey s.sessionToken).mapError .unsignable

/-- The signer for a service. -/
def signer (s : AccessSettings) (service : String) : Except SettingsError Signer := do
  s.validate
  let credentials ← s.credentials
  (Signer.make credentials service (Text.trim s.region)).mapError .unsignable

/-- The client for a service. -/
def client (s : AccessSettings) (service : String) : Except SettingsError Client := do
  let signer ← s.signer service
  (Client.make signer s.endpointUrl).mapError .unusableEndpoint

end AccessSettings

end StackDeploy.Settings
