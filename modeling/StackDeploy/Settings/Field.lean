/-
# Fields of the configuration

A field that is missing or unusable is reported with where to set it: its environment variable, and
its key in a section of the settings file.
-/

import StackDeploy.Provider.Error

namespace StackDeploy.Settings

/-- A field of the configuration, for messages. -/
structure Field where
  description : String
  envName : String
  key : String
  heading : String
deriving DecidableEq

namespace Field

/-- The identifier of the access key. -/
def accessKeyId : Field := ⟨"AWS access key ID", "AWS_ACCESS_KEY_ID", "access_key_id", "aws"⟩

/-- The secret access key. -/
def secretAccessKey : Field :=
  ⟨"AWS secret access key", "AWS_SECRET_ACCESS_KEY", "secret_access_key", "aws"⟩

/-- The region. -/
def region : Field := ⟨"AWS region", "AWS_REGION", "region", "aws"⟩

/-- The greatest number of status queries. -/
def maxAttempts : Field :=
  ⟨"status query budget", "STRATUS_MAX_ATTEMPTS", "max_attempts", "stratus"⟩

/-- The seconds between two status queries. -/
def pollInterval : Field :=
  ⟨"poll interval", "STRATUS_POLL_INTERVAL_SECS", "poll_interval_secs", "stratus"⟩

/-- A problem with a field, and how to mend it. -/
def guidance (f : Field) (problem : String) : String :=
  problem ++ " " ++ f.description ++ ": set " ++ f.envName ++ " or add " ++ f.key ++ " to [" ++
    f.heading ++ "] in stratus.toml"

end Field

/-- Why the configuration cannot be used. -/
inductive SettingsError where
  /-- A field without a value, or with a blank one. -/
  | missing (field : Field)
  /-- A field that is zero and may not be. -/
  | zero (field : Field)
  /-- Nothing can be signed with what is configured. -/
  | unsignable (cause : Signing.SigningError)
  /-- Nothing can be sent to the endpoint that is configured. -/
  | unusableEndpoint (cause : NetworkError)
  /-- The settings file, or a value, cannot be read. -/
  | unreadable (cause : String)
deriving DecidableEq

/-- The wording of a configuration error. -/
def SettingsError.message : SettingsError → String
  | .missing field => "missing configuration field: " ++ field.guidance "missing"
  | .zero field => "invalid configuration: " ++ field.guidance "zero is not a valid"
  | .unsignable cause => "invalid configuration: " ++ cause.message
  | .unusableEndpoint cause => "invalid configuration: " ++ (CallError.network cause).message
  | .unreadable cause => "configuration parsing failed: " ++ cause

end StackDeploy.Settings
