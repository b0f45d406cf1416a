/-
# Polling settings

How often a stack is looked at while an operation runs. Neither the interval nor the number of looks
may be zero; the number is checked first.
-/

import StackDeploy.Settings.Sources
import StackDeploy.Stack.Wait

namespace StackDeploy.Settings

/-- How operations are followed. -/
structure PollingSettings where
  pollIntervalSecs : Nat
  maxAttempts : Nat
  /-- Whether resources may be deleted or replaced without asking. This is granted with each
  deployment and is not taken from the sources, so it is false whatever they hold. -/
  allowDestructive : Bool
deriving DecidableEq

namespace PollingSettings

/-- Loads the polling settings. -/
def load (sources : Sources) : Except SettingsError PollingSettings := do
  let settings ← sources.settings "stratus_"
  let pollIntervalSecs ← numberOf settings "poll_interval_secs" (Nat.pow 2 64 - 1)
    WaitPolicy.default.interval
  let maxAttempts ← numberOf settings "max_attempts" (Nat.pow 2 32 - 1)
    WaitPolicy.default.maxAttempts
  .ok ⟨pollIntervalSecs, maxAttempts, false⟩

/-- Checks that neither number is zero. -/
def validate (s : PollingSettings) : Except SettingsError Unit :=
  if s.maxAttempts = 0 then .error (.zero .maxAttempts)
  else if s.pollIntervalSecs = 0 then .error (.zero .pollInterval)
  else .ok ()

/-- The patience that the settings ask for. -/
def policy (s : PollingSettings) : WaitPolicy :=
  ⟨s.pollIntervalSecs, s.maxAttempts⟩

end PollingSettings

end StackDeploy.Settings
