import Rollout.Table
import Rollout.Text.Blank
import Rollout.Text.Decimal

/-! Settings of the program, taken from its environment. Durations are in milliseconds. -/
namespace Rollout
open Text

def controllerName : String := "rke2-controlplane-controller"

structure Settings where
  workloadTimeout : Nat
  fieldManager : String
  deriving DecidableEq, Repr

namespace Settings

def defaultTimeoutSeconds : Nat := 30

def timeoutVariable : String := "CAPR_WORKLOAD_TIMEOUT_SECS"

def timeoutSeconds? (value : String) : Option Nat :=
  (word? (trim value.toList)).filter (0 < ·)

def ofEnvironment (environment : Dict String) : Settings where
  workloadTimeout :=
    (((environment.get? timeoutVariable).bind timeoutSeconds?).getD defaultTimeoutSeconds) * 1000
  fieldManager := controllerName

def withWorkloadTimeout (s : Settings) (millis : Nat) : Settings :=
  { s with workloadTimeout := millis }

end Settings
end Rollout
