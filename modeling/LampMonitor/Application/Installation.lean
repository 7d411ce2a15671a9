import LampMonitor.Asterisk.ParkedCalls
import LampMonitor.Application.Screens
import LampMonitor.Config.References
import LampMonitor.Config.WiredPlans
import Mathlib.Data.List.Find

/-! From the configuration to the phones. What a start-up builds, together with what
Asterisk answered while it was built, is a configuration of the run-time model; so
the texts of a button's entry decide what the phones show for it. -/
namespace LampMonitor.Application
open Ami Asterisk Bridge ButtonState Config DeskphoneCache Fallible RegisterEventHandler Transition

/-- What Asterisk answers during the start-up: the AoRs that are compatible with the
phone of a plan, and the hints of a parking lot. -/
structure Answers where
  phone : String → String
  aors : String → List String
  distinct : ∀ plan, (aors plan).Nodup
  hints : String → List String

/-- A handler as it starts, with its callback installed. -/
def eventHandler (answers : Answers) (p : Nat) (id : UInt16) : Config.EventHandler → Asterisk.EventHandler
  | .night _ hint => .night ⟨(p, id), hint⟩
  | .park _ lot => .park ⟨(p, id), answers.hints lot, ∅⟩

section Handlers
variable {answers : Answers}

end Handlers

section Configuration
variable {answers : Answers} {plans : KeyedTable String Plan}

end Configuration

section Lamps

/-- The positions of a parking lot that are taken after these events. -/
def parkedAfter (hints : List String) (events : List KeyValDict) : Finset String :=
  events.foldl (occupied hints) ∅

/-- What the events make of the button of a configured handler. -/
def lit (answers : Answers) (events : List KeyValDict) : Config.EventHandler → Bool
  | .night _ hint => (lastReported hint events).getD false
  | .park _ lot => decide (0 < (parkedAfter (answers.hints lot) events).card)

variable [LibraryInterface] [ScalarInterface] {κ : Type} [DecidableEq κ]

end Lamps

section Night

local instance installedInterface : LibraryInterface := sequentialInterface
local instance installedScalars : ScalarInterface := decimalScalars

end Night
end LampMonitor.Application
