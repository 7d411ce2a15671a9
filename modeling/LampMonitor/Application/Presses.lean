import LampMonitor.Application.Reports
import LampMonitor.Bridge.NightButton

/-! Phones that press the night button, with Asterisk and the application. A press
reads the flag of its button and posts the negation; Asterisk applies it to the hint
and reports the change, and with the report the lamps of all phones follow. Presses
of one hint toggle the lamps if each begins when the one before has come all the way
back; everything else may go on at the same time. -/
namespace LampMonitor.Application.Presses
open Ami Asterisk Bridge ButtonState DeskphoneCache RegisterEventHandler Transition
open ParkStartup (Dialplan)
open NightButton (setvar)

/-- The status of a hint whose device has the value. -/
def deviceStatus (value : String) : Option String :=
  if value = "INUSE" then some "1"
  else if value = "NOT_INUSE" then some "0"
  else none

structure State (κ : Type) where
  world : World.State κ
  /-- The presses that have read the flag and not yet posted, with `device_` and `button_on`. -/
  pushing : List (String × Bool)
  /-- The actions on their way to Asterisk. -/
  actions : List KeyValDict

inductive Label (κ : Type) where
  | world (l : World.Label κ)
  | push (button : PhoneButtonRef)
  | post (k : Nat)
  | apply

section Steps
variable {κ : Type} (d : Dialplan) (config : Configuration)

/-- The device of the HTTP night button is the hint of the event handler. -/
def deviceOf (button : PhoneButtonRef) : Option String :=
  match handlerOf config button with
  | some (.night handler) => some handler.hint
  | _ => none

namespace State
variable (s : State κ)

def push (button : PhoneButtonRef) : Option (State κ) :=
  match deviceOf config button, isOn s.world.app.plans button with
  | some device, some on => some { s with pushing := s.pushing ++ [(device, !on)] }
  | _, _ => none

def post (k : Nat) : Option (State κ) :=
  s.pushing[k]?.map fun press => { s with
    pushing := s.pushing.eraseIdx k
    actions := s.actions ++ [setvar press.1 press.2] }

/-- Asterisk reports the hint of the device if its status changes. -/
def apply : Option (State κ) :=
  match s.actions with
  | [] => none
  | action :: rest =>
    match d.hints.find? (fun hint => action.get "Variable" = "DEVICE_STATE(" ++ hint ++ ")"),
      deviceStatus (action.get "Value") with
    | some hint, some status =>
      if s.world.status hint = status then some { s with actions := rest }
      else (s.world.change d hint status).map fun world => { s with actions := rest, world := world }
    | _, _ => some { s with actions := rest }

end State

variable [LibraryInterface] [DecidableEq κ]

def machine : Machine (State κ) (Label κ) where
  step s
    | .world l => ((World.machine d config).step s.world l).map fun world => { s with world := world }
    | .push button => s.push config button
    | .post k => s.post k
    | .apply => s.apply d

omit [LibraryInterface] [DecidableEq κ] in
def start (table : Endpoints) (expiry : UInt32) (status : String → String) : State κ :=
  ⟨World.start config table expiry status, [], []⟩

end Steps

section History
variable {κ : Type}

/-- What the application has done. -/
def inside : Label κ → List (Application.Label κ)
  | .world l => World.inside l
  | _ => []

/-- The presses of any button with this hint. -/
def presses (config : Configuration) (hint : String) (ls : List (Label κ)) : Nat :=
  ls.countP fun
    | .push button => deviceOf config button = some hint
    | _ => false

/-- What has been pressed for the hint and not reached Asterisk. -/
def underway (hint : String) (s : State κ) : List Bool :=
  (s.pushing.filter fun press => press.1 = hint).map Prod.snd ++
    (s.actions.filter fun action => action.get "Variable" = "DEVICE_STATE(" ++ hint ++ ")").map fun action =>
      decide (action.get "Value" = "INUSE")

/-- The handler of the button has been told everything. -/
structure Informed (s : State κ) (button : PhoneButtonRef) : Prop where
  requested : s.world.app.stage button = .requested
  answered : button ∉ s.world.lists
  delivered : s.world.queue = []

/-- Nobody else changes the hint, and a press of it begins when the one before has
come all the way back. -/
def Alone (config : Configuration) (hint : String) (s : State κ) : Label κ → Prop
  | .world (.change other _) => other ≠ hint
  | .push button => deviceOf config button = some hint → underway hint s = [] ∧ Informed s button
  | _ => True

end History
section Actions
variable {κ : Type} {s t : State κ} {d : Dialplan} {config : Configuration}

/-- The status of a hint that is in use or not. -/
def statusOf (on : Bool) : String := if on then "1" else "0"

/-- What Asterisk makes of an action: the hint of the device gets the status, if there is one. -/
inductive Applied (d : Dialplan) (device : String) (on : Bool) (w w' : World.State κ) : Prop where
  | none : device ∉ d.hints → w' = w → Applied d device on w w'
  | same : device ∈ d.hints → w.status device = statusOf on → w' = w → Applied d device on w w'
  | change : w.change d device (statusOf on) = some w' → Applied d device on w w'

end Actions

section Worlds
variable [LibraryInterface] {κ : Type} [DecidableEq κ]
variable {d : Dialplan} {config : Configuration} {s t : State κ}

end Worlds

section Toggles
variable [LibraryInterface] {κ : Type} [DecidableEq κ]
variable {d : Dialplan} {config : Configuration} {s t : State κ}

/-- The hint is as the presses left it; at most the last one is still under way. -/
def Toggled (hint : String) (first : Bool) (n : Nat) (s : State κ) : Prop :=
  ∃ on, s.world.status hint = statusOf on ∧
    (underway hint s = [] ∧ on = (first ^^ decide (Odd n)) ∨
      underway hint s = [!on] ∧ (!on) = (first ^^ decide (Odd n)))

omit [LibraryInterface] [DecidableEq κ] in
theorem Toggled.same (toggled : Toggled hint first n s) (status : t.world.status hint = s.world.status hint)
    (still : underway hint t = underway hint s) : Toggled hint first n t := by
  rw [Toggled, status, still]
  exact toggled

end Toggles

section Return
variable [LibraryInterface] {κ : Type} [DecidableEq κ]
variable {d : Dialplan} {config : Configuration} {s t : State κ}

end Return

section Night

local instance pressInterface : LibraryInterface := sequentialInterface

end Night
end LampMonitor.Application.Presses
