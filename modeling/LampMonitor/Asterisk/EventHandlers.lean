import LampMonitor.ButtonState.ButtonPlan
import LampMonitor.Transition
import Mathlib.Data.Finset.Insert
import Mathlib.Data.Finset.Card

/-! The handlers that turn AMI events into button states. Every event goes to all
of them, one after the other; each switches one button of one plan. -/
namespace LampMonitor.Asterisk
open Ami Bridge ButtonState Transition

/-- A button, by the position of its plan and its id. -/
abbrev PhoneButtonRef := Nat × UInt16

def validEvents : List String := ["ExtensionStatus"]

/-- The part of the filter that the handlers share. -/
def isExtensionStatus (event : KeyValDict) : Bool :=
  match event.getValue "Event" with
  | none => false
  | some eventType => validEvents.contains eventType

theorem isExtensionStatus_iff {event : KeyValDict} :
    isExtensionStatus event = true ↔ event.get "Event" = "ExtensionStatus" := by
  have type : event.get "Event" = (event.getValue "Event").getD "" := rfl
  rw [type, isExtensionStatus]
  cases event.getValue "Event" with
  | none => simp
  | some eventType => simp [validEvents]

/-- The event by which Asterisk reports the status of a hint. -/
def extensionStatus (exten context hint status : String) : KeyValDict :=
  ⟨[("Event", "ExtensionStatus"), ("Exten", exten), ("Context", context), ("Hint", hint), ("Status", status)]⟩

section ExtensionStatus
variable (exten context hint status : String)

@[simp] theorem isExtensionStatus_extensionStatus :
    isExtensionStatus (extensionStatus exten context hint status) = true := rfl

@[simp] theorem extensionStatus_event :
    (extensionStatus exten context hint status).get "Event" = "ExtensionStatus" := rfl

@[simp] theorem extensionStatus_exten :
    (extensionStatus exten context hint status).get "Exten" = exten := rfl

@[simp] theorem extensionStatus_hint :
    (extensionStatus exten context hint status).get "Hint" = hint := rfl

@[simp] theorem extensionStatus_status :
    (extensionStatus exten context hint status).get "Status" = status := rfl

end ExtensionStatus

structure NightEventHandler where
  phoneButton : PhoneButtonRef
  hint : String

/-- The argument of `setOn`, if the event makes the handler call it. -/
def NightEventHandler.amiEventHandler (handler : NightEventHandler) (event : KeyValDict) : Option Bool :=
  if !isExtensionStatus event then none
  else if event.get "Hint" ≠ handler.hint then none
  else if event.get "Status" = "0" then some false
  else if event.get "Status" = "1" then some true
  else none

structure ParkEventHandler where
  phoneButton : PhoneButtonRef
  parkingHints : List String
  parkedExtens : Finset String

def ParkEventHandler.park (parkedExtens : Finset String) (event : KeyValDict) : Finset String :=
  if event.get "Status" = "0" then parkedExtens.erase (event.get "Exten")
  else if event.get "Status" = "1" then insert (event.get "Exten") parkedExtens
  else parkedExtens

/-- `updateButtonState` is called for every monitored event, whatever its status. -/
def ParkEventHandler.amiEventHandler (handler : ParkEventHandler) (event : KeyValDict) :
    ParkEventHandler × Option Bool :=
  if !isExtensionStatus event then (handler, none)
  else if !handler.parkingHints.contains (event.get "Hint") then (handler, none)
  else
    let parkedExtens := park handler.parkedExtens event
    ({ handler with parkedExtens := parkedExtens }, some (decide (0 < parkedExtens.card)))

inductive EventHandler where
  | night (handler : NightEventHandler)
  | park (handler : ParkEventHandler)

namespace EventHandler

def phoneButton : EventHandler → PhoneButtonRef
  | night handler => handler.phoneButton
  | park handler => handler.phoneButton

def amiEventHandler (event : KeyValDict) : EventHandler → EventHandler × Option Bool
  | night handler => (night handler, handler.amiEventHandler event)
  | park handler => (park (handler.amiEventHandler event).1, (handler.amiEventHandler event).2)

@[simp] theorem amiEventHandler_phoneButton (event : KeyValDict) (handler : EventHandler) :
    (handler.amiEventHandler event).1.phoneButton = handler.phoneButton := by
  cases handler with
  | night => rfl
  | park handler =>
    simp only [amiEventHandler, phoneButton, ParkEventHandler.amiEventHandler]
    split
    · rfl
    · split <;> rfl

end EventHandler

/-- Whether a button is on, where there is such a button. -/
def isOn (plans : List ButtonPlan) (button : PhoneButtonRef) : Option Bool :=
  (plans[button.1]?.bind fun plan => plan.getButton button.2).map PhoneButton.isOn

variable [LibraryInterface]

def setOn (plans : List ButtonPlan) (button : PhoneButtonRef) (on : Bool) : List ButtonPlan × List PJSIPNotify :=
  match plans[button.1]? with
  | none => (plans, [])
  | some plan => (plans.set button.1 (plan.setOn button.2 on).1, (plan.setOn button.2 on).2)

structure State where
  plans : List ButtonPlan
  handlers : List EventHandler
  sent : List PJSIPNotify

/-- What the remaining handlers do with the event. -/
def deliver (event : KeyValDict) (plans : List ButtonPlan) :
    List EventHandler → List ButtonPlan × List EventHandler × List PJSIPNotify
  | [] => (plans, [], [])
  | handler :: rest =>
    let (handler', call) := handler.amiEventHandler event
    let (plans', messages) := call.elim (plans, []) (setOn plans handler.phoneButton)
    let (final, rest', more) := deliver event plans' rest
    (final, handler' :: rest', messages ++ more)

def machine : Machine State KeyValDict where
  step s event :=
    let (plans, handlers, messages) := deliver event s.plans s.handlers
    some ⟨plans, handlers, s.sent ++ messages⟩

/-- What start-up leaves: all buttons off and no call parked, every UI rendered,
and one handler for a button. -/
structure Configuration where
  plans : List ButtonPlan
  handlers : List EventHandler
  off : ∀ plan ∈ plans, ∀ button ∈ plan.buttons, button.isOn = false
  rendered : ∀ plan ∈ plans, ∀ ui ∈ plan.phoneUis, ui.cachedButtonState = render plan.buttons
  distinct : (handlers.map EventHandler.phoneButton).Nodup
  present : ∀ handler ∈ handlers, (isOn plans handler.phoneButton).isSome
  unparked : ∀ handler, .park handler ∈ handlers → handler.parkedExtens = ∅

omit [LibraryInterface] in
def start (config : Configuration) : State := ⟨config.plans, config.handlers, []⟩

end LampMonitor.Asterisk
