import LampMonitor.Bridge.LedCommands
import LampMonitor.Bridge.NightButton
import LampMonitor.ButtonState.LampUpdates
import LampMonitor.ButtonState.RenderedStates

/-! One press of the night button while other threads switch buttons and notify.
The press loads the flag for its decision, loads it again to clone the button, and
renders the switched clone; the action is posted when its scope is left. -/
namespace LampMonitor.Bridge.NightPush
open Ami ButtonState NightButton Transition

/-- A `PhoneButton` object apart from those of the plan. -/
structure Copy where
  button : PhoneButton
  /-- `button_plan_.lock()` gives a plan. -/
  attached : Bool

/-- The clone belongs to no plan. -/
def clone (button : PhoneButton) : Copy where
  button :=
    ⟨button.buttonId, button.color, button.flashMode, button.criticalWhenOn,
      button.criticalWhenOff, button.isOn⟩
  attached := false

/-- The overload of `createYealinkXML` for one button. -/
def createButtonXML (button : PhoneButton) (critical : Bool) : Xml.Document × Bool :=
  let uri :=
    "Led:LINE" ++ toString button.buttonId.toNat ++ "_" ++ toColorString button.color ++ "=" ++
    toButtonStateString button.flashMode button.isOn
  let critical := critical || button.isCritical
  (⟨[("version", "1.0"), ("encoding", "ISO-8859-1")],
    .element "YealinkIPPhoneExecute" [("refresh", "1"), ("Beep", if critical then "yes" else "no")]
      [.element "ExecuteItem" [("URI", uri)] []]⟩, critical)

/-- Where the press is. -/
inductive Pc where
  | entered
  | decided (buttonOn : Bool)
  | cloned (buttonOn : Bool) (copy : Copy)
  | switched (buttonOn : Bool) (copy : Copy)
  | rendered (buttonOn : Bool) (xml : Xml.Document)
  | returned (xml : Xml.Document)

structure State (ι : Type) where
  app : Interleaving.State ι
  pc : Pc
  actions : List KeyValDict

inductive Label (ι : Type) where
  | other (l : Interleaving.Label ι)
  | push

section Runs
variable [LibraryInterface] {ι : Type} [DecidableEq ι]

/-- `setOn` on the copy, of which a plan hears where there is one. -/
def setOn (app : Interleaving.State ι) (copy : Copy) (on : Bool) : Interleaving.State ι × Copy :=
  let switched := { copy with button := copy.button.exchange on }
  if on ≠ copy.button.isOn ∧ copy.attached then
    let (plan, sent) := app.plan.invalidate
    ({ app with plan := plan, sent := app.sent ++ sent }, switched)
  else (app, switched)

def State.push (device : String) (id : UInt16) (s : State ι) : Option (State ι) :=
  match s.pc with
  | .entered => (s.app.plan.getButton id).map fun button => { s with pc := .decided !button.isOn }
  | .decided buttonOn =>
    (s.app.plan.getButton id).map fun button => { s with pc := .cloned buttonOn (clone button) }
  | .cloned buttonOn copy =>
    let (app, copy) := setOn s.app copy buttonOn
    some { s with app := app, pc := .switched buttonOn copy }
  | .switched buttonOn copy =>
    some { s with pc := .rendered buttonOn (createButtonXML copy.button false).1 }
  | .rendered buttonOn xml =>
    some { s with pc := .returned xml, actions := s.actions ++ [setvar device buttonOn] }
  | .returned _ => none

def machine (device : String) (id : UInt16) : Machine (State ι) (Label ι) where
  step s
    | .other l => (Interleaving.machine.step s.app l).map fun app => { s with app := app }
    | .push => s.push device id

def start (app : Interleaving.State ι) : State ι := ⟨app, .entered, []⟩

def others (ls : List (Label ι)) : List (Interleaving.Label ι) :=
  ls.filterMap fun
    | .other l => some l
    | .push => none

def pushes (ls : List (Label ι)) : Nat :=
  ls.countP fun
    | .other _ => false
    | .push => true

/-- The screen and the action of a press of this button: the screen is that of the
button as predicted, and shows its lamp on exactly if the action puts the device in
use. -/
structure Predicts (device : String) (button : PhoneButton) (xml : Xml.Document)
    (action : KeyValDict) : Prop where
  posted : ∃ predicted, action = setvar device predicted
  screen : xml = (createYealinkXML [button.exchange (action.get "Value" = "INUSE")] false).1
  lamp : ∃ led beep, readExecution xml = some ⟨[led], beep⟩ ∧ led.line = button.buttonId.toNat ∧
    (led.color, led.state) = shown (button.exchange (action.get "Value" = "INUSE"))

section Others

/-- Other threads only switch the buttons. -/
theorem step_same {s t : Interleaving.State ι} (stepped : Interleaving.machine.step s l = some t) :
    RenderedStates.Same t.plan.buttons s.plan.buttons := by
  cases Interleaving.step_effect stepped with
  | switch pc plan rest =>
    have idle : (s.threads _).pc = .idle := pc
    simp only [Interleaving.machine, Interleaving.State.step, idle] at stepped
    split at stepped
    · cases stepped
    · split at stepped
      · cases stepped
      · have exchanged : s.plan.exchange _ _ = plan :=
          congrArg Interleaving.State.plan (Option.some.inj stepped)
        exact exchanged ▸ RenderedStates.same_exchange s.plan _ _
    · split at stepped
      · have kept : s.plan = plan := congrArg Interleaving.State.plan (Option.some.inj stepped)
        exact kept ▸ rfl
      · cases stepped
  | task pc found advanced calls =>
    exact congrArg (List.map (·.exchange false)) (Interleaving.advanceTask_buttons advanced)
  | _ => rfl

omit [LibraryInterface] in
theorem getButton_same {plan plan' : ButtonPlan} {id : UInt16} {button : PhoneButton}
    (same : RenderedStates.Same plan'.buttons plan.buttons)
    (found : plan.getButton id = some (button.exchange on)) :
    ∃ on', plan'.getButton id = some (button.exchange on') := by
  have masks : ∀ plan : ButtonPlan, (plan.getButton id).map (·.exchange false) =
      (plan.buttons.map (·.exchange false)).find? fun button => button.buttonId = id := by
    intro plan
    rw [List.find?_map]
    rfl
  have mask : (plan'.getButton id).map (·.exchange false) = some (button.exchange false) := by
    rw [masks, same, ← masks, found]
    rfl
  obtain ⟨button', found', equal⟩ := Option.map_eq_some_iff.mp mask
  refine ⟨button'.isOn, ?_⟩
  rw [found', ← RenderedStates.exchange_of_same equal, button'.exchange_isOn_self]

end Others

section Press
variable {device : String} {id : UInt16} {button : PhoneButton}

omit [LibraryInterface] in
/-- The two overloads write the same document for one button. -/
theorem createButtonXML_eq (button : PhoneButton) (critical : Bool) :
    createButtonXML button critical = createYealinkXML [button] critical := rfl

omit [DecidableEq ι] in
/-- No plan hears of a clone. -/
theorem setOn_clone (app : Interleaving.State ι) (button : PhoneButton) (on : Bool) :
    setOn app ⟨button, false⟩ on = (app, ⟨button.exchange on, false⟩) :=
  if_neg fun switched => Bool.false_ne_true switched.2

omit [LibraryInterface] [DecidableEq ι] in
theorem predicts_setvar (device : String) (button : PhoneButton) (predicted : Bool) :
    Predicts device button (createYealinkXML [button.exchange predicted] false).1
      (setvar device predicted) := by
  have value : decide ((setvar device predicted).get "Value" = "INUSE") = predicted := by
    cases predicted <;> simp [setvar, KeyValDict.get, KeyValDict.getValue]
  have document : readExecution (createYealinkXML [button.exchange predicted] false).1 =
      some ⟨[ledOf (button.exchange predicted)], (button.exchange predicted).isCritical⟩ :=
    readExecution_executeDocument [button.exchange predicted] _
  refine ⟨⟨predicted, rfl⟩, by rw [value], ledOf (button.exchange predicted), _, document, rfl, ?_⟩
  rw [value, shown_eq]
  rfl

/-- How many steps of the press have been taken. -/
def Pc.stage : Pc → Nat
  | .entered => 0
  | .decided _ => 1
  | .cloned _ _ => 2
  | .switched _ _ => 3
  | .rendered _ _ => 4
  | .returned _ => 5

/-- What the press holds and what it has posted, at each of its points. -/
def Holds (device : String) (button : PhoneButton) (actions : List KeyValDict) : Pc → Prop
  | .entered | .decided _ => actions = []
  | .cloned _ copy => actions = [] ∧ ∃ on, copy = ⟨button.exchange on, false⟩
  | .switched buttonOn copy => actions = [] ∧ copy = ⟨button.exchange buttonOn, false⟩
  | .rendered buttonOn xml =>
    actions = [] ∧ xml = (createYealinkXML [button.exchange buttonOn] false).1
  | .returned xml => ∃ action, actions = [action] ∧ Predicts device button xml action

structure Inv (device : String) (id : UInt16) (button : PhoneButton)
    (app : Interleaving.State ι) (ls : List (Label ι)) (s : State ι) : Prop where
  alone : Interleaving.machine.run app (others ls) = some s.app
  known : ∃ on, s.app.plan.getButton id = some (button.exchange on)
  stage : s.pc.stage = pushes ls
  holds : Holds device button s.actions s.pc

omit [LibraryInterface] in
theorem Holds.unposted {pc : Pc} (holds : Holds device button actions pc)
    (unfinished : pc.stage < 5) : actions = [] := by
  cases pc with
  | entered | decided => exact holds
  | cloned | switched | rendered => exact holds.1
  | returned => exact absurd unfinished (Nat.lt_irrefl 5)

omit [LibraryInterface] in
theorem Holds.posted {pc : Pc} (holds : Holds device button actions pc) (finished : pc.stage ≥ 5) :
    ∃ xml action, pc = .returned xml ∧ actions = [action] ∧ Predicts device button xml action := by
  cases pc with
  | returned xml =>
    obtain ⟨action, posted, predicts⟩ := holds
    exact ⟨xml, action, rfl, posted, predicts⟩
  | _ => simp [Pc.stage] at finished

omit [DecidableEq ι] in
/-- A step of the press leaves the application as it is. -/
theorem push_holds {s t : State ι} (known : s.app.plan.getButton id = some (button.exchange on))
    (holds : Holds device button s.actions s.pc) (stepped : s.push device id = some t) :
    t.app = s.app ∧ t.pc.stage = s.pc.stage + 1 ∧ Holds device button t.actions t.pc := by
  obtain ⟨app, pc, actions⟩ := s
  cases pc with
  | entered =>
    simp only [State.push, known, Option.map_some, Option.some.injEq] at stepped
    subst t
    exact ⟨rfl, rfl, holds⟩
  | decided buttonOn =>
    simp only [State.push, known, Option.map_some, Option.some.injEq] at stepped
    subst t
    exact ⟨rfl, rfl, holds, _, rfl⟩
  | cloned buttonOn copy =>
    obtain ⟨none_posted, on', rfl⟩ := holds
    simp only [State.push, setOn_clone, Option.some.injEq] at stepped
    subst t
    exact ⟨rfl, rfl, none_posted, rfl⟩
  | switched buttonOn copy =>
    obtain ⟨none_posted, rfl⟩ := holds
    cases Option.some.inj stepped
    exact ⟨rfl, rfl, none_posted, rfl⟩
  | rendered buttonOn xml =>
    obtain ⟨rfl, rfl⟩ := holds
    cases Option.some.inj stepped
    exact ⟨rfl, rfl, _, rfl, predicts_setvar device button buttonOn⟩
  | returned xml => cases stepped

theorem inv_step {app : Interleaving.State ι} (held : Inv device id button app ls s)
    (stepped : (machine device id).step s l = some t) : Inv device id button app (ls ++ [l]) t := by
  have others_snoc : others (ls ++ [l]) = others ls ++ others [l] := List.filterMap_append
  have pushes_snoc : pushes (ls ++ [l]) = pushes ls + pushes [l] := List.countP_append
  cases l with
  | other l =>
    obtain ⟨next, moved, rfl⟩ := Option.map_eq_some_iff.mp stepped
    obtain ⟨on, known⟩ := held.known
    refine ⟨?_, getButton_same (step_same moved) known, pushes_snoc ▸ held.stage, held.holds⟩
    exact others_snoc ▸ Machine.run_snoc.mpr ⟨s.app, held.alone, moved⟩
  | push =>
    obtain ⟨on, known⟩ := held.known
    obtain ⟨frame, stage, holds⟩ := push_holds known held.holds stepped
    refine ⟨?_, frame ▸ held.known, ?_, holds⟩
    · rw [others_snoc, show others ([.push] : List (Label ι)) = [] from rfl, List.append_nil, frame]
      exact held.alone
    · rw [stage, held.stage, pushes_snoc]
      rfl

theorem push_enabled {s : State ι} (known : s.app.plan.getButton id = some here)
    (unfinished : s.pc.stage < 5) :
    ∃ t, (machine device id).step s .push = some t := by
  obtain ⟨app, pc, actions⟩ := s
  cases pc with
  | entered => exact ⟨_, congrArg (Option.map _) known⟩
  | decided => exact ⟨_, congrArg (Option.map _) known⟩
  | cloned | switched | rendered => exact ⟨_, rfl⟩
  | returned => exact absurd unfinished (Nat.lt_irrefl 5)

end Press

/-- A press takes five steps, none of which ever waits or changes the application:
that is where the other threads alone take it. Until the last step nothing is
posted; then there is one action, and the screen predicts what it will do. -/
theorem push_predicts {id : UInt16} {button : PhoneButton}
    {app : Interleaving.State ι} (device : String) (known : app.plan.getButton id = some button)
    (ls : List (Label ι)) (t : State ι)
    (reached : (machine device id).run (start app) ls = some t) :
    Interleaving.machine.run app (others ls) = some t.app ∧
    (pushes ls < 5 → t.actions = [] ∧ ∃ u, (machine device id).step t .push = some u) ∧
    (pushes ls ≥ 5 → ∃ xml action, t.pc = .returned xml ∧ t.actions = [action] ∧
      Predicts device button xml action) := by
  have entered : Inv device id button app [] (start app) := ⟨rfl, ⟨button.isOn, known⟩, rfl, rfl⟩
  have held : Inv device id button app ls t :=
    Machine.trace_invariant (C := fun _ _ => True) entered
      (fun held _ stepped => inv_step held stepped)
      (Machine.Meets.of_labels fun _ _ => trivial) reached
  obtain ⟨on, found⟩ := held.known
  rw [← held.stage]
  exact ⟨held.alone, fun early => ⟨held.holds.unposted early, push_enabled found early⟩,
    held.holds.posted⟩

end Runs

section Flipped

local instance pressesInOrder : LibraryInterface := sequentialInterface

def office : Interleaving.State Unit := Interleaving.start officePlan fun _ => [.setOn 1 true]

/-- Another thread switches the button between the two loads. -/
theorem push_predicts_flipped : ∃ t,
    (machine "Custom:night" 1).run (start office)
    [.push, .other (.step ()), .push, .push, .push, .push] = some t ∧
    ∃ xml action, t.pc = .returned xml ∧ t.actions = [action] ∧
      Predicts "Custom:night" ⟨1, .red, .off, true, false, false⟩ xml action := by
  refine ⟨_, rfl, ?_⟩
  have known : office.plan.getButton 1 = some ⟨1, .red, .off, true, false, false⟩ := rfl
  exact (push_predicts "Custom:night" known [.push, .other (.step ()), .push, .push, .push, .push]
    _ rfl).2.2 (by decide)

end Flipped
end LampMonitor.Bridge.NightPush
