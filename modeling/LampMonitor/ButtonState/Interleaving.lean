import LampMonitor.ButtonState.ButtonPlan
import LampMonitor.Transition
import Mathlib.Logic.Function.Basic

/-! Threads that switch buttons of one plan and publish its UIs, one atomic
access, critical section, enqueue or lock operation a step. The parallel loop
of `invalidate` is a list of tasks, one for each UI, that advance in any order.
Buttons and UIs of the plan are arbitrary, and so is the set of threads. -/
namespace LampMonitor.ButtonState.Interleaving
open Ami Bridge Transition

inductive Call where
  | setOn (id : UInt16) (on : Bool)
  | publishPhoneState (newAor : Bool) (aor : String)

/-- The body of the loop in `invalidate` for one UI: `update` with its two loads
for each button, `initialize`, and one enqueue for each AoR. -/
inductive Task where
  | read (k : Nat) (items : List Xml) (critical : Bool)
  | readCritical (k : Nat) (items : List Xml) (critical : Bool)
  | store (state : PhoneUIState)
  | load
  | send (values : List String) (aors : List String)

def Task.isDone : Task → Bool
  | .send _ [] => true
  | _ => false

/-- `invalidate` has switched a flag and not yet taken `phone_uis_mut_`. The UIs
that `getPhoneUIs` returned are positions in the plan. -/
inductive Pc where
  | idle
  | invalidate
  | forEach (tasks : List Task)
  | collect (newAor : Bool) (aor : String)
  | collected (newAor : Bool) (aor : String) (uis : List Nat)
  | publish (newAor : Bool) (aor : String) (uis : List Nat)
  | load (newAor : Bool) (aor : String) (ui : Nat) (uis : List Nat)
  | invoke (newAor : Bool) (aor : String) (values : List String) (uis : List Nat)

structure Thread where
  calls : List Call
  pc : Pc

structure State (ι : Type) where
  plan : ButtonPlan
  /-- The owner of `button_plans_mut_`. -/
  buttonPlansMut : Option ι
  /-- The shared and the exclusive owners of `phone_uis_mut_`. -/
  readers : List ι
  writer : Option ι
  sent : List PJSIPNotify
  threads : ι → Thread

inductive Label (ι : Type) where
  | step (i : ι)
  | task (i : ι) (ui : Nat)

variable [LibraryInterface]

def advanceTask (plan : ButtonPlan) (sent : List PJSIPNotify) (u : Nat) :
    Task → Option (ButtonPlan × List PJSIPNotify × Task)
  | .read k items critical =>
    match plan.buttons[k]? with
    | some button => some (plan, sent, .readCritical k (items ++ [executeItem button]) critical)
    | none => some (plan, sent, .store ⟨executeDocument items critical, critical⟩)
  | .readCritical k items critical =>
    plan.buttons[k]?.map fun button => (plan, sent, .read (k + 1) items (critical || button.isCritical))
  | .store state =>
    some ({ plan with phoneUis := plan.phoneUis.modify u (·.setPhoneState state) }, sent, .load)
  | .load => plan.phoneUis[u]?.map fun ui => (plan, sent, .send ui.initializeAction ui.getAoRs)
  | .send values (aor :: rest) => some (plan, sent ++ [⟨aor, values⟩], .send values rest)
  | .send _ [] => none

/-- No task changes a button. -/
theorem advanceTask_buttons {plan plan' : ButtonPlan} {task : Task}
    (advanced : advanceTask plan sent u task = some (plan', sent', next)) :
    plan'.buttons = plan.buttons := by
  cases task with
  | read k items critical =>
    rw [advanceTask] at advanced
    split at advanced
    · cases Option.some.inj advanced
      rfl
    · cases Option.some.inj advanced
      rfl
  | readCritical k items critical =>
    obtain ⟨button, _, result⟩ := Option.map_eq_some_iff.mp advanced
    cases result
    rfl
  | store state =>
    cases Option.some.inj advanced
    rfl
  | load =>
    obtain ⟨ui, _, result⟩ := Option.map_eq_some_iff.mp advanced
    cases result
    rfl
  | send values aors =>
    cases aors with
    | nil => cases advanced
    | cons aor rest =>
      cases Option.some.inj advanced
      rfl

namespace State
variable {ι : Type} [DecidableEq ι]

/-- The thread moves on and leaves the shared data as given. -/
def move (s : State ι) (i : ι) (calls : List Call) (pc : Pc) : State ι :=
  { s with threads := Function.update s.threads i ⟨calls, pc⟩ }

def compatible (s : State ι) (aor : String) : List Nat :=
  (List.range s.plan.phoneUis.length).filter fun k => (s.plan.phoneUis[k]?).any (·.hasAoR aor)

def step (s : State ι) (i : ι) : Option (State ι) :=
  let calls := (s.threads i).calls
  match (s.threads i).pc with
  | .idle =>
    match calls with
    | [] => none
    | .setOn id on :: rest =>
      match s.plan.getButton id with
      | none => none
      | some button =>
        some ({ s with plan := s.plan.exchange id on }.move i rest
          (if on ≠ button.isOn then .invalidate else .idle))
    | .publishPhoneState newAor aor :: rest =>
      if s.buttonPlansMut = none then
        some ({ s with buttonPlansMut := some i }.move i rest (.collect newAor aor))
      else none
  | .invalidate =>
    if s.writer = none then
      some ({ s with readers := i :: s.readers }.move i calls
        (.forEach (s.plan.phoneUis.map fun _ => .read 0 [] false)))
    else none
  | .forEach tasks =>
    if tasks.all Task.isDone then some ({ s with readers := s.readers.erase i }.move i calls .idle) else none
  | .collect newAor aor =>
    if s.readers = [] ∧ s.writer = none then
      some ({ s with writer := some i }.move i calls (.collected newAor aor (s.compatible aor)))
    else none
  | .collected newAor aor uis => some ({ s with writer := none }.move i calls (.publish newAor aor uis))
  | .publish _ _ [] => some ({ s with buttonPlansMut := none }.move i calls .idle)
  | .publish newAor aor (u :: uis) =>
    s.plan.phoneUis[u]?.map fun ui =>
      s.move i calls (if !newAor && !ui.isCritical then .publish newAor aor uis else .load newAor aor u uis)
  | .load newAor aor u uis =>
    s.plan.phoneUis[u]?.map fun ui => s.move i calls (.invoke newAor aor ui.initializeAction uis)
  | .invoke newAor aor values uis =>
    some ({ s with sent := s.sent ++ [PJSIPNotify.mk aor values] }.move i calls (.publish newAor aor uis))

def task (s : State ι) (i : ι) (u : Nat) : Option (State ι) :=
  match (s.threads i).pc with
  | .forEach tasks => do
    let (plan, sent, next) ← advanceTask s.plan s.sent u (← tasks[u]?)
    return { s with plan := plan, sent := sent }.move i (s.threads i).calls (.forEach (tasks.set u next))
  | _ => none

end State

variable {ι : Type} [DecidableEq ι]

def machine : Machine (State ι) (Label ι) where
  step s
    | .step i => s.step i
    | .task i u => s.task i u

/-- A plan as `registerUI` leaves it: every UI caches the rendering of the
buttons, no lock is held and nothing has been sent. -/
def start (plan : ButtonPlan) (calls : ι → List Call) : State ι where
  plan := plan.updateUIs
  buttonPlansMut := none
  readers := []
  writer := none
  sent := []
  threads i := ⟨calls i, .idle⟩

def Returned (s : State ι) : Prop := ∀ i, (s.threads i).calls = [] ∧ (s.threads i).pc = .idle

/-- The last notification enqueued for an AoR. -/
def lastTo (sent : List PJSIPNotify) (aor : String) : Option PJSIPNotify :=
  (sent.filter (fun m => m.endpoint = aor)).getLast?

/-- What was last sent to the AoR, if anything, shows this state. -/
def Carries (sent : List PJSIPNotify) (aor : String) (state : PhoneUIState) : Prop :=
  ∀ m, lastTo sent aor = some m → m = state.notification aor

/-- Every UI, and the last notification to each of its AoRs, show the buttons as
they are. -/
def Settled (plan : ButtonPlan) (sent : List PJSIPNotify) : Prop :=
  ∀ ui ∈ plan.phoneUis, ui.cachedButtonState = render plan.buttons ∧
    ∀ aor ∈ ui.compatibleAors, Carries sent aor (render plan.buttons)

end LampMonitor.ButtonState.Interleaving
