import LampMonitor.Bridge.PhoneUi

/-! Button plans as one thread sees them: `setOn` exchanges a flag and, where it
changed, re-renders every UI of the plan and notifies all of its AoRs. -/
namespace LampMonitor.ButtonState
open Ami Bridge

/-- The buttons are a map: its keys are the button ids. -/
structure ButtonPlan where
  name : String
  buttons : List PhoneButton
  unique : (buttons.map PhoneButton.buttonId).Nodup
  phoneUis : List PhoneUI

namespace ButtonPlan

def getButton (plan : ButtonPlan) (id : UInt16) : Option PhoneButton :=
  plan.buttons.find? (fun button => button.buttonId = id)

def getButtons (plan : ButtonPlan) : List PhoneButton := plan.buttons

/-- The plan after the exchange on the button with this id. -/
def exchange (plan : ButtonPlan) (id : UInt16) (on : Bool) : ButtonPlan :=
  { plan with
    buttons := plan.buttons.map (fun button => if button.buttonId = id then button.exchange on else button)
    unique := by
      have ids : (plan.buttons.map fun button => if button.buttonId = id then button.exchange on else button).map
          PhoneButton.buttonId = plan.buttons.map PhoneButton.buttonId := by
        simp only [List.map_map]
        apply List.map_congr_left
        intro button _
        simp only [Function.comp_apply]
        split <;> simp
      exact ids ▸ plan.unique }

def getPhoneUIs (plan : ButtonPlan) (aor : String) : List PhoneUI :=
  plan.phoneUis.filter (fun ui => ui.hasAoR aor)

def updateUIs (plan : ButtonPlan) : ButtonPlan :=
  { plan with phoneUis := plan.phoneUis.map (fun ui => ui.update plan.getButtons) }

variable [LibraryInterface]

/-- One round of notifications, each UI with all of its AoRs. -/
def round (plan : ButtonPlan) : List PJSIPNotify :=
  LibraryInterface.interleave (plan.phoneUis.map fun ui => ui.getAoRs.map ui.notify)

def invalidate (plan : ButtonPlan) : ButtonPlan × List PJSIPNotify :=
  (plan.updateUIs, plan.updateUIs.round)

/-- `PhoneButton::setOn` on a button of the plan. -/
def setOn (plan : ButtonPlan) (id : UInt16) (on : Bool) : ButtonPlan × List PJSIPNotify :=
  match plan.getButton id with
  | none => (plan, [])
  | some button => if on ≠ button.isOn then (plan.exchange id on).invalidate else (plan, [])

end ButtonPlan

/-- One button that is critical while on, and one UI for one AoR. -/
def officePlan : ButtonPlan where
  name := "office"
  buttons := [⟨1, .red, .off, true, false, false⟩]
  unique := by simp
  phoneUis := [⟨"desk", ["1001"], by simp, render [⟨1, .red, .off, true, false, false⟩]⟩]

section Lemmas
variable {plan : ButtonPlan} {id : UInt16}

theorem exchange_self {button : PhoneButton} (found : plan.getButton id = some button) :
    plan.exchange id button.isOn = plan := by
  have same : plan.buttons.map (fun b => if b.buttonId = id then b.exchange button.isOn else b) =
      plan.buttons := by
    conv => rhs; rw [← List.map_id plan.buttons]
    apply List.map_congr_left
    intro b member
    by_cases here : b.buttonId = id
    · have key : button.buttonId = id := by simpa using List.find?_some found
      have one : b = button :=
        List.inj_on_of_nodup_map plan.unique member (List.mem_of_find?_eq_some found)
          (here.trans key.symm)
      rw [if_pos here, one]
      exact button.exchange_isOn_self
    · rw [if_neg here]
      rfl
  cases plan
  simp only [ButtonPlan.exchange, ButtonPlan.mk.injEq, true_and, and_true]
  exact same

theorem getButton_exchange (plan : ButtonPlan) (id : UInt16) (on : Bool) (id' : UInt16) :
    (plan.exchange id on).getButton id' =
      (plan.getButton id').map fun button => if id' = id then button.exchange on else button := by
  have kept : ∀ button : PhoneButton,
      (if button.buttonId = id then button.exchange on else button).buttonId = button.buttonId := by
    intro button
    split <;> rfl
  simp only [ButtonPlan.getButton, ButtonPlan.exchange, List.find?_map, Function.comp_def, kept]
  cases found : plan.buttons.find? fun button => button.buttonId = id' with
  | none => rfl
  | some button =>
    have key : button.buttonId = id' := by simpa using List.find?_some found
    simp only [Option.map_some, key]

@[simp] theorem getButton_updateUIs (plan : ButtonPlan) (id : UInt16) :
    plan.updateUIs.getButton id = plan.getButton id := rfl

theorem updateUIs_rendered (plan : ButtonPlan) :
    ∀ ui ∈ plan.updateUIs.phoneUis, ui.cachedButtonState = render plan.updateUIs.buttons := by
  intro ui member
  obtain ⟨old, _, rfl⟩ := List.mem_map.mp member
  rfl

variable [LibraryInterface]

/-- One notification for each AoR of each UI, showing the buttons as they are. -/
def rendering (plan : ButtonPlan) : List PJSIPNotify :=
  plan.phoneUis.flatMap fun ui => ui.compatibleAors.map (render plan.buttons).notification

theorem round_updateUIs (plan : ButtonPlan) : plan.updateUIs.round.Perm (rendering plan) := by
  refine (LibraryInterface.interleave_perm _).trans (.of_eq ?_)
  simp only [ButtonPlan.updateUIs, List.map_map, rendering, List.flatMap]
  rfl

/-- A button that is already as it should be causes nothing. -/
theorem setOn_same (found : plan.getButton id = some button) :
    plan.setOn id button.isOn = (plan, []) := by
  simp only [ButtonPlan.setOn, found, ne_eq, not_true_eq_false, if_false]

theorem setOn_flip (found : plan.getButton id = some button) (flips : on ≠ button.isOn) :
    plan.setOn id on =
      ((plan.exchange id on).updateUIs, (plan.exchange id on).updateUIs.round) := by
  simp only [ButtonPlan.setOn, found, if_pos flips, ButtonPlan.invalidate]

end Lemmas
end LampMonitor.ButtonState
