import LampMonitor.ButtonState.ButtonPlan
import LampMonitor.Cache.Endpoints

/-! Registration events: the filter of the callback, and what is published to a
phone that registers. A phone that is already known only receives the states
that are critical. -/
namespace LampMonitor.RegisterEventHandler
open Ami Bridge ButtonState DeskphoneCache

def validEvents : List String := ["SuccessfulAuth"]

def validServices : List String := ["PJSIP"]

/-- The phone of an event that the callback does not ignore. -/
def monitored (event : KeyValDict) : Option EndpointKey :=
  match event.getValue "Event" with
  | none => none
  | some eventType =>
    if !validEvents.contains eventType then none
    else if !validServices.contains (event.get "Service") then none
    else some ⟨event.get "AccountID", event.get "RemoteAddress"⟩

/-- A phone at AoR 1001 registers. -/
def registration : KeyValDict :=
  ⟨[("Event", "SuccessfulAuth"), ("Service", "PJSIP"), ("AccountID", "1001"),
    ("RemoteAddress", "IPV4/UDP/10.0.0.7/5060")]⟩

variable [LibraryInterface]

def publishPhoneState (buttonPlans : List ButtonPlan) (newAor : Bool) (aor : String) : List PJSIPNotify :=
  buttonPlans.flatMap fun plan =>
    ((plan.getPhoneUIs aor).filter fun ui => !(!newAor && !ui.isCritical)).map fun ui => ui.notify aor

/-- The notifications and the cache operation of one event. -/
def amiEventHandler (buttonPlans : List ButtonPlan) (endpoints : Endpoints) (expiry now : Int) (event : KeyValDict) :
    List PJSIPNotify × Option HandsetData :=
  match monitored event with
  | none => ([], none)
  | some key =>
    let (newAor, data) := addEndpoint endpoints expiry now key.aor key.endpoint
    (publishPhoneState buttonPlans newAor key.aor, some data)

/-- One notification to the AoR for each UI of each plan that is compatible with
it and whose cached state is selected, showing that state. -/
def notifications (plans : List ButtonPlan) (aor : String) (selected : PhoneUIState → Bool) : List PJSIPNotify :=
  plans.flatMap fun plan =>
    (plan.phoneUis.filter fun ui => aor ∈ ui.compatibleAors ∧ selected ui.cachedButtonState = true).map fun ui =>
      ui.cachedButtonState.notification aor

section Lemmas

@[simp] theorem publishPhoneState_append (first second : List ButtonPlan)
    (newAor : Bool) (aor : String) :
    publishPhoneState (first ++ second) newAor aor =
      publishPhoneState first newAor aor ++ publishPhoneState second newAor aor := by
  simp only [publishPhoneState, List.flatMap_append]

theorem publishPhoneState_eq (plans : List ButtonPlan) (newAor : Bool) (aor : String) :
    publishPhoneState plans newAor aor =
      notifications plans aor fun state => newAor || state.isCritical := by
  refine congrArg (List.flatMap · plans) (funext fun plan => ?_)
  rw [ButtonPlan.getPhoneUIs, List.filter_filter]
  have same : ∀ ui : PhoneUI, (!(!newAor && !ui.isCritical) && ui.hasAoR aor) =
      decide (aor ∈ ui.compatibleAors ∧ (newAor || ui.cachedButtonState.isCritical) = true) := by
    intro ui
    rw [PhoneUI.hasAoR, PhoneUI.isCritical]
    cases newAor <;> cases ui.cachedButtonState.isCritical <;> simp
  simp only [same, PhoneUI.notify_eq]

theorem publishPhoneState_none
    (incompatible : ∀ plan ∈ buttonPlans, ∀ ui ∈ plan.phoneUis, aor ∉ ui.compatibleAors) :
    publishPhoneState buttonPlans newAor aor = [] := by
  rw [publishPhoneState_eq, notifications, List.flatMap_eq_nil_iff]
  intro plan member
  rw [List.map_eq_nil_iff, List.filter_eq_nil_iff]
  intro ui inside selected
  exact incompatible plan member ui inside (of_decide_eq_true selected).1

end Lemmas
end LampMonitor.RegisterEventHandler
