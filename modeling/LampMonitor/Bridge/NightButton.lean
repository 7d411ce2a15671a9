import LampMonitor.Asterisk.EventHandlers
import Mathlib.Algebra.Ring.Parity

/-! The night button between the phones, the application and Asterisk. A press
reads the local flag and posts its negation; the flag follows only when the
event of the change comes back. Both connections deliver in order. -/
namespace LampMonitor.Bridge.NightButton
open Ami Asterisk ButtonState Transition

/-- The action of `pushButton`. -/
def setvar (device : String) (buttonOn : Bool) : KeyValDict :=
  ⟨[("Action", "Setvar"), ("Variable", "DEVICE_STATE(" ++ device ++ ")"),
    ("Value", if buttonOn then "INUSE" else "NOT_INUSE")]⟩

/-- What `pushButton` returns to the phone: a clone of the button, switched. -/
def pushedScreen (button : PhoneButton) (buttonOn : Bool) : Xml.Document :=
  (createYealinkXML [button.exchange buttonOn] false).1

/-- Where the dialplan has the hint. -/
structure Extension where
  exten : String
  context : String
  deriving DecidableEq, Repr

/-- Whether the device is in use once Asterisk has applied the action. -/
def applySetvar (hint : String) (inUse : Bool) (action : KeyValDict) : Bool :=
  if action.get "Variable" = "DEVICE_STATE(" ++ hint ++ ")" then
    if action.get "Value" = "INUSE" then true
    else if action.get "Value" = "NOT_INUSE" then false
    else inUse
  else inUse

/-- The event of a change of the device. -/
def changed (hint : String) (extension : Extension) (inUse : Bool) : KeyValDict :=
  extensionStatus extension.exten extension.context hint (if inUse then "1" else "0")

structure State where
  button : PhoneButton
  /-- The presses that have read the flag and not yet posted, with `button_on`. -/
  pushing : List Bool
  actions : List KeyValDict
  inUse : Bool
  events : List KeyValDict
  /-- The responses to the phones. -/
  screens : List Xml.Document

/-- Presses of any phones: each begins on its own and posts in any order. -/
inductive Label where
  | push
  | post (k : Nat)
  | apply
  | deliver
  deriving DecidableEq, Repr

namespace State

def push (s : State) : State := { s with pushing := s.pushing ++ [!s.button.isOn] }

def post (device : String) (s : State) (k : Nat) : Option State :=
  s.pushing[k]?.map fun buttonOn =>
    { s with pushing := s.pushing.eraseIdx k, actions := s.actions ++ [setvar device buttonOn],
             screens := s.screens ++ [pushedScreen s.button buttonOn] }

def apply (hint : String) (extension : Extension) (s : State) : Option State :=
  match s.actions with
  | [] => none
  | action :: rest =>
    let inUse := applySetvar hint s.inUse action
    some { s with actions := rest, inUse := inUse,
                  events := if inUse = s.inUse then s.events else s.events ++ [changed hint extension inUse] }

/-- `setOn` of the event handler, if the event makes it call it. -/
def deliver (handler : NightEventHandler) (s : State) : Option State :=
  match s.events with
  | [] => none
  | event :: rest =>
    some { s with events := rest, button := (handler.amiEventHandler event).elim s.button s.button.exchange }

end State

/-- The device of the night button is the hint of its event handler. -/
def machine (handler : NightEventHandler) (extension : Extension) : Machine State Label where
  step s
    | .push => some s.push
    | .post k => s.post handler.hint k
    | .apply => s.apply handler.hint extension
    | .deliver => s.deliver handler

/-- Nothing is between a phone, the application and Asterisk. -/
structure Delivered (s : State) : Prop where
  pushing : s.pushing = []
  actions : s.actions = []
  events : s.events = []

def presses (ls : List Label) : Nat := ls.count .push

/-- What the device will be once every action posted so far is applied. -/
def eventual (hint : String) (s : State) : Bool := s.actions.foldl (applySetvar hint) s.inUse

/-- The press posts what the device is going to be anyway. -/
def lost (hint : String) (s : State) : Label → Bool
  | .post k => s.pushing[k]? = some (eventual hint s)
  | _ => false

section Steps

theorem applySetvar_setvar (hint : String) (inUse buttonOn : Bool) :
    applySetvar hint inUse (setvar hint buttonOn) = buttonOn := by
  cases buttonOn <;> simp [applySetvar, setvar, KeyValDict.get, KeyValDict.getValue]

theorem amiEventHandler_changed (handler : NightEventHandler)
    (extension : Extension) (inUse : Bool) :
    handler.amiEventHandler (changed handler.hint extension inUse) = some inUse := by
  cases inUse <;> simp [NightEventHandler.amiEventHandler, changed]

/-- The flag once every event sent so far is delivered. -/
def shown (handler : NightEventHandler) (s : State) : Bool :=
  s.events.foldl (fun on event => (handler.amiEventHandler event).getD on) s.button.isOn

/-- Asterisk sends an event for every change, and for nothing else. -/
theorem agree_step (agree : shown handler s = s.inUse)
    (stepped : (machine handler extension).step s l = some t) :
    shown handler t = t.inUse := by
  cases l with
  | push =>
    cases Option.some.inj stepped
    exact agree
  | post k =>
    obtain ⟨buttonOn, _, rfl⟩ := Option.map_eq_some_iff.mp stepped
    exact agree
  | apply =>
    have applied : s.apply handler.hint extension = some t := stepped
    unfold State.apply at applied
    split at applied
    · contradiction
    · rename_i action rest queue
      cases Option.some.inj applied
      by_cases unchanged : applySetvar handler.hint s.inUse action = s.inUse
      · simpa only [shown, unchanged, if_true] using agree
      · simp only [shown, unchanged, if_false, List.foldl_append, List.foldl_cons, List.foldl_nil,
          amiEventHandler_changed, Option.getD_some]
  | deliver =>
    have delivered : s.deliver handler = some t := stepped
    unfold State.deliver at delivered
    split at delivered
    · contradiction
    · rename_i event rest queue
      cases Option.some.inj delivered
      simp only [shown, queue, List.foldl_cons] at agree
      rw [← agree]
      cases call : handler.amiEventHandler event <;> rfl

/-- Applying an action only moves it from the queue into the device. -/
theorem eventual_relay (relays : l = .apply ∨ l = .deliver)
    (stepped : (machine handler extension).step s l = some t) :
    eventual handler.hint t = eventual handler.hint s ∧ t.pushing = s.pushing := by
  rcases relays with rfl | rfl
  · have applied : s.apply handler.hint extension = some t := stepped
    unfold State.apply at applied
    split at applied
    · contradiction
    · rename_i action rest queue
      cases Option.some.inj applied
      simp only [eventual, queue, List.foldl_cons, and_self]
  · have delivered : s.deliver handler = some t := stepped
    unfold State.deliver at delivered
    split at delivered
    · contradiction
    · cases Option.some.inj delivered
      exact ⟨rfl, rfl⟩

/-- The presses split into those that changed the eventual state of the device,
those that were lost and those that are still to be posted. -/
structure Inv (handler : NightEventHandler) (extension : Extension) (initial : State) (ls : List Label) (s : State) :
    Prop where
  reached : (machine handler extension).run initial ls = some s
  agree : shown handler s = s.inUse
  parity : ∃ flips,
    flips + (machine handler extension).count (lost handler.hint) initial ls + s.pushing.length = presses ls ∧
    (eventual handler.hint s ≠ initial.inUse ↔ Odd flips)

theorem inv_start (agree : s.button.isOn = s.inUse) (delivered : Delivered s) :
    Inv handler extension s [] s where
  reached := rfl
  agree := by simpa only [shown, delivered.events, List.foldl_nil] using agree
  parity :=
    ⟨0, by simp [delivered.pushing, Machine.count, presses], by simp [eventual, delivered.actions]⟩

theorem Inv.push (held : Inv handler extension initial ls s)
    (stepped : (machine handler extension).step s .push = some t) :
    Inv handler extension initial (ls ++ [.push]) t := by
  obtain ⟨flips, split, parity⟩ := held.parity
  refine ⟨Machine.run_snoc.mpr ⟨s, held.reached, stepped⟩,
    agree_step held.agree stepped, flips, ?_, ?_⟩
  all_goals cases Option.some.inj stepped
  · rw [Machine.count_snoc held.reached, presses, List.count_append, ← presses, ← split]
    simp only [State.push, lost, List.length_append, List.length_singleton,
      List.count_singleton_self, Bool.false_eq_true, if_false]
    omega
  · exact parity

theorem eventual_post (stepped : (machine handler extension).step s (.post k) = some t) :
    ∃ buttonOn, s.pushing[k]? = some buttonOn ∧ eventual handler.hint t = buttonOn ∧
    t.pushing = s.pushing.eraseIdx k := by
  obtain ⟨buttonOn, pressed, rfl⟩ := Option.map_eq_some_iff.mp stepped
  refine ⟨buttonOn, pressed, ?_, rfl⟩
  rw [eventual, List.foldl_append]
  exact applySetvar_setvar _ _ _

theorem Inv.post (held : Inv handler extension initial ls s)
    (stepped : (machine handler extension).step s (.post k) = some t) :
    Inv handler extension initial (ls ++ [.post k]) t := by
  obtain ⟨flips, split, parity⟩ := held.parity
  obtain ⟨buttonOn, pressed, eventually, pushing⟩ := eventual_post stepped
  have reached := Machine.run_snoc.mpr ⟨s, held.reached, stepped⟩
  have agree := agree_step held.agree stepped
  have bound := (List.getElem?_eq_some_iff.mp pressed).1
  have length := List.length_eraseIdx_of_lt bound
  have presses_eq : presses (ls ++ [.post k]) = presses ls := by simp [presses]
  by_cases same : buttonOn = eventual handler.hint s
  · have counted : lost handler.hint s (.post k) = true := by simp [lost, pressed, same]
    refine ⟨reached, agree, flips, ?_, ?_⟩
    · rw [Machine.count_snoc held.reached, counted, if_pos rfl, presses_eq, pushing]
      omega
    · rw [eventually, same]
      exact parity
  · have counted : lost handler.hint s (.post k) = false := by simp [lost, pressed, same]
    refine ⟨reached, agree, flips + 1, ?_, ?_⟩
    · rw [Machine.count_snoc held.reached, counted, presses_eq, pushing]
      simp only [Bool.false_eq_true, if_false]
      omega
    · rw [eventually, Nat.odd_add_one, ← parity]
      have flip : ∀ on before first : Bool, on ≠ before → (on ≠ first ↔ ¬ before ≠ first) := by
        decide
      exact flip _ _ _ same

/-- Asterisk's side and the event connection lose nothing. -/
theorem Inv.relay (held : Inv handler extension initial ls s) (relays : l = .apply ∨ l = .deliver)
    (stepped : (machine handler extension).step s l = some t) :
    Inv handler extension initial (ls ++ [l]) t := by
  obtain ⟨flips, split, parity⟩ := held.parity
  obtain ⟨same, pushing⟩ := eventual_relay relays stepped
  refine ⟨Machine.run_snoc.mpr ⟨s, held.reached, stepped⟩, agree_step held.agree stepped,
    flips, ?_, by rwa [same]⟩
  have presses_eq : presses (ls ++ [l]) = presses ls := by
    rcases relays with rfl | rfl <;> simp [presses]
  have counted : lost handler.hint s l = false := by rcases relays with rfl | rfl <;> rfl
  rw [Machine.count_snoc held.reached, counted, presses_eq, pushing]
  simpa only [Bool.false_eq_true, if_false, Nat.add_zero] using split

theorem inv_step (held : Inv handler extension initial ls s)
    (stepped : (machine handler extension).step s l = some t) :
    Inv handler extension initial (ls ++ [l]) t := by
  cases l with
  | push => exact held.push stepped
  | post k => exact held.post stepped
  | apply => exact held.relay (.inl rfl) stepped
  | deliver => exact held.relay (.inr rfl) stepped

theorem inv_run (agree : s.button.isOn = s.inUse) (idle : Delivered s)
    (reached : (machine handler extension).run s ls = some t) : Inv handler extension s ls t :=
  Machine.trace_invariant (C := fun _ _ => True) (inv_start agree idle)
    (fun held _ stepped => inv_step held stepped)
    (Machine.Meets.of_labels fun _ _ => trivial) reached

theorem Inv.agree_delivered (held : Inv handler extension initial ls t) (delivered : Delivered t) :
    t.button.isOn = t.inUse := by
  simpa only [shown, delivered.events, List.foldl_nil] using held.agree

theorem Inv.parity_delivered (held : Inv handler extension initial ls t) (delivered : Delivered t) :
    (t.inUse ≠ initial.inUse ↔ Odd (presses ls)) ↔
      Even ((machine handler extension).count (lost handler.hint) initial ls) := by
  obtain ⟨flips, split, parity⟩ := held.parity
  have eventually : eventual handler.hint t = t.inUse := by
    simp only [eventual, delivered.actions, List.foldl_nil]
  rw [eventually] at parity
  rw [delivered.pushing, List.length_nil, Nat.add_zero] at split
  rw [parity, ← split, Nat.odd_add]
  tauto

end Steps

/-- Every run of any presses that begins in agreement and ends delivered: the
button shows the device, and the device has changed as the number of presses
says exactly if an even number of presses was lost. -/
theorem press_parity_iff {handler : NightEventHandler} {extension : Extension} {s t : State}
    (agree : s.button.isOn = s.inUse) (idle : Delivered s)
    (reached : (machine handler extension).run s ls = some t) (delivered : Delivered t) :
    t.button.isOn = t.inUse ∧ ((t.inUse ≠ s.inUse ↔ Odd (presses ls)) ↔
      Even ((machine handler extension).count (lost handler.hint) s ls)) := by
  have held := inv_run agree idle reached
  exact ⟨held.agree_delivered delivered, held.parity_delivered delivered⟩

section Alone

/-- A phone begins a press only while nothing else is under way. -/
def Alone (s : State) (l : Label) : Prop := l = .push → Delivered s

structure Single (handler : NightEventHandler) (s : State) : Prop where
  agree : shown handler s = s.inUse
  pushing : s.pushing = [] ∨ s.pushing = [!s.inUse] ∧ s.actions = []

theorem Single.kept (held : Single handler s) (l : Label) : lost handler.hint s l = false := by
  cases l with
  | post k =>
    rcases held.pushing with none_pushing | ⟨one, none_posted⟩
    · simp [lost, none_pushing]
    · cases k <;> simp [lost, one, eventual, none_posted]
  | _ => rfl

theorem single_step (held : Single handler s) (alone : Alone s l)
    (stepped : (machine handler extension).step s l = some t) : Single handler t := by
  refine ⟨agree_step held.agree stepped, ?_⟩
  cases l with
  | push =>
    have idle := alone rfl
    cases Option.some.inj stepped
    have agree : s.button.isOn = s.inUse := by
      simpa only [shown, idle.events, List.foldl_nil] using held.agree
    refine .inr ⟨?_, idle.actions⟩
    simp only [State.push, idle.pushing, List.nil_append, agree]
  | post k =>
    obtain ⟨buttonOn, pressed, _, pushing⟩ := eventual_post stepped
    rcases held.pushing with none_pushing | ⟨one, _⟩
    · simp [none_pushing] at pressed
    · cases k with
      | zero => exact .inl (by rw [pushing, one]; rfl)
      | succ k => simp [one] at pressed
  | apply =>
    obtain ⟨_, pushing⟩ := eventual_relay (.inl rfl) stepped
    rcases held.pushing with none_pushing | ⟨_, none_posted⟩
    · exact .inl (pushing.trans none_pushing)
    · have applied : s.apply handler.hint extension = some t := stepped
      simp [State.apply, none_posted] at applied
  | deliver =>
    have delivered : s.deliver handler = some t := stepped
    unfold State.deliver at delivered
    split at delivered
    · contradiction
    · cases Option.some.inj delivered
      exact held.pushing

theorem none_lost_of_alone (held : Single handler s)
    (meets : (machine handler extension).Meets Alone s ls) :
    (machine handler extension).Meets (fun s l => lost handler.hint s l = false) s ls := by
  induction ls generalizing s with
  | nil => trivial
  | cons l ls ih =>
    exact ⟨held.kept l, fun t stepped => ih (single_step held meets.1 stepped) (meets.2 t stepped)⟩

/-- Presses that do not overlap with one another or with a message toggle the
night state once each. -/
theorem press_parity_of_alone {handler : NightEventHandler} {extension : Extension} {s t : State}
    (agree : s.button.isOn = s.inUse) (idle : Delivered s)
    (meets : (machine handler extension).Meets Alone s ls)
    (reached : (machine handler extension).run s ls = some t) (delivered : Delivered t) :
    t.button.isOn = t.inUse ∧ (t.inUse ≠ s.inUse ↔ Odd (presses ls)) := by
  have held := inv_run agree idle reached
  have single : Single handler s :=
    ⟨by simpa only [shown, idle.events, List.foldl_nil] using agree, .inl idle.pushing⟩
  refine ⟨held.agree_delivered delivered, (held.parity_delivered delivered).mpr ?_⟩
  rw [Machine.count_eq_zero (none_lost_of_alone single meets)]
  exact Even.zero

end Alone

section Runs

def nightHandler : NightEventHandler := ⟨(0, 1), "Custom:night"⟩

def nightExtension : Extension := ⟨"800", "hints"⟩

def nightOff : State := ⟨⟨1, .red, .off, false, false, false⟩, [], [], false, [], []⟩

/-- Two phones press before the event of either press is back. -/
theorem overlapping_presses_lost : ∃ t,
    (machine nightHandler nightExtension).run nightOff
      [.push, .push, .post 0, .post 0, .apply, .apply, .deliver] = some t ∧ Delivered t ∧
    ¬ (t.inUse ≠ nightOff.inUse ↔ Odd (presses [.push, .push, .post 0, .post 0, .apply, .apply, .deliver])) := by
  refine ⟨_, rfl, ⟨rfl, rfl, rfl⟩, ?_⟩
  decide

/-- One press, all the way round. -/
theorem press_parity_iff_once : ∃ t,
    (machine nightHandler nightExtension).run nightOff [.push, .post 0, .apply, .deliver] = some t ∧
    t.button.isOn = t.inUse ∧ ((t.inUse ≠ nightOff.inUse ↔ Odd (presses [.push, .post 0, .apply, .deliver])) ↔
      Even ((machine nightHandler nightExtension).count (lost nightHandler.hint) nightOff
        [.push, .post 0, .apply, .deliver])) :=
  ⟨_, rfl, press_parity_iff rfl ⟨rfl, rfl, rfl⟩ rfl ⟨rfl, rfl, rfl⟩⟩

end Runs
end LampMonitor.Bridge.NightButton
