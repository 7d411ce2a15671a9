import LampMonitor.Bridge.LedCommands
import LampMonitor.ButtonState.Interleaving

/-! What a rendering shows while other threads switch the buttons. An update loads
the flag of each button twice, once for its LED and once for whether it is
critical. The locks around updates keep no thread from switching a button, so
updates may start and advance here at any time. -/
namespace LampMonitor.ButtonState.RenderedStates
open Ami Bridge Interleaving Transition

structure State (ι : Type) where
  plan : ButtonPlan
  sent : List PJSIPNotify
  /-- The UI that a thread updates, and how far it is. -/
  updates : ι → Nat × Task

inductive Label (ι : Type) where
  | setOn (id : UInt16) (on : Bool)
  | update (i : ι) (ui : Nat)
  | advance (i : ι)

/-- The critical flag is what the document beeps for, and both say whether some
button is critical in the state in which its LED is shown. -/
def Consistent (buttons : List PhoneButton) (state : PhoneUIState) : Prop :=
  ∃ leds, readExecution state.xml = some ⟨leds, state.isCritical⟩ ∧
    leds.map Led.line = buttons.map (·.buttonId.toNat) ∧
    (state.isCritical = true ↔ ∃ button ∈ buttons, ∃ led ∈ leds, led.line = button.buttonId.toNat ∧
      (button.exchange (led.state ≠ "off")).isCritical = true)

section Shown

/-- The same buttons, apart from their flags. -/
def Same (seen buttons : List PhoneButton) : Prop :=
  seen.map (·.exchange false) = buttons.map (·.exchange false)

theorem led_on (button : PhoneButton) : decide ((ledOf button).state ≠ "off") = button.isOn := by
  obtain ⟨buttonId, color, flashMode, criticalWhenOn, criticalWhenOff, on⟩ := button
  cases on <;> cases flashMode <;> rfl

theorem buttonId_of_same {a b : PhoneButton} (same : a.exchange false = b.exchange false) :
    a.buttonId = b.buttonId := by
  rw [← a.exchange_buttonId false, same, b.exchange_buttonId]

theorem exchange_of_same {a b : PhoneButton}
    (same : a.exchange false = b.exchange false) (on : Bool) :
    a.exchange on = b.exchange on := by
  have again : ∀ button : PhoneButton, (button.exchange false).exchange on = button.exchange on :=
    fun _ => rfl
  rw [← again a, same, again]

/-- The buttons as their items show them decide whether the state is critical. -/
def Rendered (buttons : List PhoneButton) (state : PhoneUIState) : Prop :=
  ∃ seen, state.xml = executeDocument (seen.map executeItem) state.isCritical ∧ Same seen buttons ∧
    state.isCritical = seen.any PhoneButton.isCritical

theorem Rendered.consistent (unique : (buttons.map PhoneButton.buttonId).Nodup)
    (rendered : Rendered buttons state) :
    Consistent buttons state := by
  obtain ⟨seen, document, same, critical⟩ := rendered
  have ids : seen.map PhoneButton.buttonId = buttons.map PhoneButton.buttonId := by
    have masked := congrArg (List.map PhoneButton.buttonId) same
    simpa only [List.map_map, Function.comp_def, PhoneButton.exchange_buttonId] using masked
  refine ⟨seen.map ledOf, by rw [document, readExecution_executeDocument], ?_, ?_⟩
  · simpa [ledOf, Function.comp_def] using congrArg (List.map UInt16.toNat) ids
  rw [critical, List.any_eq_true]
  constructor
  · rintro ⟨shown, member, isCritical⟩
    have mask : shown.exchange false ∈ buttons.map (·.exchange false) :=
      same ▸ List.mem_map_of_mem member
    obtain ⟨button, known, equal⟩ := List.mem_map.mp mask
    refine ⟨button, known, ledOf shown, List.mem_map_of_mem member,
      congrArg UInt16.toNat (buttonId_of_same equal).symm, ?_⟩
    rw [led_on, exchange_of_same equal, shown.exchange_isOn_self]
    exact isCritical
  · rintro ⟨button, known, led, shows, line, isCritical⟩
    obtain ⟨shown, member, rfl⟩ := List.mem_map.mp shows
    have mask : shown.exchange false ∈ buttons.map (·.exchange false) :=
      same ▸ List.mem_map_of_mem member
    obtain ⟨other, known', equal⟩ := List.mem_map.mp mask
    have id : other.buttonId = button.buttonId :=
      (buttonId_of_same equal).trans (UInt16.toNat_inj.mp line)
    obtain rfl := List.inj_on_of_nodup_map unique known' known id
    refine ⟨shown, member, ?_⟩
    rw [led_on, exchange_of_same equal, shown.exchange_isOn_self] at isCritical
    exact isCritical

end Shown

section Runs
variable [LibraryInterface] {ι : Type} [DecidableEq ι]

def machine : Machine (State ι) (Label ι) where
  step s
    | .setOn id on => some { s with plan := s.plan.exchange id on }
    | .update i ui =>
      if (s.updates i).2.isDone then
        some { s with updates := Function.update s.updates i (ui, .read 0 [] false) }
      else none
    | .advance i =>
      (advanceTask s.plan s.sent (s.updates i).1 (s.updates i).2).map fun (plan, sent, next) =>
        ⟨plan, sent, Function.update s.updates i ((s.updates i).1, next)⟩

/-- Every UI has been rendered once, and no update is under way. -/
def start (plan : ButtonPlan) : State ι := ⟨plan.updateUIs, [], fun _ => (0, .send [] [])⟩

/-- The second load of a button finds the flag as its item shows it, unless the
flag makes no difference: the two settings of the button agree, or an earlier
button is critical. -/
def Steady (plan : ButtonPlan) : Task → Prop
  | .readCritical k items critical => critical = true ∨ ∀ button, plan.buttons[k]? = some button →
      button.criticalWhenOn = button.criticalWhenOff ∨ items.getLast? = some (executeItem button)
  | _ => True

def Undisturbed (s : State ι) : Label ι → Prop
  | .advance i => Steady s.plan (s.updates i).2
  | _ => True

section Steps

/-- How far the update of a UI is: what its loads have found. -/
def TaskOk (buttons : List PhoneButton) : Task → Prop
  | .read k items critical => ∃ seen, items = seen.map executeItem ∧ Same seen (buttons.take k) ∧
      critical = seen.any PhoneButton.isCritical
  | .readCritical k items critical => ∃ seen last, items = (seen ++ [last]).map executeItem ∧
      Same seen (buttons.take k) ∧
      (buttons[k]?).map (·.exchange false) = some (last.exchange false) ∧
      critical = seen.any PhoneButton.isCritical
  | .store state => Rendered buttons state
  | .load | .send _ _ => True

structure Inv (buttons : List PhoneButton) (s : State ι) : Prop where
  kept : Same s.plan.buttons buttons
  stored : ∀ ui ∈ s.plan.phoneUis, Rendered buttons ui.cachedButtonState
  tasks : ∀ i, TaskOk buttons (s.updates i).2

omit [LibraryInterface] in
theorem same_exchange (plan : ButtonPlan) (id : UInt16) (on : Bool) :
    Same (plan.exchange id on).buttons plan.buttons := by
  rw [Same, ButtonPlan.exchange, List.map_map]
  refine List.map_congr_left fun button _ => ?_
  rw [Function.comp_apply]
  split <;> rfl

omit [LibraryInterface] [DecidableEq ι] in
theorem inv_start (plan : ButtonPlan) : Inv plan.buttons (start plan : State ι) where
  kept := rfl
  stored ui member := by
    refine ⟨plan.buttons, ?_, rfl, ?_⟩
    all_goals rw [updateUIs_rendered plan ui member, render_eq]; rfl
  tasks _ := trivial

omit [LibraryInterface] in
/-- The button at a place of the plan is the one listed there, with some flag. -/
theorem place_of_same {plan : ButtonPlan} {k : Nat} (kept : Same plan.buttons buttons)
    (found : plan.buttons[k]? = some button) :
    (buttons[k]?).map (·.exchange false) = some (button.exchange false) := by
  rw [← List.getElem?_map, ← kept, List.getElem?_map, found, Option.map_some]

omit [LibraryInterface] in
theorem take_succ_of_same {buttons : List PhoneButton} {k : Nat} (same : Same seen (buttons.take k))
    (place : (buttons[k]?).map (·.exchange false) = some (last.exchange false)) :
    Same (seen ++ [last]) (buttons.take (k + 1)) := by
  simp only [Same, List.map_take, ← List.getElem?_map] at same place ⊢
  rw [List.map_append, same, List.take_add_one, place]
  rfl

omit [LibraryInterface] in
/-- The second load counts the button as its item shows it. -/
theorem isCritical_seen {last button : PhoneButton}
    (same : last.exchange false = button.exchange false)
    (steady : button.criticalWhenOn = button.criticalWhenOff ∨
      executeItem last = executeItem button) :
    button.isCritical = last.isCritical := by
  have settings := exchange_of_same same
  rcases steady with equal | shown
  · have either : ∀ on, (button.exchange on).isCritical = button.criticalWhenOn := by
      intro on
      cases on
      · exact equal.symm
      · rfl
    rw [← button.exchange_isOn_self, ← last.exchange_isOn_self, settings, either, either]
  · have leds : ledOf last = ledOf button :=
      Option.some.inj ((readItem_executeItem last).symm.trans
        ((congrArg readItem shown).trans (readItem_executeItem button)))
    have flags : last.isOn = button.isOn := by rw [← led_on, leds, led_on]
    rw [← button.exchange_isOn_self, ← last.exchange_isOn_self, settings, flags]

theorem advance_ok {plan plan' : ButtonPlan} (kept : Same plan.buttons buttons)
    (stored : ∀ ui ∈ plan.phoneUis, Rendered buttons ui.cachedButtonState)
    (ok : TaskOk buttons task) (steady : Steady plan task)
    (advanced : advanceTask plan sent u task = some (plan', sent', next)) :
    (∀ ui ∈ plan'.phoneUis, Rendered buttons ui.cachedButtonState) ∧ TaskOk buttons next := by
  cases task with
  | read k items critical =>
    obtain ⟨seen, rfl, same, critical⟩ := ok
    rw [advanceTask] at advanced
    cases found : plan.buttons[k]? with
    | some button =>
      rw [found] at advanced
      cases Option.some.inj advanced
      exact ⟨stored, seen, button, by simp, same, place_of_same kept found, critical⟩
    | none =>
      rw [found] at advanced
      cases Option.some.inj advanced
      refine ⟨stored, seen, rfl, ?_, critical⟩
      have whole : buttons.length ≤ k := by
        have lengths := congrArg List.length kept
        simp only [List.length_map] at lengths
        rw [← lengths]
        exact List.getElem?_eq_none_iff.mp found
      rwa [List.take_of_length_le whole] at same
  | readCritical k items critical =>
    obtain ⟨seen, last, rfl, same, place, counted⟩ := ok
    obtain ⟨button, found, result⟩ := Option.map_eq_some_iff.mp advanced
    cases result
    refine ⟨stored, seen ++ [last], rfl, take_succ_of_same same place, ?_⟩
    rw [List.any_append, ← counted, List.any_cons, List.any_nil, Bool.or_false]
    rcases steady with decided | steady
    · rw [decided, Bool.true_or, Bool.true_or]
    · have mask : last.exchange false = button.exchange false :=
        Option.some.inj (place.symm.trans (place_of_same kept found))
      have shown : button.criticalWhenOn = button.criticalWhenOff ∨
          executeItem last = executeItem button := by
        simpa using steady button found
      rw [isCritical_seen mask shown]
  | store state =>
    cases Option.some.inj advanced
    refine ⟨?_, trivial⟩
    intro ui member
    obtain ⟨k, bound, rfl⟩ := List.mem_iff_getElem.mp member
    rw [List.getElem_modify]
    split
    · exact ok
    · exact stored _ (List.getElem_mem _)
  | load =>
    obtain ⟨ui, _, result⟩ := Option.map_eq_some_iff.mp advanced
    cases result
    exact ⟨stored, trivial⟩
  | send values aors =>
    cases aors with
    | nil => cases advanced
    | cons aor rest =>
      cases Option.some.inj advanced
      exact ⟨stored, trivial⟩

omit [LibraryInterface] in
theorem tasks_update {updates : ι → Nat × Task} (tasks : ∀ j, TaskOk buttons (updates j).2)
    (i : ι) (ui : Nat) (ok : TaskOk buttons task) (j : ι) :
    TaskOk buttons (Function.update updates i (ui, task) j).2 := by
  by_cases here : j = i
  · rw [here, Function.update_self]
    exact ok
  · rw [Function.update_of_ne here]
    exact tasks j

theorem inv_step {s t : State ι} (held : Inv buttons s) (steady : Undisturbed s l)
    (stepped : machine.step s l = some t) :
    Inv buttons t := by
  cases l with
  | setOn id on =>
    cases Option.some.inj stepped
    exact ⟨(same_exchange s.plan id on).trans held.kept, held.stored, held.tasks⟩
  | update i ui =>
    simp only [machine] at stepped
    split at stepped
    · cases Option.some.inj stepped
      exact ⟨held.kept, held.stored, tasks_update held.tasks i ui ⟨[], rfl, rfl, rfl⟩⟩
    · cases stepped
  | advance i =>
    obtain ⟨⟨plan, sent, next⟩, advanced, rfl⟩ := Option.map_eq_some_iff.mp stepped
    obtain ⟨stored, ok⟩ := advance_ok held.kept held.stored (held.tasks i) steady advanced
    exact ⟨(congrArg (Same · buttons) (advanceTask_buttons advanced)).mpr held.kept,
      stored, tasks_update held.tasks i _ ok⟩

end Steps

/-- In every run in which no flag that makes a difference is exchanged between
the two loads of its button, every state that a UI ever stores is consistent. -/
theorem stored_consistent (plan : ButtonPlan) (ls : List (Label ι)) (t : State ι)
    (undisturbed : machine.Meets Undisturbed (start plan) ls)
    (reached : machine.run (start plan) ls = some t) :
    ∀ ui ∈ t.plan.phoneUis, Consistent t.plan.buttons ui.cachedButtonState := by
  have held : Inv plan.buttons t :=
    Machine.run_invariant_meets (fun held steady stepped => inv_step held steady stepped)
      undisturbed reached (inv_start plan)
  intro ui member
  obtain ⟨seen, document, same, critical⟩ := held.stored ui member
  exact Rendered.consistent t.plan.unique ⟨seen, document, same.trans held.kept.symm, critical⟩

end Runs

section Flipped

local instance renderedInOrder : LibraryInterface := sequentialInterface

/-- The lamp goes off between the two loads: the stored state shows it on, where
its button is critical, and says that nothing is critical. -/
theorem flipped_between_loads : ∃ t : State Unit,
    machine.run (start officePlan)
      [.setOn 1 true, .update () 0, .advance (), .setOn 1 false, .advance (), .advance (),
      .advance ()] = some t ∧
    ∃ ui ∈ t.plan.phoneUis, ¬ Consistent t.plan.buttons ui.cachedButtonState := by
  refine ⟨_, rfl, _, List.mem_cons_self, ?_⟩
  rintro ⟨leds, execution, _, critical⟩
  have shown : readExecution
      (executeDocument [executeItem ⟨1, .red, .off, true, false, true⟩] false) =
      some ⟨leds, false⟩ :=
    execution
  have read := readExecution_executeDocument [⟨1, .red, .off, true, false, true⟩] false
  obtain rfl : _ = leds := congrArg Execution.leds (Option.some.inj (read.symm.trans shown))
  exact Bool.false_ne_true (critical.mpr ⟨_, List.mem_cons_self, _, List.mem_cons_self, rfl, rfl⟩)

/-- A lamp switched on before it is rendered. -/
theorem stored_consistent_on : ∃ t : State Unit,
    machine.run (start officePlan)
      [.setOn 1 true, .update () 0, .advance (), .advance (), .advance (), .advance ()] =
      some t ∧ ∀ ui ∈ t.plan.phoneUis, Consistent t.plan.buttons ui.cachedButtonState := by
  refine ⟨_, rfl, stored_consistent officePlan
    [.setOn 1 true, .update () 0, .advance (), .advance (), .advance (), .advance ()] _ ?_ rfl⟩
  refine .cons trivial rfl (.cons trivial rfl (.cons trivial rfl (.cons (.inr ?_) rfl
    (.cons trivial rfl (.cons trivial rfl trivial)))))
  intro button found
  cases Option.some.inj found
  exact .inr rfl

end Flipped
end LampMonitor.ButtonState.RenderedStates
