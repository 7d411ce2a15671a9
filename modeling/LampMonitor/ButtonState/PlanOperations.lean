import LampMonitor.Bridge.PhoneUi
import LampMonitor.KeyedTable
import LampMonitor.Transition
import Mathlib.Logic.Function.Basic

/-! The mutating operations of one button plan, one at a time, with buttons and
UIs behind shared pointers: one button may be listed under several ids or belong
to another plan. Each operation has its own way of re-rendering, or none. -/
namespace LampMonitor.ButtonState.PlanOperations
open Bridge Transition

/-- Where `std::unordered_map` enumerates its entries once a new one is in. -/
class HashOrder (β : Type) where
  emplace : List (UInt16 × β) → UInt16 × β → List (UInt16 × β)
  emplace_perm : ∀ rows row, (emplace rows row).Perm (row :: rows)

/-- `β` and `γ` are the addresses of buttons and of UIs. -/
structure State (β γ : Type) where
  button : β → PhoneButton
  /-- `button_plan_.lock()` gives this plan. -/
  attached : β → Bool
  ui : γ → PhoneUI
  buttons : KeyedTable UInt16 β
  phoneUis : List γ

inductive Operation (β γ : Type) where
  | addButton (id : UInt16) (button : β)
  | removeButton (id : UInt16)
  | registerUI (ui : γ)
  | setOn (button : β) (on : Bool)

namespace State
variable {β γ : Type} [DecidableEq β] [DecidableEq γ]

def getButtons (s : State β γ) : List PhoneButton := s.buttons.rows.map fun row => s.button row.2

/-- `emplace` refuses an id that is taken; nothing is rendered either way. -/
def addButton [HashOrder β] (s : State β γ) (id : UInt16) (button : β) : State β γ :=
  if fresh : id ∈ s.buttons.keys then s
  else
    { s with buttons :=
        { rows := HashOrder.emplace s.buttons.rows (id, button)
          unique := ((HashOrder.emplace_perm s.buttons.rows (id, button)).map Prod.fst).nodup_iff.mpr
            (List.nodup_cons.mpr ⟨fresh, s.buttons.unique⟩) } }

def removeButton (s : State β γ) (id : UInt16) : State β γ :=
  { s with buttons := s.buttons.delete (fun key _ => key = id) }

def registerUI (s : State β γ) (ui : γ) : State β γ :=
  if ui ∈ s.phoneUis then s
  else { s with phoneUis := s.phoneUis ++ [ui], ui := Function.update s.ui ui ((s.ui ui).update s.getButtons) }

def invalidate (s : State β γ) : State β γ :=
  { s with ui := fun ui => if ui ∈ s.phoneUis then (s.ui ui).update s.getButtons else s.ui ui }

def setOn (s : State β γ) (button : β) (on : Bool) : State β γ :=
  if on = (s.button button).isOn then s
  else
    let exchanged := { s with button := Function.update s.button button ((s.button button).exchange on) }
    if s.attached button then exchanged.invalidate else exchanged

end State

section Machine
variable {β γ : Type} [DecidableEq β] [DecidableEq γ] [HashOrder β]

def machine : Machine (State β γ) (Operation β γ) where
  step s
    | .addButton id button => some (s.addButton id button)
    | .removeButton id => some (s.removeButton id)
    | .registerUI ui => some (s.registerUI ui)
    | .setOn button on => some (s.setOn button on)

/-- Every registered UI has cached the rendering of the buttons as they are. -/
def Current (s : State β γ) : Prop := ∀ ui ∈ s.phoneUis, (s.ui ui).cachedButtonState = render s.getButtons

/-- While a UI is registered no button comes or goes, and a button of another
plan is not switched. -/
def Quiet (s : State β γ) (op : Operation β γ) : Prop :=
  s.phoneUis = [] ∨
    match op with
    | .addButton id _ => id ∈ s.buttons.keys
    | .removeButton id => id ∉ s.buttons.keys
    | .registerUI _ => True
    | .setOn button on => on = (s.button button).isOn ∨ s.attached button = true ∨ ∀ row ∈ s.buttons.rows, row.2 ≠ button

section Renderings

/-- A rendering shows which items it was made of. -/
theorem render_items {buttons buttons' : List PhoneButton}
    (same : render buttons = render buttons') :
    buttons.map executeItem = buttons'.map executeItem := by
  rw [render_eq, render_eq] at same
  have documents := congrArg PhoneUIState.xml same
  simp only [executeDocument, Xml.Document.mk.injEq, Xml.element.injEq, true_and] at documents
  exact documents.2

/-- A rendering shows whether each button is on. -/
theorem executeItem_on {button : PhoneButton}
    (same : executeItem button = executeItem (button.exchange on)) :
    on = button.isOn := by
  simp only [executeItem, Xml.element.injEq, List.cons.injEq, Prod.mk.injEq, and_true,
    true_and] at same
  have states : toButtonStateString button.flashMode button.isOn =
      toButtonStateString button.flashMode on :=
    (String.append_right_inj _).mp same
  revert states
  cases button.isOn <;> cases on <;> cases button.flashMode <;> decide

end Renderings

omit [DecidableEq β] [DecidableEq γ] [HashOrder β] in
theorem getButtons_length (s : State β γ) : s.getButtons.length = s.buttons.rows.length :=
  List.length_map _

omit [DecidableEq γ] [HashOrder β] in
/-- The exchange shows only in plans that list the button. -/
theorem getButtons_exchange {s : State β γ} (unlisted : ∀ row ∈ s.buttons.rows, row.2 ≠ button) :
    (s.buttons.rows.map fun row => Function.update s.button button exchanged row.2) =
      s.getButtons := by
  apply List.map_congr_left
  intro row member
  exact Function.update_of_ne (unlisted row member) _ _

omit [DecidableEq β] [HashOrder β] in
theorem current_registerUI {s : State β γ} (current : Current s) (ui : γ) :
    Current (s.registerUI ui) := by
  by_cases known : ui ∈ s.phoneUis
  · rw [State.registerUI, if_pos known]
    exact current
  · rw [State.registerUI, if_neg known]
    intro other member
    rcases List.mem_append.mp member with old | new
    · have different : other ≠ ui := fun same => known (same ▸ old)
      have kept : Function.update s.ui ui ((s.ui ui).update s.getButtons) other = s.ui other :=
        Function.update_of_ne different _ _
      exact (congrArg PhoneUI.cachedButtonState kept).trans (current other old)
    · cases List.mem_singleton.mp new
      have updated : Function.update s.ui ui ((s.ui ui).update s.getButtons) ui =
          (s.ui ui).update s.getButtons :=
        Function.update_self _ _ _
      exact congrArg PhoneUI.cachedButtonState updated

omit [HashOrder β] [DecidableEq β] in
theorem current_invalidate (s : State β γ) : Current s.invalidate := by
  intro ui member
  have updated : s.invalidate.ui ui = (s.ui ui).update s.getButtons := if_pos member
  exact congrArg PhoneUI.cachedButtonState updated

omit [HashOrder β] in
theorem current_setOn {s : State β γ} (current : Current s)
    (shown : s.phoneUis = [] ∨ s.attached button = true ∨ ∀ row ∈ s.buttons.rows, row.2 ≠ button) :
    Current (s.setOn button on) := by
  unfold State.setOn
  split
  · exact current
  · split
    · exact current_invalidate _
    · rename_i foreign
      intro ui member
      rcases shown with none_registered | attached | unlisted
      · exact absurd member (by simp [none_registered])
      · exact absurd attached foreign
      · exact (current ui member).trans (congrArg render (getButtons_exchange unlisted).symm)

theorem current_step {s t : State β γ} {op : Operation β γ} (current : Current s)
    (quiet : Quiet s op) (stepped : machine.step s op = some t) : Current t := by
  cases op with
  | addButton id button =>
    cases Option.some.inj stepped
    by_cases taken : id ∈ s.buttons.keys
    · simpa only [State.addButton, dif_pos taken] using current
    · have none_registered : s.phoneUis = [] := quiet.resolve_right taken
      intro ui member
      simp [State.addButton, taken, none_registered] at member
  | removeButton id =>
    cases Option.some.inj stepped
    rcases quiet with none_registered | absent
    · intro ui member
      simp [State.removeButton, none_registered] at member
    · have same : (s.removeButton id).getButtons = s.getButtons := by
        unfold State.getButtons
        congr 1
        apply List.filter_eq_self.mpr
        intro row member
        have key : row.1 ≠ id := fun same => absent (same ▸ List.mem_map_of_mem member)
        simpa using key
      intro ui member
      rw [same]
      exact current ui member
  | registerUI ui =>
    cases Option.some.inj stepped
    exact current_registerUI current ui
  | setOn button on =>
    cases Option.some.inj stepped
    by_cases same : on = (s.button button).isOn
    · simpa only [State.setOn, if_pos same] using current
    · exact current_setOn current (quiet.imp_right fun shown => shown.resolve_left same)

omit [DecidableEq β] [DecidableEq γ] [HashOrder β] in
/-- A step outside the condition leaves every registered UI behind. -/
theorem stale_of_getButtons {s t : State β γ} (current : Current s) (registered : s.phoneUis ≠ [])
    (uis : t.phoneUis = s.phoneUis) (cached : t.ui = s.ui)
    (changed : s.getButtons.map executeItem ≠ t.getButtons.map executeItem) : ¬ Current t := by
  intro current'
  obtain ⟨ui, member⟩ := List.exists_mem_of_ne_nil _ registered
  have before := current ui member
  have after := current' ui (uis ▸ member)
  rw [cached] at after
  exact changed (render_items (before.symm.trans after))

theorem stale_step {s t : State β γ} {op : Operation β γ} (current : Current s)
    (loud : ¬ Quiet s op) (stepped : machine.step s op = some t) : ¬ Current t := by
  obtain ⟨registered, loud⟩ := not_or.mp loud
  have longer {t : State β γ} (differ : s.buttons.rows.length ≠ t.buttons.rows.length) :
      s.getButtons.map executeItem ≠ t.getButtons.map executeItem := by
    intro same
    have lengths := congrArg List.length same
    simp only [List.length_map, getButtons_length] at lengths
    exact differ lengths
  cases op with
  | addButton id button =>
    cases Option.some.inj stepped
    have fresh : s.addButton id button = _ := dif_neg loud
    refine stale_of_getButtons current registered (by rw [fresh]) (by rw [fresh]) (longer ?_)
    rw [fresh, (HashOrder.emplace_perm s.buttons.rows (id, button)).length_eq, List.length_cons]
    omega
  | removeButton id =>
    cases Option.some.inj stepped
    refine stale_of_getButtons current registered rfl rfl (longer (Nat.ne_of_gt ?_))
    obtain ⟨row, member, key⟩ := List.mem_map.mp (not_not.mp loud)
    apply List.length_filter_lt_length_iff_exists.mpr
    exact ⟨row, member, by simpa using key⟩
  | registerUI ui => exact absurd trivial loud
  | setOn button on =>
    cases Option.some.inj stepped
    obtain ⟨flips, foreign, listed⟩ : on ≠ (s.button button).isOn ∧ ¬ s.attached button = true ∧
        ∃ row ∈ s.buttons.rows, row.2 = button := by
      simpa only [not_or, not_forall, not_not, exists_prop] using loud
    obtain ⟨row, member, rfl⟩ := listed
    have switched : s.setOn row.2 on =
        { s with button := Function.update s.button row.2 ((s.button row.2).exchange on) } := by
      simp only [State.setOn, if_neg flips, if_neg foreign]
    rw [switched]
    refine stale_of_getButtons current registered rfl rfl ?_
    simp only [State.getButtons, List.map_map]
    intro same
    have item := List.map_inj_left.mp same row member
    simp only [Function.comp_apply, Function.update_self] at item
    exact flips (executeItem_on item)

/-- Cached states stay current exactly while the operations keep to the
condition: every run that keeps to it ends current, and every step that does
not leaves a stale state behind. -/
theorem current_exact :
    (∀ ops (s t : State β γ), Current s → machine.Meets Quiet s ops → machine.run s ops = some t → Current t) ∧
      ∀ op (s t : State β γ), Current s → ¬ Quiet s op → machine.step s op = some t → ¬ Current t := by
  constructor
  · intro ops s t current meets reached
    exact Machine.run_invariant_meets (fun held quiet stepped => current_step held quiet stepped)
      meets reached current
  · intro op s t current loud stepped
    exact stale_step current loud stepped

end Machine

section Runs

/-- A new entry is enumerated last. -/
abbrev insertionOrder : HashOrder Bool := ⟨fun rows row => rows ++ [row], fun rows row => List.perm_append_singleton row rows⟩

local instance : HashOrder Bool := insertionOrder

/-- A plan that lists the first of two buttons, and a UI that is not registered yet. -/
def desk : State Bool Unit where
  button second := ⟨if second then 2 else 1, .red, .off, true, false, false⟩
  attached _ := true
  ui _ := ⟨"desk", ["1001"], List.nodup_singleton _, render []⟩
  buttons := ⟨[(1, false)], by simp⟩
  phoneUis := []

/-- The UI registered before the second button never shows it. -/
theorem added_button_missing : ∃ t, Current desk ∧ machine.run desk [.registerUI (), .addButton 2 true] = some t ∧
    t.phoneUis = [()] ∧ ¬ Current t := by
  refine ⟨_, nofun, rfl, rfl, ?_⟩
  intro current
  have shown : render [desk.button false] = render [desk.button false, desk.button true] :=
    current () List.mem_cons_self
  exact absurd (congrArg List.length (render_items shown)) (by decide)

/-- With both buttons in place before the UI, a switched lamp is shown. -/
theorem current_exact_desk : ∃ t,
    machine.run desk [.addButton 2 true, .registerUI (), .setOn true true] = some t ∧ Current t := by
  refine ⟨_, rfl,
    current_exact.1 [.addButton 2 true, .registerUI (), .setOn true true] desk _ nofun ?_ rfl⟩
  simp [Machine.Meets, Quiet, machine, desk, State.addButton, State.registerUI, KeyedTable.keys]

end Runs
end LampMonitor.ButtonState.PlanOperations
