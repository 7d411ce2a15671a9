import LampMonitor.Locking

/-! The locks of plans, UIs and their cached states in the order each operation
takes them. What an operation finds (the UIs of a plan, the states they have
cached, whether a flag flips) is arbitrary, so every path of it is covered. -/
namespace LampMonitor.ButtonState.Locks
open Transition Locking

/-- `P`, `U` and `S` are the plans, the UIs and the cached states. -/
inductive Lock (P U S : Type) where
  | buttonPlansMut
  | phoneUisMut (plan : P)
  | buttonsMut (plan : P)
  | compatibleAorsMut (ui : U)
  | cachedButtonStateMut (ui : U)
  | xmlStrMut (state : S)
  deriving DecidableEq

variable {P U S : Type}

/-- The plans of the registration handler, then the UIs of a plan, then the rest,
of which no two are ever nested. -/
def rank : Lock P U S → Nat
  | .buttonPlansMut => 0
  | .phoneUisMut _ => 1
  | _ => 2

section Leaves

abbrev Sections (P U S : Type) := List (Mode × Lock P U S)

def getButtons (plan : P) : Sections P U S := [(.shared, .buttonsMut plan)]

def getButton (plan : P) : Sections P U S := [(.shared, .buttonsMut plan)]

def addButton (plan : P) : Sections P U S := [(.exclusive, .buttonsMut plan)]

def removeButton (plan : P) : Sections P U S := [(.exclusive, .buttonsMut plan)]

def getPhoneState (ui : U) : Sections P U S := [(.shared, .cachedButtonStateMut ui)]

def setPhoneState (ui : U) : Sections P U S := [(.exclusive, .cachedButtonStateMut ui)]

def hasAoR (ui : U) : Sections P U S := [(.shared, .compatibleAorsMut ui)]

def getAoRs (ui : U) : Sections P U S := [(.shared, .compatibleAorsMut ui)]

def isCritical (ui : U) : Sections P U S := getPhoneState ui

/-- `PhoneUIState::toString` of the state that `getPhoneState` returned. -/
def getStateString (ui : U) (state : S) : Sections P U S := getPhoneState ui ++ [(.exclusive, .xmlStrMut state)]

def initializeAction (ui : U) (state : S) : Sections P U S := getStateString ui state

def getHTTPState (ui : U) (state : S) : Sections P U S := getStateString ui state

def update (ui : U) : Sections P U S := setPhoneState ui

end Leaves

/-- A UI that `publishPhoneState` was given, and what it does with it. -/
structure Publication (U S : Type) where
  ui : U
  state : S
  asked : Bool
  sent : Bool

def Publication.locks (publication : Publication U S) : Sections P U S :=
  (if publication.asked then isCritical publication.ui else []) ++
    if publication.sent then initializeAction publication.ui publication.state else []

def leaf (locks : Sections P U S) : List (Action (Lock P U S)) := (sections locks).map .access

/-- The loop over the UIs runs in parallel under the shared lock of the caller. -/
def invalidate (plan : P) (uis : List (U × S)) : List (Action (Lock P U S)) :=
  locked .shared (.phoneUisMut plan)
    (leaf (getButtons plan) ++
      [.parallel (uis.map fun ui => sections (update ui.1 ++ initializeAction ui.1 ui.2 ++ getAoRs ui.1))])

def registerUI (plan : P) (ui : U) (success : Bool) : List (Action (Lock P U S)) :=
  locked .exclusive (.phoneUisMut plan) (if success then leaf (getButtons plan ++ update ui) else [])

def getPhoneUIs (plan : P) (uis : List U) : List (Action (Lock P U S)) :=
  locked .exclusive (.phoneUisMut plan) (leaf (uis.flatMap hasAoR))

/-- For each plan the UIs it asks for their AoRs and the ones it gets back. -/
def publishPhoneState (plans : List (P × List U × List (Publication U S))) : List (Action (Lock P U S)) :=
  locked .exclusive .buttonPlansMut
    (plans.flatMap fun plan => getPhoneUIs plan.1 plan.2.1 ++ leaf (plan.2.2.flatMap Publication.locks))

inductive Operation (P U S : Type) where
  | setOn (plan : P) (flips : Bool) (uis : List (U × S))
  | registerUI (plan : P) (ui : U) (success : Bool)
  | getPhoneUIs (plan : P) (uis : List U)
  | addButton (plan : P)
  | removeButton (plan : P)
  | getButton (plan : P)
  | registerButtonPlan
  | publishPhoneState (plans : List (P × List U × List (Publication U S)))
  | getHTTPState (ui : U) (state : S)

def Operation.program : Operation P U S → List (Action (Lock P U S))
  | .setOn plan flips uis => if flips then invalidate plan uis else []
  | .registerUI plan ui success => Locks.registerUI plan ui success
  | .getPhoneUIs plan uis => Locks.getPhoneUIs plan uis
  | .addButton plan => leaf (Locks.addButton plan)
  | .removeButton plan => leaf (Locks.removeButton plan)
  | .getButton plan => leaf (Locks.getButton plan)
  | .registerButtonPlan => locked .exclusive .buttonPlansMut []
  | .publishPhoneState plans => Locks.publishPhoneState plans
  | .getHTTPState ui state => leaf (Locks.getHTTPState ui state)

section Discipline
variable [DecidableEq P] [DecidableEq U] [DecidableEq S]

/-- No section of these locks has a lock of the other two kinds. -/
def Leaves (locks : Sections P U S) : Prop := ∀ lock ∈ locks, rank lock.2 = 2

omit [DecidableEq P] [DecidableEq U] [DecidableEq S] in
theorem rank_le (lock : Lock P U S) : rank lock ≤ 2 := by
  cases lock <;> simp [rank]

omit [DecidableEq P] [DecidableEq U] [DecidableEq S] in
theorem Leaves.append (first : Leaves (locks : Sections P U S)) (second : Leaves locks') :
    Leaves (locks ++ locks') := by
  intro lock member
  exact (List.mem_append.mp member).elim (first lock) (second lock)

omit [DecidableEq P] [DecidableEq U] [DecidableEq S] in
theorem Leaves.flatMap {locks : α → Sections P U S} {list : List α} (each : ∀ a, Leaves (locks a)) :
    Leaves (list.flatMap locks) := by
  intro lock member
  obtain ⟨a, _, inside⟩ := List.mem_flatMap.mp member
  exact each a lock inside

omit [DecidableEq P] [DecidableEq U] [DecidableEq S] in
theorem leaves_initializeAction (ui : U) (state : S) :
    Leaves (P := P) (initializeAction ui state) := by
  simp [Leaves, initializeAction, getStateString, getPhoneState, rank]

omit [DecidableEq P] [DecidableEq U] [DecidableEq S] in
theorem leaves_publication (publication : Publication U S) : Leaves (P := P) publication.locks := by
  refine Leaves.append ?_ ?_
  · split <;> simp [Leaves, isCritical, getPhoneState, rank]
  · split
    · exact leaves_initializeAction publication.ui publication.state
    · simp [Leaves]

theorem nests_leaf {held : List (Lock P U S)} (below : ∀ other ∈ held, rank other < 2)
    (leaves : Leaves locks) :
    Nests rank held (leaf locks) :=
  Nests.sections fun lock member other inside => (leaves lock member).symm ▸ below other inside

theorem nests_invalidate (plan : P) (uis : List (U × S)) : Nests rank [] (invalidate plan uis) := by
  have below : ∀ other ∈ [Lock.phoneUisMut (U := U) (S := S) plan], rank other < 2 := by simp [rank]
  refine Nests.locked (by simp)
    (.append (nests_leaf below (by simp [Leaves, getButtons, rank])) (.parallel ?_))
  intro task member
  obtain ⟨ui, _, rfl⟩ := List.mem_map.mp member
  apply ranked_sections
  intro lock inside other outer
  have leaves : Leaves (P := P) (update ui.1 ++ initializeAction ui.1 ui.2 ++ getAoRs ui.1) :=
    (Leaves.append (by simp [Leaves, update, setPhoneState, rank])
      (leaves_initializeAction ui.1 ui.2)).append
      (by simp [Leaves, getAoRs, rank])
  rw [leaves lock inside]
  exact below other outer

/-- `getPhoneUIs` on its own and under the lock of the registration handler. -/
theorem nests_getPhoneUIs {held : List (Lock P U S)} (below : ∀ other ∈ held, rank other < 1)
    (plan : P) (uis : List U) :
    Nests rank held (getPhoneUIs plan uis) := by
  refine Nests.locked below
    (nests_leaf ?_ (Leaves.flatMap fun ui => by simp [Leaves, hasAoR, rank]))
  intro other member
  rcases List.mem_cons.mp member with rfl | outer
  · exact Nat.lt_succ_self 1
  · exact Nat.lt_succ_of_lt (below other outer)

theorem nests_publishPhoneState (plans : List (P × List U × List (Publication U S))) :
    Nests rank [] (publishPhoneState plans) := by
  refine Nests.locked (by simp)
    (.flatMap fun plan _ => .append (nests_getPhoneUIs (by simp [rank]) _ _) ?_)
  exact nests_leaf (by simp [rank])
    (Leaves.flatMap fun publication => leaves_publication publication)

theorem nests_program (op : Operation P U S) : Nests rank [] op.program := by
  have none_held : ∀ other ∈ ([] : List (Lock P U S)), rank other < 2 := by simp
  cases op with
  | setOn plan flips uis =>
    cases flips with
    | false => exact Nests.nil
    | true => exact nests_invalidate plan uis
  | registerUI plan ui success =>
    refine Nests.locked (by simp) ?_
    split
    · refine nests_leaf (by simp [rank]) (Leaves.append ?_ ?_)
      · simp [Leaves, getButtons, rank]
      · simp [Leaves, update, setPhoneState, rank]
    · exact Nests.nil
  | getPhoneUIs plan uis => exact nests_getPhoneUIs (by simp) plan uis
  | addButton plan => exact nests_leaf none_held (by simp [Leaves, addButton, rank])
  | removeButton plan => exact nests_leaf none_held (by simp [Leaves, removeButton, rank])
  | getButton plan => exact nests_leaf none_held (by simp [Leaves, getButton, rank])
  | registerButtonPlan => exact Nests.locked (by simp) .nil
  | publishPhoneState plans => exact nests_publishPhoneState plans
  | getHTTPState ui state => exact nests_leaf none_held (leaves_initializeAction ui state)

end Discipline

section Runs
variable {ι : Type} [DecidableEq ι] [DecidableEq P] [DecidableEq U] [DecidableEq S]

/-- Any threads, each with any sequence of these operations on any plans and UIs:
no reachable state has a set of threads and loop workers that all wait for one another. -/
theorem locks_never_deadlock (calls : ι → List (Operation P U S))
    (reached : machine.run (start fun i => (calls i).flatMap Operation.program) ls = some s) (agents : Set (Agent ι)) :
    ¬ Deadlock s agents :=
  no_deadlock rank_le (fun _ => (Nests.flatMap fun op _ => nests_program op).ranked) reached agents

end Runs

section Contention

/-- A plan with one UI, switched by one thread while another registers. -/
def contention : Bool → List (Operation Unit Unit Unit)
  | false => [.setOn () true [((), ())]]
  | true => [.registerUI () () true]

/-- The registration waits for the shared lock of the loop, whose worker runs. -/
theorem locks_never_deadlock_contention : ∃ s,
    machine.run (start fun i => (contention i).flatMap Operation.program)
      [.run (.thread false), .run (.thread false), .run (.thread false), .fork false, .run (.worker false 0)] = some s ∧
    Waits s (.thread true) (.phoneUisMut ()) ∧ Holds s (.thread false) (.phoneUisMut ()) ∧
    Joins s (.thread false) (.worker false 0) ∧ ∀ agents, ¬ Deadlock s agents := by
  have reached : machine.run (start fun i => (contention i).flatMap Operation.program)
      [.run (.thread false), .run (.thread false), .run (.thread false),
        .fork false, .run (.worker false 0)] = some _ := rfl
  refine ⟨_, reached, ⟨.exclusive, rfl, rfl⟩, ⟨.shared, List.mem_cons_self⟩,
    ⟨false, 0, _, rfl, rfl, rfl, nofun⟩, ?_⟩
  exact fun agents => locks_never_deadlock contention reached agents

end Contention
end LampMonitor.ButtonState.Locks
