import LampMonitor.Asterisk.EventHandlers
import LampMonitor.KeyedTable
import Mathlib.Logic.Function.Basic

/-! A plan whose configuration names an id more than once. The later button is
refused, but a handler is created for its entry all the same and is connected to
the first button; it lives until the loop that registers the handlers is over. The
threads that deliver events run beside the start-up. -/
namespace LampMonitor.Asterisk.RepeatedButtons
open Ami Bridge ButtonState Transition

inductive HandlerType where
  | night (hint : String)
  | park (parkingLot : String)

/-- One entry of `buttons`. -/
structure ButtonCfg where
  id : UInt16
  color : Color
  flash : FlashMode
  criticalOn : Bool
  criticalOff : Bool
  type : HandlerType

namespace ButtonCfg

/-- `PhoneButton::create` -/
def button (cfg : ButtonCfg) : PhoneButton :=
  ⟨cfg.id, cfg.color, cfg.flash, cfg.criticalOn, cfg.criticalOff, false⟩

/-- The handler as its callback is installed, connected to the button of that id. -/
def eventHandler (cfg : ButtonCfg) : EventHandler :=
  match cfg.type with
  | .night hint => .night ⟨(0, cfg.id), hint⟩
  | .park _ => .park ⟨(0, cfg.id), [], ∅⟩

def isPark (cfg : ButtonCfg) : Bool :=
  match cfg.type with
  | .night _ => false
  | .park _ => true

end ButtonCfg

/-- An entry and its place in the configuration. -/
abbrev Entry := ButtonCfg × Nat

section Plan

/-- `emplace` refuses an id that is taken. -/
def addButton (plan : ButtonPlan) (button : PhoneButton) : ButtonPlan :=
  if fresh : button.buttonId ∈ plan.buttons.map PhoneButton.buttonId then plan
  else
    { plan with
      buttons := plan.buttons ++ [button]
      unique := by
        rw [List.map_append]
        exact List.nodup_append_comm.mp (List.nodup_cons.mpr ⟨fresh, plan.unique⟩) }

/-- `ButtonPlan::create` -/
def createPlan (name : String) (cfgs : List ButtonCfg) : ButtonPlan :=
  (cfgs.map ButtonCfg.button).foldl addButton ⟨name, [], List.nodup_nil, []⟩

end Plan

/-- Where the start-up is: in `createEventHandlers`, in the constructor of a park
handler that waits for its hints, in the loop over the handlers, or where the
vector of handlers is destroyed. The handler that waits is of the first entry. -/
inductive Pc where
  | creating (todo created : List Entry)
  | storing (todo created : List Entry)
  | adding (todo created : List Entry)
  | removing (todo : List Entry)
  | ready

structure State where
  plan : ButtonPlan
  sent : List PJSIPNotify
  /-- The handlers with a callback, by the places of their entries. -/
  callbacks : Nat → Option EventHandler
  /-- The handlers of the plan, also by place. -/
  eventHandlers : KeyedTable UInt16 Nat
  pc : Pc

/-- The steps of the start-up name the place they are about; `deliver` is one event
at one handler. -/
inductive Label where
  | install (place : Nat)
  | store (place : Nat) (hints : List String)
  | created
  | add (place : Nat)
  | added
  | remove (place : Nat)
  | removed
  | registerUI (ui : PhoneUI)
  | deliver (place : Nat) (event : KeyValDict)

def Label.place? : Label → Option Nat
  | .install place | .store place _ | .add place | .remove place | .deliver place _ => some place
  | .created | .added | .removed | .registerUI _ => none

/-- `parking_hints_ = ...` -/
def storeHints (hints : List String) : EventHandler → EventHandler
  | .park handler => .park { handler with parkingHints := hints }
  | handler => handler

/-- The next entry, if it is the one at this place, and those after it. -/
def next (place : Nat) : List Entry → Option (ButtonCfg × List Entry)
  | (cfg, here) :: rest => if here = place then some (cfg, rest) else none
  | [] => none

theorem next_eq_some : next place entries = some (cfg, rest) ↔ entries = (cfg, place) :: rest := by
  unfold next
  split
  · rename_i cfg' here rest'
    split
    · rename_i same
      simp [same]
    · rename_i other
      simp [other]
  · simp

namespace State

def install (s : State) (place : Nat) : Option State :=
  match s.pc with
  | .creating todo created =>
    (next place todo).map fun (cfg, rest) =>
      { s with
        callbacks := Function.update s.callbacks place (some cfg.eventHandler)
        pc := if cfg.isPark then .storing todo created
          else .creating rest (created ++ [(cfg, place)]) }
  | _ => none

def store (s : State) (place : Nat) (hints : List String) : Option State :=
  match s.pc with
  | .storing todo created =>
    (next place todo).map fun (cfg, rest) =>
      { s with
        callbacks := Function.update s.callbacks place ((s.callbacks place).map (storeHints hints))
        pc := .creating rest (created ++ [(cfg, place)]) }
  | _ => none

def add (s : State) (place : Nat) : Option State :=
  match s.pc with
  | .adding todo created =>
    (next place todo).map fun (cfg, rest) =>
      { s with eventHandlers := s.eventHandlers.emplace cfg.id place, pc := .adding rest created }
  | _ => none

/-- A handler that the plan has refused goes, and its callback with it. -/
def remove (s : State) (place : Nat) : Option State :=
  match s.pc with
  | .removing todo =>
    (next place todo).map fun (cfg, rest) =>
      { s with
        callbacks :=
          if s.eventHandlers.find? cfg.id = some place then s.callbacks
            else Function.update s.callbacks place none
        pc := .removing rest }
  | _ => none

def registerUI (s : State) (ui : PhoneUI) : Option State :=
  match s.pc with
  | .ready => some { s with plan := { s.plan with phoneUis := s.plan.phoneUis ++ [ui.update s.plan.getButtons] } }
  | _ => none

def deliver [LibraryInterface] (s : State) (place : Nat) (event : KeyValDict) : Option State :=
  (s.callbacks place).map fun handler =>
    let (handler', call) := handler.amiEventHandler event
    let (plan, messages) := call.elim (s.plan, []) (s.plan.setOn handler.phoneButton.2)
    { s with
      plan := plan
      sent := s.sent ++ messages
      callbacks := Function.update s.callbacks place (some handler') }

end State

def machine [LibraryInterface] : Machine State Label where
  step s
    | .install place => s.install place
    | .store place hints => s.store place hints
    | .created =>
      match s.pc with
      | .creating [] created => some { s with pc := .adding created created }
      | _ => none
    | .add place => s.add place
    | .added =>
      match s.pc with
      | .adding [] created => some { s with pc := .removing created }
      | _ => none
    | .remove place => s.remove place
    | .removed =>
      match s.pc with
      | .removing [] => some { s with pc := .ready }
      | _ => none
    | .registerUI ui => s.registerUI ui
    | .deliver place event => s.deliver place event

def start (name : String) (entries : List Entry) : State where
  plan := createPlan name (entries.map Prod.fst)
  sent := []
  callbacks _ := none
  eventHandlers := .empty
  pc := .creating entries []

section Repeats
variable (cfgs : List ButtonCfg)

/-- The id of the entry at this place occurs earlier. -/
def isRepeat (place : Nat) : Bool :=
  match cfgs[place]? with
  | none => false
  | some cfg => (cfgs.take place).any fun earlier => earlier.id = cfg.id

def isOwn (place : Nat) : Bool := !isRepeat cfgs place

/-- The entries without those whose id occurred earlier. -/
def withoutRepeats : List Entry := cfgs.zipIdx.filter fun entry => isOwn cfgs entry.2

/-- A step that is left without the repeated entries. -/
def kept (l : Label) : Bool := l.place?.all (isOwn cfgs)

/-- No handler of a repeated entry flips its button. -/
def Harmless (s : State) : Label → Prop
  | .deliver place event =>
    isRepeat cfgs place = true → ∀ handler on, s.callbacks place = some handler →
      (handler.amiEventHandler event).2 = some on →
      (s.plan.getButton handler.phoneButton.2).map PhoneButton.isOn ≠ some !on
  | _ => True

end Repeats

section Inversion
variable {s t : State}

theorem install_cases (stepped : s.install place = some t) : ∃ cfg rest created,
    s.pc = .creating ((cfg, place) :: rest) created ∧
    t = { s with
      callbacks := Function.update s.callbacks place (some cfg.eventHandler)
      pc := if cfg.isPark then .storing ((cfg, place) :: rest) created
        else .creating rest (created ++ [(cfg, place)]) } := by
  unfold State.install at stepped
  split at stepped
  · rename_i todo created pc
    obtain ⟨⟨cfg, rest⟩, first, rfl⟩ := Option.map_eq_some_iff.mp stepped
    rw [next_eq_some] at first
    exact ⟨cfg, rest, created, first ▸ pc, by rw [first]⟩
  · cases stepped

theorem store_cases (stepped : s.store place hints = some t) : ∃ cfg rest created,
    s.pc = .storing ((cfg, place) :: rest) created ∧
    t = { s with
      callbacks := Function.update s.callbacks place ((s.callbacks place).map (storeHints hints))
      pc := .creating rest (created ++ [(cfg, place)]) } := by
  unfold State.store at stepped
  split at stepped
  · rename_i todo created pc
    obtain ⟨⟨cfg, rest⟩, first, rfl⟩ := Option.map_eq_some_iff.mp stepped
    exact ⟨cfg, rest, created, next_eq_some.mp first ▸ pc, rfl⟩
  · cases stepped

theorem add_cases (stepped : s.add place = some t) : ∃ cfg rest created,
    s.pc = .adding ((cfg, place) :: rest) created ∧
    t = { s with eventHandlers := s.eventHandlers.emplace cfg.id place, pc := .adding rest created } := by
  unfold State.add at stepped
  split at stepped
  · rename_i todo created pc
    obtain ⟨⟨cfg, rest⟩, first, rfl⟩ := Option.map_eq_some_iff.mp stepped
    exact ⟨cfg, rest, created, next_eq_some.mp first ▸ pc, rfl⟩
  · cases stepped

theorem remove_cases (stepped : s.remove place = some t) : ∃ cfg rest,
    s.pc = .removing ((cfg, place) :: rest) ∧
    t = { s with
      callbacks := if s.eventHandlers.find? cfg.id = some place then s.callbacks
      else Function.update s.callbacks place none
      pc := .removing rest } := by
  unfold State.remove at stepped
  split at stepped
  · rename_i todo pc
    obtain ⟨⟨cfg, rest⟩, first, rfl⟩ := Option.map_eq_some_iff.mp stepped
    exact ⟨cfg, rest, next_eq_some.mp first ▸ pc, rfl⟩
  · cases stepped

theorem registerUI_cases (stepped : s.registerUI ui = some t) : s.pc = .ready ∧
    t = { s with plan := { s.plan with phoneUis := s.plan.phoneUis ++ [ui.update s.plan.getButtons] } } := by
  unfold State.registerUI at stepped
  split at stepped
  · rename_i pc
    exact ⟨pc, (Option.some.inj stepped).symm⟩
  · cases stepped

variable [LibraryInterface]

theorem created_cases (stepped : machine.step s .created = some t) : ∃ created,
    s.pc = .creating [] created ∧ t = { s with pc := .adding created created } := by
  simp only [machine] at stepped
  split at stepped
  · rename_i created pc
    exact ⟨created, pc, (Option.some.inj stepped).symm⟩
  · cases stepped

theorem added_cases (stepped : machine.step s .added = some t) : ∃ created,
    s.pc = .adding [] created ∧ t = { s with pc := .removing created } := by
  simp only [machine] at stepped
  split at stepped
  · rename_i created pc
    exact ⟨created, pc, (Option.some.inj stepped).symm⟩
  · cases stepped

theorem removed_cases (stepped : machine.step s .removed = some t) :
    s.pc = .removing [] ∧ t = { s with pc := .ready } := by
  simp only [machine] at stepped
  split at stepped
  · rename_i pc
    exact ⟨pc, (Option.some.inj stepped).symm⟩
  · cases stepped

end Inversion

section Erasure
variable (own : Nat → Bool)

def keep (entries : List Entry) : List Entry := entries.filter fun entry => own entry.2

def Pc.erase : Pc → Pc
  | .creating todo created => .creating (keep own todo) (keep own created)
  | .storing [] created => .storing [] (keep own created)
  | .storing (entry :: rest) created =>
    if own entry.2 then .storing (keep own (entry :: rest)) (keep own created)
    else .creating (keep own rest) (keep own (created ++ [entry]))
  | .adding todo created => .adding (keep own todo) (keep own created)
  | .removing todo => .removing (keep own todo)
  | .ready => .ready

def mask (callbacks : Nat → Option EventHandler) (place : Nat) : Option EventHandler :=
  if own place then callbacks place else none

/-- The state without the entries that are not their own. -/
def State.erase (s : State) : State := { s with callbacks := mask own s.callbacks, pc := s.pc.erase own }

variable {own}

theorem keep_cons (here : own place = true) (cfg : ButtonCfg) (rest : List Entry) :
    keep own ((cfg, place) :: rest) = (cfg, place) :: keep own rest :=
  List.filter_cons_of_pos here

theorem keep_cons_other (other : own place = false) (cfg : ButtonCfg) (rest : List Entry) :
    keep own ((cfg, place) :: rest) = keep own rest :=
  List.filter_cons_of_neg (by simp [other])

theorem keep_snoc (here : own place = true) (cfg : ButtonCfg) (created : List Entry) :
    keep own (created ++ [(cfg, place)]) = keep own created ++ [(cfg, place)] := by
  simp [keep, here]

theorem keep_snoc_other (other : own place = false) (cfg : ButtonCfg) (created : List Entry) :
    keep own (created ++ [(cfg, place)]) = keep own created := by
  simp [keep, other]

theorem mask_update (here : own place = true) (callbacks : Nat → Option EventHandler)
    (handler : Option EventHandler) :
    mask own (Function.update callbacks place handler) =
      Function.update (mask own callbacks) place handler := by
  funext other
  by_cases same : other = place
  · rw [same, mask, if_pos here, Function.update_self, Function.update_self]
  · simp only [mask, Function.update_of_ne same]

theorem mask_update_other (other : own place = false) (callbacks : Nat → Option EventHandler)
    (handler : Option EventHandler) :
    mask own (Function.update callbacks place handler) = mask own callbacks := by
  funext place'
  by_cases same : place' = place
  · simp [mask, same, other]
  · simp only [mask, Function.update_of_ne same]

variable [LibraryInterface]

theorem step_erase {s t : State} {l : Label} (keeps : l.place?.all own = true)
    (stepped : machine.step s l = some t) :
    machine.step (s.erase own) l = some (t.erase own) := by
  cases l with
  | install place =>
    have here : own place = true := keeps
    obtain ⟨cfg, rest, created, pc, rfl⟩ := install_cases stepped
    simp only [machine, State.install, State.erase, pc, Pc.erase, keep_cons here, next, if_true,
      Option.map_some, mask_update here]
    cases cfg.isPark <;> simp [here, keep_cons here, keep_snoc here]
  | store place hints =>
    have here : own place = true := keeps
    obtain ⟨cfg, rest, created, pc, rfl⟩ := store_cases stepped
    have masked : mask own s.callbacks place = s.callbacks place := if_pos here
    simp only [machine, State.store, State.erase, pc, Pc.erase, here, if_true, keep_cons here, next,
      Option.map_some, mask_update here, masked, keep_snoc here]
  | created =>
    obtain ⟨created, pc, rfl⟩ := created_cases stepped
    simp [machine, State.erase, pc, Pc.erase, keep]
  | add place =>
    have here : own place = true := keeps
    obtain ⟨cfg, rest, created, pc, rfl⟩ := add_cases stepped
    simp only [machine, State.add, State.erase, pc, Pc.erase, keep_cons here, next, if_true,
      Option.map_some]
  | added =>
    obtain ⟨created, pc, rfl⟩ := added_cases stepped
    simp [machine, State.erase, pc, Pc.erase, keep]
  | remove place =>
    have here : own place = true := keeps
    obtain ⟨cfg, rest, pc, rfl⟩ := remove_cases stepped
    simp only [machine, State.remove, State.erase, pc, Pc.erase, keep_cons here, next, if_true,
      Option.map_some]
    split <;> simp [mask_update here]
  | removed =>
    obtain ⟨pc, rfl⟩ := removed_cases stepped
    simp [machine, State.erase, pc, Pc.erase, keep]
  | registerUI ui =>
    obtain ⟨pc, rfl⟩ := registerUI_cases stepped
    simp [machine, State.registerUI, State.erase, pc, Pc.erase]
  | deliver place event =>
    have here : own place = true := keeps
    obtain ⟨handler, installed, rfl⟩ := Option.map_eq_some_iff.mp stepped
    have masked : mask own s.callbacks place = some handler := (if_pos here).trans installed
    simp only [machine, State.deliver, State.erase, masked, Option.map_some, mask_update here]

end Erasure

section Course
variable {cfgs : List ButtonCfg}

/-- The entries before one in the walk are those before its place. -/
theorem take_of_walk (walk : before ++ (cfg, place) :: rest = cfgs.zipIdx) :
    cfgs[place]? = some cfg ∧ cfgs.take place = before.map Prod.fst := by
  have whole : cfgs = before.map Prod.fst ++ cfg :: rest.map Prod.fst := by
    rw [← List.zipIdx_map_fst 0 cfgs, ← walk, List.map_append, List.map_cons]
  have here : cfgs.zipIdx[before.length]? = some (cfg, place) := by
    rw [← walk, List.getElem?_append_right (Nat.le_refl _), Nat.sub_self, List.getElem?_cons_zero]
  rw [List.getElem?_zipIdx] at here
  obtain ⟨cfg', found, same⟩ := Option.map_eq_some_iff.mp here
  obtain ⟨rfl, rfl⟩ : cfg' = cfg ∧ before.length = place := by simpa using same
  refine ⟨found, ?_⟩
  rw [whole, List.take_append_of_le_length (by simp), List.take_of_length_le (by simp)]

theorem earlier_of_repeat (walk : before ++ (cfg, place) :: rest = cfgs.zipIdx)
    (repeated : isRepeat cfgs place = true) :
    ∃ entry ∈ before, entry.1.id = cfg.id := by
  obtain ⟨found, earlier⟩ := take_of_walk walk
  simp only [isRepeat, found, earlier, List.any_map, List.any_eq_true, Function.comp_apply,
    decide_eq_true_eq] at repeated
  exact repeated

/-- How far the three walks over the entries are. -/
def Walks (cfgs : List ButtonCfg) (eventHandlers : KeyedTable UInt16 Nat) : Pc → Prop
  | .creating todo created | .storing todo created => created ++ todo = cfgs.zipIdx
  | .adding todo created => created = cfgs.zipIdx ∧ ∃ before, before ++ todo = cfgs.zipIdx ∧
      ∀ entry ∈ before, (eventHandlers.find? entry.1.id).isSome
  | .removing _ | .ready => True

variable [LibraryInterface]

theorem walks_step {s t : State} {l : Label} (walks : Walks cfgs s.eventHandlers s.pc)
    (stepped : machine.step s l = some t) : Walks cfgs t.eventHandlers t.pc := by
  cases l with
  | install place =>
    obtain ⟨cfg, rest, created, pc, rfl⟩ := install_cases stepped
    rw [pc] at walks
    dsimp only
    split
    · exact walks
    · exact (List.append_assoc ..).trans walks
  | store place hints =>
    obtain ⟨cfg, rest, created, pc, rfl⟩ := store_cases stepped
    rw [pc] at walks
    exact (List.append_assoc ..).trans walks
  | created =>
    obtain ⟨created, pc, rfl⟩ := created_cases stepped
    rw [pc] at walks
    have all : created = cfgs.zipIdx := by simpa [Walks] using walks
    exact ⟨all, [], all, List.forall_mem_nil _⟩
  | add place =>
    obtain ⟨cfg, rest, created, pc, rfl⟩ := add_cases stepped
    rw [pc] at walks
    obtain ⟨all, before, walk, registered⟩ := walks
    refine ⟨all, before ++ [(cfg, place)], by simpa using walk, ?_⟩
    intro entry member
    rw [KeyedTable.find?_emplace]
    rcases List.mem_append.mp member with old | new
    · simp [registered entry old]
    · simp [List.mem_singleton.mp new]
  | added =>
    obtain ⟨created, pc, rfl⟩ := added_cases stepped
    trivial
  | remove place =>
    obtain ⟨cfg, rest, pc, rfl⟩ := remove_cases stepped
    trivial
  | removed =>
    obtain ⟨pc, rfl⟩ := removed_cases stepped
    trivial
  | registerUI ui =>
    obtain ⟨pc, rfl⟩ := registerUI_cases stepped
    exact walks
  | deliver place event =>
    obtain ⟨handler, installed, rfl⟩ := Option.map_eq_some_iff.mp stepped
    exact walks

theorem setOn_unflipped {plan : ButtonPlan} {id : UInt16}
    (unflipped : (plan.getButton id).map PhoneButton.isOn ≠ some !on) :
    plan.setOn id on = (plan, []) := by
  cases found : plan.getButton id with
  | none => rw [ButtonPlan.setOn, found]
  | some button =>
    rw [found, Option.map_some] at unflipped
    obtain rfl : button.isOn = on :=
      Bool.not_eq_not.mp fun flipped => unflipped (congrArg some flipped)
    exact setOn_same found

/-- A harmless step for a repeated entry is none without it. -/
theorem step_repeat {s t : State} {l : Label} (walks : Walks cfgs s.eventHandlers s.pc)
    (harmless : Harmless cfgs s l) (dropped : kept cfgs l = false)
    (stepped : machine.step s l = some t) :
    t.erase (isOwn cfgs) = s.erase (isOwn cfgs) := by
  have other : ∀ place, l.place? = some place → isOwn cfgs place = false := by
    intro place about
    simpa [kept, about] using dropped
  cases l with
  | install place =>
    have other := other place rfl
    obtain ⟨cfg, rest, created, pc, rfl⟩ := install_cases stepped
    simp only [State.erase, pc, Pc.erase, mask_update_other other, keep_cons_other other]
    cases cfg.isPark <;> simp [other, keep_snoc_other other]
  | store place hints =>
    have other := other place rfl
    obtain ⟨cfg, rest, created, pc, rfl⟩ := store_cases stepped
    simp [State.erase, pc, Pc.erase, other, mask_update_other other]
  | add place =>
    have other := other place rfl
    obtain ⟨cfg, rest, created, pc, rfl⟩ := add_cases stepped
    rw [pc] at walks
    obtain ⟨all, before, walk, registered⟩ := walks
    obtain ⟨earlier, member, same⟩ := earlier_of_repeat walk (by simpa [isOwn] using other)
    have refused : s.eventHandlers.emplace cfg.id place = s.eventHandlers :=
      if_pos (same ▸ registered earlier member)
    simp only [State.erase, pc, Pc.erase, refused, keep_cons_other other]
  | remove place =>
    have other := other place rfl
    obtain ⟨cfg, rest, pc, rfl⟩ := remove_cases stepped
    simp only [State.erase, pc, Pc.erase, keep_cons_other other]
    split
    · rfl
    · rw [mask_update_other other]
  | deliver place event =>
    have other := other place rfl
    obtain ⟨handler, installed, rfl⟩ := Option.map_eq_some_iff.mp stepped
    have unchanged :
        (handler.amiEventHandler event).2.elim (s.plan, []) (s.plan.setOn handler.phoneButton.2) =
        (s.plan, []) := by
      cases call : (handler.amiEventHandler event).2 with
      | none => rfl
      | some on =>
        exact setOn_unflipped (harmless (by simpa [isOwn] using other) handler on installed call)
    simp only [State.erase, unchanged, List.append_nil, mask_update_other other]
  | created | added | removed | registerUI => cases dropped

end Course

section Lifetime
variable {cfgs : List ButtonCfg}

/-- The entries whose handlers the vector still holds. -/
def Pc.handlers : Pc → List Entry
  | .creating _ created | .adding _ created => created
  | .storing todo created => created ++ todo.take 1
  | .removing todo => todo
  | .ready => []

/-- The plan holds no handler of a repeated entry; the vector holds all that live. -/
structure Refused (cfgs : List ButtonCfg) (s : State) : Prop where
  registered : ∀ id place, s.eventHandlers.find? id = some place → isOwn cfgs place = true
  alive : ∀ place, isOwn cfgs place = false → s.callbacks place ≠ none →
    place ∈ s.pc.handlers.map Prod.snd

theorem Refused.update {s : State} {later : List Nat} (refused : Refused cfgs s)
    (more : ∀ place ∈ s.pc.handlers.map Prod.snd, place ∈ later)
    (here : handler ≠ none → isOwn cfgs place = false → place ∈ later)
    (place' : Nat) (other : isOwn cfgs place' = false)
    (installed : Function.update s.callbacks place handler place' ≠ none) : place' ∈ later := by
  by_cases same : place' = place
  · subst same
    rw [Function.update_self] at installed
    exact here installed other
  · rw [Function.update_of_ne same] at installed
    exact more place' (refused.alive place' other installed)

variable [LibraryInterface]

theorem refused_step {s t : State} {l : Label} (walks : Walks cfgs s.eventHandlers s.pc)
    (refused : Refused cfgs s) (stepped : machine.step s l = some t) : Refused cfgs t := by
  cases l with
  | install place =>
    obtain ⟨cfg, rest, created, pc, rfl⟩ := install_cases stepped
    refine ⟨refused.registered, refused.update ?_ ?_⟩
    all_goals cases cfg.isPark <;> simp +contextual [pc, Pc.handlers]
  | store place hints =>
    obtain ⟨cfg, rest, created, pc, rfl⟩ := store_cases stepped
    refine ⟨refused.registered, refused.update ?_ ?_⟩
    all_goals simp +contextual [pc, Pc.handlers]
  | created =>
    obtain ⟨created, pc, rfl⟩ := created_cases stepped
    exact ⟨refused.registered, by simpa [pc, Pc.handlers] using refused.alive⟩
  | add place =>
    obtain ⟨cfg, rest, created, pc, rfl⟩ := add_cases stepped
    refine ⟨fun id place' found => ?_, by simpa [pc, Pc.handlers] using refused.alive⟩
    rw [KeyedTable.find?_emplace, Option.or_eq_some_iff] at found
    rcases found with old | ⟨absent, new⟩
    · exact refused.registered id place' old
    · obtain ⟨rfl, rfl⟩ : id = cfg.id ∧ place = place' := by simpa using new
      rw [pc] at walks
      obtain ⟨all, before, walk, registered⟩ := walks
      by_contra repeated
      obtain ⟨earlier, member, same⟩ := earlier_of_repeat walk (by simpa [isOwn] using repeated)
      have known := registered earlier member
      simp [same, absent] at known
  | added =>
    obtain ⟨created, pc, rfl⟩ := added_cases stepped
    exact ⟨refused.registered, by simpa [pc, Pc.handlers] using refused.alive⟩
  | remove place =>
    obtain ⟨cfg, rest, pc, rfl⟩ := remove_cases stepped
    refine ⟨refused.registered, fun place' other installed => ?_⟩
    have held : s.callbacks place' ≠ none ∧ place' ≠ place := by
      dsimp only at installed
      split at installed
      · rename_i registered
        refine ⟨installed, fun same => ?_⟩
        subst same
        exact Bool.false_ne_true (other.symm.trans (refused.registered _ _ registered))
      · by_cases same : place' = place
        · simp [same] at installed
        · rw [Function.update_of_ne same] at installed
          exact ⟨installed, same⟩
    have waits : place' ∈ ((cfg, place) :: rest).map Prod.snd := by
      simpa only [pc, Pc.handlers] using refused.alive place' other held.1
    exact (List.mem_cons.mp waits).resolve_left held.2
  | removed =>
    obtain ⟨pc, rfl⟩ := removed_cases stepped
    exact ⟨refused.registered, by simpa [pc, Pc.handlers] using refused.alive⟩
  | registerUI ui =>
    obtain ⟨pc, rfl⟩ := registerUI_cases stepped
    exact ⟨refused.registered, refused.alive⟩
  | deliver place event =>
    obtain ⟨handler, installed, rfl⟩ := Option.map_eq_some_iff.mp stepped
    refine ⟨refused.registered, refused.update (fun _ member => member) fun _ other => ?_⟩
    exact refused.alive place other (by simp [installed])

end Lifetime

section Start

theorem createPlan_snoc (name : String) (cfgs : List ButtonCfg) (cfg : ButtonCfg) :
    createPlan name (cfgs ++ [cfg]) = addButton (createPlan name cfgs) cfg.button := by
  rw [createPlan, List.map_append, List.foldl_append]
  rfl

theorem ids_addButton (plan : ButtonPlan) (button : PhoneButton) (id : UInt16) :
    id ∈ (addButton plan button).buttons.map PhoneButton.buttonId ↔
      id ∈ plan.buttons.map PhoneButton.buttonId ∨ id = button.buttonId := by
  unfold addButton
  split
  · rename_i taken
    exact ⟨.inl, fun known => known.elim (fun old => old) fun same => same ▸ taken⟩
  · simp

theorem ids_createPlan (name : String) (cfgs : List ButtonCfg) (id : UInt16) :
    id ∈ (createPlan name cfgs).buttons.map PhoneButton.buttonId ↔ ∃ cfg ∈ cfgs, cfg.id = id := by
  induction cfgs using List.reverseRecOn with
  | nil => simp [createPlan]
  | append_singleton cfgs cfg ih =>
    rw [createPlan_snoc, ids_addButton, ih]
    simp [ButtonCfg.button, or_and_right, exists_or, eq_comm]

theorem isOwn_snoc {cfgs : List ButtonCfg} (inside : place < cfgs.length) (cfg : ButtonCfg) :
    isOwn (cfgs ++ [cfg]) place = isOwn cfgs place := by
  simp only [isOwn, isRepeat, List.getElem?_append_left inside,
    List.take_append_of_le_length (Nat.le_of_lt inside)]

theorem isOwn_last (cfgs : List ButtonCfg) (cfg : ButtonCfg) :
    isOwn (cfgs ++ [cfg]) cfgs.length = true ↔ ¬ ∃ earlier ∈ cfgs, earlier.id = cfg.id := by
  simp [isOwn, isRepeat]

theorem withoutRepeats_snoc (cfgs : List ButtonCfg) (cfg : ButtonCfg) :
    withoutRepeats (cfgs ++ [cfg]) =
      withoutRepeats cfgs ++
      if isOwn (cfgs ++ [cfg]) cfgs.length then [(cfg, cfgs.length)] else [] := by
  have before : cfgs.zipIdx.filter (fun entry => isOwn (cfgs ++ [cfg]) entry.2) =
      withoutRepeats cfgs := by
    refine List.filter_congr fun entry member => ?_
    exact isOwn_snoc (by simpa using List.snd_lt_of_mem_zipIdx member) cfg
  rw [withoutRepeats, List.zipIdx_append, List.filter_append, before]
  simp [List.filter_cons]

/-- A button that is refused leaves no trace in the plan. -/
theorem createPlan_withoutRepeats (name : String) (cfgs : List ButtonCfg) :
    createPlan name ((withoutRepeats cfgs).map Prod.fst) = createPlan name cfgs := by
  induction cfgs using List.reverseRecOn with
  | nil => rfl
  | append_singleton cfgs cfg ih =>
    rw [withoutRepeats_snoc, createPlan_snoc]
    by_cases own : isOwn (cfgs ++ [cfg]) cfgs.length = true
    · rw [if_pos own, List.map_append, List.map_singleton, createPlan_snoc, ih]
    · have taken : cfg.button.buttonId ∈ (createPlan name cfgs).buttons.map PhoneButton.buttonId :=
        (ids_createPlan name cfgs cfg.id).mpr (not_not.mp ((isOwn_last cfgs cfg).not.mp own))
      rw [if_neg own, List.append_nil, ih, addButton, dif_pos taken]

theorem erase_start (name : String) (cfgs : List ButtonCfg) :
    (start name cfgs.zipIdx).erase (isOwn cfgs) = start name (withoutRepeats cfgs) := by
  have none_installed : mask (isOwn cfgs) (fun _ => none) = fun _ => none := by
    funext place
    exact ite_self none
  simp only [start, State.erase, Pc.erase, createPlan_withoutRepeats, List.zipIdx_map_fst,
    none_installed]
  rfl

end Start

section Runs
variable [LibraryInterface]

/-- While every step is harmless, the repeated entries can be left out of the run. -/
theorem run_erase {cfgs : List ButtonCfg} {s t : State} (walks : Walks cfgs s.eventHandlers s.pc)
    (harmless : machine.Meets (Harmless cfgs) s ls) (reached : machine.run s ls = some t) :
    machine.run (s.erase (isOwn cfgs)) (ls.filter (kept cfgs)) = some (t.erase (isOwn cfgs)) := by
  induction ls generalizing s with
  | nil =>
    cases Option.some.inj reached
    rfl
  | cons l ls ih =>
    obtain ⟨u, stepped, rest⟩ := Machine.run_cons.mp reached
    have later := ih (walks_step walks stepped) (harmless.2 u stepped) rest
    by_cases keeps : kept cfgs l = true
    · rw [List.filter_cons_of_pos keeps]
      exact Machine.run_cons.mpr ⟨_, step_erase keeps stepped, later⟩
    · have dropped : kept cfgs l = false := by simpa using keeps
      rw [List.filter_cons_of_neg keeps, ← step_repeat walks harmless.1 dropped stepped]
      exact later

omit [LibraryInterface] in
theorem walks_start (name : String) (cfgs : List ButtonCfg) :
    Walks cfgs (start name cfgs.zipIdx).eventHandlers (start name cfgs.zipIdx).pc :=
  List.nil_append _

theorem flips_plan {cfgs : List ButtonCfg} {s t : State} (flips : ¬ Harmless cfgs s l)
    (stepped : machine.step s l = some t) : kept cfgs l = false ∧ s.plan ≠ t.plan := by
  cases l with
  | deliver place event =>
    simp only [Harmless, not_forall, not_not, exists_prop] at flips
    obtain ⟨repeated, handler, on, installed, call, flag⟩ := flips
    obtain ⟨handler', installed', rfl⟩ := Option.map_eq_some_iff.mp stepped
    obtain rfl : handler = handler' := Option.some.inj (installed.symm.trans installed')
    obtain ⟨button, found, off⟩ := Option.map_eq_some_iff.mp flag
    refine ⟨by simp [kept, Label.place?, isOwn, repeated], ?_⟩
    intro same
    have switched : s.plan = (s.plan.exchange handler.phoneButton.2 on).updateUIs := by
      simpa only [call, Option.elim_some,
        setOn_flip found (off ▸ Bool.not_ne_self on).symm] using same
    have after :=
      congrArg (fun plan => (plan.getButton handler.phoneButton.2).map PhoneButton.isOn) switched
    simp [getButton_exchange, found, off] at after
  | _ => exact absurd trivial flips

/-- Once the start-up is over, the handlers of repeated entries are gone. -/
theorem harmless_of_ready {name : String} {cfgs : List ButtonCfg}
    (reached : machine.run (start name cfgs.zipIdx) ls = some t)
    (ready : t.pc = .ready) (l : Label) : Harmless cfgs t l := by
  have started : Refused cfgs (start name cfgs.zipIdx) := by
    constructor
    · rintro id place ⟨⟩
    · intro place other installed
      exact absurd rfl installed
  have held : Walks cfgs t.eventHandlers t.pc ∧ Refused cfgs t :=
    Machine.run_invariant (P := fun s => Walks cfgs s.eventHandlers s.pc ∧ Refused cfgs s)
      (fun held stepped => ⟨walks_step held.1 stepped, refused_step held.1 held.2 stepped⟩) reached
      ⟨walks_start name cfgs, started⟩
  cases l with
  | deliver place event =>
    intro repeated handler on installed
    have waits := held.2.alive place (by simp [isOwn, repeated]) (by simp [installed])
    rw [ready] at waits
    cases waits
  | _ => trivial

/-- Repeated entries have no effect exactly while no handler of theirs flips a
button. In every run in which none does, buttons, UIs and notifications are those
of the run without them; a flip is in no run without them, and there is none after
the start-up. -/
theorem repeats_exact (name : String) (cfgs : List ButtonCfg) (ls : List Label) (t : State)
    (harmless : machine.Meets (Harmless cfgs) (start name cfgs.zipIdx) ls)
    (reached : machine.run (start name cfgs.zipIdx) ls = some t) :
    (∃ t', machine.run (start name (withoutRepeats cfgs)) (ls.filter (kept cfgs)) = some t' ∧
      t'.plan = t.plan ∧ t'.sent = t.sent) ∧
    (∀ l u t', ¬ Harmless cfgs t l → machine.step t l = some u →
      machine.run (start name (withoutRepeats cfgs)) ((ls ++ [l]).filter (kept cfgs)) = some t' →
        t'.plan ≠ u.plan) ∧
    (t.pc = .ready → ∀ l, Harmless cfgs t l) := by
  have without := erase_start name cfgs ▸ run_erase (walks_start name cfgs) harmless reached
  refine ⟨⟨_, without, rfl, rfl⟩, ?_, harmless_of_ready reached⟩
  intro l u t' flips stepped reached'
  obtain ⟨dropped, differ⟩ := flips_plan flips stepped
  rw [List.filter_append, List.filter_cons_of_neg (by simp [dropped]), List.filter_nil,
    List.append_nil] at reached'
  cases Option.some.inj (without.symm.trans reached')
  exact differ

end Runs

section Office

local instance startsInOrder : LibraryInterface := sequentialInterface

/-- Two entries for one id, each with a hint of its own. -/
def twoHints (first second : String) : List ButtonCfg :=
  [⟨1, .red, .off, true, false, .night first⟩, ⟨1, .green, .off, false, false, .night second⟩]

/-- A start-up in which both handlers see an event before the second is refused. -/
def startUp (event : KeyValDict) : List Label :=
  [.install 0, .install 1, .deliver 0 event, .deliver 1 event,
    .created, .add 0, .add 1, .added, .remove 0, .remove 1,
    .removed]

def dayOn : KeyValDict := extensionStatus "801" "hints" "Custom:day" "1"

def nightOn : KeyValDict := extensionStatus "800" "hints" "Custom:night" "1"

/-- The hint of the refused button switches the lamp of the first, for good. -/
theorem refused_button_switches : ∃ t t',
    machine.run (start "office" (twoHints "Custom:night" "Custom:day").zipIdx)
      (startUp dayOn) = some t ∧
    machine.run (start "office" (withoutRepeats (twoHints "Custom:night" "Custom:day")))
      ((startUp dayOn).filter (kept (twoHints "Custom:night" "Custom:day"))) = some t' ∧
    (t.plan.getButton 1).map PhoneButton.isOn = some true ∧
    (t'.plan.getButton 1).map PhoneButton.isOn = some false :=
  ⟨_, _, rfl, rfl, rfl, rfl⟩

/-- A repeated entry with the same hint never flips anything: its handler sees each
event after the first one has. -/
theorem repeats_exact_copy : ∃ t t',
    machine.run (start "office" (twoHints "Custom:night" "Custom:night").zipIdx)
      (startUp nightOn) = some t ∧
    machine.run (start "office" (withoutRepeats (twoHints "Custom:night" "Custom:night")))
      ((startUp nightOn).filter (kept (twoHints "Custom:night" "Custom:night"))) = some t' ∧
    t'.plan = t.plan ∧ t'.sent = t.sent := by
  refine ⟨_, (repeats_exact "office" (twoHints "Custom:night" "Custom:night") (startUp nightOn)
    _ ?_ rfl).1.imp fun t' agrees => ⟨rfl, agrees⟩⟩
  refine .cons trivial rfl (.cons trivial rfl
    (.cons (fun repeated => absurd repeated (by decide)) rfl (.cons ?_ rfl
    (.cons trivial rfl (.cons trivial rfl (.cons trivial rfl (.cons trivial rfl (.cons trivial rfl
    (.cons trivial rfl (.cons trivial rfl trivial))))))))))
  intro _ handler on installed call
  cases Option.some.inj installed
  cases Option.some.inj call
  exact fun flag => Bool.noConfusion (Option.some.inj (show some true = some false from flag))

end Office
end LampMonitor.Asterisk.RepeatedButtons
