import LampMonitor.Asterisk.ParkedCalls
import Mathlib.Logic.Function.Basic

/-! The constructor of the park handler against an Asterisk that keeps reporting.
The callback is installed before the hints are stored, so early events are
dropped; the list requested last has to make up for them. -/
namespace LampMonitor.Asterisk.ParkStartup
open Ami Transition

/-- Every hint of the dialplan is on an extension of its own. -/
structure Dialplan where
  hints : List String
  exten : String → String
  context : String → String
  own : ∀ hint ∈ hints, ∀ hint' ∈ hints, exten hint = exten hint' → hint = hint'

def Dialplan.carries (d : Dialplan) (hint exten : String) : Prop := hint ∈ d.hints ∧ d.exten hint = exten

def Dialplan.report (d : Dialplan) (hint status : String) : KeyValDict :=
  extensionStatus (d.exten hint) (d.context hint) hint status

/-- What the constructor has done; `answered` once Asterisk has processed the
request for the `ExtensionStateList`. -/
inductive Stage where
  | created
  | installed
  | stored
  | requested
  | answered
  deriving DecidableEq, Repr

structure State where
  /-- The statuses of the hints in Asterisk. -/
  status : String → String
  /-- The events on their way to the application. -/
  queue : List KeyValDict
  stage : Stage
  handler : ParkEventHandler
  on : Bool

inductive Label where
  | change (hint status : String)
  | other (event : KeyValDict)
  | install
  | store
  | request
  | process
  | deliver
  deriving DecidableEq, Repr

namespace State

def change (d : Dialplan) (s : State) (hint status : String) : Option State :=
  if hint ∈ d.hints then
    some { s with status := Function.update s.status hint status, queue := s.queue ++ [d.report hint status] }
  else none

/-- Any event of another type. -/
def other (s : State) (event : KeyValDict) : Option State :=
  if isExtensionStatus event then none else some { s with queue := s.queue ++ [event] }

def install (s : State) : Option State :=
  if s.stage = .created then some { s with stage := .installed } else none

/-- `parking_hints_ = getParkingHints(...)`, for an answered query. -/
def store (lot : List String) (s : State) : Option State :=
  if s.stage = .installed then some { s with stage := .stored, handler := { s.handler with parkingHints := lot } }
  else none

def request (s : State) : Option State :=
  if s.stage = .stored then some { s with stage := .requested } else none

/-- One event for each hint of the dialplan. -/
def process (d : Dialplan) (s : State) : Option State :=
  if s.stage = .requested then
    some { s with stage := .answered, queue := s.queue ++ d.hints.map fun hint => d.report hint (s.status hint) }
  else none

/-- Before the callback is installed the event reaches nobody. -/
def deliver (s : State) : Option State :=
  match s.queue with
  | [] => none
  | event :: rest =>
    if s.stage = .created then some { s with queue := rest }
    else
      some { s with queue := rest, handler := (s.handler.amiEventHandler event).1,
                    on := (s.handler.amiEventHandler event).2.getD s.on }

end State

def machine (d : Dialplan) (lot : List String) : Machine State Label where
  step s
    | .change hint status => s.change d hint status
    | .other event => s.other event
    | .install => s.install
    | .store => s.store lot
    | .request => s.request
    | .process => s.process d
    | .deliver => s.deliver

/-- The members of the handler before its constructor's first step. -/
def start (phoneButton : PhoneButtonRef) (status : String → String) : State :=
  ⟨status, [], .created, ⟨phoneButton, [], ∅⟩, false⟩

def Stage.hasHints : Stage → Bool
  | .created | .installed => false
  | _ => true

section Invariant
variable {d : Dialplan} {lot : List String} {s t : State} {l : Label}

/-- The handler once everything on its way has arrived. -/
def eventually (s : State) : ParkEventHandler := s.handler.after s.queue

/-- After the request is processed, what is on its way and what has arrived
together tell every status that is 0 or 1. -/
structure Inv (d : Dialplan) (lot : List String) (s : State) : Prop where
  hints : s.handler.parkingHints = if s.stage.hasHints then lot else []
  follows : Follows d.carries lot s.queue
  lamp : s.on = decide (0 < s.handler.parkedExtens.card)
  parked : ∀ exten ∈ s.handler.parkedExtens, ∃ hint ∈ lot, d.carries hint exten
  told : s.stage = .answered → ∀ hint ∈ lot, hint ∈ d.hints → s.status hint = "0" ∨ s.status hint = "1" →
    (d.exten hint ∈ (eventually s).parkedExtens ↔ s.status hint = "1")

theorem oneToOne (d : Dialplan) (lot : List String) : OneToOne d.carries lot where
  functional := by
    rintro exten exten' hint _ ⟨_, rfl⟩ ⟨_, rfl⟩
    rfl
  injective := by
    rintro exten hint _ hint' _ ⟨known, rfl⟩ ⟨known', same⟩
    exact d.own hint known hint' known' same.symm

theorem carries_report (known : hint ∈ d.hints) :
    d.carries ((d.report hint status).get "Hint") ((d.report hint status).get "Exten") :=
  ⟨known, rfl⟩

theorem inv_start (d : Dialplan) (lot : List String) (phoneButton : PhoneButtonRef)
    (status : String → String) :
    Inv d lot (start phoneButton status) where
  hints := rfl
  follows _ member := absurd member List.not_mem_nil
  lamp := rfl
  parked _ member := absurd member (Finset.notMem_empty _)
  told answered := by simp [start] at answered

theorem reported_report (hint status : String) :
    reported hint (d.report hint status) = if status = "0" then some false
    else if status = "1" then some true else none := by
  have here : (d.report hint status).get "Event" = "ExtensionStatus" ∧
      (d.report hint status).get "Hint" = hint := ⟨rfl, rfl⟩
  rw [reported, if_pos here]
  rfl

theorem Inv.change (held : Inv d lot s)
    (stepped : s.change d hint status = some t) : Inv d lot t := by
  unfold State.change at stepped
  split at stepped
  · rename_i known
    cases Option.some.inj stepped
    refine ⟨held.hints, follows_snoc.mpr ⟨held.follows, fun _ _ => carries_report known⟩,
      held.lamp, held.parked, ?_⟩
    intro answered other listed present decided
    have monitored : other ∈ (eventually s).parkingHints := by
      have stage : s.stage = .answered := answered
      rw [eventually, ParkEventHandler.after_parkingHints, held.hints, stage]
      exact listed
    simp only [eventually] at monitored ⊢
    rw [ParkEventHandler.after_snoc, ParkEventHandler.mem_amiEventHandler]
    by_cases here : other = hint
    · subst other
      simp only [Function.update_self] at decided ⊢
      rw [if_pos ⟨monitored, rfl⟩]
      simp only [Dialplan.report, extensionStatus_hint]
      rw [← Dialplan.report, reported_report]
      rcases decided with rfl | rfl <;> simp
    · simp only [Function.update_of_ne here] at decided ⊢
      have apart : ¬ ((d.report hint status).get "Hint" ∈ (s.handler.after s.queue).parkingHints ∧
          (d.report hint status).get "Exten" = d.exten other) :=
        fun same => here (d.own other present hint known same.2.symm)
      rw [if_neg apart]
      exact held.told answered other listed present decided
  · contradiction

theorem lastReported_append (hint : String) (first second : List KeyValDict) :
    lastReported hint (first ++ second) =
      (lastReported hint second).or (lastReported hint first) := by
  simp only [lastReported, List.filterMap_append, List.getLast?_append]

/-- The list reports the status that every hint has at that moment. -/
theorem lastReported_list (present : hint ∈ d.hints) (status : String → String)
    (decided : status hint = "0" ∨ status hint = "1") :
    lastReported hint (d.hints.map fun hint => d.report hint (status hint)) =
      some (decide (status hint = "1")) := by
  have here : reported hint (d.report hint (status hint)) = some (decide (status hint = "1")) := by
    rw [reported_report]
    rcases decided with same | same <;> simp [same]
  have member : decide (status hint = "1") ∈
      (d.hints.map fun hint => d.report hint (status hint)).filterMap (reported hint) :=
    List.mem_filterMap.mpr ⟨_, List.mem_map_of_mem present, here⟩
  obtain ⟨last, last_eq⟩ := Option.ne_none_iff_exists'.mp
    (fun absent => List.ne_nil_of_mem member (List.getLast?_eq_none_iff.mp absent))
  obtain ⟨event, listed, told⟩ := List.mem_filterMap.mp (List.mem_of_getLast? last_eq)
  obtain ⟨other, _, rfl⟩ := List.mem_map.mp listed
  by_cases same : other = hint
  · rw [same, here] at told
    rw [lastReported, last_eq, told]
  · rw [reported_other (by simpa [Dialplan.report] using same)] at told
    contradiction

theorem Inv.process (held : Inv d lot s) (stepped : s.process d = some t) : Inv d lot t := by
  unfold State.process at stepped
  split at stepped
  · rename_i requested
    cases Option.some.inj stepped
    have hints : s.handler.parkingHints = lot := by rw [held.hints, requested]; rfl
    have follows : Follows d.carries lot
        (s.queue ++ d.hints.map fun hint => d.report hint (s.status hint)) := by
      intro event member
      rcases List.mem_append.mp member with queued | listed
      · exact held.follows event queued
      · obtain ⟨hint, known, rfl⟩ := List.mem_map.mp listed
        exact fun _ _ => carries_report known
    refine ⟨hints, follows, held.lamp, held.parked, fun _ hint listed present decided => ?_⟩
    rw [← hints] at follows listed
    rw [eventually, mem_after (hints ▸ oneToOne d lot) follows listed ⟨present, rfl⟩,
      lastReported_append, lastReported_list present s.status decided]
    simp only [Option.some_or, Option.getD_some, decide_eq_true_eq]
  · contradiction

theorem Inv.deliver (held : Inv d lot s) (stepped : s.deliver = some t) : Inv d lot t := by
  unfold State.deliver at stepped
  split at stepped
  · contradiction
  · rename_i event rest queue
    have follows := held.follows
    rw [queue] at follows
    have later : Follows d.carries lot rest :=
      fun other member => follows other (List.mem_cons_of_mem _ member)
    split at stepped
    · rename_i created
      cases Option.some.inj stepped
      exact ⟨held.hints, later, held.lamp, held.parked,
        fun answered => by simp [created] at answered⟩
    · cases Option.some.inj stepped
      refine ⟨?_, later, ?_, ?_, ?_⟩
      · rw [ParkEventHandler.amiEventHandler_parkingHints]
        exact held.hints
      · have parking := amiEventHandler_parking s.handler event s.on held.lamp
        cases call : (s.handler.amiEventHandler event).2 <;> simpa [call] using parking
      · intro exten parked
        rw [ParkEventHandler.mem_amiEventHandler] at parked
        split at parked
        · rename_i named
          by_cases status : event.get "Event" = "ExtensionStatus"
          · have listed : event.get "Hint" ∈ lot := by
              have monitored := named.1
              rw [held.hints] at monitored
              split at monitored
              · exact monitored
              · contradiction
            exact ⟨_, listed, named.2 ▸ follows event List.mem_cons_self status listed⟩
          · rw [reported_event status] at parked
            exact held.parked exten (by simpa using parked)
        · exact held.parked exten parked
      · have told := held.told
        rw [eventually, queue] at told
        exact told

theorem Inv.other (held : Inv d lot s) (stepped : s.other event = some t) : Inv d lot t := by
  unfold State.other at stepped
  split at stepped
  · contradiction
  · rename_i other
    cases Option.some.inj stepped
    refine ⟨held.hints, follows_snoc.mpr ⟨held.follows, fun status => absurd (isExtensionStatus_iff.mpr status) other⟩,
      held.lamp, held.parked, ?_⟩
    have ignored : ((eventually s).amiEventHandler event).1 = eventually s := by
      simp only [ParkEventHandler.amiEventHandler, Bool.eq_false_iff.mpr other, Bool.not_false,
        if_true]
    have told := held.told
    simp only [eventually, ParkEventHandler.after_snoc] at ignored told ⊢
    rwa [ignored]

theorem Inv.store (held : Inv d lot s) (stepped : s.store lot = some t) : Inv d lot t := by
  unfold State.store at stepped
  split at stepped
  · cases Option.some.inj stepped
    exact ⟨rfl, held.follows, held.lamp, held.parked, nofun⟩
  · contradiction

theorem Inv.stage (held : Inv d lot s)
    (stepped : s.install = some t ∨ s.request = some t) : Inv d lot t := by
  have hints := held.hints
  rcases stepped with stepped | stepped
  · unfold State.install at stepped
    split at stepped
    · rename_i created
      cases Option.some.inj stepped
      rw [created] at hints
      exact ⟨hints, held.follows, held.lamp, held.parked, nofun⟩
    · contradiction
  · unfold State.request at stepped
    split at stepped
    · rename_i stored
      cases Option.some.inj stepped
      rw [stored] at hints
      exact ⟨hints, held.follows, held.lamp, held.parked, nofun⟩
    · contradiction

theorem inv_step (held : Inv d lot s)
    (stepped : (machine d lot).step s l = some t) : Inv d lot t := by
  cases l with
  | change hint status => exact held.change stepped
  | process => exact held.process stepped
  | deliver => exact held.deliver stepped
  | other event => exact held.other stepped
  | install => exact held.stage (.inl stepped)
  | store => exact held.store stepped
  | request => exact held.stage (.inr stepped)

theorem inv_run
    (reached : (machine d lot).run (start phoneButton status) ls = some s) : Inv d lot s :=
  Machine.run_invariant (fun held stepped => inv_step held stepped)
    reached (inv_start d lot phoneButton status)

/-- What holds once everything sent is delivered. -/
structure Caught (d : Dialplan) (lot : List String) (s : State) : Prop where
  lamp : s.on = true ↔ ∃ exten, exten ∈ s.handler.parkedExtens
  lots : ∀ exten ∈ s.handler.parkedExtens, ∃ hint ∈ lot, hint ∈ d.hints ∧ d.exten hint = exten
  parked : ∀ hint ∈ lot, hint ∈ d.hints → s.status hint = "0" ∨ s.status hint = "1" →
    (d.exten hint ∈ s.handler.parkedExtens ↔ s.status hint = "1")

/-- The extensions of the lot that are in use now. -/
def InUse (d : Dialplan) (lot : List String) (s : State) (exten : String) : Prop :=
  ∃ hint ∈ lot, hint ∈ d.hints ∧ d.exten hint = exten ∧ s.status hint = "1"

theorem Caught.parked_iff (caught : Caught d lot s)
    (decided : ∀ hint ∈ lot, hint ∈ d.hints → s.status hint = "0" ∨ s.status hint = "1")
    (exten : String) :
    exten ∈ s.handler.parkedExtens ↔ InUse d lot s exten := by
  constructor
  · intro parked
    obtain ⟨hint, listed, present, rfl⟩ := caught.lots exten parked
    exact ⟨hint, listed, present, rfl,
      (caught.parked hint listed present (decided hint listed present)).mp parked⟩
  · rintro ⟨hint, listed, present, rfl, used⟩
    exact (caught.parked hint listed present (decided hint listed present)).mpr used

/-- Every history of the hints and every interleaving with the constructor: once
all is delivered the set is right for every hint that is now 0 or 1, the lamp
shows whether it is empty, and where all are 0 or 1 it is the set of spaces in use. -/
theorem startup_catches_up {phoneButton : PhoneButtonRef} {status : String → String}
    (reached : (machine d lot).run (start phoneButton status) ls = some s) (answered : s.stage = .answered)
    (delivered : s.queue = []) :
    Caught d lot s ∧ ((∀ hint ∈ lot, hint ∈ d.hints → s.status hint = "0" ∨ s.status hint = "1") →
      ∀ exten, exten ∈ s.handler.parkedExtens ↔ InUse d lot s exten) := by
  have held := inv_run reached
  have told := held.told answered
  simp only [eventually, delivered, ParkEventHandler.after, List.foldl_nil] at told
  have caught : Caught d lot s := by
    refine ⟨?_, held.parked, told⟩
    rw [held.lamp, decide_eq_true_eq, Finset.card_pos]
    exact Iff.rfl
  exact ⟨caught, caught.parked_iff⟩

end Invariant

section Lot

/-- One parking space. -/
def oneSpace : Dialplan where
  hints := ["park:701@lot"]
  exten _ := "701"
  context _ := "lot"
  own _ known _ known' _ := (List.mem_singleton.mp known).trans (List.mem_singleton.mp known').symm

/-- A space that was in use and is now neither in use nor free stays parked. -/
theorem unavailable_space_parked : ∃ s, (machine oneSpace ["park:701@lot"]).run (start (0, 1) fun _ => "0")
      [.install, .store, .request, .process, .change "park:701@lot" "1", .change "park:701@lot" "4",
        .deliver, .deliver, .deliver] = some s ∧ s.stage = .answered ∧ s.queue = [] ∧
    ¬ ∀ exten, exten ∈ s.handler.parkedExtens ↔ InUse oneSpace ["park:701@lot"] s exten := by
  refine ⟨_, rfl, rfl, rfl, ?_⟩
  intro exact_set
  obtain ⟨hint, listed, _, _, used⟩ := (exact_set "701").mp (by decide)
  cases List.mem_singleton.mp listed
  exact absurd used (by decide)

/-- A call parked before the hints are stored. -/
theorem startup_catches_up_dropped : ∃ s, (machine oneSpace ["park:701@lot"]).run (start (0, 1) fun _ => "0")
      [.install, .change "park:701@lot" "1", .deliver, .store, .request, .process, .deliver] = some s ∧
    "701" ∈ s.handler.parkedExtens := by
  have reached : (machine oneSpace ["park:701@lot"]).run (start (0, 1) fun _ => "0")
      [.install, .change "park:701@lot" "1", .deliver, .store, .request, .process, .deliver] =
        some _ := rfl
  have caught := (startup_catches_up reached rfl rfl).1
  exact ⟨_, reached,
    (caught.parked "park:701@lot" List.mem_cons_self List.mem_cons_self (.inr rfl)).mpr rfl⟩

end Lot
end LampMonitor.Asterisk.ParkStartup
