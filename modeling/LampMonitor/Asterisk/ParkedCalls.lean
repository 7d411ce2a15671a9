import LampMonitor.Asterisk.NotificationTrace

/-! The set of parked extensions against the hints it is meant to stand for. The
handler filters by hint and remembers by extension, so its lamp tells whether a
call is parked exactly where the dialplan pairs the two one to one. -/
namespace LampMonitor.Asterisk
open Ami Bridge ButtonState Transition

/-- No monitored hint has two extensions and no extension two monitored hints. -/
structure OneToOne (carries : String → String → Prop) (hints : List String) : Prop where
  functional : ∀ hint ∈ hints, carries hint exten → carries hint exten' → exten = exten'
  injective : ∀ hint ∈ hints, ∀ hint' ∈ hints, carries hint exten → carries hint' exten → hint = hint'

/-- The events come from a dialplan in which these extensions carry these hints. -/
def Follows (carries : String → String → Prop) (hints : List String) (events : List KeyValDict) : Prop :=
  ∀ event ∈ events, event.get "Event" = "ExtensionStatus" → event.get "Hint" ∈ hints →
    carries (event.get "Hint") (event.get "Exten")

namespace ParkEventHandler

/-- One event decides the extension that it names, if its hint is monitored. -/
theorem mem_amiEventHandler (handler : ParkEventHandler) (event : KeyValDict) (exten : String) :
    exten ∈ (handler.amiEventHandler event).1.parkedExtens ↔
      if event.get "Hint" ∈ handler.parkingHints ∧ event.get "Exten" = exten then
        (reported (event.get "Hint") event).getD (decide (exten ∈ handler.parkedExtens)) = true
      else exten ∈ handler.parkedExtens := by
  by_cases status : isExtensionStatus event = true
  · by_cases monitored : event.get "Hint" ∈ handler.parkingHints
    · have contained : handler.parkingHints.contains (event.get "Hint") = true :=
        List.contains_iff_mem.mpr monitored
      have type : event.get "Event" = "ExtensionStatus" := isExtensionStatus_iff.mp status
      simp only [amiEventHandler, status, contained, monitored, reported, type, park, Bool.not_true,
        Bool.false_eq_true, if_false, true_and, and_self, if_true]
      by_cases here : event.get "Exten" = exten
      · subst exten
        split
        · simp
        · split <;> simp
      · have apart : exten ≠ event.get "Exten" := fun same => here same.symm
        rw [if_neg here]
        split
        · simp [apart]
        · split <;> simp [apart]
    · have contained : handler.parkingHints.contains (event.get "Hint") = false := by
        simpa using monitored
      simp only [amiEventHandler, status, contained, monitored, Bool.not_true, Bool.not_false,
        Bool.false_eq_true, if_false, if_true, false_and]
  · have other : isExtensionStatus event = false := by simpa using status
    have type : event.get "Event" ≠ "ExtensionStatus" := isExtensionStatus_iff.not.mp status
    simp [amiEventHandler, reported, other, type]

end ParkEventHandler

section OneToOne
variable {carries : String → String → Prop} {handler : ParkEventHandler} {hint exten : String}

theorem reported_other (other : event.get "Hint" ≠ hint) : reported hint event = none := by
  simp only [reported, other, and_false, if_false]

theorem reported_event (other : event.get "Event" ≠ "ExtensionStatus") :
    reported hint event = none := by
  simp only [reported, other, false_and, if_false]

theorem follows_snoc : Follows carries hints (events ++ [event]) ↔ Follows carries hints events ∧
    (event.get "Event" = "ExtensionStatus" → event.get "Hint" ∈ hints →
      carries (event.get "Hint") (event.get "Exten")) := by
  simp only [Follows, List.forall_mem_append, List.forall_mem_singleton]

/-- Where hints and extensions correspond, an extension is parked when its hint
was last reported so, and as it was at first while nothing was reported. -/
theorem mem_after (one : OneToOne carries handler.parkingHints)
    (follows : Follows carries handler.parkingHints events)
    (monitored : hint ∈ handler.parkingHints) (carried : carries hint exten) :
    exten ∈ (handler.after events).parkedExtens ↔
      (lastReported hint events).getD (decide (exten ∈ handler.parkedExtens)) = true := by
  induction events using List.reverseRecOn with
  | nil => simp [ParkEventHandler.after, lastReported]
  | append_singleton events event ih =>
    obtain ⟨follows, pairs⟩ := follows_snoc.mp follows
    rw [ParkEventHandler.after_snoc, ParkEventHandler.mem_amiEventHandler,
      ParkEventHandler.after_parkingHints, lastReported_snoc]
    have before := ih follows
    by_cases status : event.get "Event" = "ExtensionStatus"
    · by_cases same : event.get "Hint" = hint
      · have carried' : carries hint (event.get "Exten") := same ▸ pairs status (same ▸ monitored)
        have here : event.get "Exten" = exten := one.functional hint monitored carried' carried
        rw [same, if_pos ⟨monitored, here⟩]
        cases reported hint event with
        | none => simpa only [Option.getD_none, Option.none_or, decide_eq_true_eq] using before
        | some on => simp only [Option.getD_some, Option.some_or]
      · have apart : ¬ (event.get "Hint" ∈ handler.parkingHints ∧ event.get "Exten" = exten) := by
          rintro ⟨monitored', here⟩
          exact same
            (one.injective _ monitored' hint monitored (here ▸ pairs status monitored') carried)
        rw [if_neg apart, reported_other same, Option.none_or]
        exact before
    · rw [reported_event status, reported_event status, Option.none_or]
      simpa only [Option.getD_none, decide_eq_true_eq, ite_self] using before

/-- Nothing but the extensions of monitored hints is ever added. -/
theorem mem_after_carried (follows : Follows carries handler.parkingHints events)
    (parked : exten ∈ (handler.after events).parkedExtens) :
    exten ∈ handler.parkedExtens ∨ ∃ hint ∈ handler.parkingHints, carries hint exten := by
  induction events using List.reverseRecOn with
  | nil => exact .inl parked
  | append_singleton events event ih =>
    obtain ⟨follows, pairs⟩ := follows_snoc.mp follows
    rw [ParkEventHandler.after_snoc, ParkEventHandler.mem_amiEventHandler,
      ParkEventHandler.after_parkingHints] at parked
    split at parked
    · rename_i named
      by_cases status : event.get "Event" = "ExtensionStatus"
      · exact .inr ⟨_, named.1, named.2 ▸ pairs status named.1⟩
      · rw [reported_event status] at parked
        exact ih follows (by simpa using parked)
    · exact ih follows parked

theorem exists_event_of_lastReported (last : lastReported hint events = some on) :
    ∃ event ∈ events, event.get "Event" = "ExtensionStatus" ∧ event.get "Hint" = hint := by
  obtain ⟨event, member, status⟩ := List.mem_filterMap.mp (List.mem_of_getLast? last)
  refine ⟨event, member, ?_⟩
  by_contra other
  simp only [reported, if_neg other, reduceCtorEq] at status

/-- The lamp of a handler that started with no call parked. -/
theorem parked_after (one : OneToOne carries handler.parkingHints)
    (follows : Follows carries handler.parkingHints events) (unparked : handler.parkedExtens = ∅) :
    0 < (handler.after events).parkedExtens.card ↔
      ∃ hint ∈ handler.parkingHints, lastReported hint events = some true := by
  have mem {hint exten : String} (monitored : hint ∈ handler.parkingHints)
      (carried : carries hint exten) :
      exten ∈ (handler.after events).parkedExtens ↔ lastReported hint events = some true := by
    rw [mem_after one follows monitored carried, unparked]
    cases lastReported hint events <;> simp
  rw [Finset.card_pos]
  constructor
  · rintro ⟨exten, parked⟩
    rcases mem_after_carried follows parked with first | ⟨hint, monitored, carried⟩
    · simp [unparked] at first
    · exact ⟨hint, monitored, (mem monitored carried).mp parked⟩
  · rintro ⟨hint, monitored, last⟩
    obtain ⟨event, member, status, rfl⟩ := exists_event_of_lastReported last
    exact ⟨event.get "Exten", (mem monitored (follows event member status monitored)).mpr last⟩

end OneToOne

section Exact
variable [LibraryInterface] {config : Configuration} {handler : ParkEventHandler}

theorem inv_run (reached : machine.run (start config) events = some s) : Inv config events s :=
  Machine.trace_invariant (C := fun _ _ => True) (inv_start config)
    (fun held _ stepped => inv_step held stepped)
    (Machine.Meets.of_labels fun _ _ => trivial) reached

theorem run_total (s : State) (events : List KeyValDict) : ∃ t, machine.run s events = some t := by
  induction events generalizing s with
  | nil => exact ⟨s, rfl⟩
  | cons event events ih => exact ih _

/-- The lamp on the phones' plan is the handler's set of parked extensions. -/
theorem isOn_parked (member : .park handler ∈ config.handlers)
    (reached : machine.run (start config) events = some s) :
    isOn s.plans handler.phoneButton =
      some (decide (0 < (handler.after events).parkedExtens.card)) :=
  ((inv_run reached).lamps _ member).trans (congrArg some (lamp_park events handler))

/-- A call parked at one extension, then a space reported free at another. -/
def twoReports (exten hint exten' hint' : String) : List KeyValDict :=
  [extensionStatus exten "lot" hint "1", extensionStatus exten' "lot" hint' "0"]

omit [LibraryInterface] in
theorem follows_twoReports {carries : String → String → Prop}
    (first : carries hint exten) (second : carries hint' exten') :
    Follows carries hints (twoReports exten hint exten' hint') := by
  intro event member _ _
  rcases List.mem_pair.mp member with rfl | rfl
  · exact first
  · exact second

omit [LibraryInterface] in
theorem lastReported_twoReports : lastReported other (twoReports exten hint exten' hint') =
    if hint' = other then some false else if hint = other then some true else none := by
  have first : reported other (extensionStatus exten "lot" hint "1") =
      if hint = other then some true else none := by
    simp [reported]
  have second : reported other (extensionStatus exten' "lot" hint' "0") =
      if hint' = other then some false else none := by
    simp [reported]
  have none_before : lastReported other [] = none := rfl
  rw [twoReports, ← List.singleton_append, lastReported_snoc, ← List.nil_append [_],
    lastReported_snoc, first, second, none_before]
  split <;> simp

omit [LibraryInterface] in
theorem mem_twoReports (unparked : handler.parkedExtens = ∅)
    (monitored : hint ∈ handler.parkingHints) (monitored' : hint' ∈ handler.parkingHints) :
    other ∈ (handler.after (twoReports exten hint exten' hint')).parkedExtens ↔
      other = exten ∧ other ≠ exten' := by
  have first : reported hint (extensionStatus exten "lot" hint "1") = some true := by
    simp [reported]
  have second : reported hint' (extensionStatus exten' "lot" hint' "0") = some false := by
    simp [reported]
  simp only [twoReports, ParkEventHandler.after, List.foldl_cons, List.foldl_nil,
    ParkEventHandler.mem_amiEventHandler, ParkEventHandler.amiEventHandler_parkingHints,
    extensionStatus_hint, extensionStatus_exten, monitored, monitored', first, second, unparked,
    true_and, Option.getD_some, Finset.notMem_empty]
  by_cases last : exten' = other
  · simp [last]
  · by_cases parked : exten = other <;> simp [last, parked, Ne.symm]

/-- The law on the two reports of any two pairs of the dialplan. -/
theorem pairs_of_law {carries : String → String → Prop} (member : .park handler ∈ config.handlers)
    (law : ∀ events s, Follows carries handler.parkingHints events →
      machine.run (start config) events = some s →
      isOn s.plans handler.phoneButton =
        some (decide (∃ hint ∈ handler.parkingHints, lastReported hint events = some true)))
    (monitored : hint ∈ handler.parkingHints) (monitored' : hint' ∈ handler.parkingHints)
    (first : carries hint exten) (second : carries hint' exten') :
    exten ≠ exten' ↔ hint ≠ hint' := by
  obtain ⟨s, reached⟩ := run_total (start config) (twoReports exten hint exten' hint')
  have lamp :=
    (isOn_parked member reached).symm.trans (law _ s (follows_twoReports first second) reached)
  simp only [Option.some.injEq, decide_eq_decide, Finset.card_pos, Finset.Nonempty,
    mem_twoReports (config.unparked handler member) monitored monitored', exists_eq_left,
    lastReported_twoReports] at lamp
  rw [lamp]
  constructor
  · rintro ⟨other, _, last⟩ rfl
    split at last <;> simp at last
  · intro different
    exact ⟨hint, monitored, by simp [different.symm]⟩

theorem isOn_unmonitored (member : .park handler ∈ config.handlers)
    (reached : machine.run (start config) events = some s) (stepped : machine.step s event = some t)
    (other : event.get "Hint" ∉ handler.parkingHints) :
    isOn t.plans handler.phoneButton = isOn s.plans handler.phoneButton := by
  have ignored : ((handler.after events).amiEventHandler event).1 = handler.after events := by
    simp only [ParkEventHandler.amiEventHandler, ParkEventHandler.after_parkingHints]
    split
    · rfl
    · rw [if_pos (by simpa using other)]
  rw [isOn_parked member (Machine.run_snoc.mpr ⟨s, reached, stepped⟩), isOn_parked member reached,
    ParkEventHandler.after_snoc, ignored]

/-- For every configuration and dialplan: the lamp tells after every history of
the dialplan whether some monitored hint was last reported in use, exactly if
hints and extensions correspond one to one; events of other hints never touch it. -/
theorem park_lamp_exact (member : .park handler ∈ config.handlers) (carries : String → String → Prop) :
    ((∀ events s, Follows carries handler.parkingHints events → machine.run (start config) events = some s →
      isOn s.plans handler.phoneButton =
        some (decide (∃ hint ∈ handler.parkingHints, lastReported hint events = some true))) ↔
      OneToOne carries handler.parkingHints) ∧
    ∀ events event s t, machine.run (start config) events = some s → machine.step s event = some t →
      event.get "Hint" ∉ handler.parkingHints → isOn t.plans handler.phoneButton = isOn s.plans handler.phoneButton := by
  refine ⟨⟨fun law => ⟨?_, ?_⟩, fun one events s follows reached => ?_⟩,
    fun events event s t => isOn_unmonitored member⟩
  · intro exten exten' hint monitored first second
    by_contra different
    exact (pairs_of_law member law monitored monitored first second).mp different rfl
  · intro exten hint monitored hint' monitored' first second
    by_contra different
    exact (pairs_of_law member law monitored monitored' first second).mpr different rfl
  · rw [isOn_parked member reached]
    simp only [parked_after one follows (config.unparked handler member)]

end Exact

section Lots

local instance : LibraryInterface := sequentialInterface

/-- The office plan with its button for calls parked under these hints. -/
def parkConfiguration (parkingHints : List String) : Configuration where
  plans := [officePlan]
  handlers := [.park ⟨(0, 1), parkingHints, ∅⟩]
  off := officePlans_off
  rendered := officePlans_rendered
  distinct := by simp
  present := by
    intro handler member
    rw [List.mem_singleton.mp member]
    rfl
  unparked := by
    intro handler member
    cases List.mem_singleton.mp member
    rfl

/-- A parking space with its hint on two extensions: free on the second one, it still
counts as taken on the first. -/
theorem second_extension_lit : ∃ s,
    machine.run (start (parkConfiguration ["park:701@lot"]))
      (twoReports "701" "park:701@lot" "901" "park:701@lot") = some s ∧
    ¬ (isOn s.plans (0, 1) = some (decide (∃ hint ∈ ["park:701@lot"],
      lastReported hint (twoReports "701" "park:701@lot" "901" "park:701@lot") = some true))) := by
  refine ⟨_, rfl, ?_⟩
  decide

/-- Two spaces, each on an extension of its own. -/
def lotCarries (hint exten : String) : Prop :=
  hint = "park:701@lot" ∧ exten = "701" ∨ hint = "park:702@lot" ∧ exten = "702"

/-- A call parked at one of the two spaces. -/
theorem park_lamp_exact_lot : ∃ s,
    machine.run (start (parkConfiguration ["park:701@lot", "park:702@lot"]))
      [extensionStatus "702" "lot" "park:702@lot" "1"] = some s ∧ isOn s.plans (0, 1) = some true := by
  have member : .park ⟨(0, 1), ["park:701@lot", "park:702@lot"], ∅⟩ ∈
      (parkConfiguration ["park:701@lot", "park:702@lot"]).handlers := List.mem_cons_self
  have one : OneToOne lotCarries ["park:701@lot", "park:702@lot"] := by
    refine ⟨?_, ?_⟩
    · rintro exten exten' hint _ (⟨rfl, rfl⟩ | ⟨rfl, rfl⟩) second <;>
        simpa [lotCarries, eq_comm] using second
    · rintro exten hint _ hint' _ (⟨rfl, rfl⟩ | ⟨rfl, rfl⟩) second <;>
        simpa [lotCarries, eq_comm] using second
  have follows : Follows lotCarries ["park:701@lot", "park:702@lot"]
      [extensionStatus "702" "lot" "park:702@lot" "1"] := by
    intro event reported _ _
    cases List.mem_singleton.mp reported
    exact .inr ⟨rfl, rfl⟩
  refine ⟨_, rfl, ((park_lamp_exact member lotCarries).1.mpr one _ _ follows rfl).trans ?_⟩
  decide

end Lots
end LampMonitor.Asterisk
