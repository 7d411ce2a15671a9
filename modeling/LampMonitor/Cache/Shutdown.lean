import LampMonitor.Cache.Refinement

/-! The two ways in which `stopWriteThread` can go wrong, with their exact
conditions. Both come from the flag being stored and notified without
`batch_mut_`: a notification can fall between the wait predicate and the
blocking, and a stop can fall where the loop test no longer looks at the queue. -/
namespace LampMonitor.WriteThread
open DeskphoneCache Transition

variable {ι : Type}

section Hang

/-- The destructor waits in `join`, the writer in `wait`, and no thread is left
that could notify. -/
def Hang (s : State ι) : Prop :=
  s.stop = .joining ∧ s.writer = .blocked ∧ s.run = false ∧ ∀ i, s.requests i = []

/-- The notification of `stopWriteThread` does not fall between a false wait
predicate and the blocking, unless a producer has still to notify. -/
def NotifiesOutsideWindow (s : State ι) (l : Label ι) : Prop :=
  match l with
  | .stopNotify => s.writer = .block → ∃ i, s.requests i ≠ []
  | _ => True

/-- Once the flag is stored the predicate holds, so the writer can stand at or
behind the blocking only while a producer is still to come. -/
structure Wakes (s : State ι) : Prop where
  stopped : s.stop ≠ .running → s.run = false
  covered : s.stop = .joining → s.writer = .block ∨ s.writer = .blocked → ∃ i, s.requests i ≠ []

theorem Wakes.not_hang (wakes : Wakes s) : ¬ Hang (ι := ι) s := by
  rintro ⟨joining, blocked, -, idle⟩
  obtain ⟨i, pending⟩ := wakes.covered joining (Or.inr blocked)
  exact pending (idle i)

theorem notified_ne_blocked (pc : WriterPc) : pc.notified ≠ .blocked := by
  cases pc <;> simp [WriterPc.notified]

theorem notified_eq_block {pc : WriterPc} : pc.notified = .block ↔ pc = .block := by
  cases pc <;> simp [WriterPc.notified]

variable [DecidableEq ι]

theorem wakes_step {s t : State ι} {l : Label ι} (wakes : Wakes s)
    (outside : NotifiesOutsideWindow s l) (stepped : machine.step s l = some t) : Wakes t := by
  obtain ⟨stopped, covered⟩ := wakes
  cases step_effect stepped with
  | enqueue pending free =>
    refine ⟨stopped, fun _ behind => ?_⟩
    rcases behind with block | blocked
    · rw [notified_eq_block.mp block] at free
      contradiction
    · exact absurd blocked (notified_ne_blocked _)
  | wait pc runs empty =>
    refine ⟨stopped, fun joining => ?_⟩
    have joining : s.stop = .joining := joining
    have flag := stopped (by simp [joining])
    rw [runs] at flag
    contradiction
  | block pc => exact ⟨stopped, fun joining _ => covered joining (Or.inl pc)⟩
  | stopStore pc => exact ⟨fun _ => rfl, fun joining => by simp at joining⟩
  | stopNotify pc =>
    refine ⟨fun _ => stopped (by simp [pc]), fun _ behind => ?_⟩
    rcases behind with block | blocked
    · exact outside (notified_eq_block.mp block)
    · exact absurd blocked (notified_ne_blocked _)
  | stopJoin pc ended => exact ⟨fun _ => stopped (by simp [pc]), fun joining => by simp at joining⟩
  | execute pc accepted =>
    refine ⟨?_, fun _ behind => by simp at behind⟩
    simpa only [State.write_stop, State.write_run] using stopped
  | enter pc runs | leave pc stops | lock pc | ready pc holds
  | swap pc | begin pc closed | beginFails pc fails
  | executeFails pc fails | commit pc opened | commitFails pc fails =>
    exact ⟨stopped, fun _ behind => by simp at behind⟩

omit [DecidableEq ι] in
theorem wakes_start (endpoints : Endpoints) (requests : ι → List HandsetData) :
    Wakes (start endpoints requests) :=
  ⟨fun stopped => absurd rfl stopped, fun joining => by simp [start] at joining⟩

/-- A notification inside the window is lost: the very next step blocks the
writer for good. -/
theorem notify_inside_window_hangs {s : State ι}
    (reached : machine.run (start endpoints requests) ls = some s)
    (stored : s.stop = .stored) (inside : ¬ NotifiesOutsideWindow s .stopNotify) :
    ∃ t, machine.run s [.stopNotify, .advance] = some t ∧ Hang t := by
  have window : s.writer = .block ∧ ∀ i, s.requests i = [] := by
    simpa only [NotifiesOutsideWindow, Classical.not_imp, not_exists, not_not] using inside
  have flag : s.run = false := by
    refine Machine.run_invariant (P := fun s => s.stop ≠ .running → s.run = false) ?_ reached
      (wakes_start endpoints requests).stopped (by simp [stored])
    intro t l u held stepped
    cases step_effect stepped with
    | stopStore pc => exact fun _ => rfl
    | stopNotify pc | stopJoin pc ended => exact fun _ => held (by simp [pc])
    | execute pc accepted => simpa only [State.write_stop, State.write_run] using held
    | _ => exact held
  refine ⟨{ s with stop := .joining, writer := .blocked }, ?_, rfl, rfl, flag, window.2⟩
  simp [Machine.run, machine, State.stopNotify, stored, State.notifyOne, State.advance, window.1,
    WriterPc.notified]

/-- The destructor hangs exactly by a notification inside the window: a run that
keeps its notification outside never hangs, and one inside leads to a hang. -/
theorem shutdown_hang_exact (endpoints : Endpoints) (requests : ι → List HandsetData) :
    (∀ ls t, machine.Meets NotifiesOutsideWindow (start endpoints requests) ls →
      machine.run (start endpoints requests) ls = some t → ¬ Hang t) ∧
    ∀ ls s, machine.run (start endpoints requests) ls = some s → s.stop = .stored →
      ¬ NotifiesOutsideWindow s .stopNotify → ∃ t, machine.run s [.stopNotify, .advance] = some t ∧ Hang t := by
  refine ⟨fun ls t meets reached => Wakes.not_hang ?_,
    fun ls s reached => notify_inside_window_hangs reached⟩
  exact Machine.run_invariant_meets
    (fun held here stepped => wakes_step held here stepped) meets reached
    (wakes_start endpoints requests)

/-- The writer finds the queue empty, the stop stores and notifies, and only
then does the writer block. -/
theorem shutdown_can_hang : ∃ ls t, (machine (ι := Unit)).run (start KeyedTable.empty fun _ => []) ls = some t ∧ Hang t :=
  ⟨[.advance, .advance, .advance, .stopStore, .stopNotify, .advance],
    _, rfl, rfl, rfl, rfl, fun _ => rfl⟩

/-- A stop that finds the writer already blocked wakes it. -/
theorem shutdown_hang_exact_blocked : ∃ t : State Unit,
    machine.run (start KeyedTable.empty fun _ => [])
      [.advance, .advance, .advance, .advance, .stopStore, .stopNotify] = some t ∧ ¬ Hang t := by
  refine ⟨_, rfl, (shutdown_hang_exact KeyedTable.empty fun _ => []).1
    [.advance, .advance, .advance, .advance, .stopStore, .stopNotify] _ ?_ rfl⟩
  simp [Machine.Meets, NotifiesOutsideWindow, machine, State.advance, State.stopStore, start]

end Hang

section Drain

/-- The writer has passed the loop test and not yet taken the queue. -/
def WriterPc.beforeSwap : WriterPc → Bool
  | .lock | .predicate | .block | .blocked | .swap => true
  | _ => false

/-- What is queued when the flag is stored will still be taken. -/
def WillTake (s : State ι) : Prop := s.batch = [] ∨ s.writer.beforeSwap = true

/-- Everything enqueued was executed once, in order, and committed. -/
structure Drained (endpoints : Endpoints) (ls : List (Label ι)) (s : State ι) : Prop where
  empty : s.batch = []
  executed : executed ls = enqueued ls
  committed : s.committed = (replay endpoints (enqueued ls)).endpoints

theorem notified_beforeSwap (pc : WriterPc) : pc.notified.beforeSwap = pc.beforeSwap := by
  cases pc <;> rfl

variable [DecidableEq ι]

/-- With the flag down and no producer left, a step neither saves what would be
lost nor loses what would be taken. -/
theorem willTake_step {s t : State ι} {l : Label ι} (stopped : s.run = false)
    (idle : ∀ i, s.requests i = []) (refines : ∃ a, Refines s a)
    (stepped : machine.step s l = some t) :
    WillTake t ↔ WillTake s := by
  cases step_effect stepped with
  | enqueue pending free => simp [idle] at pending
  | enter pc runs | wait pc runs empty => rw [stopped] at runs; contradiction
  | leave pc stops | lock pc | ready pc holds | block pc => simp [WillTake, pc, WriterPc.beforeSwap]
  | swap pc =>
    obtain ⟨a, refines⟩ := refines
    have phase := refines.phase
    rw [pc] at phase
    simp [WillTake, pc, WriterPc.beforeSwap, phase.1]
  | execute pc accepted | begin pc closed | beginFails pc fails
  | executeFails pc fails | commit pc opened | commitFails pc fails =>
    simp [WillTake, pc, WriterPc.beforeSwap]
  | stopStore pc | stopJoin pc ended => rfl
  | stopNotify pc => simp only [WillTake, notified_beforeSwap]

theorem stopped_step {s t : State ι} {l : Label ι} (stopped : s.run = false)
    (idle : ∀ i, s.requests i = []) (stepped : machine.step s l = some t) :
    t.run = false ∧ ∀ i, t.requests i = [] := by
  cases step_effect stepped with
  | enqueue pending free => simp [idle] at pending
  | execute pc accepted => simpa only [State.write_run, State.write_requests] using ⟨stopped, idle⟩
  | stopStore pc => exact ⟨rfl, idle⟩
  | _ => exact ⟨stopped, idle⟩

theorem returned_finished {s t : State ι} {l : Label ι}
    (held : s.stop = .returned → s.writer = .finished) (stepped : machine.step s l = some t) :
    t.stop = .returned → t.writer = .finished := by
  cases step_effect stepped with
  | enqueue pending free => exact fun returned => by rw [held returned]; rfl
  | stopStore pc | stopNotify pc => exact fun returned => by simp at returned
  | stopJoin pc ended => exact fun _ => ended
  | execute pc accepted =>
    intro returned
    rw [State.write_stop] at returned
    simp [held returned] at pc
  | enter pc | leave pc | lock pc | ready pc | wait pc | block pc
  | swap pc | begin pc | beginFails pc
  | executeFails pc | commit pc | commitFails pc =>
    exact fun returned => by simp [held returned] at pc

/-- With the writer gone, an empty queue means that everything was committed. -/
theorem drained_of_empty {endpoints : Endpoints} {requests : ι → List HandsetData}
    (succeeds : ∀ l ∈ ls, l.Succeeds) (reached : machine.run (start endpoints requests) ls = some s)
    (ended : s.writer = .finished) (empty : s.batch = []) : Drained endpoints ls s := by
  have whole : committedOps ls = enqueued ls :=
    committedOps_drained succeeds reached (by rw [ended]; rfl) empty
  have executes := run_executed succeeds reached
  refine ⟨empty, ?_, ?_⟩
  · simpa only [remaining, ended, empty, List.append_nil] using executes
  · rw [committed_replay succeeds reached, whole]

/-- Shutdown writes everything exactly when the flag is stored while the queue
is empty or the writer is on its way from the loop test to the swap. -/
theorem shutdown_drains_iff (endpoints : Endpoints) (requests : ι → List HandsetData)
    (succeeds : ∀ l ∈ ls ++ .stopStore :: ls', l.Succeeds)
    (before : machine.run (start endpoints requests) ls = some s) (idle : ∀ i, s.requests i = [])
    (stops : machine.run s (.stopStore :: ls') = some t) (returned : t.stop = .returned) :
    Drained endpoints (ls ++ .stopStore :: ls') t ↔ WillTake s := by
  have reached := Machine.run_trans before stops
  have ended : t.writer = .finished :=
    Machine.run_invariant returned_finished reached
      (fun stopped => by simp [start] at stopped) returned
  have finished : WillTake t ↔ t.batch = [] := by simp [WillTake, ended, WriterPc.beforeSwap]
  have kept : WillTake t ↔ WillTake s := by
    obtain ⟨stored, store, rest⟩ := Machine.run_cons.mp stops
    have first : stored.run = false ∧ (∀ i, stored.requests i = []) ∧
        (WillTake stored ↔ WillTake s) := by
      cases step_effect store with
      | stopStore pc => exact ⟨rfl, idle, Iff.rfl⟩
    obtain ⟨a, _, related⟩ :=
      run_refines (fun l member => succeeds l (List.mem_append_left _ member)) before
    obtain ⟨a', _, related⟩ := refines_step related (l := .stopStore) trivial store
    refine (Machine.run_invariant_meets (C := fun _ l => l.Succeeds)
      (P := fun u =>
        (u.run = false ∧ (∀ i, u.requests i = []) ∧ (WillTake u ↔ WillTake s)) ∧ ∃ a, Refines u a)
      ?_ (Machine.Meets.of_labels (fun l member => succeeds l (by simp [member])))
        rest ⟨first, a', related⟩).1.2.2
    rintro u l v ⟨⟨stopped, idle, same⟩, a, related⟩ here stepped
    obtain ⟨a', _, next⟩ := refines_step related here stepped
    obtain ⟨stopped', idle'⟩ := stopped_step stopped idle stepped
    exact ⟨⟨stopped', idle', (willTake_step stopped idle ⟨a, related⟩ stepped).trans same⟩,
      a', next⟩
  constructor
  · intro drained
    exact kept.mp (finished.mpr drained.empty)
  · intro taken
    exact drained_of_empty succeeds reached ended (finished.mp (kept.mpr taken))

/-- A registration queued before the writer thread first tests the flag. -/
theorem shutdown_loses_write : ∃ ls ls', ∃ s t : State Unit,
    (∀ l ∈ ls ++ .stopStore :: ls', l.Succeeds) ∧
    machine.run (start KeyedTable.empty fun _ => [registration]) ls = some s ∧ (∀ i, s.requests i = []) ∧
    machine.run s (.stopStore :: ls') = some t ∧ t.stop = .returned ∧ ¬ Drained KeyedTable.empty (ls ++ .stopStore :: ls') t := by
  refine ⟨[.enqueue () registration], [.advance, .stopNotify, .stopJoin],
    _, _, ?_, rfl, fun _ => rfl, rfl, rfl, ?_⟩
  · simp [Label.Succeeds]
  · intro drained
    have lost : [registration] = [] := drained.empty
    contradiction

/-- A registration that wakes the writer just before the stop is still written. -/
theorem shutdown_drains_iff_woken : ∃ t : State Unit,
    Drained KeyedTable.empty ([.advance, .advance, .advance, .advance, .enqueue () registration] ++
      .stopStore :: [.stopNotify, .advance, .advance, .swap, .begin .done, .execute registration .done,
        .commit .done, .advance, .stopJoin]) t :=
  ⟨_, (shutdown_drains_iff (ι := Unit) KeyedTable.empty (fun _ => [registration])
    (by simp [Label.Succeeds]) rfl (fun _ => rfl) rfl rfl).mpr (Or.inr rfl)⟩

end Drain

end LampMonitor.WriteThread
