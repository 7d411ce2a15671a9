import LampMonitor.Cache.Refinement
import Mathlib.Data.List.Perm.Basic

/-! Result codes of the batch writer. They are read by assertions alone, so with
assertions disabled a failed statement changes nothing about the next step. This
module says what a batch is owed when a statement fails and when it gets it. -/
namespace LampMonitor.WriteThread
open DeskphoneCache Transition
variable {ι : Type} [DecidableEq ι]

def Fails (ls : List (Label ι)) : Prop := ∃ l ∈ ls, ¬ l.Succeeds

/-- One iteration of the service loop from `BEGIN` to `COMMIT`, with any steps
of the producers and of the destructor in between. -/
structure Pass (s : State ι) (ls : List (Label ι)) (t : State ι) : Prop where
  begins : s.writer = .begin
  ends : ∃ body code, ls = body ++ [.commit code] ∧ ∀ code', .commit code' ∉ body
  reached : machine.run s ls = some t

/-- A batch without an error is committed as a whole. A batch with one leaves
the committed table alone and stays in the queue. -/
structure Kept (s : State ι) (ls : List (Label ι)) (t : State ι) : Prop where
  committed : ¬ Fails ls → t.committed = (s.working.foldl execute ⟨s.committed, s.bindings⟩).endpoints
  rolledBack : Fails ls → t.committed = s.committed
  pending : Fails ls → (t.working ++ t.batch).Perm (s.working ++ s.batch ++ enqueued ls)

/-- No statement of a batch with operations in it fails. -/
def NoError (s : State ι) (l : Label ι) : Prop := s.working = [] ∨ l.Succeeds

def WriterPc.inPass : WriterPc → Bool
  | .begin | .execute _ => true
  | _ => false

theorem notified_cases (pc : WriterPc) : pc.notified = pc ∨
    pc = .blocked ∧ pc.notified = .lock := by
  cases pc <;> simp [WriterPc.notified]

section Sane

/-- A transaction is open only while its batch is executed, unless the loop is
about to end; and only the last batch of all can be empty. -/
structure Sane (s : State ι) : Prop where
  closed : s.transaction = none ∨ (∃ todo, s.writer = .execute todo) ∨
    s.run = false ∧ (s.writer = .test ∨ s.writer = .finished)
  idle : s.writer.inPass = false → s.working = []
  loaded : s.writer.inPass = true → s.working = [] → s.run = false
  swapping : s.writer = .swap → s.batch = [] → s.run = false

omit [DecidableEq ι] in
theorem sane_start (rows : Endpoints) (requests : ι → List HandsetData) :
    Sane (start rows requests) :=
  ⟨.inl rfl, fun _ => rfl, nofun, nofun⟩

omit [DecidableEq ι] in
/-- Between the loop test and `BEGIN` no transaction is open. -/
theorem Sane.closed_unless {s : State ι} (held : Sane s) (waits : ∀ todo, s.writer ≠ .execute todo)
    (goes : s.run = false → s.writer ≠ .test ∧ s.writer ≠ .finished) : s.transaction = none := by
  rcases held.closed with closed | ⟨todo, executes⟩ | ⟨stopped, ends⟩
  · exact closed
  · exact absurd executes (waits todo)
  · exact absurd ends (not_or.mpr (goes stopped))

omit [DecidableEq ι] in
theorem Sane.begin_closed {s : State ι} (held : Sane s) (begins : s.writer = .begin) :
    s.transaction = none :=
  held.closed_unless (by simp [begins]) (by simp [begins])

omit [DecidableEq ι] in
/-- Waking the writer moves it only from where it holds neither rows nor a batch. -/
theorem Sane.notify {s : State ι} (held : Sane s) (queue : s.writer = .swap → batch = s.batch) :
    Sane { s with requests := requests, batch := batch, stop := stop, writer := s.writer.notified } := by
  rcases notified_cases s.writer with same | ⟨blocked, woken⟩
  · rw [same]
    refine ⟨held.closed, held.idle, held.loaded, fun swapping empty => held.swapping swapping ?_⟩
    exact (queue swapping).symm.trans empty
  · rw [woken]
    refine ⟨.inl (held.closed_unless ?_ ?_),
      fun _ => held.idle (by rw [blocked]; rfl), nofun, nofun⟩
    · simp [blocked]
    · simp [blocked]

omit [DecidableEq ι] in
/-- Taking the lock and waiting leave the working batch empty. -/
theorem Sane.wait {s : State ι} (held : Sane s) (outside : s.writer.inPass = false)
    (closed : s.transaction = none) (outside' : pc.inPass = false)
    (swapping : pc = .swap → s.run = false ∨ s.batch ≠ []) :
    Sane { s with writer := pc } := by
  refine ⟨.inl closed, fun _ => held.idle outside,
    fun inside => absurd (inside.symm.trans outside') (by decide), ?_⟩
  intro swaps empty
  exact (swapping swaps).resolve_right (not_not_intro empty)

theorem sane_step {s t : State ι} {l : Label ι} (held : Sane s) (here : NoError s l)
    (stepped : machine.step s l = some t) : Sane t := by
  cases step_effect stepped with
  | enqueue pending free =>
    exact held.notify (fun swapping => by simp [swapping, WriterPc.holdsMutex] at free)
  | stopNotify pc => exact held.notify (fun _ => rfl)
  | enter pc runs =>
    exact held.wait (by rw [pc]; rfl) (held.closed_unless (by simp [pc]) (by simp [runs])) rfl nofun
  | lock pc =>
    exact held.wait (by rw [pc]; rfl) (held.closed_unless (by simp [pc]) (by simp [pc])) rfl nofun
  | ready pc holds =>
    exact held.wait (by rw [pc]; rfl) (held.closed_unless (by simp [pc]) (by simp [pc]))
      rfl (fun _ => holds)
  | wait pc runs empty =>
    exact held.wait (by rw [pc]; rfl) (held.closed_unless (by simp [pc]) (by simp [pc])) rfl nofun
  | block pc =>
    exact held.wait (by rw [pc]; rfl) (held.closed_unless (by simp [pc]) (by simp [pc])) rfl nofun
  | leave pc stops =>
    exact ⟨.inr (.inr ⟨stops, .inr rfl⟩), fun _ => held.idle (by rw [pc]; rfl), nofun, nofun⟩
  | swap pc =>
    refine ⟨.inl (held.closed_unless (by simp [pc]) (by simp [pc])), nofun, ?_, nofun⟩
    exact fun _ empty => held.swapping pc empty
  | begin pc closed | beginFails pc fails =>
    exact ⟨.inr (.inl ⟨_, rfl⟩), nofun, fun _ empty => held.loaded (by rw [pc]; rfl) empty, nofun⟩
  | execute pc accepted =>
    refine ⟨.inr (.inl ⟨_, rfl⟩), nofun, fun _ empty => ?_, nofun⟩
    rw [State.write_working] at empty
    simpa only [State.write_run] using held.loaded (by rw [pc]; rfl) empty
  | executeFails pc fails =>
    exact ⟨.inr (.inl ⟨_, rfl⟩), nofun, fun _ empty => held.loaded (by rw [pc]; rfl) empty, nofun⟩
  | commit pc opened => exact ⟨.inl rfl, fun _ => rfl, nofun, nofun⟩
  | commitFails pc fails =>
    -- Only the empty batch of a stopping writer may fail to commit.
    have last : s.run = false := held.loaded (by rw [pc]; rfl) (here.resolve_right fails)
    exact ⟨.inr (.inr ⟨last, .inl rfl⟩), fun _ => rfl, nofun, nofun⟩
  | stopStore pc =>
    refine ⟨?_, held.idle, fun _ _ => rfl, fun _ _ => rfl⟩
    exact held.closed.imp_right (Or.imp_right (fun ended => ⟨rfl, ended.2⟩))
  | stopJoin pc ended => exact ⟨held.closed, held.idle, held.loaded, held.swapping⟩

theorem sane_run {rows : Endpoints} {requests : ι → List HandsetData}
    (meets : machine.Meets NoError (start rows requests) ls)
    (reached : machine.run (start rows requests) ls = some s) :
    Sane s :=
  Machine.run_invariant_meets (fun held here stepped => sane_step held here stepped) meets reached
    (sane_start rows requests)

end Sane

section Passes

omit [DecidableEq ι] in
theorem fails_snoc {ls : List (Label ι)} : Fails (ls ++ [l]) ↔ Fails ls ∨ ¬ l.Succeeds := by
  simp only [Fails, List.mem_append, List.mem_singleton, or_and_right, exists_or, exists_eq_left]

omit [DecidableEq ι] in
theorem not_fails_nil : ¬ Fails ([] : List (Label ι)) := by
  simp only [Fails, List.not_mem_nil, false_and, exists_false, not_false_eq_true]

/-- What a pass leaves alone until its `COMMIT`, with whatever result codes. -/
structure Underway (s : State ι) (body : List (Label ι)) (u : State ι) : Prop where
  inside : u.writer.inPass = true
  working : u.working = s.working
  batch : u.batch = s.batch ++ enqueued body

omit [DecidableEq ι] in
theorem underway_start {s : State ι} (begins : s.writer = .begin) : Underway s [] s :=
  ⟨by rw [begins]; rfl, rfl, (List.append_nil _).symm⟩

omit [DecidableEq ι] in
theorem notified_inside {pc : WriterPc} (inside : pc.inPass = true) : pc.notified = pc := by
  cases pc <;> first | rfl | contradiction

theorem underway_step {s u v : State ι} {l : Label ι} (held : Underway s body u)
    (open_ : ∀ code, l ≠ .commit code) (stepped : machine.step u l = some v) :
    Underway s (body ++ [l]) v := by
  obtain ⟨inside, working, batch⟩ := held
  cases step_effect stepped with
  | enqueue pending free =>
    refine ⟨by rw [notified_inside inside, inside], working, ?_⟩
    rw [enqueued_snoc, batch, List.append_assoc]
  | stopNotify pc =>
    exact ⟨by rw [notified_inside inside, inside], working,
      by rw [enqueued_snoc, batch, List.append_nil]⟩
  | stopStore pc => exact ⟨inside, working, by rw [enqueued_snoc, batch, List.append_nil]⟩
  | begin pc closed | beginFails pc fails | executeFails pc fails =>
    exact ⟨rfl, working, by rw [enqueued_snoc, batch, List.append_nil]⟩
  | execute pc accepted =>
    refine ⟨rfl, ?_, ?_⟩
    · exact (u.write_working _).trans working
    · simp only [enqueued_snoc, State.write_batch, batch, List.append_nil]
  | commit pc opened | commitFails pc fails => exact absurd rfl (open_ _)
  | stopJoin pc ended => exact absurd inside (by rw [ended]; decide)
  | enter pc runs | leave pc stops | lock pc | ready pc holds
  | wait pc runs empty | block pc | swap pc =>
    exact absurd inside (by rw [pc]; decide)

/-- How far a pass without an error has come. `done` is the executed part of
the batch; only an empty batch may run without its transaction. -/
structure Progress (s : State ι) (body : List (Label ι)) (u : State ι) : Prop extends Underway s body u where
  committed : u.committed = s.committed
  clean : s.working ≠ [] → ¬ Fails body
  begun : u.writer = .begin → u.transaction = none
  unbegun : u.transaction = none → u.writer = .begin ∨ Fails body ∧ s.working = []
  executed : ∃ done todo, s.working = done ++ todo ∧ u.view = done.foldl execute ⟨s.committed, s.bindings⟩ ∧
    (u.writer = .begin ∧ todo = s.working ∨ u.writer = .execute todo)

omit [DecidableEq ι] in
theorem progress_start {s : State ι} (begins : s.writer = .begin) (closed : s.transaction = none) :
    Progress s [] s where
  toUnderway := underway_start begins
  committed := rfl
  clean := fun _ => not_fails_nil
  begun := fun _ => closed
  unbegun := fun _ => .inl begins
  executed :=
    ⟨[], s.working,
      rfl, by simp only [State.view, closed, Option.getD_none, List.foldl_nil], .inl ⟨begins, rfl⟩⟩

omit [DecidableEq ι] in
/-- Producers and the destructor change nothing that a pass depends on. -/
theorem Progress.beside (held : Progress s body u) (next : Underway s (body ++ [l]) v)
    (succeeds : l.Succeeds) (writer : v.writer = u.writer) (committed : v.committed = u.committed)
    (transaction : v.transaction = u.transaction) (bindings : v.bindings = u.bindings) :
    Progress s (body ++ [l]) v := by
  have fails : Fails (body ++ [l]) ↔ Fails body := by
    simp only [fails_snoc, succeeds, not_true_eq_false, or_false]
  have view : v.view = u.view := by simp only [State.view, committed, transaction, bindings]
  obtain ⟨_, same, clean, begun, unbegun, executed⟩ := held
  exact ⟨next, committed.trans same, by rwa [fails], by rwa [writer, transaction],
    by rwa [fails, writer, transaction], by rwa [writer, view]⟩

theorem progress_step {s u v : State ι} {l : Label ι} (held : Progress s body u)
    (here : NoError u l) (open_ : ∀ code, l ≠ .commit code) (stepped : machine.step u l = some v) :
    Progress s (body ++ [l]) v := by
  have next := underway_step held.toUnderway open_ stepped
  obtain ⟨done, todo, split, view, stage⟩ := held.executed
  have empty_or : s.working = [] ∨ l.Succeeds := held.working ▸ here
  have clean : s.working ≠ [] → ¬ Fails (body ++ [l]) := by
    intro loaded
    rw [fails_snoc, not_or, not_not]
    exact ⟨held.clean loaded, empty_or.resolve_left loaded⟩
  cases step_effect stepped with
  | enqueue pending free => exact held.beside next trivial (notified_inside held.inside) rfl rfl rfl
  | stopNotify pc => exact held.beside next trivial (notified_inside held.inside) rfl rfl rfl
  | stopStore pc => exact held.beside next trivial rfl rfl rfl rfl
  | begin pc closed =>
    obtain ⟨_, rfl⟩ := stage.resolve_right (by simp [pc])
    refine ⟨next, held.committed, clean, by rintro ⟨⟩, by rintro ⟨⟩, done, s.working, split, ?_,
      .inr (by rw [held.working])⟩
    rw [← view]
    simp only [State.view, closed, Option.getD_some, Option.getD_none]
  | beginFails pc fails =>
    obtain ⟨_, rfl⟩ := stage.resolve_right (by simp [pc])
    refine ⟨next, held.committed,
      clean, by rintro ⟨⟩, fun _ => .inr ⟨?_, empty_or.resolve_right fails⟩, done, s.working,
      split, view, .inr (by rw [held.working])⟩
    exact fails_snoc.mpr (.inr fails)
  | execute pc accepted =>
    rename_i data rest
    have todo_eq : todo = data :: rest := by
      simpa [pc] using (stage.resolve_left (by simp [pc])).symm
    have loaded : s.working ≠ [] := by simp [split, todo_eq]
    obtain ⟨rows, opened⟩ : ∃ rows, u.transaction = some rows := by
      apply Option.ne_none_iff_exists'.mp
      intro closed
      rcases held.unbegun closed with begins | failed
      · simp [pc] at begins
      · exact loaded failed.2
    have written : u.write (DeskphoneCache.execute u.view data) =
        { u with transaction := some (DeskphoneCache.execute u.view data).endpoints,
                 bindings := (DeskphoneCache.execute u.view data).bindings } := by
      simp only [State.write, opened]
    refine ⟨next, ?_, clean, by rintro ⟨⟩, ?_, done ++ [data], rest, ?_, ?_, .inr rfl⟩
    · rw [written]
      exact held.committed
    · rw [written]
      rintro ⟨⟩
    · rw [split, todo_eq, List.append_assoc, List.singleton_append]
    · rw [List.foldl_append, ← view]
      exact u.write_view _
  | executeFails pc fails =>
    have empty := split.symm.trans (empty_or.resolve_right fails)
    have todo_eq := stage.resolve_left (by simp [pc])
    rw [(List.append_eq_nil_iff.mp empty).2, pc] at todo_eq
    cases todo_eq
  | commit pc opened | commitFails pc fails => exact absurd rfl (open_ _)
  | stopJoin pc ended => exact absurd held.inside (by rw [ended]; decide)
  | enter pc runs | leave pc stops | lock pc | ready pc holds
  | wait pc runs empty | block pc | swap pc =>
    exact absurd held.inside (by rw [pc]; decide)

/-- The invariant at the `COMMIT` of a pass, for both results. -/
theorem Progress.kept {s u t : State ι} (held : Progress s body u) (here : NoError u (.commit code))
    (stepped : machine.step u (.commit code) = some t) : Kept s (body ++ [.commit code]) t := by
  obtain ⟨done, todo, split, view, stage⟩ := held.executed
  have empty : Fails (body ++ [.commit code]) → s.working = [] := by
    intro failed
    by_contra loaded
    refine (fails_snoc.mp failed).elim (held.clean loaded) (not_not_intro ?_)
    exact here.resolve_left (by rwa [held.working])
  have pending (untouched : t.working = [] ∧ t.batch = u.batch)
      (failed : Fails (body ++ [.commit code])) :
      (t.working ++ t.batch).Perm (s.working ++ s.batch ++ enqueued (body ++ [.commit code])) := by
    rw [untouched.1, untouched.2, held.batch, empty failed, enqueued_snoc]
    simp only [List.nil_append, List.append_nil, List.Perm.refl]
  cases step_effect stepped with
  | commit pc opened =>
    rename_i rows
    have todo_eq : todo = [] := by simpa [pc] using (stage.resolve_left (by simp [pc])).symm
    have rows_eq : rows = (s.working.foldl execute ⟨s.committed, s.bindings⟩).endpoints := by
      rw [split, todo_eq, List.append_nil, ← view]
      simp only [State.view, opened, Option.getD_some]
    refine ⟨fun _ => rows_eq, fun failed => ?_, pending ⟨rfl, rfl⟩⟩
    rw [empty failed] at rows_eq
    exact rows_eq
  | commitFails pc fails =>
    have failed : Fails (body ++ [.commit code]) := fails_snoc.mpr (.inr fails)
    exact ⟨fun success => absurd failed success, fun _ => held.committed, pending ⟨rfl, rfl⟩⟩

/-- A batch with operations in it never gets what it is owed after an error:
`batch.clear()` runs before anything looks at the result. -/
theorem not_kept_of_fails {s t : State ι} (pass : Pass s ls t)
    (loaded : s.working ≠ []) (failed : Fails ls) :
    ¬ Kept s ls t := by
  obtain ⟨begins, ⟨body, code, rfl, open_⟩, reached⟩ := pass
  obtain ⟨u, before, last⟩ := Machine.run_snoc.mp reached
  have held : Underway s body u := by
    refine machine.trace_invariant (C := fun _ l => ∀ code, l ≠ .commit code) (P := Underway s)
      (underway_start begins) underway_step (Machine.Meets.of_labels ?_) before
    rintro l member code rfl
    exact open_ code member
  have untouched : t.working = [] ∧ t.batch = u.batch := by
    cases step_effect last <;> exact ⟨rfl, rfl⟩
  intro kept
  have lengths := (kept.pending failed).length_eq
  rw [untouched.1, untouched.2, held.batch, enqueued_snoc] at lengths
  simp only [List.length_append, List.length_nil] at lengths
  exact loaded (List.eq_nil_of_length_eq_zero (by omega))

theorem kept_of_noError {s t : State ι} (sane : Sane s) (meets : machine.Meets NoError s ls)
    (pass : Pass s ls t) :
    Kept s ls t := by
  obtain ⟨begins, ⟨body, code, rfl, open_⟩, reached⟩ := pass
  obtain ⟨u, before, last⟩ := Machine.run_snoc.mp reached
  obtain ⟨earlier, here⟩ := meets.snoc before
  have held : (∀ code, .commit code ∉ body) → Progress s body u := by
    refine machine.trace_invariant (C := NoError)
      (P := fun body u => (∀ code, .commit code ∉ body) → Progress s body u)
      (fun _ => progress_start begins (sane.begin_closed begins)) ?_ earlier before
    intro body u l v held here stepped open_
    refine progress_step
      (held fun code member => open_ code (List.mem_append_left _ member)) here ?_ stepped
    rintro code rfl
    exact open_ code (List.mem_append_right _ List.mem_cons_self)
  exact (held open_).kept here last

/-- Error-free runs meet the condition. -/
theorem noError_of_succeeds {s : State ι} (succeeds : ∀ l ∈ ls, l.Succeeds) :
    machine.Meets NoError s ls :=
  (Machine.Meets.of_labels succeeds).mono .inr

/-- Every batch of every run gets what it is owed, and no `BEGIN` is executed
inside an open transaction, exactly while no statement of a batch fails. -/
theorem batches_kept_exact (rows : Endpoints) (requests : ι → List HandsetData) :
    (∀ ls s, machine.Meets NoError (start rows requests) ls → machine.run (start rows requests) ls = some s →
      (s.writer = .begin → s.transaction = none) ∧
      ∀ pass t, machine.Meets NoError s pass → Pass s pass t → Kept s pass t) ∧
    ∀ ls s, machine.run (start rows requests) ls = some s → ∀ pass t, Pass s pass t → s.working ≠ [] → Fails pass →
      ¬ Kept s pass t := by
  constructor
  · intro ls s meets reached
    have sane := sane_run meets reached
    exact ⟨sane.begin_closed, fun pass t meets passes => kept_of_noError sane meets passes⟩
  · intro ls s _ pass t passes loaded failed
    exact not_kept_of_fails passes loaded failed

/-- A busy `COMMIT` drops the registration of its batch and leaves the
transaction open, in which the next `BEGIN` is executed. -/
theorem busy_commit_drops_batch : ∃ s t u : State Unit,
    machine.run (start KeyedTable.empty fun _ => [registration, registration])
      [.enqueue () registration, .advance, .advance, .advance, .swap] = some s ∧
    Pass s [.begin .done, .execute registration .done, .commit .busy] t ∧
    ¬ Kept s [.begin .done, .execute registration .done, .commit .busy] t ∧
    machine.run t [.enqueue () registration, .advance, .advance, .advance, .swap] = some u ∧
    u.writer = .begin ∧ u.transaction ≠ none := by
  refine ⟨_, _, _, rfl, ⟨rfl, ⟨[.begin .done, .execute registration .done], .busy, rfl, ?_⟩, rfl⟩,
    ?_, rfl, rfl, nofun⟩
  · simp
  · intro kept
    have lost : List.Perm [] [registration] :=
      kept.pending ⟨.commit .busy, by simp, by simp [Label.Succeeds]⟩
    exact absurd lost.length_eq (by decide)

/-- A batch without an error, up to its `COMMIT`. -/
theorem batches_kept_exact_registration : ∃ s t : State Unit,
    machine.run (start KeyedTable.empty fun _ => [registration])
      [.enqueue () registration, .advance, .advance, .advance, .swap] = some s ∧ s.transaction = none ∧
    Kept s [.begin .done, .execute registration .done, .commit .done] t := by
  obtain ⟨closed, kept⟩ :=
    (batches_kept_exact (ι := Unit) KeyedTable.empty (fun _ => [registration])).1
    [.enqueue () registration, .advance, .advance, .advance, .swap]
      _ (noError_of_succeeds (by simp [Label.Succeeds])) rfl
  have passes := kept [.begin .done, .execute registration .done, .commit .done] _
    (noError_of_succeeds (by simp [Label.Succeeds]))
    ⟨rfl, ⟨[.begin .done, .execute registration .done], .done, rfl, by simp⟩, rfl⟩
  exact ⟨_, _, rfl, closed rfl, passes⟩

end Passes
end LampMonitor.WriteThread
