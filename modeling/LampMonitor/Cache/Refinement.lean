import LampMonitor.Cache.WriteThread

/-! The batch writer refines the batched log of requests. While every statement
succeeds, an operation is in the shared queue, in the working batch or in the
open transaction, and the committed table is the log applied up to a batch
boundary. Producers, the shutdown and the length of the run are arbitrary. -/
namespace LampMonitor.DeskphoneCache

/-- An upsert on `(aor, endpoint)`. The row of this key has the expiry, and in each other
column the field of the endpoint or, where there is none, what was bound before. -/
structure Upserted (db : Database) (aor endpoint : String) (expiry : Int) (db' : Database) : Prop where
  others : ∀ key, key ≠ ⟨aor, endpoint⟩ → db'.endpoints.find? key = db.endpoints.find? key
  row : ∃ ip, db'.bindings.ip = some ip ∧ db'.endpoints.find? ⟨aor, endpoint⟩ =
    some ⟨db'.bindings.ipVer, db'.bindings.trans, ip, db'.bindings.port, some expiry⟩
  bound : db'.bindings =
    { ipVer := ((fields endpoint)[0]?.map String.ofList).or db.bindings.ipVer
      trans := ((fields endpoint)[1]?.map String.ofList).or db.bindings.trans
      ip := ((fields endpoint)[2]?.map String.ofList).or db.bindings.ip
      port := ((fields endpoint)[3]?.map fromChars).getD db.bindings.port }

/-- An expiry of 0 on all rows with the AoR and the IP, and on no others. -/
structure Removed (db : Database) (aor ip : String) (db' : Database) : Prop where
  rows : ∀ key, db'.endpoints.find? key = (db.endpoints.find? key).map fun row =>
    if key.aor = aor ∧ row.ip = ip then { row with expiry := some 0 } else row
  bound : db'.bindings = db.bindings

/-- What one operation does to the table, by what is found there afterwards. -/
def Performs (db : Database) (data : HandsetData) (db' : Database) : Prop :=
  match data.action with
  | .aorInsert => Upserted db data.aor data.endpoint data.expiry db'
  | .aorRemove => Removed db data.aor data.endpoint db'

/-- The operations one at a time, in this order. -/
inductive Applied : Database → List HandsetData → Database → Prop where
  | nil (db : Database) : Applied db [] db
  | snoc (earlier : Applied db ops db') (last : Performs db' data db'') : Applied db (ops ++ [data]) db''

theorem performs_execute (accepted : accepts db data = true) :
    Performs db data (execute db data) := by
  unfold accepts at accepted
  unfold Performs execute
  cases action : data.action with
  | aorRemove => exact ⟨find?_delAor db data, rfl⟩
  | aorInsert =>
    simp only [action] at accepted
    obtain ⟨ip, bound⟩ := Option.isSome_iff_exists.mp accepted
    simp only [addAor_bound bound]
    refine ⟨fun key other => ?_, ⟨ip, bound, ?_⟩, bindFields_eq _ _⟩
    · rw [KeyedTable.find?_upsert, if_neg other]
    · rw [KeyedTable.find?_upsert, if_pos rfl]

theorem replay_snoc (endpoints : Endpoints) (log : List HandsetData) (data : HandsetData) :
    replay endpoints (log ++ [data]) = execute (replay endpoints log) data := by
  simp only [replay, List.foldl_append, List.foldl_cons, List.foldl_nil]

end LampMonitor.DeskphoneCache

namespace LampMonitor.WriteThread
open DeskphoneCache Transition

variable {ι : Type} [DecidableEq ι]

/-- The labels that the batched log sees. -/
def logLabel : Label ι → List (BatchLog.Label HandsetData)
  | .enqueue _ data => [.enqueue data]
  | .swap => [.cut]
  | .commit _ => [.publish]
  | _ => []

/-- The batches that `std::swap` has taken so far. -/
def batches (ls : List (Label ι)) : List (List HandsetData) :=
  (BatchLog.cuts (ls.flatMap logLabel)).1

def commits (ls : List (Label ι)) : Nat := BatchLog.publishes (ls.flatMap logLabel)

/-- The operations in the committed batches, in enqueue order. -/
def committedOps (ls : List (Label ι)) : List HandsetData := ((batches ls).take (commits ls)).flatten

/-- The log state behind a writer that executes its batch: `processed` of the
working batch has been applied inside the transaction. -/
structure Executing (s : State ι) (a : BatchLog.State Database HandsetData) (todo : List HandsetData) :
    Prop where
  waiting : a.batches = [s.working]
  split : ∃ processed, s.working = processed ++ todo ∧
    s.transaction = some (processed.foldl execute a.published).endpoints ∧
    s.bindings = (processed.foldl execute a.published).bindings

def Phase (s : State ι) (a : BatchLog.State Database HandsetData) : WriterPc → Prop
  | .begin => a.batches = [s.working] ∧ s.transaction = none ∧ a.published.bindings = s.bindings
  | .execute todo => Executing s a todo
  | _ => s.working = [] ∧ a.batches = [] ∧ s.transaction = none ∧ a.published.bindings = s.bindings

/-- The part of the working batch whose statements are still to come. -/
def remaining (s : State ι) : List HandsetData :=
  match s.writer with
  | .begin => s.working
  | .execute todo => todo
  | _ => []

structure Refines (s : State ι) (a : BatchLog.State Database HandsetData) : Prop where
  committed : a.published.endpoints = s.committed
  queue : a.queue = s.batch
  phase : Phase s a s.writer

omit [DecidableEq ι] in
theorem remaining_notified (s : State ι) (requests : ι → List HandsetData)
    (batch : List HandsetData) (stop : StopPc) :
    remaining { s with requests := requests, batch := batch, stop := stop, writer := s.writer.notified } =
      remaining s := by
  cases pc : s.writer <;> simp [remaining, pc, WriterPc.notified]

omit [DecidableEq ι] in
theorem executed_snoc (ls : List (Label ι)) (l : Label ι) :
    executed (ls ++ [l]) = executed ls ++ match l with
      | .execute data .done => [data]
      | _ => [] := by
  cases l with
  | execute data code => cases code <;> simp [executed]
  | _ => simp [executed]

omit [DecidableEq ι] in
theorem enqueued_logLabel (ls : List (Label ι)) :
    BatchLog.enqueued (ls.flatMap logLabel) = enqueued ls := by
  induction ls with
  | nil => rfl
  | cons l ls ih =>
    rw [List.flatMap_cons, BatchLog.enqueued_append, ih]
    cases l <;> rfl

omit [DecidableEq ι] in
/-- Appending to the queue and waking the writer touch no phase. -/
theorem Phase.notified {pc : WriterPc} (phase : Phase s a pc) :
    Phase (ι := ι) { s with requests := requests, batch := batch, stop := stop, run := run, writer := writer }
      { a with queue := queue } pc.notified := by
  cases pc with
  | execute todo => exact ⟨phase.waiting, phase.split⟩
  | _ => exact phase

theorem refines_step {s s' : State ι} {a : BatchLog.State Database HandsetData} {l : Label ι}
    (related : Refines s a) (succeeds : l.Succeeds) (stepped : machine.step s l = some s') :
    ∃ a', (BatchLog.machine execute).run a (logLabel l) = some a' ∧ Refines s' a' := by
  obtain ⟨committed, queue, phase⟩ := related
  cases step_effect stepped with
  | enqueue pending free =>
    exact ⟨_, rfl, committed, congrArg (· ++ _) queue, phase.notified⟩
  | stopNotify pc => exact ⟨a, rfl, committed, queue, phase.notified⟩
  | stopStore pc | stopJoin pc ended =>
    refine ⟨a, rfl, committed, queue, ?_⟩
    revert phase
    cases s.writer with
    | execute todo => exact fun phase => ⟨phase.waiting, phase.split⟩
    | _ => exact id
  | enter pc | leave pc | lock pc | ready pc | wait pc | block pc =>
    rw [pc] at phase
    exact ⟨a, rfl, committed, queue, phase⟩
  | swap pc =>
    rw [pc] at phase
    obtain ⟨working, empty, closed, bindings⟩ := phase
    refine ⟨_, rfl, committed, working.symm, ?_, closed, bindings⟩
    rw [empty, queue, List.nil_append]
  | begin pc closed =>
    rw [pc] at phase
    obtain ⟨waiting, -, bindings⟩ := phase
    exact ⟨a, rfl, committed, queue, waiting, [], rfl, congrArg some committed.symm, bindings.symm⟩
  | execute pc accepted =>
    rename_i data todo
    rw [pc] at phase
    obtain ⟨waiting, processed, split, opened, bindings⟩ := phase
    have view : s.view = processed.foldl DeskphoneCache.execute a.published := by
      simp only [State.view, opened, bindings, Option.getD_some]
    refine ⟨a, rfl, ?_, ?_, ?_⟩
    · simpa only [State.write, opened] using committed
    · simpa only [State.write, opened] using queue
    · simp only [State.write, opened, Phase]
      refine ⟨waiting, processed ++ [data], ?_, ?_, ?_⟩
      · simp only [split, List.append_assoc, List.singleton_append]
      · rw [List.foldl_append, ← view]
        rfl
      · rw [List.foldl_append, ← view]
        rfl
  | commit pc opened =>
    rw [pc] at phase
    obtain ⟨waiting, processed, split, transaction, bindings⟩ := phase
    rw [List.append_nil] at split
    have rows := Option.some.inj (opened.symm.trans transaction)
    refine ⟨{ a with published := s.working.foldl DeskphoneCache.execute a.published, batches := [] }, ?_, ?_⟩
    · simp only [logLabel, Machine.run, BatchLog.machine, waiting, Option.bind_some]
    · rw [split]
      exact ⟨rows.symm, queue, rfl, rfl, rfl, bindings.symm⟩
  | beginFails pc fails | executeFails pc fails | commitFails pc fails =>
    exact absurd succeeds fails

theorem refines_log :
    Machine.Simulation (machine (ι := ι)) (BatchLog.machine execute) Label.Succeeds
    logLabel Refines :=
  ⟨refines_step⟩

omit [DecidableEq ι] in
theorem refines_start (endpoints : Endpoints) (requests : ι → List HandsetData) :
    Refines (start endpoints requests) (BatchLog.start ⟨endpoints, Bindings.unbound⟩) :=
  ⟨rfl, rfl, rfl, rfl, rfl, rfl⟩

/-- The log state that a run of the writer refines. -/
theorem run_refines {endpoints : Endpoints} {requests : ι → List HandsetData}
    (succeeds : ∀ l ∈ ls, l.Succeeds)
    (reached : machine.run (start endpoints requests) ls = some s) :
    ∃ a, (BatchLog.machine execute).run (BatchLog.start ⟨endpoints, Bindings.unbound⟩)
      (ls.flatMap logLabel) = some a ∧ Refines s a :=
  refines_log.run (refines_start endpoints requests) succeeds reached

theorem committed_replay {endpoints : Endpoints} {requests : ι → List HandsetData}
    (succeeds : ∀ l ∈ ls, l.Succeeds)
    (reached : machine.run (start endpoints requests) ls = some s) :
    s.committed = (replay endpoints (committedOps ls)).endpoints := by
  obtain ⟨a, abstract, related⟩ := run_refines succeeds reached
  rw [← related.committed, (BatchLog.run_start execute abstract).2.2.2]
  rfl

/-- No operation is lost, duplicated or reordered between the queue and the batches. -/
theorem batches_queue {endpoints : Endpoints} {requests : ι → List HandsetData}
    (succeeds : ∀ l ∈ ls, l.Succeeds)
    (reached : machine.run (start endpoints requests) ls = some s) :
    (batches ls).flatten ++ s.batch = enqueued ls := by
  obtain ⟨a, abstract, related⟩ := run_refines succeeds reached
  rw [← related.queue, (BatchLog.run_start execute abstract).2.1, ← enqueued_logLabel]
  exact BatchLog.cuts_flatten _

/-- The writer is not inside a transaction. -/
def WriterPc.resting : WriterPc → Bool
  | .begin | .execute _ => false
  | _ => true

/-- Between two batches, with an empty queue, everything enqueued is committed. -/
theorem committedOps_drained {endpoints : Endpoints} {requests : ι → List HandsetData}
    (succeeds : ∀ l ∈ ls, l.Succeeds) (reached : machine.run (start endpoints requests) ls = some s)
    (resting : s.writer.resting = true) (empty : s.batch = []) : committedOps ls = enqueued ls := by
  obtain ⟨a, abstract, related⟩ := run_refines succeeds reached
  have none_waiting : a.batches = [] := by
    have phase := related.phase
    cases pc : s.writer with
    | begin | execute =>
      rw [pc] at resting
      contradiction
    | _ =>
      rw [pc] at phase
      exact phase.2.1
  have published := BatchLog.published_drained execute abstract none_waiting
  rw [related.queue, empty, List.append_nil, enqueued_logLabel] at published
  exact published

theorem committedOps_mono {endpoints : Endpoints} {requests : ι → List HandsetData}
    (ls' : List (Label ι)) (succeeds : ∀ l ∈ ls, l.Succeeds)
    (reached : machine.run (start endpoints requests) ls = some s) :
    committedOps ls <+: committedOps (ls ++ ls') := by
  obtain ⟨a, abstract, related⟩ := run_refines succeeds reached
  rw [committedOps, committedOps, batches, commits, batches, commits, List.flatMap_append]
  exact BatchLog.publishedOps_mono execute _ abstract

/-- Executed, remaining and queued operations make up the enqueue order. -/
theorem executed_step {s t : State ι} {l : Label ι}
    (held : executed ls ++ remaining s ++ s.batch = enqueued ls)
    (refines : ∃ a, Refines s a) (succeeds : l.Succeeds) (stepped : machine.step s l = some t) :
    executed (ls ++ [l]) ++ remaining t ++ t.batch = enqueued (ls ++ [l]) := by
  rw [enqueued_snoc, executed_snoc, ← held]
  cases step_effect stepped with
  | enqueue pending free =>
    rw [remaining_notified]
    simp
  | stopNotify pc =>
    rw [remaining_notified]
    simp
  | stopStore pc | stopJoin pc ended => simp [remaining]
  | enter pc | leave pc | lock pc | ready pc | wait pc | block pc | begin pc closed =>
    simp [remaining, pc]
  | swap pc =>
    obtain ⟨a, refines⟩ := refines
    have phase := refines.phase
    rw [pc] at phase
    simp [remaining, pc, phase.1]
  | execute pc accepted | commit pc opened => simp [remaining, pc]
  | beginFails pc fails | executeFails pc fails | commitFails pc fails =>
    exact absurd succeeds fails

theorem run_executed {endpoints : Endpoints} {requests : ι → List HandsetData}
    (succeeds : ∀ l ∈ ls, l.Succeeds)
    (reached : machine.run (start endpoints requests) ls = some s) :
    executed ls ++ remaining s ++ s.batch = enqueued ls := by
  refine (Machine.trace_invariant (C := fun _ l => l.Succeeds)
    (P := fun ls s => executed ls ++ remaining s ++ s.batch = enqueued ls ∧ ∃ a, Refines s a)
    ⟨rfl, _, refines_start endpoints requests⟩ ?_ (Machine.Meets.of_labels succeeds) reached).1
  rintro ls t l u ⟨held, a, related⟩ here stepped
  obtain ⟨a', _, next⟩ := refines_step related here stepped
  exact ⟨executed_step held ⟨a, related⟩ here stepped, a', next⟩

/-- The operations whose statements have succeeded are the committed ones and those of
the working batch so far. -/
theorem committedOps_executed {endpoints : Endpoints} {requests : ι → List HandsetData}
    (succeeds : ∀ l ∈ ls, l.Succeeds)
    (reached : machine.run (start endpoints requests) ls = some s) :
    committedOps ls <+: executed ls := by
  obtain ⟨a, abstract, related⟩ := run_refines succeeds reached
  have waiting := (BatchLog.run_start execute abstract).2.2.1
  have closed : executed ls ++ remaining s = committedOps ls ++ a.batches.flatten := by
    have all := run_executed succeeds reached
    rw [← batches_queue succeeds reached, List.append_left_inj] at all
    rw [all, waiting, committedOps, batches, commits, ← List.flatten_append, List.take_append_drop]
  have phase := related.phase
  cases pc : s.writer with
  | begin =>
    simp only [pc, Phase] at phase
    simp only [remaining, pc, phase.1, List.flatten_singleton, List.append_left_inj] at closed
    exact closed ▸ List.prefix_refl _
  | execute todo =>
    simp only [pc, Phase] at phase
    obtain ⟨batch, processed, split, _⟩ := phase
    simp only [remaining, pc, batch, List.flatten_singleton, split, ← List.append_assoc,
      List.append_left_inj] at closed
    exact closed ▸ List.prefix_append _ _
  | _ =>
    simp only [pc, Phase] at phase
    simp only [remaining, pc, phase.2.1, List.flatten_nil, List.append_nil] at closed
    exact closed ▸ List.prefix_refl _

/-- What the writer sees is the log of the statements that have succeeded, each of which
has done what its operation is for. -/
structure Replays (endpoints : Endpoints) (ls : List (Label ι)) (s : State ι) : Prop where
  view : s.view = replay endpoints (executed ls)
  applied : ∀ ops, ops <+: executed ls → Applied ⟨endpoints, Bindings.unbound⟩ ops (replay endpoints ops)

theorem replays_step {s t : State ι} {l : Label ι} (held : Replays endpoints ls s)
    (succeeds : l.Succeeds) (stepped : machine.step s l = some t) :
    Replays endpoints (ls ++ [l]) t := by
  have quiet : executed (ls ++ [l]) = executed ls → t.view = s.view →
      Replays endpoints (ls ++ [l]) t := by
    intro same view
    refine ⟨?_, ?_⟩
    · rw [view, held.view, same]
    · rw [same]
      exact held.applied
  cases step_effect stepped with
  | execute pc accepted =>
    rename_i data todo
    have longer : executed (ls ++ [.execute data .done]) = executed ls ++ [data] :=
      executed_snoc ls _
    refine ⟨?_, fun ops before => ?_⟩
    · rw [longer, replay_snoc, ← held.view]
      exact State.write_view s _
    · rw [longer, List.prefix_concat_iff] at before
      rcases before with rfl | earlier
      · rw [replay_snoc]
        refine .snoc (held.applied _ (List.prefix_refl _)) ?_
        exact performs_execute (held.view ▸ accepted)
      · exact held.applied ops earlier
  | begin pc closed =>
    refine quiet (by simp [executed_snoc]) ?_
    simp [State.view, closed]
  | commit pc opened =>
    refine quiet (by simp [executed_snoc]) ?_
    simp [State.view, opened]
  | beginFails pc fails | executeFails pc fails | commitFails pc fails =>
    exact absurd succeeds fails
  | _ => exact quiet (by simp [executed_snoc]) rfl

theorem applied_committedOps {endpoints : Endpoints} {requests : ι → List HandsetData}
    (succeeds : ∀ l ∈ ls, l.Succeeds)
    (reached : machine.run (start endpoints requests) ls = some s) :
    Applied ⟨endpoints, Bindings.unbound⟩ (committedOps ls)
      (replay endpoints (committedOps ls)) := by
  have held : Replays endpoints ls s := by
    refine Machine.trace_invariant (C := fun _ l => l.Succeeds) (P := Replays endpoints) ⟨rfl, ?_⟩
      (fun held here stepped => replays_step held here stepped) (.of_labels succeeds) reached
    intro ops before
    rw [List.prefix_nil.mp before]
    exact .nil _
  exact held.applied _ (committedOps_executed succeeds reached)

/-- In every reachable state the committed table is the initial one with a
prefix of the enqueue order applied one operation at a time, an insert as an
upsert and a removal as an expiry of the rows with its AoR and IP. The prefix ends
at a batch boundary and never shrinks; nothing enqueued is outside the batches
taken and the shared queue. -/
theorem committed_refines_log (endpoints : Endpoints) (requests : ι → List HandsetData)
    (succeeds : ∀ l ∈ ls ++ ls', l.Succeeds)
    (first : machine.run (start endpoints requests) ls = some s) (second : machine.run s ls' = some t) :
    s.committed = (replay endpoints (committedOps ls)).endpoints ∧
    committedOps ls <+: enqueued ls ∧
    (batches ls).flatten ++ s.batch = enqueued ls ∧
    committedOps ls = ((batches ls).take (commits ls)).flatten ∧
    t.committed = (replay endpoints (committedOps (ls ++ ls'))).endpoints ∧
    committedOps ls <+: committedOps (ls ++ ls') ∧
    Applied ⟨endpoints, Bindings.unbound⟩ (committedOps ls) (replay endpoints (committedOps ls)) ∧
    Applied ⟨endpoints, Bindings.unbound⟩ (committedOps (ls ++ ls'))
      (replay endpoints (committedOps (ls ++ ls'))) := by
  have early : ∀ l ∈ ls, l.Succeeds := fun l member => succeeds l (List.mem_append_left _ member)
  refine ⟨committed_replay early first, ?_, batches_queue early first, rfl,
    committed_replay succeeds (Machine.run_trans first second), committedOps_mono ls' early first,
    applied_committedOps early first,
      applied_committedOps succeeds (Machine.run_trans first second)⟩
  rw [← enqueued_logLabel]
  exact BatchLog.publishedOps_prefix _

def registration : HandsetData := ⟨.aorInsert, "100", "IPV4/UDP/10.0.0.7/5060", 90⟩

/-- One registration, stopped before and after its statement and commit. -/
theorem committed_refines_log_registration :
    ∃ s t : State Unit, committedOps (ι := Unit) [.enqueue () registration, .advance, .advance, .advance, .swap,
        .begin .done, .execute registration .done, .commit .done] = [registration] ∧
      s.committed = KeyedTable.empty ∧
      t.committed = (replay KeyedTable.empty [registration]).endpoints ∧
      Applied ⟨KeyedTable.empty, Bindings.unbound⟩ [registration]
        (replay KeyedTable.empty [registration]) ∧
      t.committed.find? ⟨"100", "IPV4/UDP/10.0.0.7/5060"⟩ =
        some ⟨some "IPV4", some "UDP", "10.0.0.7", some 5060, some 90⟩ := by
  have succeeds :
      ∀ l ∈ ([.enqueue () registration, .advance, .advance, .advance, .swap, .begin .done] ++
      [.execute registration .done, .commit .done] : List (Label Unit)), l.Succeeds := by
    simp [Label.Succeeds]
  obtain ⟨before, _, _, _, after, _, _, applied⟩ :=
    committed_refines_log KeyedTable.empty (fun _ => [registration]) succeeds rfl rfl
  have row : (replay KeyedTable.empty [registration]).endpoints.find?
      ⟨"100", "IPV4/UDP/10.0.0.7/5060"⟩ =
      some ⟨some "IPV4", some "UDP", "10.0.0.7", some 5060, some 90⟩ := by
    decide
  exact ⟨_, _, rfl, before, after, applied, (congrArg (KeyedTable.find? · _) after).trans row⟩

end LampMonitor.WriteThread
