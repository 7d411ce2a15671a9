import LampMonitor.Cache.Lifetimes

/-! Which phones the cache can know. Whatever statements fail, a live row is that of
a phone whose registration was put into the queue in this life. -/
namespace LampMonitor.WriteThread
open DeskphoneCache

variable {ι : Type} [DecidableEq ι] {known : String → Prop}

/-- Apart from phones that registered, every row has run out. -/
def RowsKnown (known : String → Prop) (endpoints : Endpoints) : Prop :=
  ∀ key row, endpoints.find? key = some row → known key.aor ∨ ∀ e, row.expiry = some e → e ≤ 0

/-- Only phones that registered are inserted. -/
def AsksKnown (known : String → Prop) (requests : List HandsetData) : Prop :=
  ∀ data ∈ requests, data.action = .aorInsert → known data.aor

structure CacheKnown (known : String → Prop) (s : State ι) : Prop where
  committed : RowsKnown known s.committed
  transaction : ∀ rows, s.transaction = some rows → RowsKnown known rows
  requests : ∀ thread, AsksKnown known (s.requests thread)
  batch : AsksKnown known s.batch
  working : AsksKnown known s.working
  todo : ∀ todo, s.writer = .execute todo → AsksKnown known todo

omit [DecidableEq ι] in
theorem RowsKnown.execute {db : Database} (rows : RowsKnown known db.endpoints)
    (asked : AsksKnown known [data]) :
    RowsKnown known (DeskphoneCache.execute db data).endpoints := by
  intro key row found
  cases action : data.action with
  | aorRemove =>
    simp only [DeskphoneCache.execute, action, find?_delAor] at found
    obtain ⟨old, before, rfl⟩ := Option.map_eq_some_iff.mp found
    rcases rows key old before with registered | stale
    · exact .inl registered
    · refine .inr fun e expiry => ?_
      split at expiry
      · exact (Option.some.inj expiry) ▸ Int.le_refl 0
      · exact stale e expiry
  | aorInsert =>
    simp only [DeskphoneCache.execute, action] at found
    cases bound : (bindFields 4 data.endpoint db.bindings).ip with
    | none =>
      simp only [addAor, bound] at found
      exact rows key row found
    | some ip =>
      simp only [addAor_bound bound, KeyedTable.find?_upsert] at found
      split at found
      · rename_i here
        subst here
        exact .inl (asked data List.mem_cons_self action)
      · exact rows key row found

theorem RowsKnown.mono {wider : String → Prop} (more : ∀ aor, known aor → wider aor)
    (rows : RowsKnown known endpoints) : RowsKnown wider endpoints :=
  fun key row found => (rows key row found).imp_left (more key.aor)

theorem AsksKnown.mono {wider : String → Prop} (more : ∀ aor, known aor → wider aor)
    (asked : AsksKnown known requests) : AsksKnown wider requests :=
  fun data member action => more data.aor (asked data member action)

namespace CacheKnown

omit [DecidableEq ι] in
theorem mono {wider : String → Prop} (more : ∀ aor, known aor → wider aor)
    {s : State ι} (held : CacheKnown known s) : CacheKnown wider s where
  committed := held.committed.mono more
  transaction rows opened := (held.transaction rows opened).mono more
  requests thread := (held.requests thread).mono more
  batch := held.batch.mono more
  working := held.working.mono more
  todo todo pc := (held.todo todo pc).mono more

omit [DecidableEq ι] in
theorem start (table : Endpoints) :
    CacheKnown known (start (initializeDatabase table) fun _ : ι => []) where
  committed key row found := by
    change (initializeDatabase table).find? key = some row at found
    rw [initializeDatabase, KeyedTable.find?_update] at found
    obtain ⟨old, _, rfl⟩ := Option.map_eq_some_iff.mp found
    exact .inr fun e expiry => (Option.some.inj expiry) ▸ Int.le_refl 0
  transaction _ opened := by cases opened
  requests _ := List.forall_mem_nil _
  batch := List.forall_mem_nil _
  working := List.forall_mem_nil _
  todo _ pc := by cases pc

theorem ask {s : State ι} (held : CacheKnown known s)
    (asked : AsksKnown known data.toList) (thread : ι) :
    CacheKnown known (WriteThread.ask s thread data) where
  committed := held.committed
  transaction := held.transaction
  requests other := by
    simp only [WriteThread.ask]
    by_cases same : other = thread
    · subst other
      rw [Function.update_self]
      exact List.forall_mem_append.mpr ⟨held.requests thread, asked⟩
    · rw [Function.update_of_ne same]
      exact held.requests other
  batch := held.batch
  working := held.working
  todo := held.todo

omit [DecidableEq ι] in
theorem view {s : State ι} (held : CacheKnown known s) :
    RowsKnown known s.view.endpoints := by
  rw [State.view]
  cases opened : s.transaction with
  | none => exact held.committed
  | some rows => exact held.transaction rows opened

omit [DecidableEq ι] in
/-- Another place of the writer that has nothing more to execute. -/
theorem moved {s : State ι} (held : CacheKnown known s) (pc : WriterPc)
    (idle : ∀ todo, pc ≠ .execute todo) : CacheKnown known { s with writer := pc } :=
  { held with todo := fun todo here => absurd here (idle todo) }

omit [DecidableEq ι] in
theorem write {s : State ι} (held : CacheKnown known s)
    (rows : RowsKnown known db.endpoints) : CacheKnown known (s.write db) := by
  unfold State.write
  split
  · exact { held with committed := rows }
  · exact { held with transaction := fun _ opened => Option.some.inj opened ▸ rows }

theorem step {s t : State ι} (held : CacheKnown known s)
    (stepped : machine.step s l = some t) : CacheKnown known t := by
  have notified : ∀ todo, s.writer.notified = .execute todo → AsksKnown known todo := by
    intro todo here
    refine held.todo todo ?_
    cases pc : s.writer <;> simp only [pc, WriterPc.notified, reduceCtorEq] at here
    rw [here]
  cases step_effect stepped with
  | enqueue pending free =>
    rename_i data rest thread
    have asked := held.requests thread
    rw [pending] at asked
    obtain ⟨here, later⟩ := List.forall_mem_cons.mp asked
    refine { held with requests := fun other => ?_, batch := ?_, todo := notified }
    · change AsksKnown known (Function.update s.requests thread rest other)
      by_cases same : other = thread
      · rw [same, Function.update_self]
        exact later
      · rw [Function.update_of_ne same]
        exact held.requests other
    · exact List.forall_mem_append.mpr ⟨held.batch, List.forall_mem_singleton.mpr here⟩
  | enter | leave | lock | ready | wait | block => exact held.moved _ (by simp)
  | swap =>
    have moved := held.moved .begin (by simp)
    exact { moved with batch := held.working, working := held.batch }
  | begin =>
    refine { held with transaction := fun rows opened => ?_, todo := fun todo pc => ?_ }
    · exact Option.some.inj opened ▸ held.committed
    · exact WriterPc.execute.inj pc ▸ held.working
  | beginFails =>
    refine { held with todo := fun todo pc => ?_ }
    exact WriterPc.execute.inj pc ▸ held.working
  | execute pc =>
    obtain ⟨here, later⟩ := List.forall_mem_cons.mp (held.todo _ pc)
    have rows := held.view.execute (List.forall_mem_singleton.mpr here)
    have wrote := held.write rows
    refine { wrote with todo := fun todo same => ?_ }
    exact WriterPc.execute.inj same ▸ later
  | executeFails pc =>
    refine { held with todo := fun todo same => ?_ }
    exact WriterPc.execute.inj same ▸ (List.forall_mem_cons.mp (held.todo _ pc)).2
  | commit pc opened =>
    have moved := held.moved .test (by simp)
    refine { moved with committed := ?_, transaction := ?_, working := List.forall_mem_nil _ }
    · exact held.transaction _ opened
    · exact fun _ closed => nomatch closed
  | commitFails =>
    have moved := held.moved .test (by simp)
    exact { moved with working := List.forall_mem_nil _ }
  | stopStore | stopJoin => exact { held with }
  | stopNotify => exact { held with todo := notified }

end CacheKnown
end LampMonitor.WriteThread
