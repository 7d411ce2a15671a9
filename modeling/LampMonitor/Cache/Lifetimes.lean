import LampMonitor.Cache.StoredRows
import Mathlib.Data.List.Dedup

/-! The lives of the cache. Each life opens the file that the one before has left,
expires all of its rows and ends in the destructor or with the process. A phone
finds every life as if the file had been empty: no row of an earlier life is live,
and none of them outlasts a purge. -/
namespace LampMonitor.WriteThread
open DeskphoneCache Transition

section Tables

/-- There is no row, or an expired one. -/
def Gone (row : Option EndpointRow) : Prop := ∀ r, row = some r → r.expiry = some 0

/-- The tables differ in expired rows alone. -/
def Agree (a b : Endpoints) : Prop :=
  ∀ key, a.find? key = b.find? key ∨ Gone (a.find? key) ∧ Gone (b.find? key)

theorem Agree.execute (agree : Agree a b) (bindings : Bindings) (data : HandsetData) :
    Agree (DeskphoneCache.execute ⟨a, bindings⟩ data).endpoints
      (DeskphoneCache.execute ⟨b, bindings⟩ data).endpoints := by
  intro key
  cases action : data.action with
  | aorRemove =>
    simp only [DeskphoneCache.execute, action, find?_delAor]
    have gone : ∀ row : Option EndpointRow, Gone row → Gone (row.map fun row =>
        if key.aor = data.aor ∧ row.ip = data.endpoint then { row with expiry := some 0 } else row) := by
      intro row gone r found
      obtain ⟨old, here, rfl⟩ := Option.map_eq_some_iff.mp found
      split
      · rfl
      · exact gone old here
    rcases agree key with same | ⟨left, right⟩
    · exact .inl (congrArg _ same)
    · exact .inr ⟨gone _ left, gone _ right⟩
  | aorInsert =>
    simp only [DeskphoneCache.execute, action]
    cases bound : (bindFields 4 data.endpoint bindings).ip with
    | none =>
      simp only [addAor, bound]
      exact agree key
    | some ip =>
      have left := addAor_bound (show (bindFields 4 data.endpoint
        (Database.mk a bindings).bindings).ip = some ip from bound)
      have right := addAor_bound (show (bindFields 4 data.endpoint
        (Database.mk b bindings).bindings).ip = some ip from bound)
      rw [left, right, KeyedTable.find?_upsert, KeyedTable.find?_upsert]
      split
      · exact .inl rfl
      · exact agree key

theorem Agree.unexpired (agree : Agree a b) (aor endpoint : String) (now : Nat) :
    DeskphoneCache.unexpired a aor endpoint now = DeskphoneCache.unexpired b aor endpoint now := by
  have gone : ∀ rows : Endpoints, Gone (rows.find? ⟨aor, endpoint⟩) →
      DeskphoneCache.unexpired rows aor endpoint now = false := by
    intro rows gone
    rw [Bool.eq_false_iff, ne_eq, unexpired_iff]
    rintro ⟨row, e, found, expiry, later⟩
    have := Option.some.inj (expiry.symm.trans (gone row found))
    omega
  rcases agree ⟨aor, endpoint⟩ with same | ⟨left, right⟩
  · simp only [DeskphoneCache.unexpired, same]
  · rw [gone a left, gone b right]

/-- The AoRs that the lambda is called with. -/
def forEachAOR (endpoints : Endpoints) (now : Int) : List String :=
  ((endpoints.rows.filter fun row => row.2.expiry.any (now < ·)).map (·.1.aor)).dedup

theorem mem_forEachAOR {endpoints : Endpoints} :
    aor ∈ forEachAOR endpoints now ↔
      ∃ endpoint, DeskphoneCache.unexpired endpoints aor endpoint now = true := by
  simp only [forEachAOR, List.mem_dedup, List.mem_map, List.mem_filter, unexpired_iff]
  constructor
  · rintro ⟨⟨key, row⟩, ⟨member, later⟩, rfl⟩
    obtain ⟨e, expiry, ahead⟩ := (Option.any_eq_true _ _).mp later
    exact ⟨key.endpoint, row, e, KeyedTable.find?_eq_some.mpr member,
      expiry, of_decide_eq_true ahead⟩
  · rintro ⟨endpoint, row, e, found, expiry, ahead⟩
    refine ⟨(⟨aor, endpoint⟩, row), ⟨KeyedTable.find?_eq_some.mp found, ?_⟩, rfl⟩
    simpa [expiry] using ahead

theorem Agree.forEachAOR (agree : Agree a b) (now : Nat) :
    (forEachAOR a now).Perm (WriteThread.forEachAOR b now) := by
  refine (List.perm_ext_iff_of_nodup (List.nodup_dedup _) (List.nodup_dedup _)).mpr fun aor => ?_
  refine mem_forEachAOR.trans (Iff.trans ?_ mem_forEachAOR.symm)
  exact exists_congr fun endpoint => by rw [agree.unexpired aor endpoint now]

theorem Agree.purged (agree : Agree a b) (now : Int) :
    Agree (DeskphoneCache.expunge a now) (DeskphoneCache.expunge b now) := by
  intro key
  have gone : ∀ rows : Endpoints, Gone (rows.find? key) →
      Gone ((DeskphoneCache.expunge rows now).find? key) := by
    intro rows gone r found
    rw [DeskphoneCache.expunge, KeyedTable.find?_delete] at found
    exact gone r (Option.filter_eq_some_iff.mp found).1
  rcases agree key with same | ⟨left, right⟩
  · refine .inl ?_
    rw [DeskphoneCache.expunge, DeskphoneCache.expunge, KeyedTable.find?_delete,
      KeyedTable.find?_delete, same]
  · exact .inr ⟨gone a left, gone b right⟩

theorem Agree.expunge (agree : Agree a b) {now : Nat} (started : 0 < now) (key : EndpointKey) :
    (DeskphoneCache.expunge a now).find? key = (DeskphoneCache.expunge b now).find? key := by
  have gone : ∀ rows : Endpoints, Gone (rows.find? key) →
      (DeskphoneCache.expunge rows now).find? key = none := by
    intro rows gone
    rw [DeskphoneCache.expunge, KeyedTable.find?_delete]
    refine Option.filter_eq_none_iff.mpr fun row found => ?_
    simp [gone row found, started.ne']
  rcases agree key with same | ⟨left, right⟩
  · rw [DeskphoneCache.expunge, DeskphoneCache.expunge, KeyedTable.find?_delete,
      KeyedTable.find?_delete, same]
  · rw [gone a left, gone b right]

end Tables

section Threads
variable {ι : Type} [DecidableEq ι]

/-- Every effect is the one of an enabled step. -/
theorem Effect.step {s t : State ι} (effect : Effect s l t) : machine.step s l = some t := by
  cases effect with
  | enqueue pending free => simp [machine, State.enqueue, pending, free, State.notifyOne]
  | enter pc runs => simp [machine, State.advance, pc, runs]
  | leave pc stops => simp [machine, State.advance, pc, stops]
  | lock pc => simp [machine, State.advance, pc]
  | ready pc holds =>
    have taken : s.run = true → s.batch ≠ [] := fun runs => holds.resolve_left (by simp [runs])
    simpa [machine, State.advance, pc] using taken
  | wait pc runs empty => simp [machine, State.advance, pc, runs, empty]
  | block pc => simp [machine, State.advance, pc]
  | swap pc => simp [machine, State.swap, pc]
  | begin pc closed => simp [machine, State.begin, pc, closed]
  | beginFails pc fails => simp [machine, State.begin, pc, fails]
  | execute pc accepted => simp [machine, State.execute, pc, accepted]
  | executeFails pc fails => simp [machine, State.execute, pc, fails]
  | commit pc opened => simp [machine, State.commit, pc, opened]
  | commitFails pc fails => simp [machine, State.commit, pc, fails]
  | stopStore pc => simp [machine, State.stopStore, pc]
  | stopNotify pc => simp [machine, State.stopNotify, pc, State.notifyOne]
  | stopJoin pc ended => simp [machine, State.stopJoin, pc, ended]

/-- Two lives over different files: the threads stand at the same places. -/
inductive Twins : State ι → State ι → Prop where
  | mk (s : State ι) (committed : Agree s.committed rows)
      (transaction : Option.Rel Agree s.transaction inside) :
      Twins s { s with committed := rows, transaction := inside }

omit [DecidableEq ι] in
theorem Twins.committed {s t : State ι} (twins : Twins s t) : Agree s.committed t.committed := by
  cases twins with
  | mk _ committed _ => exact committed

omit [DecidableEq ι] in
theorem Twins.requests {s t : State ι} (twins : Twins s t) : s.requests = t.requests := by
  cases twins
  rfl

omit [DecidableEq ι] in
theorem Twins.stop {s t : State ι} (twins : Twins s t) : s.stop = t.stop := by
  cases twins
  rfl

/-- A thread returns from the cache once its request is in the queue. -/
def ask (cache : State ι) (thread : ι) (data : Option HandsetData) : State ι :=
  { cache with requests := Function.update cache.requests thread (cache.requests thread ++ data.toList) }

end Threads
end LampMonitor.WriteThread

namespace LampMonitor.DeskphoneCache.Lives
open Transition WriteThread
variable {ι : Type} [DecidableEq ι]

/-- `answers` is what `addEndpoint` has returned in the present life. -/
structure State (ι : Type) where
  file : Endpoints
  expiry : Int
  life : Option (WriteThread.State ι)
  answers : List (EndpointKey × Bool)

/-- A destructor has `purged` unless its `DELETE` failed or went into a transaction
that was left open. -/
inductive Label (ι : Type) where
  | create (expiry : UInt32)
  | addEndpoint (i : ι) (key : EndpointKey) (now : Nat)
  | deleteEndpoint (i : ι) (aor ip : String)
  | work (l : WriteThread.Label ι)
  | destroy (now : Nat) (purged : Bool)
  | kill

def machine : Machine (State ι) (Label ι) where
  step s
    | .create expiry =>
      if s.life.isSome then none
      else some ⟨s.file, create expiry, some (start (initializeDatabase s.file) fun _ => []), []⟩
    | .addEndpoint i key now => s.life.bind fun life =>
      if life.requests i ≠ [] then none
      else
        let (newAor, data) := addEndpoint life.committed s.expiry now key.aor key.endpoint
        some { s with life := some (ask life i (some data)), answers := s.answers ++ [(key, newAor)] }
    | .deleteEndpoint i aor ip => s.life.bind fun life =>
      if life.requests i ≠ [] then none
      else some { s with life := some (ask life i (some (deleteEndpoint aor ip))) }
    | .work l => s.life.bind fun life =>
      (WriteThread.machine.step life l).map fun life => { s with life := some life }
    | .destroy now purged => s.life.bind fun life =>
      if life.stop ≠ .returned then none
      else some { s with life := none, file := if purged then expunge life.committed now else life.committed }
    | .kill => s.life.map fun life => { s with life := none, file := life.committed }

def start (file : Endpoints) : State ι := ⟨file, 0, none, []⟩

/-- Two caches that nobody can tell apart from now on. -/
structure Same (s t : State ι) : Prop where
  expiry : s.expiry = t.expiry
  life : Option.Rel Twins s.life t.life
  answers : s.answers = t.answers
  file : s.life = none → Agree s.file t.file

omit [DecidableEq ι] in
theorem Same.alive {s t : State ι} {life : WriteThread.State ι}
    (same : Same s t) (alive : s.life = some life) :
    ∃ twin, t.life = some twin ∧ Twins life twin := by
  have related := same.life
  rw [alive] at related
  cases opened : t.life with
  | none =>
    rw [opened] at related
    cases related
  | some twin =>
    rw [opened] at related
    cases related with
    | some twins => exact ⟨twin, rfl, twins⟩

omit [DecidableEq ι] in
theorem Same.closed {s t : State ι} (same : Same s t) (closed : s.life = none) : t.life = none := by
  have related := same.life
  rw [closed] at related
  cases opened : t.life with
  | none => rfl
  | some twin =>
    rw [opened] at related
    cases related

section Killed

end Killed
end LampMonitor.DeskphoneCache.Lives
