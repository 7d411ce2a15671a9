import LampMonitor.Cache.Endpoints
import LampMonitor.Transition.BatchLog
import Mathlib.Logic.Function.Basic

/-! The batch writer of the deskphone cache with its producers and its shutdown,
one synchronisation or SQL statement a step. Producers are arbitrary threads
with arbitrary pending requests; every statement carries its result code. The
writer is the only thread that ever waits on the condition variable. -/
namespace LampMonitor.WriteThread
open DeskphoneCache Transition

inductive ReturnCode where
  | done
  | busy
  | constraint
  | error
  deriving DecidableEq, Repr

/-- Where `writeThread` stands. `predicate`, `block` and `swap` hold
`batch_mut_`; `block` has just found the wait predicate false. -/
inductive WriterPc where
  | test
  | lock
  | predicate
  | block
  | blocked
  | swap
  | begin
  | execute (todo : List HandsetData)
  | finished
  deriving DecidableEq, Repr

def WriterPc.holdsMutex : WriterPc → Bool
  | .predicate | .block | .swap => true
  | _ => false

/-- `notify_one` reaches the writer only where it is already blocked. -/
def WriterPc.notified : WriterPc → WriterPc
  | .blocked => .lock
  | pc => pc

/-- Where `stopWriteThread` stands. -/
inductive StopPc where
  | running
  | stored
  | joining
  | returned
  deriving DecidableEq, Repr

structure State (ι : Type) where
  /-- What each producer thread has still to enqueue. -/
  requests : ι → List HandsetData
  batch : List HandsetData
  run : Bool
  writer : WriterPc
  working : List HandsetData
  committed : Endpoints
  transaction : Option Endpoints
  bindings : Bindings
  stop : StopPc

inductive Label (ι : Type) where
  | enqueue (i : ι) (data : HandsetData)
  | advance
  | swap
  | begin (code : ReturnCode)
  | execute (data : HandsetData) (code : ReturnCode)
  | commit (code : ReturnCode)
  | stopStore
  | stopNotify
  | stopJoin

namespace State
variable {ι : Type}

/-- What the writer's own connection sees. -/
def view (s : State ι) : Database := ⟨s.transaction.getD s.committed, s.bindings⟩

/-- A statement outside a transaction commits on its own. -/
def write (s : State ι) (db : Database) : State ι :=
  match s.transaction with
  | none => { s with committed := db.endpoints, bindings := db.bindings }
  | some _ => { s with transaction := some db.endpoints, bindings := db.bindings }

section Write
variable (s : State ι) (db : Database)

@[simp] theorem write_requests : (s.write db).requests = s.requests := by
  unfold write
  split <;> rfl

@[simp] theorem write_batch : (s.write db).batch = s.batch := by
  unfold write
  split <;> rfl

@[simp] theorem write_run : (s.write db).run = s.run := by
  unfold write
  split <;> rfl

@[simp] theorem write_working : (s.write db).working = s.working := by
  unfold write
  split <;> rfl

@[simp] theorem write_stop : (s.write db).stop = s.stop := by
  unfold write
  split <;> rfl

@[simp] theorem write_view : (s.write db).view = db := by
  unfold write
  split
  · rename_i closed
    simp only [view, closed, Option.getD_none]
  · rfl

end Write

def notifyOne (s : State ι) : State ι := { s with writer := s.writer.notified }

/-- The critical section of `addEndpoint` and `deleteEndpoint`. -/
def enqueue [DecidableEq ι] (s : State ι) (i : ι) (data : HandsetData) : Option (State ι) :=
  match s.requests i with
  | [] => none
  | head :: rest =>
    if head = data ∧ s.writer.holdsMutex = false then
      some (notifyOne { s with requests := Function.update s.requests i rest, batch := s.batch ++ [data] })
    else none

/-- The steps of the writer between two accesses to shared data other than the
queue: the loop test, the lock, the wait predicate and the blocking. -/
def advance (s : State ι) : Option (State ι) :=
  match s.writer with
  | .test => some { s with writer := if s.run then .lock else .finished }
  | .lock => some { s with writer := .predicate }
  | .predicate => some { s with writer := if !s.run || !s.batch.isEmpty then .swap else .block }
  | .block => some { s with writer := .blocked }
  | _ => none

/-- `std::swap(batch_, batch)` and the release of the lock. -/
def swap (s : State ι) : Option (State ι) :=
  if s.writer = .swap then some { s with writer := .begin, batch := s.working, working := s.batch } else none

/-- `BEGIN` cannot succeed inside a transaction. -/
def begin (s : State ι) (code : ReturnCode) : Option (State ι) :=
  if s.writer ≠ .begin then none
  else if code ≠ .done then some { s with writer := .execute s.working }
  else match s.transaction with
    | some _ => none
    | none => some { s with writer := .execute s.working, transaction := some s.committed }

/-- A failed statement leaves the rows alone and keeps what was bound for it. -/
def execute (s : State ι) (data : HandsetData) (code : ReturnCode) : Option (State ι) :=
  match s.writer with
  | .execute (head :: todo) =>
    if head ≠ data then none
    else if code ≠ .done then
      some { s with writer := .execute todo, bindings := (DeskphoneCache.execute s.view data).bindings }
    else if accepts s.view data then some { s.write (DeskphoneCache.execute s.view data) with writer := .execute todo }
    else none
  | _ => none

/-- `batch.clear()` and `COMMIT`, which needs an open transaction to succeed. -/
def commit (s : State ι) (code : ReturnCode) : Option (State ι) :=
  if s.writer ≠ .execute [] then none
  else if code ≠ .done then some { s with writer := .test, working := [] }
  else match s.transaction with
    | none => none
    | some rows => some { s with writer := .test, working := [], committed := rows, transaction := none }

/-- The destructor thread: store the flag, notify, join. No lock is taken. -/
def stopStore (s : State ι) : Option (State ι) :=
  if s.stop = .running then some { s with stop := .stored, run := false } else none

def stopNotify (s : State ι) : Option (State ι) :=
  if s.stop = .stored then some (notifyOne { s with stop := .joining }) else none

def stopJoin (s : State ι) : Option (State ι) :=
  if s.stop = .joining ∧ s.writer = .finished then some { s with stop := .returned } else none

end State

variable {ι : Type} [DecidableEq ι]

def machine : Machine (State ι) (Label ι) where
  step s
    | .enqueue i data => s.enqueue i data
    | .advance => s.advance
    | .swap => s.swap
    | .begin code => s.begin code
    | .execute data code => s.execute data code
    | .commit code => s.commit code
    | .stopStore => s.stopStore
    | .stopNotify => s.stopNotify
    | .stopJoin => s.stopJoin

/-- `startWriteThread` over the table that `initializeDatabase` left. -/
def start (endpoints : Endpoints) (requests : ι → List HandsetData) : State ι where
  requests := requests
  batch := []
  run := true
  writer := .test
  working := []
  committed := endpoints
  transaction := none
  bindings := Bindings.unbound
  stop := .running

/-- The operations in the order they entered `batch_`. -/
def enqueued (ls : List (Label ι)) : List HandsetData :=
  ls.filterMap fun
    | .enqueue _ data => some data
    | _ => none

omit [DecidableEq ι] in
theorem enqueued_snoc (ls : List (Label ι)) (l : Label ι) :
    enqueued (ls ++ [l]) = enqueued ls ++ match l with
      | .enqueue _ data => [data]
      | _ => [] := by
  cases l <;> simp [enqueued]

/-- The operations in the order their statements succeeded. -/
def executed (ls : List (Label ι)) : List HandsetData :=
  ls.filterMap fun
    | .execute data .done => some data
    | _ => none

/-- Every SQL statement succeeds. -/
def Label.Succeeds : Label ι → Prop
  | .begin code | .execute _ code | .commit code => code = .done
  | _ => True

/-- The effects of one step. This is a sound reading of `machine`, so that an
invariant is checked once per effect and never against the guards. -/
inductive Effect : State ι → Label ι → State ι → Prop where
  | enqueue (pending : s.requests i = data :: rest) (free : s.writer.holdsMutex = false) :
      Effect s (.enqueue i data)
        { s with requests := Function.update s.requests i rest, batch := s.batch ++ [data],
                 writer := s.writer.notified }
  | enter (pc : s.writer = .test) (runs : s.run = true) : Effect s .advance { s with writer := .lock }
  | leave (pc : s.writer = .test) (stops : s.run = false) : Effect s .advance { s with writer := .finished }
  | lock (pc : s.writer = .lock) : Effect s .advance { s with writer := .predicate }
  | ready (pc : s.writer = .predicate) (holds : s.run = false ∨ s.batch ≠ []) :
      Effect s .advance { s with writer := .swap }
  | wait (pc : s.writer = .predicate) (runs : s.run = true) (empty : s.batch = []) :
      Effect s .advance { s with writer := .block }
  | block (pc : s.writer = .block) : Effect s .advance { s with writer := .blocked }
  | swap (pc : s.writer = .swap) :
      Effect s .swap { s with writer := .begin, batch := s.working, working := s.batch }
  | begin (pc : s.writer = .begin) (closed : s.transaction = none) :
      Effect s (.begin .done) { s with writer := .execute s.working, transaction := some s.committed }
  | beginFails (pc : s.writer = .begin) (fails : code ≠ .done) :
      Effect s (.begin code) { s with writer := .execute s.working }
  | execute (pc : s.writer = .execute (data :: todo)) (accepted : accepts s.view data = true) :
      Effect s (.execute data .done)
        { s.write (DeskphoneCache.execute s.view data) with writer := .execute todo }
  | executeFails (pc : s.writer = .execute (data :: todo)) (fails : code ≠ .done) :
      Effect s (.execute data code)
        { s with writer := .execute todo, bindings := (DeskphoneCache.execute s.view data).bindings }
  | commit (pc : s.writer = .execute []) (opened : s.transaction = some rows) :
      Effect s (.commit .done) { s with writer := .test, working := [], committed := rows, transaction := none }
  | commitFails (pc : s.writer = .execute []) (fails : code ≠ .done) :
      Effect s (.commit code) { s with writer := .test, working := [] }
  | stopStore (pc : s.stop = .running) : Effect s .stopStore { s with stop := .stored, run := false }
  | stopNotify (pc : s.stop = .stored) :
      Effect s .stopNotify { s with stop := .joining, writer := s.writer.notified }
  | stopJoin (pc : s.stop = .joining) (ended : s.writer = .finished) :
      Effect s .stopJoin { s with stop := .returned }

theorem advance_effect (stepped : s.advance = some t) : Effect s (.advance : Label ι) t := by
  unfold State.advance at stepped
  cases pc : s.writer <;> simp only [pc, Option.some.injEq, reduceCtorEq] at stepped
  case test =>
    subst t
    by_cases runs : s.run = true
    · rw [if_pos runs]
      exact .enter pc runs
    · rw [if_neg runs]
      exact .leave pc (by simpa using runs)
  case lock => subst t; exact .lock pc
  case block => subst t; exact .block pc
  case predicate =>
    subst t
    by_cases holds : s.run = false ∨ s.batch ≠ []
    · have taken : (!s.run || !s.batch.isEmpty) = true := by simpa using holds
      rw [taken]
      exact .ready pc holds
    · have skipped : (!s.run || !s.batch.isEmpty) = false := by simpa using holds
      have waits : s.run = true ∧ s.batch = [] := by simpa using holds
      rw [skipped]
      exact .wait pc waits.1 waits.2

theorem execute_effect (stepped : s.execute data code = some t) :
    Effect s (.execute data code : Label ι) t := by
  unfold State.execute at stepped
  split at stepped
  · rename_i head todo pc
    by_cases same : head = data
    · subst head
      rw [if_neg (not_not_intro rfl)] at stepped
      by_cases success : code = .done
      · subst code
        rw [if_neg (not_not_intro rfl)] at stepped
        split at stepped
        · cases Option.some.inj stepped
          exact .execute pc ‹_›
        · contradiction
      · rw [if_pos success] at stepped
        cases Option.some.inj stepped
        exact .executeFails pc success
    · rw [if_pos same] at stepped
      contradiction
  · contradiction

theorem begin_effect (stepped : s.begin code = some t) : Effect s (.begin code : Label ι) t := by
  unfold State.begin at stepped
  split at stepped
  · contradiction
  · rename_i pc
    have pc := not_not.mp pc
    split at stepped
    · cases Option.some.inj stepped
      exact .beginFails pc ‹_›
    · rename_i success
      cases not_not.mp success
      split at stepped
      · contradiction
      · cases Option.some.inj stepped
        exact .begin pc ‹_›

theorem commit_effect (stepped : s.commit code = some t) : Effect s (.commit code : Label ι) t := by
  unfold State.commit at stepped
  split at stepped
  · contradiction
  · rename_i pc
    have pc := not_not.mp pc
    split at stepped
    · cases Option.some.inj stepped
      exact .commitFails pc ‹_›
    · rename_i success
      cases not_not.mp success
      split at stepped
      · contradiction
      · cases Option.some.inj stepped
        exact .commit pc ‹_›

theorem step_effect {s t : State ι} {l : Label ι} (stepped : machine.step s l = some t) :
    Effect s l t := by
  cases l with
  | enqueue i data =>
    simp only [machine, State.enqueue] at stepped
    split at stepped
    · contradiction
    · rename_i head rest pending
      split at stepped
      · rename_i enabled
        cases Option.some.inj stepped
        exact .enqueue (enabled.1 ▸ pending) enabled.2
      · contradiction
  | advance => exact advance_effect stepped
  | swap =>
    simp only [machine, State.swap] at stepped
    split at stepped
    · cases Option.some.inj stepped
      exact .swap ‹_›
    · contradiction
  | begin code => exact begin_effect stepped
  | execute data code => exact execute_effect stepped
  | commit code => exact commit_effect stepped
  | stopStore =>
    simp only [machine, State.stopStore] at stepped
    split at stepped
    · cases Option.some.inj stepped
      exact .stopStore ‹_›
    · contradiction
  | stopNotify =>
    simp only [machine, State.stopNotify] at stepped
    split at stepped
    · cases Option.some.inj stepped
      exact .stopNotify ‹_›
    · contradiction
  | stopJoin =>
    simp only [machine, State.stopJoin] at stepped
    split at stepped
    · rename_i joined
      cases Option.some.inj stepped
      exact .stopJoin joined.1 joined.2
    · contradiction

end LampMonitor.WriteThread
