import LampMonitor.Transition
import Mathlib.Data.Set.Basic
import Mathlib.Logic.Function.Basic

/-! Threads that take shared and exclusive locks one step at a time and run
parallel loops on workers of their own. Threads, locks and programs are
arbitrary. Where every lock ranks above the locks held around it, no deadlock is
reachable, whichever of the waiting requests are granted first. -/
namespace LampMonitor.Locking
open Transition

inductive Mode where
  | shared
  | exclusive
  deriving DecidableEq, Repr

inductive Access (L : Type) where
  | acquire (mode : Mode) (lock : L)
  | release (lock : L)

/-- One step of a thread. A parallel loop is its list of iterations. -/
inductive Action (L : Type) where
  | access (step : Access L)
  | parallel (tasks : List (List (Access L)))

/-- A thread, or the worker of one iteration of its running loop. -/
inductive Agent (ι : Type) where
  | thread (i : ι)
  | worker (i : ι) (k : Nat)
  deriving DecidableEq

structure State (ι L : Type) where
  owners : L → List (Agent ι × Mode)
  program : ι → List (Action L)
  /-- What each worker of the running loop has still to do. -/
  workers : ι → List (List (Access L))

inductive Label (ι : Type) where
  | run (agent : Agent ι)
  | fork (i : ι)
  | join (i : ι)

/-- Whether a request can be granted. A request that can be may still wait, as a
shared one does behind an exclusive one. -/
def Mode.compatible (mode : Mode) (owners : List (Agent ι × Mode)) : Bool :=
  match mode with
  | .exclusive => owners.isEmpty
  | .shared => owners.all (·.2 = .shared)

namespace State
variable {ι L : Type} [DecidableEq ι] [DecidableEq L]

def access (s : State ι L) (agent : Agent ι) : Access L → Option (State ι L)
  | .acquire mode lock =>
    if mode.compatible (s.owners lock) then
      some { s with owners := Function.update s.owners lock ((agent, mode) :: s.owners lock) }
    else none
  | .release lock =>
    some { s with owners := Function.update s.owners lock ((s.owners lock).filter (·.1 ≠ agent)) }

/-- A thread goes on only while it runs no loop. -/
def run (s : State ι L) : Agent ι → Option (State ι L)
  | .thread i =>
    match s.workers i, s.program i with
    | [], .access step :: rest =>
      (s.access (.thread i) step).map fun t => { t with program := Function.update s.program i rest }
    | _, _ => none
  | .worker i k =>
    match (s.workers i)[k]? with
    | some (step :: rest) =>
      (s.access (.worker i k) step).map fun t => { t with workers := Function.update s.workers i ((s.workers i).set k rest) }
    | _ => none

def fork (s : State ι L) (i : ι) : Option (State ι L) :=
  match s.workers i, s.program i with
  | [], .parallel tasks :: rest =>
    some { s with program := Function.update s.program i rest, workers := Function.update s.workers i tasks }
  | _, _ => none

/-- The loop is over when every iteration is. -/
def join (s : State ι L) (i : ι) : Option (State ι L) :=
  if (s.workers i).all List.isEmpty then some { s with workers := Function.update s.workers i [] } else none

end State

section Deadlock
variable {ι L : Type}

def Holds (s : State ι L) (agent : Agent ι) (lock : L) : Prop := ∃ mode, (agent, mode) ∈ s.owners lock

/-- The next step of the agent is a request for the lock. -/
def Waits (s : State ι L) (agent : Agent ι) (lock : L) : Prop :=
  ∃ mode, match agent with
    | .thread i => s.workers i = [] ∧ (s.program i).head? = some (.access (.acquire mode lock))
    | .worker i k => ∃ rest, (s.workers i)[k]? = some (.acquire mode lock :: rest)

/-- The agent runs a loop that has still to wait for this worker. -/
def Joins (s : State ι L) (agent worker : Agent ι) : Prop :=
  ∃ i k task, agent = .thread i ∧ worker = .worker i k ∧ (s.workers i)[k]? = some task ∧ task ≠ []

def BlockedBy (s : State ι L) (agent other : Agent ι) : Prop :=
  (∃ lock, Waits s agent lock ∧ Holds s other lock) ∨ Joins s agent other

/-- Each of these agents can only go on after another of them, or itself, has. -/
def Deadlock (s : State ι L) (agents : Set (Agent ι)) : Prop :=
  agents.Nonempty ∧ ∀ agent ∈ agents, ∃ other ∈ agents, BlockedBy s agent other

end Deadlock

section Ranks
variable {L : Type} [DecidableEq L]

/-- The locks held after a step, at most. -/
def Access.after (held : List L) : Access L → List L
  | .acquire _ lock => lock :: held
  | .release lock => held.erase lock

/-- A lock is requested only above all locks held. -/
def Access.Above (rank : L → Nat) (held : List L) : Access L → Prop
  | .acquire _ lock => ∀ other ∈ held, rank other < rank lock
  | .release _ => True

/-- Iterations also stay above what the thread holds around the loop, and
release all that they take. -/
def Ranked (rank : L → Nat) (outer : List L) : List L → List (Access L) → Prop
  | held, [] => held = []
  | held, step :: rest => step.Above rank (outer ++ held) ∧ Ranked rank outer (step.after held) rest

def RankedProgram (rank : L → Nat) : List L → List (Action L) → Prop
  | _, [] => True
  | held, .access step :: rest => step.Above rank held ∧ RankedProgram rank (step.after held) rest
  | held, .parallel tasks :: rest => (∀ task ∈ tasks, Ranked rank held [] task) ∧ RankedProgram rank held rest

end Ranks

section Composition
variable {L : Type} [DecidableEq L] {rank : L → Nat} {held : List L}

/-- Critical sections one after the other, none inside another. -/
def sections (locks : List (Mode × L)) : List (Access L) :=
  locks.flatMap fun lock => [.acquire lock.1 lock.2, .release lock.2]

/-- A program part under a lock of its own. -/
def locked (mode : Mode) (lock : L) (body : List (Action L)) : List (Action L) :=
  .access (.acquire mode lock) :: body ++ [.access (.release lock)]

/-- The part keeps the discipline and leaves the held locks as they were. -/
def Nests (rank : L → Nat) (held : List L) (body : List (Action L)) : Prop :=
  ∀ rest, RankedProgram rank held rest → RankedProgram rank held (body ++ rest)

theorem Nests.nil : Nests rank held [] := fun _ ranked => ranked

theorem Nests.append (first : Nests rank held body) (second : Nests rank held body') :
    Nests rank held (body ++ body') := by
  intro rest ranked
  rw [List.append_assoc]
  exact first _ (second rest ranked)

theorem Nests.flatMap {list : List α} {body : α → List (Action L)}
    (each : ∀ a ∈ list, Nests rank held (body a)) :
    Nests rank held (list.flatMap body) := by
  induction list with
  | nil => exact Nests.nil
  | cons a list ih =>
    rw [List.flatMap_cons]
    exact (each a List.mem_cons_self).append
      (ih fun b member => each b (List.mem_cons_of_mem _ member))

theorem Nests.locked (above : ∀ other ∈ held, rank other < rank lock)
    (inside : Nests rank (lock :: held) body) :
    Nests rank held (locked mode lock body) := by
  intro rest ranked
  have released : RankedProgram rank (lock :: held) (.access (.release lock) :: rest) := by
    refine ⟨trivial, ?_⟩
    simpa only [Access.after, List.erase_cons_head] using ranked
  have whole : Locking.locked mode lock body ++ rest =
      .access (.acquire mode lock) :: (body ++ .access (.release lock) :: rest) := by
    simp only [Locking.locked, List.cons_append, List.append_assoc, List.nil_append]
  rw [whole]
  exact ⟨above, inside _ released⟩

theorem Nests.sections (above : ∀ lock ∈ locks, ∀ other ∈ held, rank other < rank lock.2) :
    Nests rank held ((sections locks).map .access) := by
  rw [Locking.sections, List.map_flatMap]
  exact .flatMap fun lock member => Nests.locked (above lock member) .nil

theorem ranked_sections (above : ∀ lock ∈ locks, ∀ other ∈ held, rank other < rank lock.2) :
    Ranked rank held [] (sections locks) := by
  induction locks with
  | nil => rfl
  | cons lock locks ih =>
    refine ⟨?_, trivial, ?_⟩
    · rw [List.append_nil]
      exact above lock List.mem_cons_self
    · simp only [Access.after, List.erase_cons_head]
      exact ih fun other member => above other (List.mem_cons_of_mem _ member)

theorem Nests.parallel (each : ∀ task ∈ tasks, Ranked rank held [] task) :
    Nests rank held [.parallel tasks] :=
  fun _ ranked => ⟨each, ranked⟩

theorem Nests.ranked (nests : Nests rank [] body) : RankedProgram rank [] body := by
  simpa only [List.append_nil] using nests [] trivial

end Composition

section Runs
variable {ι L : Type} [DecidableEq ι] [DecidableEq L]

def machine : Machine (State ι L) (Label ι) where
  step s
    | .run agent => s.run agent
    | .fork i => s.fork i
    | .join i => s.join i

def start (program : ι → List (Action L)) : State ι L := ⟨fun _ => [], program, fun _ => []⟩

/-- Everything an agent holds is known to the rank discipline of what it has
still to do; a worker that is not there holds nothing. -/
structure Inv (rank : L → Nat) (s : State ι L) : Prop where
  threads : ∀ i, ∃ held, RankedProgram rank held (s.program i) ∧ (∀ lock, Holds s (.thread i) lock → lock ∈ held) ∧
    ∀ k task, (s.workers i)[k]? = some task →
      ∃ inner, Ranked rank held inner task ∧ ∀ lock, Holds s (.worker i k) lock → lock ∈ inner
  absent : ∀ i k, (s.workers i)[k]? = none → ∀ lock, ¬ Holds s (.worker i k) lock

omit [DecidableEq ι] in
/-- Granting a request adds its agent to the owners of that lock. -/
theorem holds_acquire {s : State ι L} :
    Holds { s with owners := Function.update s.owners lock ((agent, mode) :: s.owners lock) } other lock' ↔
      other = agent ∧ lock' = lock ∨ Holds s other lock' := by
  by_cases here : lock' = lock
  · subst lock'
    simp only [Holds, Function.update_self, List.mem_cons, Prod.mk.injEq, exists_or,
      exists_and_left, exists_eq, and_true]
  · simp only [Holds, Function.update_of_ne here, here, and_false, false_or]

theorem holds_release {s : State ι L} :
    Holds { s with owners := Function.update s.owners lock ((s.owners lock).filter (·.1 ≠ agent)) } other lock' ↔
      Holds s other lock' ∧ ¬ (other = agent ∧ lock' = lock) := by
  by_cases here : lock' = lock
  · subst lock'
    simp only [Holds, Function.update_self, List.mem_filter, decide_eq_true_eq, exists_and_right,
      and_true]
  · simp only [Holds, Function.update_of_ne here, here, and_false, not_false_eq_true, and_true]

/-- What one access does: only its agent's locks change, as the access says. -/
theorem access_effect {s t : State ι L} {step : Access L} (stepped : s.access agent step = some t) :
    t.program = s.program ∧ t.workers = s.workers ∧
    (∀ other lock, other ≠ agent → (Holds t other lock ↔ Holds s other lock)) ∧
    ∀ held, (∀ lock, Holds s agent lock → lock ∈ held) → ∀ lock, Holds t agent lock →
    lock ∈ step.after held := by
  cases step with
  | acquire mode taken =>
    by_cases granted : mode.compatible (s.owners taken) = true
    · have after : s.access agent (.acquire mode taken) = _ := if_pos granted
      cases Option.some.inj (after.symm.trans stepped)
      refine ⟨rfl, rfl, fun other lock different => ?_, fun held known lock holds => ?_⟩
      · rw [holds_acquire]
        exact ⟨fun h => h.resolve_left fun same => different same.1, .inr⟩
      · rcases holds_acquire.mp holds with ⟨_, rfl⟩ | before
        · exact List.mem_cons_self
        · exact List.mem_cons_of_mem _ (known lock before)
    · have refused : s.access agent (.acquire mode taken) = none := if_neg granted
      rw [refused] at stepped
      contradiction
  | release freed =>
    cases Option.some.inj stepped
    refine ⟨rfl, rfl, fun other lock different => ?_, fun held known lock holds => ?_⟩
    · rw [holds_release]
      exact ⟨And.left, fun h => ⟨h, fun same => different same.1⟩⟩
    · obtain ⟨before, kept⟩ := holds_release.mp holds
      have different : lock ≠ freed := fun same => kept ⟨rfl, same⟩
      exact (List.mem_erase_of_ne different).mpr (known lock before)

omit [DecidableEq ι] in
theorem inv_start {program : ι → List (Action L)}
    (ranked : ∀ i, RankedProgram rank [] (program i)) :
    Inv rank (start program) where
  threads i := by
    refine ⟨[], ranked i, fun lock holds => ?_, fun k task present => by simp [start] at present⟩
    obtain ⟨_, owned⟩ := holds
    exact absurd owned List.not_mem_nil
  absent i k _ lock holds := by
    obtain ⟨_, owned⟩ := holds
    exact absurd owned List.not_mem_nil

theorem Inv.runThread {s t : State ι L} (held : Inv rank s)
    (stepped : s.run (.thread i) = some t) : Inv rank t := by
  unfold State.run at stepped
  simp only at stepped
  split at stepped
  · rename_i step rest alone queue
    obtain ⟨u, accessed, rfl⟩ := Option.map_eq_some_iff.mp stepped
    obtain ⟨_, workers, others, own⟩ := access_effect accessed
    have same (agent : Agent ι) (different : agent ≠ .thread i) {lock : L} :
        Holds { u with program := Function.update s.program i rest } agent lock → Holds s agent lock :=
      (others agent lock different).mp
    refine ⟨fun j => ?_, fun j k missing lock holds => ?_⟩
    · obtain ⟨locks, ranked, known, tasks⟩ := held.threads j
      by_cases here : j = i
      · subst j
        rw [queue] at ranked
        refine ⟨step.after locks, ?_, own locks known, fun k task present => ?_⟩
        · simpa only [Function.update_self] using ranked.2
        · simp [workers, alone] at present
      · refine ⟨locks, ?_, fun lock holds =>
          known lock (same (.thread j) (by simpa using here) holds), fun k task present => ?_⟩
        · simpa only [Function.update_of_ne here] using ranked
        · rw [workers] at present
          obtain ⟨inner, ranked, known⟩ := tasks k task present
          exact ⟨inner, ranked, fun lock holds => known lock (same (.worker j k) nofun holds)⟩
    · rw [workers] at missing
      exact held.absent j k missing lock (same (.worker j k) nofun holds)
  · contradiction

theorem Inv.runWorker {s t : State ι L} (held : Inv rank s)
    (stepped : s.run (.worker i k) = some t) : Inv rank t := by
  unfold State.run at stepped
  simp only at stepped
  split at stepped
  · rename_i step rest present
    obtain ⟨u, accessed, rfl⟩ := Option.map_eq_some_iff.mp stepped
    obtain ⟨program, _, others, own⟩ := access_effect accessed
    have same (agent : Agent ι) (different : agent ≠ .worker i k) {lock : L} :
        Holds { u with workers := Function.update s.workers i ((s.workers i).set k rest) } agent lock → Holds s agent lock :=
      (others agent lock different).mp
    have bound := (List.getElem?_eq_some_iff.mp present).1
    refine ⟨fun j => ?_, fun j k' missing lock holds => ?_⟩
    · obtain ⟨locks, ranked, known, tasks⟩ := held.threads j
      refine ⟨locks, by rw [program]; exact ranked,
        fun lock holds => known lock (same (.thread j) nofun holds), ?_⟩
      intro k' task there
      by_cases here : j = i ∧ k' = k
      · obtain ⟨rfl, rfl⟩ := here
        obtain ⟨inner, ranked, known⟩ := tasks k' _ present
        simp only [Function.update_self, List.getElem?_set_self bound, Option.some.injEq] at there
        subst task
        exact ⟨step.after inner, ranked.2, own inner known⟩
      · have before : (s.workers j)[k']? = some task := by
          by_cases loop : j = i
          · subst j
            have apart : k ≠ k' := fun equal => here ⟨rfl, equal.symm⟩
            simpa only [Function.update_self, List.getElem?_set_ne apart] using there
          · simpa only [Function.update_of_ne loop] using there
        obtain ⟨inner, ranked, known⟩ := tasks k' task before
        refine ⟨inner, ranked, fun lock holds => known lock (same (.worker j k') ?_ holds)⟩
        rintro ⟨⟩
        exact here ⟨rfl, rfl⟩
    · have before : (s.workers j)[k']? = none := by
        by_cases loop : j = i
        · subst j
          simpa only [Function.update_self, List.getElem?_eq_none_iff,
            List.length_set] using missing
        · simpa only [Function.update_of_ne loop] using missing
      refine held.absent j k' before lock (same (.worker j k') ?_ holds)
      rintro ⟨⟩
      simp [present] at before
  · contradiction

theorem Inv.fork {s t : State ι L} (held : Inv rank s)
    (stepped : s.fork i = some t) : Inv rank t := by
  unfold State.fork at stepped
  split at stepped
  · rename_i tasks rest alone queue
    cases Option.some.inj stepped
    have fresh (k : Nat) (lock : L) : ¬ Holds s (.worker i k) lock :=
      held.absent i k (by simp [alone]) lock
    refine ⟨fun j => ?_, fun j k missing lock holds => ?_⟩
    · obtain ⟨locks, ranked, known, running⟩ := held.threads j
      by_cases here : j = i
      · subst j
        rw [queue] at ranked
        refine ⟨locks, by simpa only [Function.update_self] using ranked.2, known,
          fun k task present => ?_⟩
        simp only [Function.update_self] at present
        exact ⟨[], ranked.1 task (List.mem_of_getElem? present),
          fun lock holds => absurd holds (fresh k lock)⟩
      · refine ⟨locks, by simpa only [Function.update_of_ne here] using ranked, known,
          fun k task present => ?_⟩
        exact running k task (by simpa only [Function.update_of_ne here] using present)
    · by_cases here : j = i
      · subst j
        exact fresh k lock holds
      · exact held.absent j k (by simpa only [Function.update_of_ne here] using missing) lock holds
  · contradiction

theorem Inv.join {s t : State ι L} (held : Inv rank s)
    (stepped : s.join i = some t) : Inv rank t := by
  unfold State.join at stepped
  split at stepped
  · rename_i finished
    cases Option.some.inj stepped
    have released (k : Nat) (lock : L) : ¬ Holds s (.worker i k) lock := by
      intro holds
      cases present : (s.workers i)[k]? with
      | none => exact held.absent i k present lock holds
      | some task =>
        obtain ⟨locks, _, _, running⟩ := held.threads i
        obtain ⟨inner, ranked, known⟩ := running k task present
        have done : task = [] := by
          simpa using List.all_eq_true.mp finished task (List.mem_of_getElem? present)
        subst task
        have none_held : inner = [] := ranked
        exact absurd (none_held ▸ known lock holds) List.not_mem_nil
    refine ⟨fun j => ?_, fun j k missing lock holds => ?_⟩
    · obtain ⟨locks, ranked, known, running⟩ := held.threads j
      refine ⟨locks, ranked, known, fun k task present => ?_⟩
      by_cases here : j = i
      · subst j
        simp at present
      · exact running k task (by simpa only [Function.update_of_ne here] using present)
    · by_cases here : j = i
      · subst j
        exact released k lock holds
      · exact held.absent j k (by simpa only [Function.update_of_ne here] using missing) lock holds
  · contradiction

theorem inv_step {s t : State ι L} {l : Label ι} (held : Inv rank s)
    (stepped : machine.step s l = some t) : Inv rank t := by
  cases l with
  | run agent =>
    cases agent with
    | thread i => exact held.runThread stepped
    | worker i k => exact held.runWorker stepped
  | fork i => exact held.fork stepped
  | join i => exact held.join stepped

section NoDeadlock
variable {s : State ι L} {agents : Set (Agent ι)} {rank : L → Nat}

omit [DecidableEq ι] in
/-- An agent waits only above everything it holds, and a worker also above what
its thread holds. -/
theorem Inv.above (held : Inv rank s) (waits : Waits s agent lock) :
    (∀ other, Holds s agent other → rank other < rank lock) ∧
      ∀ i k, agent = .worker i k → ∀ other, Holds s (.thread i) other → rank other < rank lock := by
  obtain ⟨mode, waits⟩ := waits
  cases agent with
  | thread i =>
    obtain ⟨locks, ranked, known, _⟩ := held.threads i
    obtain ⟨rest, queue⟩ := List.head?_eq_some_iff.mp waits.2
    rw [queue] at ranked
    exact ⟨fun other holds => ranked.1 other (known other holds), nofun⟩
  | worker i k =>
    obtain ⟨rest, present⟩ := waits
    obtain ⟨locks, _, outer, running⟩ := held.threads i
    obtain ⟨inner, ranked, known⟩ := running k _ present
    refine ⟨fun other holds => ranked.1 other (List.mem_append_right _ (known other holds)), ?_⟩
    rintro _ _ ⟨⟩ other holds
    exact ranked.1 other (List.mem_append_left _ (outer other holds))

omit [DecidableEq ι] in
/-- Of an agent that cannot go on, it or the worker it joins waits for a lock
above everything it holds, and another of them holds that lock. -/
theorem Inv.waiting (held : Inv rank s)
    (deadlock : ∀ agent ∈ agents, ∃ other ∈ agents, BlockedBy s agent other)
    (member : agent ∈ agents) : ∃ lock, (∃ holder ∈ agents, Holds s holder lock) ∧
      ∀ lock', Holds s agent lock' → rank lock' < rank lock := by
  obtain ⟨other, there, blocked⟩ := deadlock agent member
  rcases blocked with ⟨lock, waits, holds⟩ | ⟨i, k, task, rfl, rfl, _, _⟩
  · exact ⟨lock, ⟨other, there, holds⟩, (held.above waits).1⟩
  · obtain ⟨holder, inside, blocked⟩ := deadlock _ there
    rcases blocked with ⟨lock, waits, holds⟩ | ⟨_, _, _, thread, _⟩
    · exact ⟨lock, ⟨holder, inside, holds⟩, (held.above waits).2 i k rfl⟩
    · contradiction

omit [DecidableEq ι] in
/-- No agent of a deadlock holds a lock: it would wait for one of higher rank
that another of them holds, and ranks are bounded. -/
theorem Inv.no_holder (held : Inv rank s) (bounded : ∀ lock, rank lock ≤ bound)
    (deadlock : ∀ agent ∈ agents, ∃ other ∈ agents, BlockedBy s agent other)
    (member : agent ∈ agents) :
    ¬ Holds s agent lock := by
  intro holds
  induction distance : bound - rank lock using Nat.strongRecOn generalizing agent lock with
  | ind distance ih =>
    obtain ⟨next, ⟨holder, there, holds'⟩, higher⟩ := held.waiting deadlock member
    have climbs := higher lock holds
    have below := bounded next
    exact ih (bound - rank next) (by omega) there holds' rfl

/-- The rank discipline rules out deadlocks in every reachable state, for any
set of agents, finite or not. -/
theorem no_deadlock {program : ι → List (Action L)} (bounded : ∀ lock, rank lock ≤ bound)
    (ranked : ∀ i, RankedProgram rank [] (program i))
    (reached : machine.run (start program) ls = some s) (agents : Set (Agent ι)) :
    ¬ Deadlock s agents := by
  rintro ⟨⟨agent, member⟩, deadlock⟩
  have held : Inv rank s :=
    Machine.run_invariant (fun held stepped => inv_step held stepped) reached (inv_start ranked)
  obtain ⟨lock, ⟨holder, there, holds⟩, _⟩ := held.waiting deadlock member
  exact held.no_holder bounded deadlock there holds

end NoDeadlock
end Runs
end LampMonitor.Locking
