import LampMonitor.Transition.Sampling
import Mathlib.Data.List.Chain

/-! The ping thread and the end of `main`, on a clock. The thread waits under a mutex
of its own, so a notification can fall between the wait predicate and the blocking;
unlike the writer of the cache it then wakes at the end of the period. -/
namespace LampMonitor.Ping
open Transition

/-- Where the ping thread stands. `wait_for` has fixed its deadline when it first looks
at the predicate; `block` has just found it false. -/
inductive ThreadPc where
  | invoke
  | response
  | predicate (deadline : Nat)
  | block (deadline : Nat)
  | blocked (deadline : Nat)
  | test
  | finished
  deriving DecidableEq, Repr

/-- `notify_all` reaches the thread only where it is already blocked. -/
def ThreadPc.notified : ThreadPc → ThreadPc
  | .blocked deadline => .predicate deadline
  | pc => pc

/-- Where `main` stands: up to the return of `listen`, and after each of its steps. -/
inductive MainPc where
  | serving
  | cleared
  | joining
  | joined
  | loggedOff
  deriving DecidableEq, Repr

structure State where
  now : Nat
  threadRunFlag : Bool
  thread : ThreadPc
  main : MainPc
  /-- When each ping was sent. -/
  pings : List Nat

inductive Label where
  | tick
  | send
  | respond
  | predicate
  | block
  /-- The notification or a spurious one. -/
  | wake
  | timeout
  | test
  | clear
  | notify
  | join
  | logoff
  deriving DecidableEq, Repr

namespace State
variable (s : State)

def respond (period : Nat) : Option State :=
  if s.thread = .response then some { s with thread := .predicate (s.now + period) } else none

def predicate : Option State :=
  match s.thread with
  | .predicate deadline => some { s with thread := if s.threadRunFlag then .block deadline else .test }
  | _ => none

def block : Option State :=
  match s.thread with
  | .block deadline => some { s with thread := .blocked deadline }
  | _ => none

def wake : Option State :=
  match s.thread with
  | .blocked deadline => some { s with thread := .predicate deadline }
  | _ => none

def timeout : Option State :=
  match s.thread with
  | .blocked deadline => if deadline ≤ s.now then some { s with thread := .test } else none
  | _ => none

end State

def machine (period : Nat) : Machine State Label where
  step s
    | .tick => some { s with now := s.now + 1 }
    | .send =>
      if s.thread = .invoke then some { s with thread := .response, pings := s.pings ++ [s.now] } else none
    | .respond => s.respond period
    | .predicate => s.predicate
    | .block => s.block
    | .wake => s.wake
    | .timeout => s.timeout
    | .test =>
      if s.thread = .test then some { s with thread := if s.threadRunFlag then .invoke else .finished }
      else none
    | .clear => if s.main = .serving then some { s with main := .cleared, threadRunFlag := false } else none
    | .notify =>
      if s.main = .cleared then some { s with main := .joining, thread := s.thread.notified } else none
    | .join =>
      if s.main = .joining ∧ s.thread = .finished then some { s with main := .joined } else none
    | .logoff => if s.main = .joined then some { s with main := .loggedOff } else none

/-- The thread has just been created. -/
def start (now : Nat) : State := ⟨now, true, .invoke, .serving, []⟩

/-- The effects of one step. -/
inductive Effect (period : Nat) (s : State) : Label → State → Prop where
  | tick : Effect period s .tick { s with now := s.now + 1 }
  | send (pc : s.thread = .invoke) :
      Effect period s .send { s with thread := .response, pings := s.pings ++ [s.now] }
  | respond (pc : s.thread = .response) :
      Effect period s .respond { s with thread := .predicate (s.now + period) }
  | wait (pc : s.thread = .predicate deadline) (runs : s.threadRunFlag = true) :
      Effect period s .predicate { s with thread := .block deadline }
  | leave (pc : s.thread = .predicate deadline) (stops : s.threadRunFlag = false) :
      Effect period s .predicate { s with thread := .test }
  | block (pc : s.thread = .block deadline) :
      Effect period s .block { s with thread := .blocked deadline }
  | wake (pc : s.thread = .blocked deadline) :
      Effect period s .wake { s with thread := .predicate deadline }
  | timeout (pc : s.thread = .blocked deadline) (due : deadline ≤ s.now) :
      Effect period s .timeout { s with thread := .test }
  | again (pc : s.thread = .test) (runs : s.threadRunFlag = true) :
      Effect period s .test { s with thread := .invoke }
  | finish (pc : s.thread = .test) (stops : s.threadRunFlag = false) :
      Effect period s .test { s with thread := .finished }
  | clear (pc : s.main = .serving) :
      Effect period s .clear { s with main := .cleared, threadRunFlag := false }
  | notify (pc : s.main = .cleared) :
      Effect period s .notify { s with main := .joining, thread := s.thread.notified }
  | join (pc : s.main = .joining) (ended : s.thread = .finished) :
      Effect period s .join { s with main := .joined }
  | logoff (pc : s.main = .joined) : Effect period s .logoff { s with main := .loggedOff }

section Runs
variable {period : Nat} {s t : State} {l : Label}

theorem predicate_effect (stepped : s.predicate = some t) : Effect period s .predicate t := by
  unfold State.predicate at stepped
  split at stepped
  · rename_i deadline pc
    cases Option.some.inj stepped
    by_cases runs : s.threadRunFlag = true
    · rw [if_pos runs]
      exact .wait pc runs
    · rw [if_neg runs]
      exact .leave pc (Bool.eq_false_iff.mpr runs)
  · contradiction

theorem test_effect (stepped : (machine period).step s .test = some t) : Effect period s .test t := by
  simp only [machine] at stepped
  split at stepped
  · rename_i pc
    cases Option.some.inj stepped
    by_cases runs : s.threadRunFlag = true
    · rw [if_pos runs]
      exact .again pc runs
    · rw [if_neg runs]
      exact .finish pc (Bool.eq_false_iff.mpr runs)
  · contradiction

theorem step_effect (stepped : (machine period).step s l = some t) : Effect period s l t := by
  cases l with
  | predicate => exact predicate_effect stepped
  | test => exact test_effect stepped
  | tick =>
    cases Option.some.inj stepped
    exact .tick
  | timeout =>
    simp only [machine, State.timeout] at stepped
    split at stepped
    · split at stepped
      · cases Option.some.inj stepped
        exact .timeout ‹_› ‹_›
      · contradiction
    · contradiction
  | join =>
    simp only [machine] at stepped
    split at stepped
    · rename_i ended
      cases Option.some.inj stepped
      exact .join ended.1 ended.2
    · contradiction
  | block | wake =>
    simp only [machine, State.block, State.wake] at stepped
    split at stepped
    · cases Option.some.inj stepped
      constructor
      assumption
    · contradiction
  | send | respond | clear | notify | logoff =>
    simp only [machine, State.respond] at stepped
    split at stepped
    · cases Option.some.inj stepped
      constructor
      assumption
    · contradiction

end Runs

section Pace
variable {period : Nat} {s t : State} {l : Label}

/-- A period lies between the last ping and the next one. -/
def Rested (period : Nat) (s : State) : Prop :=
  ∀ p ∈ s.pings.getLast?, match s.thread with
    | .invoke => p + period ≤ s.now
    | .test => s.threadRunFlag = true → p + period ≤ s.now
    | .predicate deadline | .block deadline | .blocked deadline => p + period ≤ deadline
    | .response => p ≤ s.now
    | .finished => True

structure Paced (period : Nat) (s : State) : Prop where
  spaced : s.pings.IsChain fun p q => p + period ≤ q
  rested : Rested period s

theorem paced_start (period now : Nat) : Paced period (start now) :=
  ⟨.nil, fun p member => by simp [start] at member⟩

theorem paced_step (held : Paced period s) (stepped : (machine period).step s l = some t) : Paced period t := by
  obtain ⟨spaced, rested⟩ := held
  cases step_effect stepped with
  | send pc =>
    refine ⟨List.isChain_append.mpr ⟨spaced, .singleton _, ?_⟩, ?_⟩
    · intro p last q next
      have due := rested p last
      rw [pc] at due
      cases Option.mem_some_iff.mp next
      exact due
    · intro p last
      rw [List.getLast?_concat] at last
      exact Nat.le_of_eq (Option.some.inj last).symm
  | tick =>
    refine ⟨spaced, fun p last => ?_⟩
    have before := rested p last
    cases pc : s.thread with
    | finished => trivial
    | test =>
      simp only [pc] at before ⊢
      exact fun runs => Nat.le_succ_of_le (before runs)
    | _ =>
      simp only [pc] at before ⊢
      omega
  | notify =>
    refine ⟨spaced, fun p last => ?_⟩
    have before := rested p last
    cases pc : s.thread <;> simp only [pc, ThreadPc.notified] at before ⊢ <;> exact before
  | clear =>
    refine ⟨spaced, fun p last => ?_⟩
    have before := rested p last
    cases pc : s.thread <;> simp [pc] at before ⊢ <;> exact before
  | respond pc =>
    refine ⟨spaced, fun p last => ?_⟩
    have before := rested p last
    simp only [pc] at before
    exact Nat.add_le_add_right before period
  | wait pc | block pc | wake pc =>
    refine ⟨spaced, fun p last => ?_⟩
    have before := rested p last
    simpa only [pc] using before
  | leave pc stops =>
    refine ⟨spaced, fun p last runs => ?_⟩
    rw [stops] at runs
    contradiction
  | timeout pc due =>
    refine ⟨spaced, fun p last _ => ?_⟩
    have before := rested p last
    simp only [pc] at before
    exact before.trans due
  | again pc runs =>
    refine ⟨spaced, fun p last => ?_⟩
    have before := rested p last
    simp only [pc] at before
    exact before runs
  | finish => exact ⟨spaced, fun p last => trivial⟩
  | join | logoff => exact ⟨spaced, rested⟩

/-- The flag is set until `main` clears it, and `main` goes on once the thread has ended. -/
structure Ordered (s : State) : Prop where
  flag : s.threadRunFlag = true ↔ s.main = .serving
  ended : s.main = .joined ∨ s.main = .loggedOff → s.thread = .finished

theorem ordered_step (held : Ordered s) (stepped : (machine period).step s l = some t) : Ordered t := by
  obtain ⟨flag, ended⟩ := held
  have unfinished : ∀ {pc : ThreadPc}, s.thread = pc → pc ≠ .finished →
      ¬ (s.main = .joined ∨ s.main = .loggedOff) := by
    rintro pc here going left
    exact going (here.symm.trans (ended left))
  cases step_effect stepped with
  | tick => exact ⟨flag, ended⟩
  | send pc | respond pc | wait pc | leave pc | block pc | wake pc | timeout pc | again pc | finish pc =>
    exact ⟨flag, fun left => absurd left (unfinished pc (by simp))⟩
  | clear pc => exact ⟨by simp, fun left => by simp at left⟩
  | notify pc =>
    rw [pc] at flag
    exact ⟨by simpa using flag, fun left => by simp at left⟩
  | join pc here =>
    rw [pc] at flag
    exact ⟨by simpa using flag, fun _ => here⟩
  | logoff pc =>
    rw [pc] at flag
    exact ⟨by simpa using flag, fun _ => ended (.inl pc)⟩

theorem ordered_start (now : Nat) : Ordered (start now) :=
  ⟨by simp [start], fun left => by simp [start] at left⟩

theorem run_ordered (reached : (machine period).run (start now) ls = some s) : Ordered s :=
  Machine.run_invariant (fun held stepped => ordered_step held stepped) reached (ordered_start now)

def clears : Label → Bool := (· = .clear)

/-- The pings after the flag was cleared, and the one that is about to be sent. -/
def late (ls : List Label) (s : State) : Nat :=
  (since clears ls).count .send + if s.thread = .invoke then 1 else 0

/-- A thread that has passed the loop test sends one ping more. -/
def Once (ls : List Label) (s : State) : Prop :=
  if s.threadRunFlag then ls.any clears = false else ls.any clears = true ∧ late ls s ≤ 1

theorem once_step (held : Once ls s)
    (stepped : (machine period).step s l = some t) : Once (ls ++ [l]) t := by
  cases flag : s.threadRunFlag with
  | true =>
    have earlier : ls.any clears = false := by simpa only [Once, flag, if_true] using held
    by_cases here : l = .clear
    · subst here
      cases step_effect stepped with
      | clear pc =>
        have fresh : since clears (ls ++ [.clear]) = [] := by
          rw [since_snoc, earlier, if_neg Bool.false_ne_true]
        simp only [Once, Bool.false_eq_true, if_false, late, fresh, List.count_nil, Nat.zero_add]
        refine ⟨by simp [clears], ?_⟩
        split <;> omega
    · have other : clears l = false := decide_eq_false here
      have same : t.threadRunFlag = true := by
        cases step_effect stepped <;> first | exact flag | exact absurd rfl here
      simp [Once, same, earlier, other]
  | false =>
    obtain ⟨earlier, bound⟩ : ls.any clears = true ∧ late ls s ≤ 1 := by
      simpa only [Once, flag, Bool.false_eq_true, if_false] using held
    have more : since clears (ls ++ [l]) = since clears ls ++ [l] := by rw [since_snoc, if_pos earlier]
    have still : t.threadRunFlag = false := by
      cases step_effect stepped <;> first | exact flag | rfl
    have grows : late (ls ++ [l]) t ≤ late ls s := by
      rw [late, late, more, List.count_append]
      cases step_effect stepped with
      | send pc => simp [pc]
      | notify pc => cases s.thread <;> simp [ThreadPc.notified]
      | again pc runs => simp [flag] at runs
      | wait pc runs => simp [flag] at runs
      | _ => simp [*]
    simp only [Once, still, Bool.false_eq_true, if_false, List.any_append, earlier, Bool.true_or, true_and]
    omega

/-- Time passes only while Asterisk answers, in less than `rtt`, and while the thread
sleeps. -/
def Timely (rtt : Nat) (s : State) (l : Label) : Prop :=
  l = .tick → match s.thread with
    | .response => ∀ p ∈ s.pings.getLast?, s.now < p + rtt
    | .blocked deadline => s.now < deadline
    | .finished => True
    | _ => False

/-- How long ago the last ping can have been sent. -/
def Recent (period rtt : Nat) (s : State) : Prop :=
  ∀ p ∈ s.pings.getLast?, match s.thread with
    | .response => s.now ≤ p + rtt
    | .predicate deadline | .block deadline | .blocked deadline =>
      s.now ≤ deadline ∧ deadline ≤ p + rtt + period
    | .invoke | .test => s.now ≤ p + rtt + period
    | .finished => True

structure Prompt (period rtt : Nat) (s : State) : Prop where
  close : s.pings.IsChain fun p q => q ≤ p + rtt + period
  recent : Recent period rtt s

theorem prompt_step (held : Prompt period rtt s) (timely : Timely rtt s l)
    (stepped : (machine period).step s l = some t) : Prompt period rtt t := by
  obtain ⟨close, recent⟩ := held
  cases step_effect stepped with
  | tick =>
    refine ⟨close, fun p last => ?_⟩
    have before := recent p last
    have early := timely rfl
    cases pc : s.thread <;> simp only [pc] at before early ⊢
    case response => exact early p last
    case blocked => exact ⟨early, before.2⟩
  | send pc =>
    refine ⟨List.isChain_append.mpr ⟨close, .singleton _, ?_⟩, ?_⟩
    · intro p last q next
      have before := recent p last
      rw [pc] at before
      cases Option.mem_some_iff.mp next
      exact before
    · intro p last
      rw [List.getLast?_concat] at last
      cases Option.some.inj last
      exact Nat.le_add_right _ rtt
  | respond pc =>
    refine ⟨close, fun p last => ?_⟩
    have before := recent p last
    simp only [pc] at before
    exact ⟨Nat.le_add_right _ period, Nat.add_le_add_right before period⟩
  | wait pc | block pc | wake pc =>
    refine ⟨close, fun p last => ?_⟩
    have before := recent p last
    simpa only [pc] using before
  | leave pc | timeout pc =>
    refine ⟨close, fun p last => ?_⟩
    have before := recent p last
    simp only [pc] at before
    exact before.1.trans before.2
  | again pc =>
    refine ⟨close, fun p last => ?_⟩
    have before := recent p last
    simpa only [pc] using before
  | finish => exact ⟨close, fun p last => trivial⟩
  | notify =>
    refine ⟨close, fun p last => ?_⟩
    have before := recent p last
    cases pc : s.thread <;> simp only [pc, ThreadPc.notified] at before ⊢ <;> exact before
  | clear | join | logoff => exact ⟨close, recent⟩

theorem finished_step (held : s.thread = .finished ∧ s.pings = pings)
    (stepped : (machine period).step s l = some t) : t.thread = .finished ∧ t.pings = pings := by
  obtain ⟨ended, same⟩ := held
  cases step_effect stepped with
  | tick | clear | join | logoff => exact ⟨ended, same⟩
  | notify => exact ⟨by simp [ended, ThreadPc.notified], same⟩
  | send pc | respond pc | wait pc | leave pc | block pc | wake pc | timeout pc | again pc | finish pc =>
    rw [ended] at pc
    contradiction

/-- The pings of any run: never less than a period apart, at most one after the flag
was cleared, and none once `main` goes on to log off. Where nothing but the answers
and the waiting takes time, Asterisk hears from a running thread within a period and
the time for an answer. -/
theorem pings_paced (rtt : Nat) (reached : (machine period).run (start now) ls = some s) :
    s.pings.IsChain (fun p q => p + period ≤ q) ∧ (since clears ls).count .send ≤ 1 ∧
    (s.main = .joined ∨ s.main = .loggedOff → ∀ ls' t, (machine period).run s ls' = some t →
      t.pings = s.pings) ∧
    ((machine period).Meets (Timely rtt) (start now) ls →
      s.pings.IsChain (fun p q => q ≤ p + rtt + period) ∧
      (s.thread ≠ .finished → ∀ p ∈ s.pings.getLast?, s.now ≤ p + rtt + period)) := by
  refine ⟨?_, ?_, fun joined ls' t later => ?_, fun timely => ?_⟩
  · exact (Machine.run_invariant (fun held stepped => paced_step held stepped) reached
      (paced_start period now)).spaced
  · have once : Once ls s := by
      refine Machine.trace_invariant (C := fun _ _ => True) (by simp [Once, start])
        (fun held _ stepped => once_step held stepped) (.of_labels fun _ _ => trivial) reached
    cases flag : s.threadRunFlag with
    | true =>
      have earlier : ls.any clears = false := by simpa only [Once, flag, if_true] using once
      simp [since_none earlier]
    | false =>
      have bound : late ls s ≤ 1 := by
        simp only [Once, flag, Bool.false_eq_true, if_false] at once
        exact once.2
      exact (Nat.le_add_right _ _).trans bound
  · have ended := (run_ordered reached).ended joined
    exact (Machine.run_invariant (P := fun t => t.thread = .finished ∧ t.pings = s.pings)
      (fun held stepped => finished_step held stepped) later ⟨ended, rfl⟩).2
  · have prompt : Prompt period rtt s := by
      refine Machine.run_invariant_meets (fun held here stepped => prompt_step held here stepped) timely
        reached ⟨.nil, fun p member => by simp [start] at member⟩
    refine ⟨prompt.close, fun going p last => ?_⟩
    have before := prompt.recent p last
    cases pc : s.thread <;> simp only [pc] at before
    case response => omega
    case finished => exact absurd pc going
    case invoke | test => exact before
    case predicate | block | blocked => exact before.1.trans before.2

/-- The second ping follows the first one after a period of three. -/
theorem pings_paced_twice : ∃ s, (machine 3).run (start 0)
      [.send, .respond, .predicate, .block, .tick, .tick, .tick, .timeout, .test, .send] = some s ∧
    s.pings = [0, 3] ∧ s.pings.IsChain (fun p q => p + 3 ≤ q) ∧ s.now ≤ 3 + 1 + 3 := by
  have reached : (machine 3).run (start 0)
      [.send, .respond, .predicate, .block, .tick, .tick, .tick, .timeout, .test, .send] = some _ := rfl
  obtain ⟨spaced, _, _, prompt⟩ := pings_paced 1 reached
  have timely : (machine 3).Meets (Timely 1) (start 0)
      [.send, .respond, .predicate, .block, .tick, .tick, .tick, .timeout, .test, .send] := by
    simp [Machine.Meets, Timely, machine, start, State.respond, State.predicate, State.block,
      State.timeout]
  exact ⟨_, reached, rfl, spaced, (prompt timely).2 (by simp) 3 rfl⟩

end Pace

section Joining
variable {period : Nat} {s t : State} {l : Label}

/-- How long the thread can still sleep. -/
def delay (s : State) : Nat :=
  match s.thread with
  | .block deadline | .blocked deadline => deadline - s.now
  | _ => 0

/-- The notification does not fall between a false wait predicate and the blocking. -/
def NotifiesOutsideWindow (s : State) (l : Label) : Prop :=
  l = .notify → ∀ deadline, s.thread ≠ .block deadline

/-- No deadline is further away than a period. -/
def Bounded (period : Nat) (s : State) : Prop :=
  match s.thread with
  | .predicate deadline | .block deadline | .blocked deadline => deadline ≤ s.now + period
  | _ => True

theorem bounded_step (held : Bounded period s) (stepped : (machine period).step s l = some t) :
    Bounded period t := by
  rw [Bounded] at held ⊢
  cases step_effect stepped with
  | tick => cases pc : s.thread <;> simp only [pc] at held ⊢ <;> omega
  | notify => cases pc : s.thread <;> simp only [pc, ThreadPc.notified] at held ⊢ <;> exact held
  | respond => exact Nat.le_refl _
  | wait pc | block pc | wake pc => simpa only [pc] using held
  | send | leave | timeout | again | finish => trivial
  | clear | join | logoff => exact held

/-- Once the thread has been notified, sleep is what it had left. -/
theorem delay_step (joining : s.main = .joining) (ordered : Ordered s) (quiet : l ≠ .wake)
    (stepped : (machine period).step s l = some t) :
    (t.main = .joining ∨ t.main = .joined) ∧ delay s ≤ delay t + if l = .tick then 1 else 0 := by
  have stopped : s.threadRunFlag = false := by
    rw [Bool.eq_false_iff, ne_eq, ordered.flag, joining]
    simp
  cases step_effect stepped with
  | tick =>
    refine ⟨.inl joining, ?_⟩
    rw [delay, delay]
    cases pc : s.thread <;> simp only [if_true] <;> omega
  | block pc => exact ⟨.inl joining, by simp [delay, pc]⟩
  | timeout pc due => exact ⟨.inl joining, by simp [delay, pc, due]⟩
  | wait pc runs | again pc runs => simp [stopped] at runs
  | wake => exact absurd rfl quiet
  | send pc | respond pc | leave pc | finish pc => exact ⟨.inl joining, by simp [delay, pc]⟩
  | clear pc | notify pc | logoff pc => simp [joining] at pc
  | join => exact ⟨.inr rfl, Nat.le_refl _⟩

theorem delay_run (joining : s.main = .joining) (ordered : Ordered s)
    (reached : (machine period).run s ls = some t) (joined : t.main = .joined) (quiet : .wake ∉ ls) :
    delay s ≤ ls.count .tick := by
  induction ls generalizing s with
  | nil =>
    cases Option.some.inj reached
    rw [joining] at joined
    contradiction
  | cons l ls ih =>
    obtain ⟨u, stepped, rest⟩ := Machine.run_cons.mp reached
    obtain ⟨here, later⟩ := not_or.mp (List.mem_cons.not.mp quiet)
    obtain ⟨main, bound⟩ := delay_step joining ordered (Ne.symm here) stepped
    have next := ordered_step ordered stepped
    have remaining : delay u ≤ ls.count .tick := by
      rcases main with joining | joined
      · exact ih joining next rest later
      · rw [delay, next.ended (.inl joined)]
        exact Nat.zero_le _
    rw [List.count_cons]
    simp only [beq_iff_eq]
    omega

/-- The thread ends and is joined, and so much time passes. -/
def Joins (period : Nat) (s : State) (time : Nat) : Prop :=
  ∃ ls t, (machine period).run s ls = some t ∧ t.main = .joined ∧ .wake ∉ ls ∧ ls.count .tick = time

theorem Joins.step (stepped : (machine period).step s l = some t) (quiet : l ≠ .wake)
    (later : Joins period t time) : Joins period s (time + if l = .tick then 1 else 0) := by
  obtain ⟨ls, u, reached, joined, silent, rfl⟩ := later
  refine ⟨l :: ls, u, Machine.run_cons.mpr ⟨t, stepped, reached⟩, joined, ?_, ?_⟩
  · exact fun member => (List.mem_cons.mp member).elim (Ne.symm quiet) silent
  · simp only [List.count_cons, beq_iff_eq]

theorem joins_test (joining : s.main = .joining) (stopped : s.threadRunFlag = false)
    (pc : s.thread = .test) : Joins period s 0 := by
  refine ⟨[.test, .join], { s with thread := .finished, main := .joined }, ?_, rfl, by simp, rfl⟩
  simp [Machine.run, machine, pc, stopped, joining]

theorem joins_predicate (joining : s.main = .joining) (stopped : s.threadRunFlag = false)
    (pc : s.thread = .predicate deadline) : Joins period s 0 := by
  have stepped : (machine period).step s .predicate = some { s with thread := .test } := by
    simp [machine, State.predicate, pc, stopped]
  exact .step stepped (by simp) (joins_test joining stopped rfl)

theorem joins_response (joining : s.main = .joining) (stopped : s.threadRunFlag = false)
    (pc : s.thread = .response) : Joins period s 0 := by
  have stepped : (machine period).step s .respond = some { s with thread := .predicate (s.now + period) } := by
    simp [machine, State.respond, pc]
  exact .step stepped (by simp) (joins_predicate joining stopped rfl)

/-- The sleep lasts until its deadline. -/
theorem joins_blocked (joining : s.main = .joining) (stopped : s.threadRunFlag = false)
    (pc : s.thread = .blocked deadline) : Joins period s (deadline - s.now) := by
  induction rest : deadline - s.now generalizing s with
  | zero =>
    have due : deadline ≤ s.now := Nat.sub_eq_zero_iff_le.mp rest
    have stepped : (machine period).step s .timeout = some { s with thread := .test } := by
      simp [machine, State.timeout, pc, due]
    exact .step stepped (by simp) (joins_test joining stopped rfl)
  | succ n ih =>
    have stepped : (machine period).step s .tick = some { s with now := s.now + 1 } := rfl
    have less : deadline - (s.now + 1) = n := by omega
    exact .step stepped (by simp) (ih (s := { s with now := s.now + 1 }) joining stopped pc less)

theorem joins_delay (joining : s.main = .joining) (ordered : Ordered s) : Joins period s (delay s) := by
  have stopped : s.threadRunFlag = false := by
    rw [Bool.eq_false_iff, ne_eq, ordered.flag, joining]
    simp
  rw [delay]
  cases pc : s.thread with
  | invoke =>
    have stepped : (machine period).step s .send =
        some { s with thread := .response, pings := s.pings ++ [s.now] } := by
      simp [machine, pc]
    exact .step stepped (by simp) (joins_response joining stopped rfl)
  | response => exact joins_response joining stopped pc
  | predicate => exact joins_predicate joining stopped pc
  | block deadline =>
    have stepped : (machine period).step s .block = some { s with thread := .blocked deadline } := by
      simp [machine, State.block, pc]
    exact .step stepped (by simp) (joins_blocked joining stopped rfl)
  | blocked => exact joins_blocked joining stopped pc
  | test => exact joins_test joining stopped pc
  | finished =>
    refine ⟨[.join], { s with main := .joined }, ?_, rfl, by simp, rfl⟩
    simp [Machine.run, machine, pc, joining]

/-- After a notification that was heard the thread no longer sleeps. -/
def Heard (s : State) : Prop :=
  s.main = .joining → ∀ deadline, s.thread ≠ .block deadline ∧ s.thread ≠ .blocked deadline

theorem heard_step (held : Heard s) (ordered : Ordered s) (outside : NotifiesOutsideWindow s l)
    (stepped : (machine period).step s l = some t) : Heard t := by
  cases step_effect stepped with
  | notify pc =>
    intro _ deadline
    have window := outside rfl deadline
    cases here : s.thread <;> simp [here, ThreadPc.notified] at window ⊢
    exact window
  | wait pc runs =>
    intro joining
    rw [ordered.flag.mp runs] at joining
    contradiction
  | block pc => exact fun joining => absurd pc (held joining _).1
  | tick => exact held
  | send | respond | leave | wake | timeout | again | finish => exact fun _ deadline => by simp
  | clear | join | logoff => exact fun joining => by simp at joining

/-- How long `main` waits in `join`, apart from the answer to a ping: as long as the
thread still sleeps, which is never more than a period and nothing at all unless the
notification falls between a false wait predicate and the blocking; there it is lost. -/
theorem join_delay_exact (period now : Nat) :
    (∀ ls s, (machine period).run (start now) ls = some s → s.main = .joining →
      Joins period s (delay s) ∧ (∀ time, Joins period s time → delay s ≤ time) ∧ delay s ≤ period ∧
      ((machine period).Meets NotifiesOutsideWindow (start now) ls → delay s = 0)) ∧
    ∀ ls s deadline, (machine period).run (start now) ls = some s → s.main = .cleared →
      s.thread = .block deadline → ∃ t, (machine period).run s [.notify, .block] = some t ∧
        t.main = .joining ∧ delay t = deadline - s.now := by
  constructor
  · intro ls s reached joining
    have ordered := run_ordered reached
    refine ⟨joins_delay joining ordered, ?_, ?_, fun outside => ?_⟩
    · rintro time ⟨ls', t, later, joined, quiet, rfl⟩
      exact delay_run joining ordered later joined quiet
    · have bounded : Bounded period s :=
        Machine.run_invariant (fun held stepped => bounded_step held stepped) reached trivial
      rw [Bounded] at bounded
      rw [delay]
      cases pc : s.thread <;> simp only [pc] at bounded ⊢ <;> omega
    · have first : Heard (start now) ∧ Ordered (start now) :=
        ⟨fun joining => by simp [start] at joining, ordered_start now⟩
      have held := Machine.run_invariant_meets (P := fun s => Heard s ∧ Ordered s)
        (fun held here stepped => ⟨heard_step held.1 held.2 here stepped, ordered_step held.2 stepped⟩)
        outside reached first
      have awake := held.1 joining
      rw [delay]
      cases pc : s.thread <;> simp [pc] at awake ⊢
  · intro ls s deadline reached cleared pc
    refine ⟨{ s with main := .joining, thread := .blocked deadline }, ?_, rfl, rfl⟩
    simp [Machine.run, machine, State.block, cleared, pc, ThreadPc.notified]

/-- The thread finds the flag set, and before it blocks `main` clears the flag and
notifies: two ticks of the period are left. -/
theorem join_delay_exact_window : ∃ s, (machine 3).run (start 0)
      [.send, .respond, .predicate, .tick, .clear, .notify, .block] = some s ∧
    Joins 3 s 2 ∧ ∀ time, Joins 3 s time → 2 ≤ time := by
  have reached : (machine 3).run (start 0)
      [.send, .respond, .predicate, .tick, .clear, .notify, .block] = some _ := rfl
  obtain ⟨joins, least, _⟩ := (join_delay_exact 3 0).1 _ _ reached rfl
  exact ⟨_, reached, joins, least⟩

end Joining
end LampMonitor.Ping
