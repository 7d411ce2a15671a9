import LampMonitor.Fallible
import Mathlib.Data.List.Forall2

/-! Programs that emit events, request things that may be refused, and may stop.
A refusal only cuts a run short, so what can stop a program is decided by the run
in which everything is granted. Loops end at the first entry that stops them. -/
namespace LampMonitor
open Fallible

inductive Script (E C S α : Type) where
  | done (a : α)
  | stop (s : S)
  | emit (event : E) (next : Script E C S α)
  | ask (request : C) (next : Script E C S α)

inductive Halt (C S : Type) where
  | stopped (s : S)
  | refused (request : C)
  deriving DecidableEq, Repr

structure Run (E C S α : Type) where
  output : List E
  result : Except (Halt C S) α

namespace Script
variable {E C S α β σ : Type}

def bind : Script E C S α → (α → Script E C S β) → Script E C S β
  | done a, f => f a
  | stop s, _ => stop s
  | emit event next, f => emit event (bind next f)
  | ask request next, f => ask request (bind next f)

instance : Monad (Script E C S) where
  pure := done
  bind := bind

def run (grants : C → Bool) : Script E C S α → Run E C S α
  | done a => ⟨[], .ok a⟩
  | stop s => ⟨[], .error (.stopped s)⟩
  | emit event next => ⟨event :: (run grants next).output, (run grants next).result⟩
  | ask request next => if grants request then run grants next else ⟨[], .error (.refused request)⟩

/-- The end where everything is granted. -/
def outcome : Script E C S α → Except S α
  | done a => .ok a
  | stop s => .error s
  | emit _ next => outcome next
  | ask _ next => outcome next

def output : Script E C S α → List E
  | done _ => []
  | stop _ => []
  | emit event next => event :: output next
  | ask _ next => output next

section Runs
variable {p : Script E C S α} {grants : C → Bool}

/-- A run either takes its course or is cut short by a refusal. -/
theorem run_cases (p : Script E C S α) (grants : C → Bool) :
    p.run grants = ⟨p.output, p.outcome.mapError .stopped⟩ ∨
      ∃ request before, before <+: p.output ∧
      p.run grants = ⟨before, .error (.refused request)⟩ := by
  induction p with
  | done a => exact Or.inl rfl
  | stop s => exact Or.inl rfl
  | emit event next ih =>
    rcases ih with course | ⟨request, before, cut, refused⟩
    · exact Or.inl (by simp only [run, course, output, outcome])
    · exact Or.inr ⟨request, event :: before,
        List.cons_prefix_cons.mpr ⟨rfl, cut⟩, by simp only [run, refused]⟩
  | ask request next ih =>
    by_cases granted : grants request = true
    · simp only [run, granted, if_true]
      exact ih
    · exact Or.inr ⟨request, [],
        List.nil_prefix, by simp only [run, granted, if_false, Bool.false_eq_true]⟩

theorem run_granted (p : Script E C S α) :
    p.run (fun _ => true) = ⟨p.output, p.outcome.mapError .stopped⟩ := by
  induction p with
  | done a => rfl
  | stop s => rfl
  | emit event next ih => simp only [run, ih, output, outcome]
  | ask request next ih => simp only [run, ih, if_true, output, outcome]

/-- What stops some run stops the one in which everything is granted. -/
theorem stopped_iff : (∃ grants, (p.run grants).result = .error (.stopped s)) ↔
    p.outcome = .error s := by
  constructor
  · rintro ⟨grants, stopped⟩
    rcases p.run_cases grants with course | ⟨request, before, -, refused⟩
    · rw [course] at stopped
      obtain ⟨s', ended, ⟨⟩⟩ := mapError_eq_error.mp stopped
      exact ended
    · simp [refused] at stopped
  · intro stopped
    exact ⟨fun _ => true, by rw [run_granted, stopped]; rfl⟩

theorem run_ok (finished : (p.run grants).result = .ok a) :
    p.outcome = .ok a ∧ (p.run grants).output = p.output := by
  rcases p.run_cases grants with course | ⟨request, before, -, refused⟩
  · rw [course] at finished ⊢
    exact ⟨mapError_eq_ok.mp finished, rfl⟩
  · simp [refused] at finished

theorem output_run_initial (p : Script E C S α) (grants : C → Bool) :
    (p.run grants).output <+: p.output := by
  rcases p.run_cases grants with course | ⟨request, before, cut, refused⟩
  · simp only [course, List.prefix_refl]
  · simp only [refused, cut]

end Runs

section Sequences
variable {p : Script E C S α} {f : α → Script E C S β}

@[simp] theorem outcome_pure (a : α) : (pure a : Script E C S α).outcome = .ok a := rfl

@[simp] theorem output_pure (a : α) : (pure a : Script E C S α).output = [] := rfl

@[simp] theorem outcome_bind (p : Script E C S α) (f : α → Script E C S β) :
    (p >>= f).outcome = p.outcome >>= fun a => (f a).outcome := by
  induction p with
  | done a => rfl
  | stop s => rfl
  | emit event next ih => exact ih
  | ask request next ih => exact ih

theorem output_bind_ok (first : p.outcome = .ok a) :
    (p >>= f).output = p.output ++ (f a).output := by
  induction p with
  | done a' =>
    cases first
    rfl
  | stop s => cases first
  | emit event next ih => exact congrArg (event :: ·) (ih first)
  | ask request next ih => exact ih first

theorem output_bind_error (first : p.outcome = .error s) : (p >>= f).output = p.output := by
  induction p with
  | done a' => cases first
  | stop s => rfl
  | emit event next ih => exact congrArg (event :: ·) (ih first)
  | ask request next ih => exact ih first

theorem output_bind_pure (p : Script E C S α) (g : α → β) :
    (p >>= fun a => pure (g a)).output = p.output := by
  cases ended : p.outcome with
  | ok a => rw [output_bind_ok ended, output_pure, List.append_nil]
  | error s => rw [output_bind_error ended]

theorem output_bind_nil (first : p.output = []) (rest : ∀ a, (f a).output = []) :
    (p >>= f).output = [] := by
  cases ended : p.outcome with
  | ok a => rw [output_bind_ok ended, first, rest, List.nil_append]
  | error s => rw [output_bind_error ended, first]

end Sequences

/-- The programs end alike and emit the same; what they request may differ. -/
structure Alike (p q : Script E C S α) : Prop where
  outcome : p.outcome = q.outcome
  output : p.output = q.output

theorem Alike.trans {p q r : Script E C S α} (first : Alike p q) (second : Alike q r) : Alike p r :=
  ⟨first.outcome.trans second.outcome, first.output.trans second.output⟩

/-- A silent step that succeeds may be left out. -/
theorem alike_bind {p : Script E C S α} {f : α → Script E C S β}
    (finishes : p.outcome = .ok a) (silent : p.output = []) :
    Alike (p >>= f) (f a) :=
  ⟨by rw [outcome_bind, finishes, ok_bind], by rw [output_bind_ok finishes, silent, List.nil_append]⟩

/-- The program is never stopped in a bad way. -/
def Safe (Bad : S → Prop) (p : Script E C S α) : Prop := ∀ s, p.outcome = .error s → ¬ Bad s

/-- Everything the program emits, up to where it stops, has the property. -/
def Emits (P : E → Prop) (p : Script E C S α) : Prop := ∀ event ∈ p.output, P event

/-- Where the program stops, its output and the stop fit together. -/
def StopsWith (Q : List E → S → Prop) (p : Script E C S α) : Prop := ∀ s, p.outcome = .error s → Q p.output s

section Rules
variable {Bad : S → Prop} {P P' : E → Prop} {Q : List E → S → Prop} {p : Script E C S α} {f : α → Script E C S β}

theorem safe_of_ok (finishes : p.outcome = .ok a) : Safe Bad p := by
  intro s stopped
  rw [finishes] at stopped
  cases stopped

theorem safe_run : Safe Bad p ↔
    ∀ grants s, (p.run grants).result = .error (.stopped s) → ¬ Bad s := by
  constructor
  · exact fun safe grants s stopped => safe s (stopped_iff.mp ⟨grants, stopped⟩)
  · intro runs s stopped
    obtain ⟨grants, h⟩ := stopped_iff.mpr stopped
    exact runs grants s h

theorem safe_bind : Safe Bad (p >>= f) ↔ Safe Bad p ∧ ∀ a, p.outcome = .ok a → Safe Bad (f a) := by
  simp only [Safe, outcome_bind, bind_eq_error]
  constructor
  · intro safe
    exact ⟨fun s stopped => safe s (Or.inl stopped),
      fun a first s stopped => safe s (Or.inr ⟨a, first, stopped⟩)⟩
  · rintro ⟨first, rest⟩ s (stopped | ⟨a, passed, stopped⟩)
    · exact first s stopped
    · exact rest a passed s stopped

theorem safe_bind_ok (first : p.outcome = .ok a) : Safe Bad (p >>= f) ↔ Safe Bad (f a) := by
  simp only [Safe, outcome_bind, first, bind_eq_error, Except.ok.injEq, exists_eq_left',
    reduceCtorEq, false_or]

theorem Emits.mono (emits : Emits P p) (weaker : ∀ event, P event → P' event) : Emits P' p :=
  fun event member => weaker event (emits event member)

theorem emits_pure (a : α) : Emits P (pure a : Script E C S α) := fun _ h => nomatch h

theorem emits_bind (first : Emits P p) (rest : ∀ a, p.outcome = .ok a → Emits P (f a)) :
    Emits P (p >>= f) := by
  intro event member
  cases ended : p.outcome with
  | ok a =>
    rw [output_bind_ok ended] at member
    exact (List.mem_append.mp member).elim (first event) (rest a ended event)
  | error s =>
    rw [output_bind_error ended] at member
    exact first event member

theorem stopsWith_bind (later : ∀ {before output s}, Q output s → Q (before ++ output) s)
    (first : StopsWith Q p) (rest : ∀ a, p.outcome = .ok a → StopsWith Q (f a)) :
    StopsWith Q (p >>= f) := by
  intro s stopped
  rw [outcome_bind, bind_eq_error] at stopped
  rcases stopped with here | ⟨a, passed, stopped⟩
  · rw [output_bind_error here]
    exact first s here
  · rw [output_bind_ok passed]
    exact later (rest a passed s stopped)

/-- In a run that is not cut short by a refusal, the stop is that of the program. -/
theorem StopsWith.run (stops : StopsWith Q p)
    (stopped : (p.run grants).result = .error (.stopped s)) :
    Q (p.run grants).output s := by
  have ended := stopped_iff.mp ⟨grants, stopped⟩
  rcases p.run_cases grants with course | ⟨request, before, -, refused⟩
  · rw [course]
    exact stops s ended
  · simp [refused] at stopped

end Rules

section Loops
variable {Pass Cond : List α → α → Prop} {Bad : S → Prop} {P : E → Prop} {f : σ → α → Script E C S σ}
  {before xs : List α}

/-- Every entry passes after the entries before it. -/
def AllPass (Pass : List α → α → Prop) : List α → List α → Prop
  | _, [] => True
  | before, x :: xs => Pass before x ∧ AllPass Pass (before ++ [x]) xs

/-- The condition holds of every entry up to and including the first that does not pass. -/
def EachReached (Pass Cond : List α → α → Prop) : List α → List α → Prop
  | _, [] => True
  | before, x :: xs => Cond before x ∧ (Pass before x → EachReached Pass Cond (before ++ [x]) xs)

theorem allPass_each {P : α → Prop} : AllPass (fun _ x => P x) before xs ↔ ∀ x ∈ xs, P x := by
  induction xs generalizing before with
  | nil => simp [AllPass]
  | cons y ys ih => simp [AllPass, ih]

theorem eachReached_of_all (all : ∀ before x, Cond before x) (before xs : List α) :
    EachReached Pass Cond before xs := by
  induction xs generalizing before with
  | nil => trivial
  | cons y ys ih => exact ⟨all before y, fun _ => ih _⟩

/-- A loop whose state follows from the entries behind it; `A` is known of every entry. -/
structure Tracks (A : α → Prop) (f : σ → α → Script E C S σ) (R : List α → σ → Prop)
    (Pass : List α → α → Prop) : Prop where
  ok : ∀ {before s x s'}, A x → R before s → (f s x).outcome = .ok s' → Pass before x ∧ R (before ++ [x]) s'
  pass : ∀ {before s x}, A x → R before s → Pass before x → ∃ s', (f s x).outcome = .ok s'

variable {A : α → Prop} {R : List α → σ → Prop}

theorem Tracks.loop_ok (tracks : Tracks A f R Pass) (all : ∀ x ∈ xs, A x) (start : R before s)
    (finished : (xs.foldlM f s).outcome = .ok s') :
    AllPass Pass before xs ∧ R (before ++ xs) s' := by
  induction xs generalizing before s with
  | nil =>
    cases finished
    exact ⟨trivial, by simpa using start⟩
  | cons x xs ih =>
    rw [List.foldlM_cons, outcome_bind, bind_eq_ok] at finished
    obtain ⟨t, here, rest⟩ := finished
    obtain ⟨pass, next⟩ := tracks.ok (all x List.mem_cons_self) start here
    obtain ⟨passes, final⟩ := ih (fun y h => all y (List.mem_cons_of_mem _ h)) next rest
    exact ⟨⟨pass, passes⟩, by simpa using final⟩

theorem Tracks.loop_pass (tracks : Tracks A f R Pass) (all : ∀ x ∈ xs, A x) (start : R before s)
    (passes : AllPass Pass before xs) : ∃ s', (xs.foldlM f s).outcome = .ok s' := by
  induction xs generalizing before s with
  | nil => exact ⟨s, rfl⟩
  | cons x xs ih =>
    obtain ⟨t, here⟩ := tracks.pass (all x List.mem_cons_self) start passes.1
    obtain ⟨-, next⟩ := tracks.ok (all x List.mem_cons_self) start here
    obtain ⟨s', rest⟩ := ih (fun y h => all y (List.mem_cons_of_mem _ h)) next passes.2
    exact ⟨s', by rw [List.foldlM_cons, outcome_bind, bind_eq_ok]; exact ⟨t, here, rest⟩⟩

/-- What each entry preserves holds of a loop that finishes. -/
theorem loop_invariant
    (entry : ∀ {before s x s'}, R before s → (f s x).outcome = .ok s' → R (before ++ [x]) s')
    (start : R before s) (finished : (xs.foldlM f s).outcome = .ok s') : R (before ++ xs) s' := by
  induction xs generalizing before s with
  | nil =>
    cases finished
    simpa using start
  | cons x xs ih =>
    rw [List.foldlM_cons, outcome_bind, bind_eq_ok] at finished
    obtain ⟨t, here, rest⟩ := finished
    simpa using ih (entry start here) rest

/-- A loop is safe exactly when every entry it reaches is. -/
theorem Tracks.loop_safe (tracks : Tracks A f R Pass) (all : ∀ x ∈ xs, A x) (start : R before s)
    (entry : ∀ {before s x}, A x → R before s → (Safe Bad (f s x) ↔ Cond before x)) :
    Safe Bad (xs.foldlM f s) ↔ EachReached Pass Cond before xs := by
  induction xs generalizing before s with
  | nil => exact ⟨fun _ => trivial, fun _ => safe_of_ok rfl⟩
  | cons x xs ih =>
    have known := all x List.mem_cons_self
    have others : ∀ y ∈ xs, A y := fun y h => all y (List.mem_cons_of_mem _ h)
    rw [List.foldlM_cons, safe_bind, entry known start, EachReached]
    refine and_congr_right fun _ => ⟨fun rest pass => ?_, fun rest t here => ?_⟩
    · obtain ⟨t, here⟩ := tracks.pass known start pass
      exact (ih others (tracks.ok known start here).2).mp (rest t here)
    · obtain ⟨pass, next⟩ := tracks.ok known start here
      exact (ih others next).mpr (rest pass)

theorem Tracks.loop_always_safe (tracks : Tracks A f R Pass) (all : ∀ x ∈ xs, A x) (start : R [] s)
    (entry : ∀ {before s x}, A x → R before s → Safe Bad (f s x)) : Safe Bad (xs.foldlM f s) := by
  have each : ∀ {before : List α} {s : σ} {x : α}, A x → R before s →
      (Safe Bad (f s x) ↔ (fun (_ : List α) (_ : α) => True) before x) :=
    fun known here => iff_true_intro (entry known here)
  exact (tracks.loop_safe all start each).mpr (eachReached_of_all (fun _ _ => trivial) [] xs)

/-- A loop none of whose entries stops it. -/
theorem loop_finishes (entry : ∀ s, ∀ x ∈ xs, ∃ s', (f s x).outcome = .ok s') (s : σ) :
    ∃ s', (xs.foldlM f s).outcome = .ok s' := by
  induction xs generalizing s with
  | nil => exact ⟨s, rfl⟩
  | cons x xs ih =>
    obtain ⟨t, here⟩ := entry s x List.mem_cons_self
    obtain ⟨s', rest⟩ := ih (fun s y h => entry s y (List.mem_cons_of_mem _ h)) t
    exact ⟨s', by rw [List.foldlM_cons, outcome_bind, here, ok_bind, rest]⟩

/-- A loop each of whose entries keeps to what may be emitted. -/
theorem loop_emits (entry : ∀ s, ∀ x ∈ xs, Emits P (f s x)) (s : σ) : Emits P (xs.foldlM f s) := by
  induction xs generalizing s with
  | nil => exact emits_pure s
  | cons x xs ih =>
    rw [List.foldlM_cons]
    refine emits_bind (entry s x List.mem_cons_self) fun t _ => ?_
    exact ih (fun s y h => entry s y (List.mem_cons_of_mem _ h)) t

theorem Tracks.loop_emits (tracks : Tracks A f R Pass) (before : List α)
    (all : ∀ x ∈ xs, A x) (start : R before s)
    (entry : ∀ {before s x}, x ∈ xs → A x → R before s → Emits P (f s x)) :
    Emits P (xs.foldlM f s) := by
  induction xs generalizing before s with
  | nil => exact emits_pure s
  | cons x xs ih =>
    have known := all x List.mem_cons_self
    rw [List.foldlM_cons]
    refine emits_bind (entry List.mem_cons_self known start) fun t here => ?_
    exact ih _ (fun y h => all y (List.mem_cons_of_mem _ h)) (tracks.ok known start here).2
      fun h => entry (List.mem_cons_of_mem _ h)

theorem Tracks.loop_stopsWith {Q : List E → S → Prop} (tracks : Tracks A f R Pass) (before : List α)
    (all : ∀ x ∈ xs, A x) (start : R before s)
    (later : ∀ {before output s}, Q output s → Q (before ++ output) s)
    (entry : ∀ {before s x}, A x → R before s → StopsWith Q (f s x)) :
    StopsWith Q (xs.foldlM f s) := by
  induction xs generalizing before s with
  | nil => exact fun e stopped => nomatch stopped
  | cons x xs ih =>
    have known := all x List.mem_cons_self
    rw [List.foldlM_cons]
    refine stopsWith_bind later (entry known start) fun t here => ?_
    exact ih _ (fun y h => all y (List.mem_cons_of_mem _ h)) (tracks.ok known start here).2

/-- What each entry emits is emitted by a loop that finishes. -/
theorem Tracks.loop_emitted (tracks : Tracks A f R Pass) (before : List α)
    (all : ∀ x ∈ xs, A x) (start : R before s) (finished : (xs.foldlM f s).outcome = .ok s')
    (member : x ∈ xs) :
    ∃ earlier t t', R earlier t ∧ (f t x).outcome = .ok t' ∧
      ∀ event ∈ (f t x).output, event ∈ (xs.foldlM f s).output := by
  induction xs generalizing before s with
  | nil => cases member
  | cons y ys ih =>
    rw [List.foldlM_cons] at finished ⊢
    obtain ⟨t, here, rest⟩ := bind_eq_ok.mp ((outcome_bind _ _).symm.trans finished)
    rw [output_bind_ok here]
    rcases List.mem_cons.mp member with rfl | later
    · exact ⟨before, s, t, start, here, fun event h => List.mem_append_left _ h⟩
    · have next := (tracks.ok (all y List.mem_cons_self) start here).2
      obtain ⟨earlier, u, u', reached, passed, emitted⟩ :=
        ih _ (fun z h => all z (List.mem_cons_of_mem _ h)) next rest later
      exact ⟨earlier, u, u', reached, passed,
        fun event h => List.mem_append_right _ (emitted event h)⟩

/-- What a loop that finishes emits is made up of what its entries emit, in their order. -/
theorem Tracks.loop_parts {select : E → Option B} {Part : α → List B → Prop}
    (tracks : Tracks A f R Pass) (before : List α) (all : ∀ x ∈ xs, A x) (start : R before s)
    (finished : (xs.foldlM f s).outcome = .ok s')
    (entry : ∀ {before s x s'}, A x → R before s → (f s x).outcome = .ok s' →
      Part x ((f s x).output.filterMap select)) :
    ∃ parts, List.Forall₂ Part xs parts ∧
      (xs.foldlM f s).output.filterMap select = parts.flatten := by
  induction xs generalizing before s with
  | nil => exact ⟨[], .nil, rfl⟩
  | cons x xs ih =>
    rw [List.foldlM_cons] at finished ⊢
    obtain ⟨t, here, rest⟩ := bind_eq_ok.mp ((outcome_bind _ _).symm.trans finished)
    have known := all x List.mem_cons_self
    obtain ⟨parts, each, emitted⟩ := ih _ (fun y h => all y (List.mem_cons_of_mem _ h))
      (tracks.ok known start here).2 rest
    refine ⟨_ :: parts, .cons (entry known start here) each, ?_⟩
    rw [output_bind_ok here, List.filterMap_append, emitted, List.flatten_cons]

end Loops
end Script
end LampMonitor
