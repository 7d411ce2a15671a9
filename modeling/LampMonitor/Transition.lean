import Mathlib.Data.List.Infix

/-! Labelled machines whose only nondeterminism is the choice of the next label.
Every scheduler is a list of labels, so a statement about all interleavings is
a statement about all lists. Invariants may mention the labels taken so far. -/
namespace LampMonitor.Transition

/-- `step s l` is the state after label `l`, or `none` where `l` is not enabled. -/
structure Machine (S L : Type) where
  step : S → L → Option S

namespace Machine
variable {S L T K : Type} {m : Machine S L}

def run (m : Machine S L) : S → List L → Option S
  | s, [] => some s
  | s, l :: ls => (m.step s l).bind (fun t => run m t ls)

theorem run_append (s : S) (first second : List L) :
    m.run s (first ++ second) = (m.run s first).bind (fun t => m.run t second) := by
  induction first generalizing s with
  | nil => rfl
  | cons l first ih =>
    simp only [List.cons_append, run, Option.bind_assoc]
    exact congrArg _ (funext ih)

theorem run_trans (first : m.run s ls = some t) (second : m.run t ls' = some u) :
    m.run s (ls ++ ls') = some u := by
  rw [run_append, first, Option.bind_some, second]

theorem run_snoc : m.run s (ls ++ [l]) = some u ↔
    ∃ t, m.run s ls = some t ∧ m.step t l = some u := by
  simp only [run_append, run, Option.bind_eq_some_iff, Option.bind_fun_some]

theorem run_cons : m.run s (l :: ls) = some u ↔ ∃ t, m.step s l = some t ∧ m.run t ls = some u := by
  simp only [run, Option.bind_eq_some_iff]

/-- Every step of the run is taken in a state that meets the condition. A
condition constrains the scheduler and never the result of the step. -/
def Meets (m : Machine S L) (C : S → L → Prop) : S → List L → Prop
  | _, [] => True
  | s, l :: ls => C s l ∧ ∀ t, m.step s l = some t → Meets m C t ls

theorem Meets.cons {C : S → L → Prop} (here : C s l) (stepped : m.step s l = some t)
    (rest : m.Meets C t ls) :
    m.Meets C s (l :: ls) := by
  refine ⟨here, fun u other => ?_⟩
  cases Option.some.inj (stepped.symm.trans other)
  exact rest

theorem Meets.snoc {C : S → L → Prop} (meets : m.Meets C s (ls ++ [l]))
    (reached : m.run s ls = some t) :
    m.Meets C s ls ∧ C t l := by
  induction ls generalizing s with
  | nil =>
    cases Option.some.inj reached
    exact ⟨trivial, meets.1⟩
  | cons l' ls ih =>
    obtain ⟨u, stepped, rest⟩ := run_cons.mp reached
    obtain ⟨before, last⟩ := ih (meets.2 u stepped) rest
    refine ⟨⟨meets.1, fun v hv => ?_⟩, last⟩
    cases Option.some.inj (stepped.symm.trans hv)
    exact before

theorem Meets.of_labels {C : L → Prop} (all : ∀ l ∈ ls, C l) : m.Meets (fun _ l => C l) s ls := by
  induction ls generalizing s with
  | nil => trivial
  | cons l ls ih =>
    exact ⟨all l List.mem_cons_self, fun _ _ => ih (fun l' h => all l' (List.mem_cons_of_mem _ h))⟩

theorem Meets.mono {C C' : S → L → Prop} (weaker : ∀ {s l}, C s l → C' s l)
    (meets : m.Meets C s ls) :
    m.Meets C' s ls := by
  induction ls generalizing s with
  | nil => trivial
  | cons l ls ih => exact ⟨weaker meets.1, fun t stepped => ih (meets.2 t stepped)⟩

/-- The induction over runs, stated once. The invariant sees the labels taken
so far, and each step may use the condition the scheduler meets there. -/
theorem trace_invariant {C : S → L → Prop} {P : List L → S → Prop} (start : P [] s)
    (preserves : ∀ {ls t l u}, P ls t → C t l → m.step t l = some u → P (ls ++ [l]) u)
    (meets : m.Meets C s ls) (reached : m.run s ls = some t) : P ls t := by
  induction ls using List.reverseRecOn generalizing t with
  | nil =>
    cases Option.some.inj reached
    exact start
  | append_singleton ls l ih =>
    obtain ⟨u, before, stepped⟩ := run_snoc.mp reached
    obtain ⟨earlier, here⟩ := meets.snoc before
    exact preserves (ih earlier before) here stepped

theorem run_invariant_meets {C : S → L → Prop} {P : S → Prop}
    (preserves : ∀ {t l u}, P t → C t l → m.step t l = some u → P u)
    (meets : m.Meets C s ls) (reached : m.run s ls = some t) (start : P s) : P t :=
  trace_invariant (P := fun _ => P) start preserves meets reached

theorem run_invariant {P : S → Prop} (preserves : ∀ {t l u}, P t → m.step t l = some u → P u)
    (reached : m.run s ls = some t) (start : P s) : P t :=
  run_invariant_meets (C := fun _ _ => True) (fun held _ stepped => preserves held stepped)
    (Meets.of_labels (fun _ _ => trivial)) reached start

/-- The number of steps of a run that are taken where the predicate holds. -/
def count (m : Machine S L) (C : S → L → Bool) : S → List L → Nat
  | _, [] => 0
  | s, l :: ls => (if C s l then 1 else 0) + (m.step s l).elim 0 (fun t => count m C t ls)

theorem count_snoc {C : S → L → Bool} (reached : m.run s ls = some t) :
    m.count C s (ls ++ [l]) = m.count C s ls + if C t l then 1 else 0 := by
  induction ls generalizing s with
  | nil =>
    cases Option.some.inj reached
    cases stepped : m.step t l <;> simp [count, stepped]
  | cons l' ls ih =>
    obtain ⟨u, stepped, rest⟩ := run_cons.mp reached
    simp only [List.cons_append, count, stepped, Option.elim_some, ih rest, Nat.add_assoc]

theorem count_eq_zero {C : S → L → Bool} (meets : m.Meets (fun s l => C s l = false) s ls) :
    m.count C s ls = 0 := by
  induction ls generalizing s with
  | nil => rfl
  | cons l ls ih =>
    have rest : (m.step s l).elim 0 (fun t => m.count C t ls) = 0 := by
      cases stepped : m.step s l with
      | none => rfl
      | some t => exact ih (meets.2 t stepped)
    simp only [count, meets.1, Bool.false_eq_true, if_false, rest]

/-- Forward simulation under a condition on the concrete labels. Each concrete
label is matched by a fixed list of abstract ones, possibly none. -/
structure Simulation (c : Machine S L) (a : Machine T K) (C : L → Prop) (image : L → List K)
    (R : S → T → Prop) : Prop where
  step : ∀ {s t l s'}, R s t → C l → c.step s l = some s' → ∃ t', a.run t (image l) = some t' ∧ R s' t'

theorem Simulation.run {c : Machine S L} {a : Machine T K} {C : L → Prop} {image : L → List K}
    {R : S → T → Prop} (sim : Simulation c a C image R) (related : R s t)
    (all : ∀ l ∈ ls, C l) (reached : c.run s ls = some s') :
    ∃ t', a.run t (ls.flatMap image) = some t' ∧ R s' t' := by
  induction ls generalizing s t with
  | nil =>
    cases Option.some.inj reached
    exact ⟨t, rfl, related⟩
  | cons l ls ih =>
    obtain ⟨u, stepped, rest⟩ := run_cons.mp reached
    obtain ⟨v, matched, between⟩ := sim.step related (all l List.mem_cons_self) stepped
    obtain ⟨t', tail, final⟩ := ih between (fun l' h => all l' (List.mem_cons_of_mem _ h)) rest
    exact ⟨t', run_trans matched tail, final⟩

end Machine
end LampMonitor.Transition
