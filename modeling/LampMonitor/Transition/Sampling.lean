import LampMonitor.Transition

/-! Samples of a history: an observer that looks from time to time sees states of
it in their order, some of them twice and some never. -/
namespace LampMonitor.Transition
variable {α : Type}

/-- The states of a run, the first one included. -/
def Machine.visited (m : Machine S L) : S → List L → List S
  | s, [] => [s]
  | s, l :: ls => s :: (m.step s l).elim [] fun t => m.visited t ls

theorem Machine.visited_snoc {m : Machine S L} (reached : m.run s ls = some t)
    (stepped : m.step t l = some u) : m.visited s (ls ++ [l]) = m.visited s ls ++ [u] := by
  induction ls generalizing s with
  | nil =>
    cases Option.some.inj reached
    simp [visited, stepped]
  | cons l' ls ih =>
    obtain ⟨v, first, rest⟩ := run_cons.mp reached
    simp [visited, first, ih rest]

/-- What comes after the first of these. -/
def since (starts : α → Bool) : List α → List α
  | [] => []
  | x :: xs => if starts x then xs else since starts xs

theorem since_snoc (starts : α → Bool) (xs : List α) (x : α) :
    since starts (xs ++ [x]) = if xs.any starts then since starts xs ++ [x] else [] := by
  induction xs with
  | nil => simp [since]
  | cons y xs ih =>
    cases here : starts y with
    | true => simp [since, here]
    | false => simp [since, here, ih]

theorem since_none {starts : α → Bool} (none : xs.any starts = false) : since starts xs = [] := by
  induction xs with
  | nil => rfl
  | cons x xs ih =>
    rw [List.any_cons, Bool.or_eq_false_iff] at none
    rw [since, none.1]
    exact ih none.2

/-- The samples were taken of the history in its order. -/
inductive Samples : List α → List α → Prop where
  | nil (history : List α) : Samples history []
  | look : Samples (x :: history) seen → Samples (x :: history) (x :: seen)
  | pass : Samples history seen → Samples (x :: history) seen

namespace Samples

theorem extend (samples : Samples history seen) (more : List α) :
    Samples (history ++ more) seen := by
  induction samples with
  | nil => exact .nil _
  | look _ ih => exact .look ih
  | pass _ ih => exact .pass ih

theorem replicate (x : α) (n : Nat) : Samples [x] (List.replicate n x) := by
  induction n with
  | zero => exact .nil _
  | succ n ih => exact .look ih

/-- The last state may be looked at again and again. -/
theorem again (samples : Samples (history ++ [x]) seen) (n : Nat) :
    Samples (history ++ [x]) (seen ++ List.replicate n x) := by
  generalize whole : history ++ [x] = states at samples
  induction samples generalizing history with
  | nil states =>
    subst whole
    rw [List.nil_append]
    induction history with
    | nil => exact replicate x n
    | cons y history ih => exact .pass ih
  | look _ ih => exact .look (ih whole)
  | @pass states seen y samples ih =>
    cases history with
    | nil =>
      obtain ⟨rfl, rfl⟩ := List.cons.inj whole
      have none : seen = [] := by cases samples with | nil => rfl
      subst none
      exact replicate x n
    | cons z history =>
      obtain ⟨rfl, rest⟩ := List.cons.inj whole
      exact .pass (ih rest)

/-- An observer that sees the last state before a step, and then the next one. -/
theorem step (samples : Samples (history ++ [x]) seen) (n m : Nat) (y : α) :
    Samples (history ++ [x] ++ [y]) (seen ++ (List.replicate n x ++ List.replicate m y)) := by
  rw [← List.append_assoc]
  exact ((samples.again n).extend [y]).again m

/-- To look twice at one state makes no difference. -/
theorem double (samples : Samples history (before ++ after)) (last : before.getLast? = some x) :
    Samples history (before ++ [x] ++ after) := by
  generalize whole : before ++ after = seen at samples
  induction samples generalizing before with
  | nil =>
    obtain ⟨rfl, _⟩ := List.append_eq_nil_iff.mp whole
    contradiction
  | pass _ ih => exact .pass (ih last whole)
  | @look y states seen samples ih =>
    cases before with
    | nil => contradiction
    | cons z before =>
      obtain ⟨rfl, rest⟩ := List.cons.inj whole
      cases before with
      | nil =>
        cases Option.some.inj last
        exact .look (.look (rest ▸ samples))
      | cons w before => exact .look (ih (by simpa using last) rest)

/-- What has been seen already does not depend on what is still to come. -/
theorem earlier (samples : Samples history (before ++ after)) : Samples history before := by
  generalize whole : before ++ after = seen at samples
  induction samples generalizing before with
  | nil =>
    obtain ⟨rfl, _⟩ := List.append_eq_nil_iff.mp whole
    exact .nil _
  | pass _ ih => exact .pass (ih whole)
  | @look x states seen _ ih =>
    cases before with
    | nil => exact .nil _
    | cons y before =>
      obtain ⟨rfl, rest⟩ := List.cons.inj whole
      exact .look (ih rest)

end Samples
end LampMonitor.Transition
