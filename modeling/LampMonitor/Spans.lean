import Mathlib.Data.List.TakeWhile

/-! A text that starts with a body of one character class and goes on with a
character outside it. -/
namespace LampMonitor.Spans

/-- A text is searched, rather than all characters. -/
instance decidableText (p : Char → Prop) [DecidablePred p] (text : List Char) :
    Decidable (∀ c ∈ text, p c) :=
  List.decidableBAll p text

section Stop
variable {p : α → Bool}

theorem takeWhile_stop (inside : ∀ c ∈ body, p c = true) (stop : p c = false) (rest : List α) :
    (body ++ c :: rest).takeWhile p = body := by
  rw [List.takeWhile_append_of_pos inside, List.takeWhile_cons_of_neg (by simp [stop]),
    List.append_nil]

theorem dropWhile_stop (inside : ∀ c ∈ body, p c = true) (stop : p c = false) (rest : List α) :
    (body ++ c :: rest).dropWhile p = c :: rest := by
  rw [List.dropWhile_append_of_pos inside, List.dropWhile_cons_of_neg (by simp [stop])]

/-- The body that `dropWhile` passed. -/
theorem dropWhile_split {text : List α} (dropped : text.dropWhile p = rest) :
    text = text.takeWhile p ++ rest ∧ ∀ c ∈ text.takeWhile p, p c = true := by
  refine ⟨?_, fun c member => List.mem_takeWhile_imp member⟩
  rw [← dropped, List.takeWhile_append_dropWhile]

end Stop
end LampMonitor.Spans
