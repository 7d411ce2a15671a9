import Mathlib.Init

/-! Sequences of steps that may fail. A sequence succeeds when every step does,
and its failure is that of the first step that fails. -/
namespace LampMonitor.Fallible

@[simp] theorem pure_eq_ok {a b : α} : (pure a : Except ε α) = .ok b ↔ a = b := by
  simp only [pure, Except.pure, Except.ok.injEq]

@[simp] theorem pure_eq_error {a : α} {e : ε} : (pure a : Except ε α) = .error e ↔ False := by
  simp only [pure, Except.pure, reduceCtorEq]

@[simp] theorem ok_bind (a : α) (f : α → Except ε β) : (Except.ok a >>= f) = f a := rfl

@[simp] theorem error_bind (e : ε) (f : α → Except ε β) : (Except.error e >>= f) = .error e := rfl

@[simp] theorem bind_eq_ok {x : Except ε α} {f : α → Except ε β} {b : β} :
    (x >>= f) = .ok b ↔ ∃ a, x = .ok a ∧ f a = .ok b := by
  cases x <;> simp [bind, Except.bind]

@[simp] theorem bind_eq_error {x : Except ε α} {f : α → Except ε β} {e : ε} :
    (x >>= f) = .error e ↔ x = .error e ∨ ∃ a, x = .ok a ∧ f a = .error e := by
  cases x <;> simp [bind, Except.bind]

@[simp] theorem mapError_eq_ok {x : Except ε α} {f : ε → δ} {a : α} :
    x.mapError f = .ok a ↔ x = .ok a := by
  cases x with
  | ok b =>
    constructor
    · rintro ⟨⟩
      rfl
    · rintro ⟨⟩
      rfl
  | error e => constructor <;> rintro ⟨⟩

@[simp] theorem mapError_eq_error {x : Except ε α} {f : ε → δ} {d : δ} :
    x.mapError f = .error d ↔ ∃ e, x = .error e ∧ f e = d := by
  cases x with
  | ok b =>
    constructor
    · rintro ⟨⟩
    · rintro ⟨e, ⟨⟩, -⟩
  | error e =>
    constructor
    · rintro ⟨⟩
      exact ⟨e, rfl, rfl⟩
    · rintro ⟨e, ⟨⟩, rfl⟩
      rfl

end LampMonitor.Fallible
