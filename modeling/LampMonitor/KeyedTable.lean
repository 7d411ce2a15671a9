import Mathlib.Data.List.Nodup

/-! Finite tables with a primary key. A table carries the uniqueness of its keys,
so an upsert or an update can only produce another well-formed table. Keys and
columns are arbitrary types. -/
namespace LampMonitor

structure KeyedTable (K V : Type) where
  rows : List (K × V)
  unique : (rows.map Prod.fst).Nodup

namespace KeyedTable
variable {K V : Type}

def empty : KeyedTable K V := ⟨[], List.nodup_nil⟩

def keys (t : KeyedTable K V) : List K := t.rows.map Prod.fst

section Upsert
variable [DecidableEq K]

/-- Replace the row with key `k`, or append one. -/
def upsertRows (k : K) (v : V) : List (K × V) → List (K × V)
  | [] => [(k, v)]
  | row :: rest => if row.1 = k then (k, v) :: rest else row :: upsertRows k v rest

theorem mem_keys_upsertRows (rows : List (K × V)) :
    k' ∈ (upsertRows k v rows).map Prod.fst ↔ k' = k ∨ k' ∈ rows.map Prod.fst := by
  induction rows with
  | nil => simp [upsertRows]
  | cons row rest ih =>
    simp only [upsertRows]
    split
    · rename_i same
      simp [same]
    · simp only [List.map_cons, List.mem_cons, ih]
      tauto

theorem upsertRows_unique {rows : List (K × V)} (unique : (rows.map Prod.fst).Nodup) :
    ((upsertRows k v rows).map Prod.fst).Nodup := by
  induction rows with
  | nil => simp [upsertRows]
  | cons row rest ih =>
    simp only [List.map_cons, List.nodup_cons] at unique
    simp only [upsertRows]
    split
    · rename_i same
      simpa [← same] using unique
    · rename_i different
      simp only [List.map_cons, List.nodup_cons, mem_keys_upsertRows]
      exact ⟨fun found => found.elim different unique.1, ih unique.2⟩

def upsert (t : KeyedTable K V) (k : K) (v : V) : KeyedTable K V :=
  ⟨upsertRows k v t.rows, upsertRows_unique t.unique⟩

def find? (t : KeyedTable K V) (k : K) : Option V :=
  (t.rows.find? (fun row => row.1 = k)).map Prod.snd

theorem find?_upsert (t : KeyedTable K V) (k k' : K) (v : V) :
    (t.upsert k v).find? k' = if k' = k then some v else t.find? k' := by
  obtain ⟨rows, unique⟩ := t
  simp only [find?, upsert]
  clear unique
  induction rows with
  | nil => by_cases same : k' = k <;> simp [upsertRows, same, Ne.symm]
  | cons row rest ih =>
    simp only [upsertRows]
    by_cases here : row.1 = k
    · by_cases same : k' = k <;> simp [here, same, Ne.symm]
    · simp only [if_neg here, List.find?_cons]
      by_cases found : row.1 = k'
      · simp [found, found ▸ here]
      · simp only [found, decide_false]
        exact ih

theorem upsertRows_fresh {rows : List (K × V)} (fresh : ∀ row ∈ rows, row.1 ≠ k) :
    upsertRows k v rows = rows ++ [(k, v)] := by
  induction rows with
  | nil => rfl
  | cons row rest ih =>
    obtain ⟨here, later⟩ := List.forall_mem_cons.mp fresh
    rw [upsertRows, if_neg here, ih later, List.cons_append]

theorem find?_eq_none {t : KeyedTable K V} : t.find? k = none ↔ ∀ row ∈ t.rows, row.1 ≠ k := by
  simp [find?, List.find?_eq_none]

theorem find?_eq_some {t : KeyedTable K V} : t.find? k = some v ↔ (k, v) ∈ t.rows := by
  constructor
  · intro found
    obtain ⟨⟨k', v'⟩, here, rfl⟩ := Option.map_eq_some_iff.mp found
    have key : k' = k := by simpa using List.find?_some here
    exact key ▸ List.mem_of_find?_eq_some here
  · intro member
    cases found : t.find? k with
    | none => exact absurd rfl (find?_eq_none.mp found _ member)
    | some v' =>
      obtain ⟨⟨k', w⟩, here, rfl⟩ := Option.map_eq_some_iff.mp found
      have key : k' = k := by simpa using List.find?_some here
      have same := List.inj_on_of_nodup_map t.unique (List.mem_of_find?_eq_some here) member key
      rw [same]

/-- `emplace`: an old key keeps its value. -/
def emplace (t : KeyedTable K V) (k : K) (v : V) : KeyedTable K V := if (t.find? k).isSome then t else t.upsert k v

theorem emplace_fresh {t : KeyedTable K V} (absent : t.find? k = none) :
    (t.emplace k v).rows = t.rows ++ [(k, v)] := by
  rw [emplace, absent, if_neg (by simp)]
  exact upsertRows_fresh (find?_eq_none.mp absent)

theorem mem_emplace {t : KeyedTable K V} (member : row ∈ (t.emplace k v).rows) :
    row ∈ t.rows ∨ row = (k, v) := by
  by_cases known : (t.find? k).isSome = true
  · rw [emplace, if_pos known] at member
    exact .inl member
  · rw [emplace_fresh (by simpa using known)] at member
    simpa using member

theorem find?_emplace (t : KeyedTable K V) (k k' : K) (v : V) :
    (t.emplace k v).find? k' = (t.find? k').or (if k' = k then some v else none) := by
  by_cases known : (t.find? k).isSome = true
  · by_cases same : k' = k
    · obtain ⟨old, found⟩ := Option.isSome_iff_exists.mp known
      simp [emplace, same, found]
    · simp [emplace, known, same]
  · have absent : t.find? k = none := by simpa using known
    by_cases same : k' = k
    · simp [emplace, absent, find?_upsert, same]
    · simp [emplace, absent, find?_upsert, same]

theorem keys_upsertRows (rows : List (K × V)) :
    (upsertRows k v rows).map Prod.fst =
      if k ∈ rows.map Prod.fst then rows.map Prod.fst else rows.map Prod.fst ++ [k] := by
  induction rows with
  | nil => simp [upsertRows]
  | cons row rest ih =>
    simp only [upsertRows]
    by_cases here : row.1 = k
    · simp [here]
    · simp only [if_neg here, List.map_cons, List.mem_cons, Ne.symm here, false_or, ih]
      split <;> rfl

/-- A new key goes last; an old one keeps its place. -/
theorem keys_upsert (t : KeyedTable K V) (k : K) (v : V) :
    (t.upsert k v).keys = if k ∈ t.keys then t.keys else t.keys ++ [k] :=
  keys_upsertRows t.rows

end Upsert

/-- `UPDATE ... SET v := change v WHERE selected`. -/
def update (t : KeyedTable K V) (selected : K → V → Bool) (change : V → V) : KeyedTable K V where
  rows := t.rows.map (fun row => (row.1, if selected row.1 row.2 then change row.2 else row.2))
  unique := by simpa [List.map_map, Function.comp_def] using t.unique

theorem find?_update [DecidableEq K] (t : KeyedTable K V) (selected : K → V → Bool)
    (change : V → V) (k : K) :
    (t.update selected change).find? k =
      (t.find? k).map (fun v => if selected k v then change v else v) := by
  obtain ⟨rows, unique⟩ := t
  simp only [find?, update]
  clear unique
  induction rows with
  | nil => rfl
  | cons row rest ih =>
    by_cases here : row.1 = k
    · simp [here]
    · simp only [List.map_cons, List.find?_cons, here, decide_false]
      exact ih

/-- `DELETE ... WHERE selected`. -/
def delete (t : KeyedTable K V) (selected : K → V → Bool) : KeyedTable K V where
  rows := t.rows.filter (fun row => !selected row.1 row.2)
  unique := t.unique.sublist (List.filter_sublist.map _)

theorem find?_delete [DecidableEq K] (t : KeyedTable K V) (selected : K → V → Bool) (k : K) :
    (t.delete selected).find? k = (t.find? k).filter (fun v => !selected k v) := by
  obtain ⟨rows, unique⟩ := t
  simp only [find?, delete]
  induction rows with
  | nil => rfl
  | cons row rest ih =>
    obtain ⟨absent, unique⟩ := List.nodup_cons.mp unique
    by_cases here : row.1 = k
    · -- a deleted row has no second one with its key behind it
      have gone : (rest.filter fun row => !selected row.1 row.2).find?
          (fun row => row.1 = k) = none := by
        rw [List.find?_eq_none]
        intro other member same
        apply absent
        rw [here, ← of_decide_eq_true same]
        exact List.mem_map_of_mem (List.mem_of_mem_filter member)
      cases chosen : selected k row.2 <;> simp [here, chosen, gone, Option.filter]
    · have skipped : ∀ rows : List (K × V), (row :: rows).find? (fun row => row.1 = k) =
          rows.find? (fun row => row.1 = k) := fun rows => by simp [here]
      rw [skipped, ← ih unique, List.filter_cons]
      split
      · rw [skipped]
      · rfl

end KeyedTable
end LampMonitor
