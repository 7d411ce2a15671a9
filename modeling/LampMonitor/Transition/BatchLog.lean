import LampMonitor.Transition

/-! A log whose entries are published one batch at a time. Producers append to
a queue, `cut` closes the queue into a batch, `publish` applies the oldest
closed batch as a whole. The published value, the operations and their meaning
are arbitrary; what has been published is a function of the labels alone. -/
namespace LampMonitor.Transition.BatchLog
variable {T Op : Type}

structure State (T Op : Type) where
  published : T
  batches : List (List Op)
  queue : List Op

inductive Label (Op : Type) where
  | enqueue (op : Op)
  | cut
  | publish

def machine (effect : T → Op → T) : Machine (State T Op) (Label Op) where
  step s
    | .enqueue op => some { s with queue := s.queue ++ [op] }
    | .cut => some { s with batches := s.batches ++ [s.queue], queue := [] }
    | .publish =>
      match s.batches with
      | [] => none
      | batch :: rest => some { s with published := batch.foldl effect s.published, batches := rest }

def start (value : T) : State T Op := ⟨value, [], []⟩

def enqueued (ls : List (Label Op)) : List Op :=
  ls.filterMap fun
    | .enqueue op => some op
    | _ => none

/-- The closed batches and the open one, read off the labels. -/
def cuts (ls : List (Label Op)) : List (List Op) × List Op :=
  ls.foldl (fun (closed, opened) l =>
    match l with
    | .enqueue op => (closed, opened ++ [op])
    | .cut => (closed ++ [opened], [])
    | .publish => (closed, opened)) ([], [])

def publishes (ls : List (Label Op)) : Nat :=
  ls.countP fun
    | .publish => true
    | _ => false

/-- The operations of all published batches, in the order they were enqueued. -/
def publishedOps (ls : List (Label Op)) : List Op :=
  ((cuts ls).1.take (publishes ls)).flatten

theorem enqueued_append (ls ls' : List (Label Op)) :
    enqueued (ls ++ ls') = enqueued ls ++ enqueued ls' :=
  List.filterMap_append

theorem cuts_snoc (ls : List (Label Op)) (l : Label Op) :
    cuts (ls ++ [l]) = match l with
      | .enqueue op => ((cuts ls).1, (cuts ls).2 ++ [op])
      | .cut => ((cuts ls).1 ++ [(cuts ls).2], [])
      | .publish => cuts ls := by
  simp only [cuts, List.foldl_append, List.foldl_cons, List.foldl_nil]

theorem publishes_snoc (ls : List (Label Op)) (l : Label Op) :
    publishes (ls ++ [l]) = match l with
      | .publish => publishes ls + 1
      | _ => publishes ls := by
  cases l <;> simp [publishes, List.countP_append]

/-- No operation is lost or duplicated by cutting. -/
theorem cuts_flatten (ls : List (Label Op)) : (cuts ls).1.flatten ++ (cuts ls).2 = enqueued ls := by
  induction ls using List.reverseRecOn with
  | nil => rfl
  | append_singleton ls l ih =>
    rw [cuts_snoc, enqueued_append, ← ih]
    cases l <;> simp [enqueued]

theorem cuts_prefix (ls ls' : List (Label Op)) : (cuts ls).1 <+: (cuts (ls ++ ls')).1 := by
  induction ls' using List.reverseRecOn with
  | nil => simp
  | append_singleton ls' l ih =>
    rw [← List.append_assoc, cuts_snoc]
    cases l with
    | cut => exact ih.trans (List.prefix_append _ _)
    | enqueue | publish => exact ih

theorem publishedOps_prefix (ls : List (Label Op)) : publishedOps ls <+: enqueued ls := by
  rw [← cuts_flatten]
  obtain ⟨rest, split⟩ := List.take_prefix (publishes ls) (cuts ls).1
  refine ⟨rest.flatten ++ (cuts ls).2, ?_⟩
  rw [publishedOps, ← List.append_assoc, ← List.flatten_append, split]

/-- Every component of a reachable state is determined by the labels. -/
theorem run_start (effect : T → Op → T) (reached : (machine effect).run (start value) ls = some s) :
    publishes ls ≤ (cuts ls).1.length ∧ s.queue = (cuts ls).2 ∧
    s.batches = (cuts ls).1.drop (publishes ls) ∧
    s.published = (publishedOps ls).foldl effect value := by
  refine Machine.trace_invariant (C := fun _ _ => True)
    (P := fun ls s => publishes ls ≤ (cuts ls).1.length ∧ s.queue = (cuts ls).2 ∧
      s.batches = (cuts ls).1.drop (publishes ls) ∧
        s.published = (publishedOps ls).foldl effect value)
    ⟨Nat.zero_le _, rfl, rfl, rfl⟩ ?_ (Machine.Meets.of_labels (fun _ _ => trivial)) reached
  rintro ls t l u ⟨bound, queue, batches, published⟩ - stepped
  cases l with
  | enqueue op =>
    cases Option.some.inj stepped
    simp only [cuts_snoc, publishes_snoc, publishedOps]
    exact ⟨bound, by rw [queue], batches, published⟩
  | cut =>
    cases Option.some.inj stepped
    simp only [cuts_snoc, publishes_snoc, publishedOps, List.length_append, List.length_singleton,
      List.drop_append_of_le_length bound, List.take_append_of_le_length bound]
    exact ⟨by omega, trivial, by rw [batches, queue], published⟩
  | publish =>
    cases oldest : t.batches with
    | nil => simp only [machine, oldest] at stepped; contradiction
    | cons batch rest =>
      simp only [machine, oldest, Option.some.injEq] at stepped
      subst u
      rw [oldest] at batches
      have inside : publishes ls < (cuts ls).1.length := by
        by_contra outside
        rw [List.drop_eq_nil_of_le (by omega)] at batches
        contradiction
      rw [List.drop_eq_getElem_cons inside, List.cons.injEq] at batches
      simp only [cuts_snoc, publishes_snoc, publishedOps]
      refine ⟨inside, queue, batches.2, ?_⟩
      rw [published, List.take_succ_eq_append_getElem inside, List.flatten_append,
        List.foldl_append, batches.1]
      simp [publishedOps]

/-- Publication only moves forward, and always by whole batches. -/
theorem publishedOps_mono (effect : T → Op → T) (ls' : List (Label Op))
    (reached : (machine effect).run (start value) ls = some s) :
    publishedOps ls <+: publishedOps (ls ++ ls') := by
  have bound := (run_start effect reached).1
  obtain ⟨later, split⟩ := cuts_prefix ls ls'
  have counts : publishes ls ≤ publishes (ls ++ ls') := by
    simp only [publishes, List.countP_append]
    omega
  have same : (cuts ls).1.take (publishes ls) = (cuts (ls ++ ls')).1.take (publishes ls) := by
    rw [← split, List.take_append_of_le_length bound]
  obtain ⟨rest, extend⟩ := List.take_prefix_take_left (l := (cuts (ls ++ ls')).1) counts
  rw [publishedOps, publishedOps, same, ← extend, List.flatten_append]
  exact List.prefix_append _ _

/-- With no batch waiting, exactly the closed part of the log is published. -/
theorem published_drained (effect : T → Op → T)
    (reached : (machine effect).run (start value) ls = some s) (none_waiting : s.batches = []) :
    publishedOps ls ++ s.queue = enqueued ls := by
  obtain ⟨_, queue, batches, _⟩ := run_start effect reached
  have whole : (cuts ls).1.take (publishes ls) = (cuts ls).1 :=
    List.take_of_length_le (List.drop_eq_nil_iff.mp (batches.symm.trans none_waiting))
  rw [publishedOps, whole, queue, cuts_flatten]

end LampMonitor.Transition.BatchLog
