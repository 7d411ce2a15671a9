import LampMonitor.Phonebook.Provider
import LampMonitor.Transition
import Mathlib.Logic.Function.Basic

/-! One provider shared by the threads of several phonebooks. Every phonebook
serialises its own requests only, so the steps of `isMatch` on the one matcher
interleave. A step is an access to the validity flag, a compilation, an
assignment to the string table, or an evaluation. -/
namespace LampMonitor.Phonebook.SharedProvider
open Match Transition

/-- `record` stands before `isMatch` on the next record; the later points lie
inside it. `compiled` has still to write the flag and `written` to read it. -/
inductive Pc where
  | idle
  | record
  | compile
  | compiled (ok : Bool)
  | written
  | assign (keys : List String)

def Pc.Inside : Pc → Prop
  | .idle | .record => False
  | _ => True

structure Thread where
  calls : List (List Document)
  /-- What the current call has still to look at, and its list so far. -/
  records : List Document
  data : List CallerIDDetails
  pc : Pc
  returned : List (List CallerIDDetails)

structure State (ι : Type) where
  matcher : JSONExpressionMatcher
  threads : ι → Thread

section Runs
variable {ι : Type} [DecidableEq ι]

def State.set (s : State ι) (i : ι) (matcher : JSONExpressionMatcher) (thread : Thread) : State ι :=
  ⟨matcher, Function.update s.threads i thread⟩

/-- `isMatch` returns for the first of the records. -/
def Thread.finish (thread : Thread) (matched : Bool) : Thread :=
  match thread.records with
  | [] => thread
  | record :: rest => { thread with records := rest, data := thread.data ++ entry matched record, pc := .record }

variable [ExpressionInterface]

def State.step (s : State ι) (i : ι) : Option (State ι) :=
  let thread := s.threads i
  let m := s.matcher
  let evaluate : Thread := { thread with pc := .assign (ExpressionInterface.iterate m.tables.stringTable.keys) }
  match thread.pc, thread.records with
  | .idle, _ =>
    match thread.calls with
    | [] => none
    | records :: rest => some (s.set i m { thread with calls := rest, records := records, data := [], pc := .record })
  | .record, [] => some (s.set i m { thread with pc := .idle, returned := thread.returned ++ [thread.data] })
  | .record, _ :: _ => some (s.set i m (if m.isValidAst then evaluate else { thread with pc := .compile }))
  | _, [] => none
  | .compile, record :: _ => some (s.set i (m.parse record).1 { thread with pc := .compiled (m.parse record).2 })
  | .compiled ok, _ => some (s.set i (m.setValid ok) { thread with pc := .written })
  | .written, _ => some (s.set i m (if m.isValidAst then evaluate else thread.finish false))
  | .assign [], _ => some (s.set i m (thread.finish m.eval))
  | .assign (key :: keys), record :: _ =>
    match m.assign record key with
    | none => some (s.set i m (thread.finish false))
    | some assigned => some (s.set i assigned { thread with pc := .assign keys })

def machine : Machine (State ι) ι where
  step := State.step

omit [DecidableEq ι] [ExpressionInterface] in
def start (match_ : String) (map : SymbolMap) (calls : ι → List (List Document)) : State ι where
  matcher := .new match_ map
  threads i := ⟨calls i, [], [], .idle, []⟩

/-- Every request that has returned got what it would have got alone: the caller
IDs of the records that match on their own values. -/
def Undisturbed (match_ : String) (map : SymbolMap) (calls : ι → List (List Document)) (s : State ι) : Prop :=
  ∀ i, (s.threads i).returned = ((calls i).take (s.threads i).returned.length).map (alone match_ map)

/-- A thread enters `isMatch` when no other thread is inside. -/
def Exclusive (s : State ι) (i : ι) : Prop :=
  (s.threads i).pc = .record → (s.threads i).records ≠ [] → ∀ j, j ≠ i → ¬ (s.threads j).pc.Inside

section Invariant
variable {match_ : String} {map : SymbolMap}

/-- What the rest of `isMatch` does from this point when nobody interferes. -/
def conclude (m : JSONExpressionMatcher) (record : Document) : Pc → JSONExpressionMatcher × Bool
  | .compile => m.compile record
  | .compiled ok => if ok then (m.setValid ok).evaluate record else (m.setValid ok, false)
  | .written => if m.isValidAst then m.evaluate record else (m, false)
  | .assign keys => m.evaluateFrom record keys
  | _ => (m, false)

/-- The rest of `isMatch` ends in a sound matcher and the right answer. -/
def Sound (match_ : String) (map : SymbolMap) (m : JSONExpressionMatcher) (record : Document) (pc : Pc) : Prop :=
  Ready match_ map (conclude m record pc).1 ∧ (conclude m record pc).2 = accepts match_ map record

/-- The calls that were served, the current one, and those to come. -/
def Progress (match_ : String) (map : SymbolMap) (calls : List (List Document)) (thread : Thread) : Prop :=
  ∃ served, thread.returned = served.map (listing match_ map) ∧
    (thread.pc = .idle → calls = served ++ thread.calls) ∧
    (thread.pc ≠ .idle → ∃ seen, calls = served ++ (seen ++ thread.records) :: thread.calls ∧
      thread.data = listing match_ map seen)

structure Inv (match_ : String) (map : SymbolMap) (calls : ι → List (List Document)) (s : State ι) : Prop where
  progress : ∀ i, Progress match_ map (calls i) (s.threads i)
  ready : (∀ i, ¬ (s.threads i).pc.Inside) → Ready match_ map s.matcher
  sound : ∀ i, (s.threads i).pc.Inside → (∀ j, j ≠ i → ¬ (s.threads j).pc.Inside) ∧
    ∃ record rest, (s.threads i).records = record :: rest ∧ Sound match_ map s.matcher record (s.threads i).pc

variable {calls : ι → List (List Document)} {s t : State ι} {i : ι}

omit [ExpressionInterface] in
theorem threads_set (s : State ι) (i j : ι) (m : JSONExpressionMatcher) (thread : Thread) :
    (s.set i m thread).threads j = if j = i then thread else s.threads j := by
  by_cases here : j = i
  · subst j
    simp [State.set]
  · simp [State.set, here]

theorem progress_set (held : ∀ j, Progress match_ map (calls j) (s.threads j))
    (m : JSONExpressionMatcher) (progress : Progress match_ map (calls i) thread) (j : ι) :
    Progress match_ map (calls j) ((s.set i m thread).threads j) := by
  rw [threads_set]
  split
  · subst j
    exact progress
  · exact held j

/-- The thread goes on inside `isMatch`, alone. -/
theorem Inv.stay (held : Inv match_ map calls s) (others : ∀ j, j ≠ i → ¬ (s.threads j).pc.Inside)
    (busy : (s.threads i).pc ≠ .idle) (records : (s.threads i).records = record :: rest) (pc : Pc)
    (inside : pc.Inside) (sound : Sound match_ map m record pc) :
    Inv match_ map calls (s.set i m { s.threads i with pc := pc }) where
  progress := by
    apply progress_set held.progress
    obtain ⟨served, returned, _, current⟩ := held.progress i
    refine ⟨served, returned, ?_, fun _ => current busy⟩
    rintro rfl
    exact inside.elim
  ready := by
    intro outside
    have absurd_inside := outside i
    rw [threads_set, if_pos rfl] at absurd_inside
    exact absurd inside absurd_inside
  sound := by
    intro j here
    rw [threads_set] at here
    split at here
    · subst j
      rw [threads_set, if_pos rfl]
      refine ⟨fun j other => ?_, record, rest, records, sound⟩
      rw [threads_set, if_neg other]
      exact others j other
    · rename_i other
      exact absurd here (others j other)

/-- The thread leaves `isMatch` or never was inside; the matcher is sound again. -/
theorem Inv.leave (held : Inv match_ map calls s) (others : ∀ j, j ≠ i → ¬ (s.threads j).pc.Inside)
    (outside : ¬ thread.pc.Inside) (ready : Ready match_ map m)
    (progress : Progress match_ map (calls i) thread) :
    Inv match_ map calls (s.set i m thread) where
  progress := progress_set held.progress _ progress
  ready := fun _ => ready
  sound := by
    intro j here
    rw [threads_set] at here
    split at here
    · exact absurd here outside
    · rename_i other
      exact absurd here (others j other)

/-- A thread outside `isMatch` stays outside. -/
theorem Inv.apart (held : Inv match_ map calls s) (before : ¬ (s.threads i).pc.Inside)
    (after : ¬ thread.pc.Inside) (progress : Progress match_ map (calls i) thread) :
    Inv match_ map calls (s.set i s.matcher thread) where
  progress := progress_set held.progress _ progress
  ready := by
    intro outside
    apply held.ready
    intro j
    have here := outside j
    rw [threads_set] at here
    split at here
    · subst j
      exact before
    · exact here
  sound := by
    intro j here
    rw [threads_set] at here ⊢
    split at here
    · exact absurd here after
    · rename_i other
      rw [if_neg other]
      obtain ⟨others, rest⟩ := held.sound j here
      refine ⟨fun k different => ?_, rest⟩
      rw [threads_set]
      split
      · exact after
      · exact others k different

theorem progress_finish {calls : List (List Document)} (held : Progress match_ map calls thread)
    (busy : thread.pc ≠ .idle) (records : thread.records = record :: rest) :
    Progress match_ map calls (thread.finish (accepts match_ map record)) := by
  obtain ⟨served, returned, _, current⟩ := held
  obtain ⟨seen, split, data⟩ := current busy
  simp only [Thread.finish, records]
  refine ⟨served, returned, nofun, fun _ => ⟨seen ++ [record], ?_, ?_⟩⟩
  · simp [split, records]
  · simp [data, listing_append, listing_singleton]

omit [ExpressionInterface] in
theorem finish_outside {thread : Thread} (records : thread.records = record :: rest)
    (matched : Bool) :
    ¬ (thread.finish matched).pc.Inside := by
  simp [Thread.finish, records, Pc.Inside]

/-- One step inside `isMatch`: either it goes on to the same end, or this is it. -/
theorem inv_inside (held : Inv match_ map calls s) (inside : (s.threads i).pc.Inside)
    (stepped : s.step i = some t) : Inv match_ map calls t := by
  obtain ⟨others, record, rest, records, sound⟩ := held.sound i inside
  have busy : (s.threads i).pc ≠ .idle := by
    intro idle
    rw [idle] at inside
    exact inside
  have leave : ∀ {m matched}, Ready match_ map m → matched = accepts match_ map record →
      Inv match_ map calls (s.set i m ((s.threads i).finish matched)) := by
    rintro m matched ready rfl
    exact held.leave others (finish_outside records _) ready
      (progress_finish (held.progress i) busy records)
  have stay : ∀ {m} (pc : Pc), pc.Inside → Sound match_ map m record pc →
      Inv match_ map calls
        (s.set i m { s.threads i with records := record :: rest, pc := pc }) := by
    intro m pc after sound
    simpa only [records] using held.stay others busy records pc after sound
  simp only [State.step, records] at stepped
  cases pc : (s.threads i).pc with
  | idle | record =>
    rw [pc] at inside
    exact inside.elim
  | compile =>
    simp only [pc, Option.some.injEq] at stepped sound
    subst t
    apply stay (.compiled _) trivial
    simp only [Sound, conclude, JSONExpressionMatcher.compile] at sound ⊢
    cases ok : (s.matcher.parse record).2 <;> simpa [ok] using sound
  | compiled ok =>
    simp only [pc, Option.some.injEq] at stepped sound
    subst t
    apply stay .written trivial
    cases ok <;> exact sound
  | written =>
    simp only [pc, Option.some.injEq] at stepped sound
    subst t
    simp only [Sound, conclude] at sound
    cases valid : s.matcher.isValidAst with
    | true =>
      simp only [valid, if_true] at sound ⊢
      exact stay (.assign _) trivial sound
    | false =>
      simp only [valid, Bool.false_eq_true, if_false] at sound ⊢
      exact leave sound.1 sound.2
  | assign keys =>
    cases keys with
    | nil =>
      simp only [pc, Option.some.injEq] at stepped sound
      subst t
      exact leave sound.1 sound.2
    | cons key keys =>
      simp only [pc] at stepped sound
      simp only [Sound, conclude, JSONExpressionMatcher.evaluateFrom] at sound
      cases assigned : s.matcher.assign record key with
      | none =>
        simp only [assigned, Option.some.injEq] at stepped sound
        subst t
        exact leave sound.1 sound.2
      | some m =>
        simp only [assigned, Option.some.injEq] at stepped sound
        subst t
        exact stay (.assign keys) trivial sound

theorem inv_step (held : Inv match_ map calls s) (exclusive : Exclusive s i)
    (stepped : machine.step s i = some t) :
    Inv match_ map calls t := by
  by_cases inside : (s.threads i).pc.Inside
  · exact inv_inside held inside stepped
  · simp only [machine, State.step] at stepped
    obtain ⟨served, returned, waiting, current⟩ := held.progress i
    cases pc : (s.threads i).pc with
    | idle =>
      simp only [pc] at stepped
      split at stepped
      · contradiction
      · rename_i records rest calls
        cases Option.some.inj stepped
        refine held.apart inside id ⟨served, returned, nofun, fun _ => ⟨[], ?_, rfl⟩⟩
        rw [waiting pc, calls]
        rfl
    | record =>
      obtain ⟨seen, split, data⟩ := current (by simp [pc])
      cases records : (s.threads i).records with
      | nil =>
        simp only [pc, records, Option.some.injEq] at stepped
        subst t
        refine held.apart inside id ⟨served ++ [seen], ?_, fun _ => ?_, nofun⟩
        · simp [returned, data]
        · simpa [records] using split
      | cons record rest =>
        simp only [pc, records, Option.some.injEq] at stepped
        subst t
        have others := exclusive pc (by simp [records])
        have ready : Ready match_ map s.matcher := by
          apply held.ready
          intro j
          by_cases here : j = i
          · exact here ▸ inside
          · exact others j here
        have sound := ready.isMatch record
        simp only [JSONExpressionMatcher.isMatch] at sound
        have stay : ∀ (pc' : Pc), pc'.Inside → Sound match_ map s.matcher record pc' →
            Inv match_ map calls
              (s.set i s.matcher { s.threads i with records := record :: rest, pc := pc' }) := by
          intro pc' after sound
          simpa only [records] using held.stay others (by simp [pc]) records pc' after sound
        cases valid : s.matcher.isValidAst with
        | true =>
          simp only [valid, if_true] at sound ⊢
          exact stay (.assign _) trivial sound
        | false =>
          simp only [valid, Bool.false_eq_true, if_false] at sound ⊢
          exact stay .compile trivial sound
    | compile | compiled | written | assign =>
      rw [pc] at inside
      exact absurd trivial inside

omit [DecidableEq ι] in
theorem inv_start (match_ : String) (map : SymbolMap) (calls : ι → List (List Document)) :
    Inv match_ map calls (start match_ map calls) where
  progress _ := ⟨[], rfl, fun _ => rfl, nofun⟩
  ready _ := ready_new match_ map
  sound _ inside := inside.elim

end Invariant

/-- Requests that enter the matcher one at a time do not disturb each other, in
whatever order their records alternate. -/
theorem undisturbed_of_exclusive (match_ : String) (map : SymbolMap) (calls : ι → List (List Document))
    (exclusive : machine.Meets Exclusive (start match_ map calls) ls)
    (reached : machine.run (start match_ map calls) ls = some t) :
    Undisturbed match_ map calls t ∧ ∀ records, alone match_ map records = listing match_ map records := by
  have held : Inv match_ map calls t :=
    Machine.run_invariant_meets (P := Inv match_ map calls) inv_step
      exclusive reached (inv_start match_ map calls)
  refine ⟨fun i => ?_, alone_eq match_ map⟩
  obtain ⟨served, returned, waiting, current⟩ := held.progress i
  have front : served <+: calls i := by
    by_cases idle : (t.threads i).pc = .idle
    · rw [waiting idle]
      exact List.prefix_append _ _
    · obtain ⟨seen, split, _⟩ := current idle
      rw [split]
      exact List.prefix_append _ _
  have count : (t.threads i).returned.length = served.length := by rw [returned, List.length_map]
  rw [count, ← List.prefix_iff_eq_take.mp front, returned]
  exact List.map_congr_left fun records _ => (alone_eq match_ map records).symm

end Runs

section MixedTable

local instance : ExpressionInterface := singleExpression

def ann : Document := ⟨[("ec", "no"), ("endpoint/callerid", "\"Ann\" <100>")]⟩

def bob : Document := ⟨[("ec", "yes"), ("endpoint/callerid", "\"Bob\" <200>")]⟩

def requests (second : Bool) : List (List Document) := if second then [[bob]] else [[ann]]

/-- The first request assigns its value, the second one replaces it, and then the
first evaluates: a record that does not match is returned. -/
theorem mixed_table_disturbs : ∃ t, machine.run (start "ec == 'yes'" ⟨[]⟩ requests)
    [false, false, false, false, false, false, true, true, true, false, false] = some t ∧
    ¬ Undisturbed "ec == 'yes'" ⟨[]⟩ requests t := by
  refine ⟨_, rfl, fun undisturbed => ?_⟩
  have first := undisturbed false
  exact absurd first (by decide)

/-- The same two requests; the second enters the matcher between two records of
the first. -/
theorem undisturbed_of_exclusive_alternating : ∃ t, machine.run (start "ec == 'yes'" ⟨[]⟩ requests)
    [false, false, false, false, false, false, false, true, true, true, true, false, true] = some t ∧
    Undisturbed "ec == 'yes'" ⟨[]⟩ requests t := by
  have exclusive : machine.Meets Exclusive (start "ec == 'yes'" ⟨[]⟩ requests)
      [false, false, false, false, false, false, false, true, true, true, true, false, true] := by
    refine .cons ?_ rfl
      (.cons ?_ rfl (.cons ?_ rfl (.cons ?_ rfl (.cons ?_ rfl (.cons ?_ rfl (.cons ?_ rfl
      (.cons ?_ rfl (.cons ?_ rfl (.cons ?_ rfl (.cons ?_ rfl (.cons ?_ rfl (.cons ?_ rfl trivial))))))))))))
    all_goals
      intro pc left j other inside
      cases j
      all_goals first | exact other rfl | exact inside
  exact ⟨_, rfl, (undisturbed_of_exclusive "ec == 'yes'" ⟨[]⟩ requests exclusive rfl).1⟩

end MixedTable
end LampMonitor.Phonebook.SharedProvider
