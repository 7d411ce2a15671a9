import LampMonitor.ButtonState.Interleaving

/-! When lamp updates stay current. Rendering, caching and sending of one plan
overlap because `invalidate` shares `phone_uis_mut_`. A run in which they do not
overlap settles on the final buttons; two overlapping updates need not. -/
namespace LampMonitor.ButtonState.Interleaving
open Ami Bridge Transition

section Messages

theorem lastTo_append (sent : List PJSIPNotify) (m : PJSIPNotify) (aor : String) :
    lastTo (sent ++ [m]) aor = if m.endpoint = aor then some m else lastTo sent aor := by
  simp only [lastTo, List.filter_append, List.filter_singleton]
  by_cases here : m.endpoint = aor <;> simp [here]

variable [LibraryInterface]

theorem Carries.append (held : Carries sent aor state) (other : String) :
    Carries (sent ++ [⟨other, state.values⟩]) aor state := by
  intro m last
  rw [lastTo_append] at last
  split at last
  · rename_i here
    cases Option.some.inj last
    obtain rfl : other = aor := here
    rfl
  · exact held m last

theorem carries_last (sent : List PJSIPNotify) (aor : String) (state : PhoneUIState) :
    Carries (sent ++ [⟨aor, state.values⟩]) aor state := by
  intro m last
  rw [lastTo_append, if_pos rfl] at last
  cases Option.some.inj last
  rfl

end Messages

variable {ι : Type}

/-- The control points alone: the invariants never look at the remaining calls. -/
def State.pcs (s : State ι) (i : ι) : Pc := (s.threads i).pc

variable [DecidableEq ι]

@[simp] theorem pcs_move (s : State ι) (i : ι) (calls : List Call) (pc : Pc) :
    (s.move i calls pc).pcs = Function.update s.pcs i pc := by
  funext j
  by_cases here : j = i
  · subst j
    simp [State.pcs, State.move]
  · simp [State.pcs, State.move, here]

/-- Control points that neither update the UIs, wait to do so, nor hold a value
read from one. -/
def Pc.Neutral : Pc → Prop
  | .invalidate | .forEach _ | .invoke .. => False
  | _ => True

omit [DecidableEq ι] in
theorem neutral_pc {s : State ι} {pc : Pc} (here : (s.threads i).pc = pc) (neutral : pc.Neutral) :
    (s.pcs i).Neutral := by
  rw [State.pcs, here]
  exact neutral

section Runs
variable [LibraryInterface]

/-- Everything one step can do to the buttons, the UIs, the readers and the
messages. -/
inductive Effect (s : State ι) : Label ι → State ι → Prop where
  | switch (pc : s.pcs i = .idle) (plan : ButtonPlan) (rest : List Call) :
      Effect s (.step i) ({ s with plan := plan }.move i rest .invalidate)
  | acquire (pc : s.pcs i = .invalidate) (calls : List Call) :
      Effect s (.step i) ({ s with readers := i :: s.readers }.move i calls
        (.forEach (s.plan.phoneUis.map fun _ => .read 0 [] false)))
  | release (pc : s.pcs i = .forEach tasks) (done : tasks.all Task.isDone = true) (calls : List Call) :
      Effect s (.step i) ({ s with readers := s.readers.erase i }.move i calls .idle)
  | load (pc : s.pcs i = .load newAor aor u uis) (found : s.plan.phoneUis[u]? = some ui) (calls : List Call) :
      Effect s (.step i) (s.move i calls (.invoke newAor aor ui.initializeAction uis))
  | invoke (pc : s.pcs i = .invoke newAor aor values uis) (calls : List Call) :
      Effect s (.step i) ({ s with sent := s.sent ++ [PJSIPNotify.mk aor values] }.move i calls (.publish newAor aor uis))
  | neutral (before : (s.pcs i).Neutral) (next : Pc) (after : next.Neutral) (calls : List Call)
      (owner writer : Option ι) :
      Effect s (.step i) ({ s with buttonPlansMut := owner, writer := writer }.move i calls next)
  | task (pc : s.pcs i = .forEach tasks) (found : tasks[u]? = some task)
      (advanced : advanceTask s.plan s.sent u task = some (plan, sent, next)) (calls : List Call) :
      Effect s (.task i u) ({ s with plan := plan, sent := sent }.move i calls (.forEach (tasks.set u next)))

theorem step_effect (stepped : machine.step s l = some t) : Effect (ι := ι) s l t := by
  cases l with
  | task i u =>
    simp only [machine, State.task] at stepped
    split at stepped
    · rename_i tasks pc
      simp only [Option.bind_eq_bind, Option.bind_eq_some_iff, Option.pure_def,
        Option.some.injEq] at stepped
      obtain ⟨task, found, ⟨plan, sent, next⟩, advanced, rfl⟩ := stepped
      exact .task pc found advanced _
    · contradiction
  | step i =>
    simp only [machine, State.step] at stepped
    split at stepped
    · rename_i pc
      have neutral : (s.pcs i).Neutral := neutral_pc pc trivial
      split at stepped
      · contradiction
      · rename_i id on rest calls
        split at stepped
        · contradiction
        · rename_i button found
          cases Option.some.inj stepped
          by_cases flips : on ≠ button.isOn
          · rw [if_pos flips]
            exact .switch pc _ rest
          · rw [if_neg flips, not_ne_iff.mp flips, exchange_self found]
            exact .neutral neutral .idle trivial rest s.buttonPlansMut s.writer
      · rename_i newAor aor rest calls
        split at stepped
        · cases Option.some.inj stepped
          exact .neutral neutral (.collect newAor aor) trivial rest (some i) s.writer
        · contradiction
    · rename_i pc
      split at stepped
      · cases Option.some.inj stepped
        exact .acquire pc _
      · contradiction
    · rename_i tasks pc
      split at stepped
      · rename_i done
        cases Option.some.inj stepped
        exact .release pc done _
      · contradiction
    · rename_i newAor aor pc
      split at stepped
      · cases Option.some.inj stepped
        exact .neutral (neutral_pc pc trivial) (.collected newAor aor _)
          trivial _ s.buttonPlansMut (some i)
      · contradiction
    · rename_i newAor aor uis pc
      cases Option.some.inj stepped
      exact .neutral (neutral_pc pc trivial) (.publish newAor aor uis)
        trivial _ s.buttonPlansMut none
    · rename_i pc
      cases Option.some.inj stepped
      exact .neutral (neutral_pc pc trivial) .idle trivial _ none s.writer
    · rename_i newAor aor u uis pc
      obtain ⟨ui, found, rfl⟩ := Option.map_eq_some_iff.mp stepped
      refine .neutral (neutral_pc pc trivial) _ ?_ _ s.buttonPlansMut s.writer
      split <;> trivial
    · rename_i newAor aor u uis pc
      obtain ⟨ui, found, rfl⟩ := Option.map_eq_some_iff.mp stepped
      exact .load pc found _
    · rename_i newAor aor values uis pc
      cases Option.some.inj stepped
      exact .invoke pc _

section Invariant

/-- A task that started after the last switch agrees with the buttons. -/
def TaskOk (buttons : List PhoneButton) (sent : List PJSIPNotify) (ui : PhoneUI) : Task → Prop
  | .read k items critical =>
    items = (buttons.take k).map executeItem ∧ critical = (buttons.take k).any PhoneButton.isCritical
  | .readCritical k items critical =>
    items = (buttons.take (k + 1)).map executeItem ∧ critical = (buttons.take k).any PhoneButton.isCritical
  | .store state => state = render buttons
  | .load => ui.cachedButtonState = render buttons
  | .send values todo => ui.cachedButtonState = render buttons ∧ values = (render buttons).values ∧
      ∀ aor ∈ ui.compatibleAors, aor ∉ todo → Carries sent aor (render buttons)

def Consistent (plan : ButtonPlan) (sent : List PJSIPNotify) : Pc → Prop
  | .forEach tasks => tasks.length = plan.phoneUis.length ∧ ∀ (u : Nat) (ui : PhoneUI) (task : Task),
      plan.phoneUis[u]? = some ui → tasks[u]? = some task → TaskOk plan.buttons sent ui task
  | .invoke _ _ values _ => values = (render plan.buttons).values
  | _ => True

def NonePending (pcs : ι → Pc) : Prop := ∀ i, pcs i ≠ .invalidate

/-- At most one thread is inside `invalidate`, and unless a switched button still
waits for its round, everything under way or done agrees with the buttons. -/
structure Inv (plan : ButtonPlan) (readers : List ι) (sent : List PJSIPNotify) (pcs : ι → Pc) : Prop where
  inside : ∀ i, i ∈ readers ↔ ∃ tasks, pcs i = .forEach tasks
  alone : readers.length ≤ 1
  consistent : NonePending pcs → ∀ i, Consistent plan sent (pcs i)
  settled : NonePending pcs → readers = [] → Settled plan sent

/-- What the sent messages may gain: one more that shows the buttons as they are. -/
def Extends (plan : ButtonPlan) (sent sent' : List PJSIPNotify) : Prop :=
  sent' = sent ∨ ∃ aor, sent' = sent ++ [⟨aor, (render plan.buttons).values⟩]

theorem Extends.carries (extended : Extends plan sent sent')
    (held : Carries sent aor (render plan.buttons)) : Carries sent' aor (render plan.buttons) := by
  obtain rfl | ⟨other, rfl⟩ := extended
  · exact held
  · exact held.append other

theorem Extends.settled (extended : Extends plan sent sent') (held : Settled plan sent) :
    Settled plan sent' := by
  intro ui member
  obtain ⟨cached, carried⟩ := held ui member
  exact ⟨cached, fun aor compatible => extended.carries (carried aor compatible)⟩

theorem Extends.taskOk (extended : Extends plan sent sent')
    (held : TaskOk plan.buttons sent ui task) :
    TaskOk plan.buttons sent' ui task := by
  cases task with
  | read | readCritical | store | load => exact held
  | send values todo =>
    obtain ⟨cached, rfl, carried⟩ := held
    exact ⟨cached, rfl,
      fun aor compatible reached => extended.carries (carried aor compatible reached)⟩

theorem Extends.consistent (extended : Extends plan sent sent') (held : Consistent plan sent pc) :
    Consistent plan sent' pc := by
  cases pc with
  | forEach tasks =>
    obtain ⟨length, each⟩ := held
    exact ⟨length, fun u ui task here found => extended.taskOk (each u ui task here found)⟩
  | invoke => exact held
  | _ => trivial

theorem read_step (here : buttons[k]? = some button)
    (ok : TaskOk buttons sent ui (.read k items critical)) :
    TaskOk buttons sent ui (.readCritical k (items ++ [executeItem button]) critical) := by
  obtain ⟨rfl, rfl⟩ := ok
  refine ⟨?_, rfl⟩
  rw [List.take_add_one, here, Option.toList_some, List.map_append, List.map_singleton]

theorem readCritical_step (here : buttons[k]? = some button)
    (ok : TaskOk buttons sent ui (.readCritical k items critical)) :
    TaskOk buttons sent ui (.read (k + 1) items (critical || button.isCritical)) := by
  obtain ⟨rfl, rfl⟩ := ok
  refine ⟨rfl, ?_⟩
  rw [List.take_add_one, here, Option.toList_some, List.any_append]
  simp

theorem read_end (past : buttons[k]? = none)
    (ok : TaskOk buttons sent ui (.read k items critical)) :
    TaskOk buttons sent ui (.store ⟨executeDocument items critical, critical⟩) := by
  obtain ⟨rfl, rfl⟩ := ok
  have whole : buttons.take k = buttons :=
    List.take_of_length_le (List.getElem?_eq_none_iff.mp past)
  simp only [TaskOk, whole, render_eq]

/-- A step of one task touches its own UI and keeps the task in agreement. -/
theorem advanceTask_ok {plan : ButtonPlan} (here : plan.phoneUis[u]? = some ui)
    (ok : TaskOk plan.buttons sent ui task)
    (advanced : advanceTask plan sent u task = some (plan', sent', next)) :
    plan'.buttons = plan.buttons ∧ plan'.phoneUis.length = plan.phoneUis.length ∧
    Extends plan sent sent' ∧
    (∀ v, v ≠ u → plan'.phoneUis[v]? = plan.phoneUis[v]?) ∧
    ∀ ui', plan'.phoneUis[u]? = some ui' → TaskOk plan.buttons sent' ui' next := by
  have same : ∀ {next' : Task}, TaskOk plan.buttons sent ui next' →
      ∀ ui', plan.phoneUis[u]? = some ui' → TaskOk plan.buttons sent ui' next' := by
    intro next' held ui' found
    cases Option.some.inj (here.symm.trans found)
    exact held
  cases task with
  | read k items critical =>
    simp only [advanceTask] at advanced
    split at advanced
    · rename_i button found
      cases Option.some.inj advanced
      exact ⟨rfl, rfl, .inl rfl, fun _ _ => rfl, same (read_step found ok)⟩
    · rename_i past
      cases Option.some.inj advanced
      exact ⟨rfl, rfl, .inl rfl, fun _ _ => rfl, same (read_end past ok)⟩
  | readCritical k items critical =>
    obtain ⟨button, found, equal⟩ := Option.map_eq_some_iff.mp advanced
    cases equal
    exact ⟨rfl, rfl, .inl rfl, fun _ _ => rfl, same (readCritical_step found ok)⟩
  | store state =>
    cases Option.some.inj advanced
    refine ⟨rfl, List.length_modify _ _ _, .inl rfl, ?_, ?_⟩
    · intro v other
      simp [Ne.symm other]
    · intro ui' found
      simp only [List.getElem?_modify, if_pos, here, Option.map_eq_map, Option.map_some,
        Option.some.injEq] at found
      subst ui'
      exact ok
  | load =>
    obtain ⟨found, here', equal⟩ := Option.map_eq_some_iff.mp advanced
    cases Option.some.inj (here.symm.trans here')
    cases equal
    refine ⟨rfl, rfl, .inl rfl, fun _ _ => rfl, same ⟨ok, ?_, ?_⟩⟩
    · exact congrArg PhoneUIState.values ok
    · exact fun aor compatible missing => absurd compatible missing
  | send values todo =>
    cases todo with
    | nil => simp only [advanceTask, reduceCtorEq] at advanced
    | cons aor rest =>
      cases Option.some.inj advanced
      obtain ⟨cached, rfl, carried⟩ := ok
      refine ⟨rfl, rfl, .inr ⟨aor, rfl⟩, fun _ _ => rfl, ?_⟩
      intro ui' found
      cases Option.some.inj (here.symm.trans found)
      refine ⟨cached, rfl, fun other compatible reached => ?_⟩
      by_cases equal : other = aor
      · exact equal ▸ carries_last sent aor _
      · exact (carried other compatible (by simp [equal, reached])).append aor

variable {plan plan' : ButtonPlan} {readers readers' : List ι} {sent sent' : List PJSIPNotify} {pcs : ι → Pc} {i : ι} {next : Pc}

omit [LibraryInterface] in
theorem nonePending_update (before : pcs i ≠ .invalidate)
    (none : NonePending (Function.update pcs i next)) :
    NonePending pcs := by
  intro j
  by_cases here : j = i
  · exact here ▸ before
  · simpa [here] using none j

theorem consistent_update (others : ∀ j, j ≠ i → Consistent plan sent (pcs j))
    (here : Consistent plan sent next) (j : ι) :
    Consistent plan sent (Function.update pcs i next j) := by
  by_cases same : j = i
  · subst j
    simpa using here
  · simpa [same] using others j same

omit [LibraryInterface] in
theorem inside_update (inside : ∀ j, j ∈ readers ↔ ∃ tasks, pcs j = .forEach tasks)
    (others : ∀ j, j ≠ i → (j ∈ readers' ↔ j ∈ readers))
    (here : i ∈ readers' ↔ ∃ tasks, next = .forEach tasks) (j : ι) :
    j ∈ readers' ↔ ∃ tasks, Function.update pcs i next j = .forEach tasks := by
  by_cases same : j = i
  · subst j
    simpa using here
  · simpa [same] using (others j same).trans (inside j)

/-- Steps outside `invalidate`. -/
theorem Inv.outside (held : Inv plan readers sent pcs) (before : ∀ tasks, pcs i ≠ .forEach tasks)
    (waits : pcs i ≠ .invalidate) (after : ∀ tasks, next ≠ .forEach tasks)
    (extended : NonePending pcs → Extends plan sent sent')
    (ready : NonePending pcs → Consistent plan sent' next) :
    Inv plan readers sent' (Function.update pcs i next) where
  inside := by
    apply inside_update held.inside (fun _ _ => Iff.rfl)
    rw [held.inside]
    exact ⟨fun ⟨tasks, pc⟩ => absurd pc (before tasks), fun ⟨tasks, pc⟩ => absurd pc (after tasks)⟩
  alone := held.alone
  consistent := by
    intro none
    have was := nonePending_update waits none
    exact consistent_update
      (fun j _ => (extended was).consistent (held.consistent was j)) (ready was)
  settled := by
    intro none free
    have was := nonePending_update waits none
    exact (extended was).settled (held.settled was free)

theorem Inv.switch (held : Inv plan readers sent pcs) (before : ∀ tasks, pcs i ≠ .forEach tasks)
    (plan' : ButtonPlan) : Inv plan' readers sent (Function.update pcs i .invalidate) where
  inside := by
    apply inside_update held.inside (fun _ _ => Iff.rfl)
    rw [held.inside]
    exact ⟨fun ⟨tasks, pc⟩ => absurd pc (before tasks), fun ⟨tasks, pc⟩ => nomatch pc⟩
  alone := held.alone
  consistent := fun none => absurd (Function.update_self i _ pcs) (none i)
  settled := fun none => absurd (Function.update_self i _ pcs) (none i)

/-- A round that begins while nobody is inside and nobody holds a value to send. -/
theorem Inv.acquire (held : Inv plan [] sent pcs)
    (silent : ∀ j newAor aor values uis, pcs j ≠ .invoke newAor aor values uis) :
    Inv plan [i] sent
      (Function.update pcs i (.forEach (plan.phoneUis.map fun _ => .read 0 [] false))) where
  inside := by
    refine inside_update held.inside (fun j other => ?_) ?_
    · simp [other]
    · simp
  alone := by simp
  consistent := by
    intro none
    refine consistent_update (fun j other => ?_) ⟨by simp, ?_⟩
    · cases pc : pcs j with
      | forEach tasks => simpa using (held.inside j).mpr ⟨tasks, pc⟩
      | invoke newAor aor values uis => exact absurd pc (silent j newAor aor values uis)
      | _ => trivial
    · intro u ui task _ found
      rw [List.getElem?_map] at found
      obtain ⟨_, _, rfl⟩ := Option.map_eq_some_iff.mp found
      exact ⟨by simp, by simp⟩
  settled := by simp

omit [DecidableEq ι] in
theorem Inv.only (held : Inv plan readers sent pcs) (pc : pcs i = .forEach tasks) :
    readers = [i] := by
  have member := (held.inside i).mpr ⟨tasks, pc⟩
  have alone := held.alone
  match readers, member, alone with
  | [j], member, _ => rw [List.mem_singleton.mp member]

/-- A finished task leaves its UI and the messages to its AoRs settled. -/
theorem Inv.release (held : Inv plan readers sent pcs) (pc : pcs i = .forEach tasks)
    (done : tasks.all Task.isDone = true) :
    Inv plan (readers.erase i) sent (Function.update pcs i .idle) := by
  have only := held.only pc
  subst readers
  have was : NonePending (Function.update pcs i .idle) → NonePending pcs :=
    nonePending_update (by simp [pc])
  have settled : NonePending pcs → Settled plan sent := by
    intro none ui member
    have consistent := held.consistent none i
    rw [pc] at consistent
    obtain ⟨length, each⟩ := consistent
    obtain ⟨u, bound, here⟩ := List.mem_iff_getElem.mp member
    have found : tasks[u]? = some tasks[u] := List.getElem?_eq_getElem (length ▸ bound)
    have ended := List.all_eq_true.mp done _ (List.mem_of_getElem? found)
    have ok := each u ui _ (here ▸ List.getElem?_eq_getElem bound) found
    cases task : tasks[u] with
    | send values todo =>
      rw [task] at ok ended
      cases todo with
      | nil =>
        obtain ⟨cached, rfl, carried⟩ := ok
        exact ⟨cached, fun aor compatible => carried aor compatible List.not_mem_nil⟩
      | cons => contradiction
    | _ => simp [task, Task.isDone] at ended
  refine ⟨inside_update held.inside (fun j other => ?_)
    (by simp), by simp, ?_, fun none _ => settled (was none)⟩
  · simp [other]
  · exact fun none => consistent_update (fun j _ => held.consistent (was none) j) trivial

theorem Inv.advance {task next : Task} (held : Inv plan readers sent pcs)
    (pc : pcs i = .forEach tasks) (found : tasks[u]? = some task)
    (advanced : advanceTask plan sent u task = some (plan', sent', next)) :
    Inv plan' readers sent' (Function.update pcs i (.forEach (tasks.set u next))) := by
  have only := held.only pc
  subst readers
  refine ⟨inside_update held.inside (fun _ _ => Iff.rfl) (by simp), by simp, ?_, by simp⟩
  intro none
  have was : NonePending pcs := nonePending_update (by simp [pc]) none
  have mine := held.consistent was i
  rw [pc] at mine
  obtain ⟨length, each⟩ := mine
  have bound : u < plan.phoneUis.length := length ▸ (List.getElem?_eq_some_iff.mp found).1
  have here := List.getElem?_eq_getElem bound
  obtain ⟨buttons, count, extended, others, ok⟩ :=
    advanceTask_ok here (each u _ task here found) advanced
  refine consistent_update (fun j other => ?_) ⟨by simp [length, count], ?_⟩
  · cases other_pc : pcs j with
    | forEach tasks' =>
      have member := (held.inside j).mpr ⟨tasks', other_pc⟩
      exact absurd (List.mem_singleton.mp member) other
    | invoke newAor aor values uis =>
      have value := held.consistent was j
      rw [other_pc] at value
      simpa only [Consistent, buttons] using value
    | _ => trivial
  · intro v ui task' atV foundV
    rw [buttons]
    by_cases same : v = u
    · subst v
      rw [List.getElem?_set_self (length ▸ bound)] at foundV
      cases Option.some.inj foundV
      exact ok ui atV
    · rw [List.getElem?_set_ne (Ne.symm same)] at foundV
      exact extended.taskOk (each v ui task' (others v same ▸ atV) foundV)

end Invariant

/-- The round of a switched button starts when no other round is under way and no
notification waits to be enqueued; a UI to publish is read outside of rounds. -/
def Serialised (s : State ι) : Label ι → Prop
  | .step i =>
    match s.pcs i with
    | .invalidate => s.readers = [] ∧ ∀ j newAor aor values uis, s.pcs j ≠ .invoke newAor aor values uis
    | .load .. => s.readers = []
    | _ => True
  | .task _ _ => True

def Current (s : State ι) : Prop := Inv s.plan s.readers s.sent s.pcs

omit [DecidableEq ι] in
theorem current_start (plan : ButtonPlan) (calls : ι → List Call) : Current (start plan calls) where
  inside i := by simp [start, State.pcs]
  alone := by simp [start]
  consistent _ _ := trivial
  settled _ _ := by
    intro ui member
    obtain ⟨before, _, rfl⟩ := List.mem_map.mp member
    exact ⟨rfl, fun _ _ m last => by simp [start, lastTo] at last⟩

theorem current_step (held : Current s) (serial : Serialised s l)
    (stepped : machine.step s l = some t) :
    Current (ι := ι) t := by
  unfold Current at *
  cases step_effect stepped with
  | switch pc plan rest =>
    rw [pcs_move]
    exact held.switch (by simp [pc]) plan
  | acquire pc calls =>
    simp only [Serialised, pc] at serial
    obtain ⟨free, silent⟩ := serial
    rw [pcs_move]
    simp only [free] at held ⊢
    exact held.acquire silent
  | release pc done calls =>
    rw [pcs_move]
    exact held.release pc done
  | load pc found calls =>
    simp only [Serialised, pc] at serial
    rw [pcs_move]
    refine held.outside (by simp [pc]) (by simp [pc]) (by simp) (fun _ => .inl rfl) fun none => ?_
    obtain ⟨cached, _⟩ := held.settled none serial _ (List.mem_of_getElem? found)
    exact congrArg PhoneUIState.values cached
  | @invoke i newAor aor values uis pc calls =>
    rw [pcs_move]
    refine held.outside (by simp [pc]) (by simp [pc]) (by simp) (fun none => ?_) (fun _ => trivial)
    have value := held.consistent none i
    rw [pc] at value
    exact .inr ⟨aor, congrArg (fun values => s.sent ++ [PJSIPNotify.mk aor values]) value⟩
  | neutral before next after calls owner writer =>
    rw [pcs_move]
    refine held.outside ?_ ?_ ?_ (fun _ => .inl rfl) fun _ => ?_
    · intro tasks pc
      exact (pc ▸ before : (Pc.forEach tasks).Neutral)
    · intro pc
      exact (pc ▸ before : Pc.invalidate.Neutral)
    · intro tasks pc
      exact (pc ▸ after : (Pc.forEach tasks).Neutral)
    · cases next with
      | forEach | invoke => exact after.elim
      | _ => trivial
  | task pc found advanced calls =>
    rw [pcs_move]
    exact held.advance pc found advanced

omit [DecidableEq ι] in
theorem Returned.settled {s : State ι} (held : Current s) (returned : Returned s) :
    Settled s.plan s.sent := by
  have idle : ∀ i, s.pcs i = .idle := fun i => (returned i).2
  refine held.settled (fun i => by simp [idle i])
    (List.eq_nil_iff_forall_not_mem.mpr fun i member => ?_)
  obtain ⟨tasks, pc⟩ := (held.inside i).mp member
  simp [idle i] at pc

/-- Rounds and publications that do not overlap leave every UI, and the last
notification to each of its AoRs, with the buttons as they are. -/
theorem settled_of_serialised (plan : ButtonPlan) (calls : ι → List Call)
    (serial : machine.Meets Serialised (start plan calls) ls)
    (reached : machine.run (start plan calls) ls = some t) (returned : Returned t) : Settled t.plan t.sent :=
  returned.settled
    (Machine.run_invariant_meets (P := Current) current_step
    serial reached (current_start plan calls))

end Runs

section Overlap

local instance : LibraryInterface := sequentialInterface

def onThenOff (switchesOff : Bool) : List Call := [.setOn 1 (!switchesOff)]

/-- Both threads are inside `invalidate`; the one that rendered the button while
it was on stores and sends last. -/
def staleStore : List (Label Bool) :=
  [.step false, .step false, .task false 0, .task false 0, .task false 0,
   .step true, .step true, .task true 0, .task true 0, .task true 0, .task true 0, .task true 0, .task true 0,
   .step true, .task false 0, .task false 0, .task false 0, .step false]

theorem overlap_overwrites : ∃ t, machine.run (start officePlan onThenOff) staleStore = some t ∧
    Returned t ∧ ¬ Settled t.plan t.sent := by
  refine ⟨_, rfl, fun i => ?_, fun settled => ?_⟩
  · cases i <;> exact ⟨rfl, rfl⟩
  · obtain ⟨cached, _⟩ := settled _ List.mem_cons_self
    exact absurd (congrArg PhoneUIState.isCritical cached) (by decide)

/-- One thread alone switches the button on. -/
theorem settled_of_serialised_alone : ∃ t : State Unit,
    machine.run (start officePlan fun _ => [.setOn 1 true])
      ([.step (), .step ()] ++ List.replicate 6 (.task () 0) ++ [.step ()]) = some t ∧ Settled t.plan t.sent := by
  have silent : ∀ (j : Unit) newAor aor values uis,
      Pc.invalidate ≠ .invoke newAor aor values uis := by
    intro j newAor aor values uis equal
    contradiction
  have serial : machine.Meets Serialised (start officePlan fun _ => [.setOn 1 true])
      ([.step (), .step ()] ++ List.replicate 6 (.task () 0) ++ [.step ()]) :=
    .cons trivial rfl
      (.cons ⟨rfl, silent⟩ rfl (.cons trivial rfl (.cons trivial rfl (.cons trivial rfl
      (.cons trivial rfl (.cons trivial rfl (.cons trivial rfl (.cons trivial rfl trivial))))))))
  exact ⟨_, rfl,
    settled_of_serialised officePlan (fun _ => [.setOn 1 true]) serial rfl fun _ => ⟨rfl, rfl⟩⟩

end Overlap

end LampMonitor.ButtonState.Interleaving
