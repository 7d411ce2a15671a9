import LampMonitor.Application.Lines

/-! What holds whenever the application can be looked at, during its start-up and
later: every handler that takes part stands where the events that it has seen left
it, its button shows that, and every UI caches the rendering of its plan. -/
namespace LampMonitor.Application
open Ami Asterisk Bridge ButtonState DeskphoneCache RegisterEventHandler Transition

section Current
variable {κ : Type}

/-- A handler of the application, which takes part from its last assignment on. -/
def current (ls : List (Label κ)) (handler : EventHandler) : EventHandler :=
  if ls.any (arms handler) then handler.after (seen handler ls) else handler.fresh

def Label.silent : Label κ → Prop
  | .event _ _ => False
  | _ => True

theorem fresh_phoneButton (handler : EventHandler) : handler.fresh.phoneButton = handler.phoneButton := by
  cases handler <;> rfl

theorem current_phoneButton (ls : List (Label κ)) (handler : EventHandler) :
    (current ls handler).phoneButton = handler.phoneButton := by
  rw [current]
  split
  · exact after_phoneButton _ handler
  · exact fresh_phoneButton handler

theorem after_nil (handler : EventHandler) : handler.after [] = handler := by
  cases handler <;> rfl

theorem seen_silent {ls : List (Label κ)} {l : Label κ} (silent : l.silent) (handler : EventHandler) :
    seen handler (ls ++ [l]) = seen handler ls := by
  have none : l.events = [] := by
    cases l with
    | event => exact silent.elim
    | _ => rfl
  rw [seen_snoc, none, List.append_nil]
  cases unarmed : ls.any (arms handler) with
  | true => rfl
  | false => exact (seen_unarmed unarmed).symm

theorem seen_event (ls : List (Label κ)) (event : KeyValDict) (now : Nat) (handler : EventHandler) :
    seen handler (ls ++ [.event event now]) =
      if ls.any (arms handler) then seen handler ls ++ [event] else [] := seen_snoc handler ls _

theorem current_silent {ls : List (Label κ)} {l : Label κ} (silent : l.silent) (other : arms handler l = false) :
    current (ls ++ [l]) handler = current ls handler := by
  rw [current, current, List.any_append, seen_silent silent]
  simp [other]

/-- As soon as it takes part a handler is the configured one. -/
theorem current_armed {ls : List (Label κ)} {l : Label κ} (silent : l.silent)
    (unarmed : ls.any (arms handler) = false) (here : arms handler l = true) :
    current (ls ++ [l]) handler = handler := by
  rw [current, List.any_append, seen_silent silent, seen_unarmed unarmed]
  simp [here, after_nil]

/-- A handler that does not take part yet ignores every event. -/
theorem fresh_event (event : KeyValDict) (handler : EventHandler) :
    (handler.fresh.amiEventHandler event).1 = handler.fresh ∧
      ((∃ parked, handler = .park parked) → (handler.fresh.amiEventHandler event).2 = none) := by
  cases handler with
  | night => exact ⟨rfl, fun ⟨_, other⟩ => nomatch other⟩
  | park handler =>
    simp only [EventHandler.fresh, EventHandler.amiEventHandler, ParkEventHandler.amiEventHandler]
    cases isExtensionStatus event <;> simp

theorem current_event (ls : List (Label κ)) (event : KeyValDict) (now : Nat) (handler : EventHandler) :
    current (ls ++ [.event event now]) handler = ((current ls handler).amiEventHandler event).1 := by
  have unchanged : (ls ++ [Label.event event now]).any (arms handler) = ls.any (arms handler) := by
    have none : arms handler (.event event now : Label κ) = false := rfl
    simp [none]
  rw [current, current, unchanged, seen_event]
  split
  · exact after_snoc _ _ handler
  · exact (fresh_event event handler).1.symm

theorem mem_handlerOf {config : Configuration} :
    handlerOf config button = some handler ↔ handler ∈ config.handlers ∧ handler.phoneButton = button := by
  constructor
  · intro found
    exact ⟨List.mem_of_find?_eq_some found, by simpa using List.find?_some found⟩
  · rintro ⟨member, rfl⟩
    rw [handlerOf]
    cases found : config.handlers.find? fun other => other.phoneButton = handler.phoneButton with
    | none =>
      have missing := List.find?_eq_none.mp found handler member
      simp at missing
    | some other =>
      have same : other.phoneButton = handler.phoneButton := by simpa using List.find?_some found
      exact congrArg some
        (List.inj_on_of_nodup_map config.distinct (List.mem_of_find?_eq_some found) member same)

end Current

section Handlers
variable {κ : Type}

theorem isOn_buttons {plans plans' : List ButtonPlan}
    (same : plans.map ButtonPlan.buttons = plans'.map ButtonPlan.buttons) : isOn plans = isOn plans' := by
  have place : ∀ (plans : List ButtonPlan) ref, isOn plans ref =
      ((plans.map ButtonPlan.buttons)[ref.1]?.bind fun buttons =>
        buttons.find? fun button => button.buttonId = ref.2).map PhoneButton.isOn := by
    intro plans ref
    rw [List.getElem?_map]
    cases found : plans[ref.1]? <;> simp [isOn, found, ButtonPlan.getButton]
  funext ref
  rw [place, place, same]

theorem store_other {parked : ParkEventHandler} {present : EventHandler}
    (different : present.phoneButton ≠ parked.phoneButton) : EventHandler.store parked present = present := by
  cases present with
  | night => rfl
  | park => exact if_neg different

theorem store_phoneButton (parked : ParkEventHandler) (present : EventHandler) :
    (EventHandler.store parked present).phoneButton = present.phoneButton := by
  cases present with
  | night => rfl
  | park =>
    rw [EventHandler.store]
    split <;> rfl

/-- The handlers and their buttons. -/
structure Constructed (config : Configuration) (ls : List (Label κ)) (s : State κ) : Prop where
  members : ∀ present, present ∈ s.handlers ↔ ∃ handler ∈ config.handlers,
    s.stage handler.phoneButton ≠ .created ∧ present = current ls handler
  distinct : (s.handlers.map EventHandler.phoneButton).Nodup
  armed : ∀ handler ∈ config.handlers, ls.any (arms handler) = true ↔
    s.stage handler.phoneButton = .armed ∨ s.stage handler.phoneButton = .requested
  parked : ∀ handler ∈ config.handlers, s.stage handler.phoneButton = .installed →
    ∃ parked, handler = .park parked
  lamps : ∀ handler ∈ config.handlers,
    isOn s.plans handler.phoneButton = some (handler.lamp (seen handler ls))

namespace Constructed
variable {config : Configuration} {ls : List (Label κ)} {s : State κ}

theorem present (held : Constructed config ls s) :
    ∀ handler ∈ s.handlers, (isOn s.plans handler.phoneButton).isSome := by
  intro present member
  obtain ⟨handler, inside, _, rfl⟩ := (held.members present).mp member
  rw [current_phoneButton, held.lamps handler inside]
  rfl

/-- A step that no constructor and no event takes. -/
theorem untouched (held : Constructed config ls s) {l : Label κ} (silent : l.silent)
    (arms_none : ∀ handler, arms handler l = false) {t : State κ} (handlers : t.handlers = s.handlers)
    (stage : t.stage = s.stage) (lamps : isOn t.plans = isOn s.plans) :
    Constructed config (ls ++ [l]) t where
  members present := by
    rw [handlers, stage, held.members]
    refine exists_congr fun handler => and_congr_right fun _ => and_congr_right fun _ => ?_
    rw [current_silent silent (arms_none handler)]
  distinct := handlers ▸ held.distinct
  armed handler member := by
    rw [stage, ← held.armed handler member, List.any_append]
    simp [arms_none handler]
  parked := stage ▸ held.parked
  lamps handler member := by
    rw [lamps, seen_silent silent]
    exact held.lamps handler member

/-- No other handler has the button of a constructor that takes a step. -/
theorem apart {handler other : EventHandler} (member : handler ∈ config.handlers) (member' : other ∈ config.handlers)
    (different : other ≠ handler) : other.phoneButton ≠ handler.phoneButton :=
  fun same => different (List.inj_on_of_nodup_map config.distinct member' member same)

theorem unarmed (held : Constructed config ls s) (member : handler ∈ config.handlers)
    (early : s.stage handler.phoneButton = .created ∨ s.stage handler.phoneButton = .installed) :
    ls.any (arms handler) = false := by
  rw [Bool.eq_false_iff, ne_eq, held.armed handler member]
  rcases early with stage | stage <;> simp [stage]

theorem start (config : Configuration) (table : Endpoints) (expiry : UInt32) :
    Constructed config [] (Application.start config table expiry : State κ) where
  members present := by simp [Application.start]
  distinct := List.nodup_nil
  armed handler member := by simp [Application.start]
  parked handler member stage := by simp [Application.start] at stage
  lamps handler member := by
    have buttons : (Application.start config table expiry : State κ).plans.map ButtonPlan.buttons =
        config.plans.map ButtonPlan.buttons := by
      simp [Application.start]
    rw [isOn_buttons buttons]
    exact (Asterisk.inv_start config).lamps handler member

/-- A step in the constructor of one handler. -/
theorem constructs (held : Constructed config ls s) (member : handler ∈ config.handlers) {l : Label κ}
    (silent : l.silent) (others : ∀ other ∈ config.handlers, other ≠ handler → arms other l = false)
    {t : State κ} (plans : t.plans = s.plans)
    (stage : t.stage = Function.update s.stage handler.phoneButton next) (started : next ≠ .created)
    (members : ∀ present, present ∈ t.handlers ↔ present = current (ls ++ [l]) handler ∨
      present ∈ s.handlers ∧ present.phoneButton ≠ handler.phoneButton)
    (distinct : (t.handlers.map EventHandler.phoneButton).Nodup)
    (armed : (ls ++ [l]).any (arms handler) = true ↔ next = .armed ∨ next = .requested)
    (parked : next = .installed → ∃ parked, handler = .park parked) :
    Constructed config (ls ++ [l]) t where
  distinct := distinct
  members present := by
    rw [members, stage]
    constructor
    · rintro (rfl | ⟨inside, different⟩)
      · exact ⟨handler, member, by rwa [Function.update_self], rfl⟩
      · obtain ⟨other, configured, known, rfl⟩ := (held.members present).mp inside
        rw [current_phoneButton] at different
        have apart : other ≠ handler := fun same => different (congrArg _ same)
        refine ⟨other, configured, by rwa [Function.update_of_ne different], ?_⟩
        exact (current_silent silent (others other configured apart)).symm
    · rintro ⟨other, configured, known, rfl⟩
      by_cases same : other = handler
      · exact .inl (by rw [same])
      · have different := apart member configured same
        rw [Function.update_of_ne different] at known
        rw [current_silent silent (others other configured same)]
        refine .inr ⟨(held.members _).mpr ⟨other, configured, known, rfl⟩, ?_⟩
        rwa [current_phoneButton]
  armed other configured := by
    by_cases same : other = handler
    · rw [same, stage, Function.update_self]
      exact armed
    · rw [stage, Function.update_of_ne (apart member configured same), ← held.armed other configured,
        List.any_append]
      simp [others other configured same]
  parked other configured installed := by
    by_cases same : other = handler
    · rw [same, stage, Function.update_self] at installed
      exact same ▸ parked installed
    · rw [stage, Function.update_of_ne (apart member configured same)] at installed
      exact held.parked other configured installed
  lamps other configured := by
    rw [plans, seen_silent silent]
    exact held.lamps other configured

theorem missing (held : Constructed config ls s)
    (created : s.stage button = .created) : button ∉ s.handlers.map EventHandler.phoneButton := by
  intro inside
  obtain ⟨present, listed, same⟩ := List.mem_map.mp inside
  obtain ⟨other, configured, known, rfl⟩ := (held.members present).mp listed
  rw [current_phoneButton] at same
  exact known (same ▸ created)

theorem install (held : Constructed config ls s) (stepped : s.install config button = some t) :
    Constructed config (ls ++ [.install button]) t := by
  unfold State.install at stepped
  split at stepped
  · contradiction
  · rename_i handler found
    obtain ⟨member, rfl⟩ := mem_handlerOf.mp found
    split at stepped
    · contradiction
    · rename_i created
      have created := not_not.mp created
      have unarmed := held.unarmed member (.inl created)
      have missing := held.missing created
      have others : ∀ other ∈ config.handlers, other ≠ handler →
          arms other (.install handler.phoneButton : Label κ) = false := by
        intro other configured different
        have apart := apart member configured different
        cases other with
        | night => exact decide_eq_false (Ne.symm apart)
        | park => rfl
      have silent : (Label.install handler.phoneButton : Label κ).silent := trivial
      have own : current (ls ++ [.install handler.phoneButton]) handler = handler.fresh := by
        cases handler with
        | night => exact current_armed silent unarmed (decide_eq_true rfl)
        | park =>
          rw [current_silent silent rfl, current, unarmed]
          rfl
      cases Option.some.inj stepped
      refine held.constructs member silent others rfl rfl ?_ ?_ ?_ ?_ ?_
      · cases handler <;> simp
      · intro present
        rw [own, List.mem_append, List.mem_singleton, or_comm]
        refine or_congr_right (and_iff_left_of_imp fun inside same => missing ?_).symm
        exact same ▸ List.mem_map_of_mem inside
      · rw [List.map_append, List.map_singleton, fresh_phoneButton]
        exact List.concat_eq_append ▸ held.distinct.concat missing
      · cases handler <;> simp [arms, unarmed]
      · cases handler with
        | night => simp
        | park parked => exact fun _ => ⟨parked, rfl⟩

theorem store (held : Constructed config ls s) (stepped : s.store config button = some t) :
    Constructed config (ls ++ [.store button]) t := by
  unfold State.store at stepped
  split at stepped
  · rename_i parked found
    obtain ⟨member, rfl⟩ := mem_handlerOf.mp found
    split at stepped
    · contradiction
    · rename_i installed
      have installed := not_not.mp installed
      have unarmed := held.unarmed member (.inr installed)
      have others : ∀ other ∈ config.handlers, other ≠ .park parked →
          arms other (.store parked.phoneButton : Label κ) = false := by
        intro other configured different
        have apart := apart member configured different
        cases other with
        | night => rfl
        | park => exact decide_eq_false (Ne.symm apart)
      have silent : (Label.store parked.phoneButton : Label κ).silent := trivial
      have own : current (ls ++ [.store parked.phoneButton]) (.park parked) = .park parked :=
        current_armed silent unarmed (decide_eq_true rfl)
      have before : current ls (.park parked) ∈ s.handlers :=
        (held.members _).mpr ⟨_, member, by simp [installed], rfl⟩
      have stored : EventHandler.store parked (current ls (.park parked)) = .park parked := by
        rw [current, unarmed]
        exact if_pos rfl
      cases Option.some.inj stepped
      refine held.constructs member silent others rfl rfl (by simp) ?_ ?_ ?_ (by simp)
      · intro present
        rw [own, List.mem_map]
        constructor
        · rintro ⟨old, inside, rfl⟩
          by_cases same : old.phoneButton = parked.phoneButton
          · have here : old = current ls (.park parked) :=
              List.inj_on_of_nodup_map held.distinct inside before
                (same.trans (current_phoneButton ls (.park parked)).symm)
            exact .inl (here ▸ stored)
          · rw [store_other same]
            exact .inr ⟨inside, same⟩
        · rintro (rfl | ⟨inside, different⟩)
          · exact ⟨_, before, stored⟩
          · exact ⟨present, inside, store_other different⟩
      · have same : s.handlers.map (EventHandler.phoneButton ∘ EventHandler.store parked) =
            s.handlers.map EventHandler.phoneButton :=
          List.map_congr_left fun present _ => store_phoneButton parked present
        rw [List.map_map, same]
        exact held.distinct
      · simp [arms, EventHandler.phoneButton]
  · contradiction

theorem request (held : Constructed config ls s) (stepped : s.request button = some t) :
    Constructed config (ls ++ [.request button]) t := by
  unfold State.request at stepped
  split at stepped
  · contradiction
  · rename_i stage
    have stage := not_not.mp stage
    have none : ∀ handler, arms handler (.request button : Label κ) = false := fun _ => rfl
    have silent : (Label.request button : Label κ).silent := trivial
    cases Option.some.inj stepped
    refine ⟨fun present => ?_, held.distinct, fun handler member => ?_, fun handler member here => ?_, ?_⟩
    · refine (held.members present).trans (exists_congr fun handler => and_congr_right fun _ => ?_)
      rw [current_silent silent (none handler)]
      refine and_congr_left fun _ => ?_
      by_cases same : handler.phoneButton = button
      · simp [same, stage]
      · simp only [Function.update_of_ne same]
    · have before := held.armed handler member
      rw [List.any_append]
      by_cases same : handler.phoneButton = button
      · simpa [none, same, stage] using before
      · simpa [none, Function.update_of_ne same] using before
    · by_cases same : handler.phoneButton = button
      · simp [same] at here
      · simp only [Function.update_of_ne same] at here
        exact held.parked handler member here
    · intro handler member
      rw [seen_silent silent]
      exact held.lamps handler member

theorem event [LibraryInterface] (held : Constructed config ls s) (event : KeyValDict) (now : Nat)
    {t : State κ} (plans : t.plans = (deliver event s.plans s.handlers).1)
    (handlers : t.handlers = (deliver event s.plans s.handlers).2.1) (stage : t.stage = s.stage) :
    Constructed config (ls ++ [.event event now]) t := by
  have none : ∀ handler, arms handler (.event event now : Label κ) = false := fun _ => rfl
  rw [deliver_handlers] at handlers
  constructor
  · intro present
    rw [handlers, stage, List.mem_map]
    constructor
    · rintro ⟨old, inside, rfl⟩
      obtain ⟨handler, member, known, rfl⟩ := (held.members old).mp inside
      exact ⟨handler, member, known, (current_event ls event now handler).symm⟩
    · rintro ⟨handler, member, known, rfl⟩
      exact ⟨_, (held.members _).mpr ⟨handler, member, known, rfl⟩, (current_event ls event now handler).symm⟩
  · have buttons : ∀ handler : EventHandler, (handler.amiEventHandler event).1.phoneButton = handler.phoneButton :=
      EventHandler.amiEventHandler_phoneButton event
    have same : s.handlers.map (EventHandler.phoneButton ∘ fun handler => (handler.amiEventHandler event).1) =
        s.handlers.map EventHandler.phoneButton := List.map_congr_left fun handler _ => buttons handler
    rw [handlers, List.map_map, same]
    exact held.distinct
  · intro handler member
    rw [stage, ← held.armed handler member, List.any_append]
    simp [none]
  · exact stage ▸ held.parked
  · intro handler member
    rw [plans, seen_event]
    by_cases created : s.stage handler.phoneButton = .created
    · have unarmed := held.unarmed member (.inl created)
      rw [deliver_apart held.distinct held.present (held.missing created), held.lamps handler member, unarmed,
        seen_unarmed unarmed]
      rfl
    · have inside := (held.members _).mpr ⟨handler, member, created, rfl⟩
      have decided : isOn (deliver event s.plans s.handlers).1 (current ls handler).phoneButton = _ :=
        deliver_isOn held.distinct held.present inside
      rw [current_phoneButton, held.lamps handler member] at decided
      rw [decided]
      cases armed : ls.any (arms handler) with
      | true =>
        rw [current, armed]
        exact (lamp_snoc (seen handler ls) event handler).symm
      | false =>
        have stage : s.stage handler.phoneButton = .installed := by
          have early := held.armed handler member
          rw [armed] at early
          cases known : s.stage handler.phoneButton with
          | created => exact absurd known created
          | installed => rfl
          | armed | requested => simp [known] at early
        have ignored := (fresh_event event handler).2 (held.parked handler member stage)
        rw [current, armed, if_neg Bool.false_ne_true, ignored, seen_unarmed armed]
        rfl

end Constructed
end Handlers

section Whole
variable [LibraryInterface] {κ : Type} [DecidableEq κ]

def registers (p : Nat) : Label κ → Bool
  | .registerButtonPlan q => decide (q = p)
  | _ => false

/-- The whole application. -/
structure Inv (config : Configuration) (ls : List (Label κ)) (s : State κ) : Prop where
  constructed : Constructed config ls s
  rendered : Rendered s.plans
  shaped : Shaped config.plans s.plans s.withUI
  listening : s.listening = ls.any listens
  withUI : ∀ p ∈ s.registered, p ∈ s.withUI
  heard : ∀ p ∈ s.registered, ls.any listens = true
  registered : ∀ p, p ∈ s.registered ↔ ls.any (registers p) = true
  cache : WriteThread.CacheKnown (Registered ls) s.cache

variable {config : Configuration} {ls : List (Label κ)} {s t : State κ} {l : Label κ}

omit [LibraryInterface] [DecidableEq κ] in
theorem inv_start (config : Configuration) (table : Endpoints) (expiry : UInt32) :
    Inv config [] (start config table expiry : State κ) where
  constructed := .start config table expiry
  rendered plan member ui inside := by
    obtain ⟨_, _, rfl⟩ := List.mem_map.mp member
    contradiction
  shaped := by
    refine List.ext_getElem? fun p => ?_
    rw [outlines_getElem?, start, List.map_map, List.getElem?_map]
    rfl
  listening := rfl
  withUI := List.forall_mem_nil _
  heard := List.forall_mem_nil _
  registered p := by simp [start]
  cache := .start table

omit [LibraryInterface] [DecidableEq κ] in
/-- A step that registers nothing and touches no plan. -/
theorem Inv.quiet (held : Inv config ls s) (deaf : listens l = false) (aside : ∀ p, registers p l = false)
    (constructed : Constructed config (ls ++ [l]) t) (plans : t.plans = s.plans) (withUI : t.withUI = s.withUI)
    (listening : t.listening = s.listening) (registered : t.registered = s.registered)
    (cache : WriteThread.CacheKnown (Registered ls) t.cache) : Inv config (ls ++ [l]) t where
  constructed := constructed
  rendered := plans ▸ held.rendered
  shaped := by
    rw [plans, withUI]
    exact held.shaped
  listening := by
    rw [listening, held.listening, List.any_append]
    simp [deaf]
  withUI := by
    rw [registered, withUI]
    exact held.withUI
  heard p member := by
    rw [List.any_append, held.heard p (registered ▸ member)]
    rfl
  registered p := by
    rw [registered, held.registered, List.any_append]
    simp [aside]
  cache := cache.mono fun aor (before : Registered ls aor) => before.later l

section Frames
omit [LibraryInterface] [DecidableEq κ]

theorem install_frame (stepped : s.install config button = some t) :
    ∃ handlers stage, t = { s with handlers := handlers, stage := stage } := by
  unfold State.install at stepped
  split at stepped
  · contradiction
  · split at stepped
    · contradiction
    · exact ⟨_, _, (Option.some.inj stepped).symm⟩

theorem store_frame (stepped : s.store config button = some t) :
    ∃ handlers stage, t = { s with handlers := handlers, stage := stage } := by
  unfold State.store at stepped
  split at stepped
  · split at stepped
    · contradiction
    · exact ⟨_, _, (Option.some.inj stepped).symm⟩
  · contradiction

theorem request_frame (stepped : s.request button = some t) :
    ∃ stage, t = { s with stage := stage } := by
  unfold State.request at stepped
  split at stepped
  · contradiction
  · exact ⟨_, (Option.some.inj stepped).symm⟩

theorem registerUI_frame (stepped : s.registerUI config p = some t) :
    ∃ plans withUI, t = { s with plans := plans, withUI := withUI } := by
  unfold State.registerUI at stepped
  split at stepped
  · split at stepped
    · contradiction
    · exact ⟨_, _, (Option.some.inj stepped).symm⟩
  · contradiction

theorem listen_frame (stepped : (if s.listening then none else some { s with listening := true }) = some t) :
    t = { s with listening := true } := by
  split at stepped
  · contradiction
  · exact (Option.some.inj stepped).symm

theorem registerButtonPlan_frame (stepped : s.registerButtonPlan p = some t) :
    (s.listening = true ∧ p ∈ s.withUI) ∧ t = { s with registered := s.registered ++ [p] } := by
  unfold State.registerButtonPlan at stepped
  split at stepped
  · rename_i ready
    exact ⟨⟨ready.1, ready.2.1⟩, (Option.some.inj stepped).symm⟩
  · contradiction

theorem receive_frame (stepped : s.receive aor = some t) :
    s.received aor < (addressed aor s.sent).length ∧
      t = { s with received := Function.update s.received aor (s.received aor + 1) } := by
  unfold State.receive at stepped
  split at stepped
  · rename_i pending
    exact ⟨pending, (Option.some.inj stepped).symm⟩
  · contradiction

theorem expire_frame [DecidableEq κ] (stepped : s.expire k params = some t) :
    t = { s with cache := WriteThread.ask s.cache (some k) (Policy.expirePath params).2 } := by
  unfold State.expire at stepped
  split at stepped
  · contradiction
  · exact (Option.some.inj stepped).symm

end Frames

omit [LibraryInterface] [DecidableEq κ] in
theorem inv_registerUI (held : Inv config ls s) (stepped : s.registerUI config p = some t) :
    Inv config (ls ++ [.registerUI p]) t := by
  unfold State.registerUI at stepped
  split at stepped
  · rename_i plan here configured found
    split at stepped
    · contradiction
    · rename_i new
      cases Option.some.inj stepped
      have bound := (List.getElem?_eq_some_iff.mp found).1
      let next : ButtonPlan := { here with phoneUis := plan.phoneUis.map (·.update here.getButtons) }
      have buttons : (s.plans.set p next).map ButtonPlan.buttons = s.plans.map ButtonPlan.buttons := by
        have inside : p < (s.plans.map ButtonPlan.buttons).length := by simpa using bound
        have entry : (s.plans.map ButtonPlan.buttons)[p] = next.buttons := by
          rw [List.getElem_map, (List.getElem?_eq_some_iff.mp found).2]
        rw [List.map_set, ← entry, List.set_getElem_self]
      have silent : (Label.registerUI p : Label κ).silent := trivial
      constructor
      · exact held.constructed.untouched silent (fun _ => rfl) rfl rfl (isOn_buttons buttons)
      · intro other member ui inside
        rcases List.mem_or_eq_of_mem_set member with old | rfl
        · exact held.rendered other old ui inside
        · obtain ⟨_, _, rfl⟩ := List.mem_map.mp inside
          rfl
      · refine List.ext_getElem? fun q => ?_
        have before := congrArg (fun outlines => outlines[q]?) held.shaped
        simp only [List.getElem?_map, outlines_getElem?] at before ⊢
        by_cases same : q = p
        · subst q
          rw [found, configured, Option.map_some, Option.map_some, Option.some.injEq] at before
          rw [List.getElem?_set_self bound, configured, Option.map_some, Option.map_some,
            if_pos List.mem_cons_self]
          have aors : (outline next).2 = (outline plan).2 := by
            simp only [next, outline, List.map_map]
            rfl
          have shape : (outline here).1 = (outline plan).1 := by rw [before]
          exact congrArg some (Prod.ext shape aors)
        · rw [List.getElem?_set_ne (Ne.symm same), before]
          simp only [List.mem_cons, same, false_or]
      · simpa [listens] using held.listening
      · exact fun q member => List.mem_cons_of_mem _ (held.withUI q member)
      · intro q member
        rw [List.any_append, held.heard q member]
        rfl
      · intro q
        simpa [registers] using held.registered q
      · exact held.cache.mono fun aor (before : Registered ls aor) => before.later _
  · contradiction

omit [LibraryInterface] [DecidableEq κ] in
theorem inv_registerButtonPlan (held : Inv config ls s) (stepped : s.registerButtonPlan p = some t) :
    Inv config (ls ++ [.registerButtonPlan p]) t := by
  obtain ⟨⟨listening, withUI⟩, rfl⟩ := registerButtonPlan_frame stepped
  have heard := held.listening.symm.trans listening
  have silent : (Label.registerButtonPlan p : Label κ).silent := trivial
  constructor
  · exact held.constructed.untouched silent (fun _ => rfl) rfl rfl rfl
  · exact held.rendered
  · exact held.shaped
  · simpa [listens] using held.listening
  · intro q member
    rcases List.mem_append.mp member with before | here
    · exact held.withUI q before
    · exact List.mem_singleton.mp here ▸ withUI
  · intro q _
    rw [List.any_append, heard]
    rfl
  · intro q
    have here : registers q (.registerButtonPlan p : Label κ) = decide (p = q) := rfl
    rw [List.mem_append, held.registered, List.any_append, Bool.or_eq_true, List.mem_singleton,
      List.any_cons, here, List.any_nil, Bool.or_false, decide_eq_true_eq]
    exact or_congr_right eq_comm
  · exact held.cache.mono fun aor (before : Registered ls aor) => before.later _

/-- What an event does: the callbacks of the handlers, and then that of the
`RegisterEventHandler` once it is installed. -/
theorem event_step {event : KeyValDict} {now : Nat} (stepped : s.event event now = some t) :
    let delivered := deliver event s.plans s.handlers
    let answer := if s.listening then
        amiEventHandler (published delivered.1 s.registered) s.cache.committed s.expiry now event
      else ([], none)
    t = { s with
      plans := delivered.1
      handlers := delivered.2.1
      cache := WriteThread.ask s.cache none answer.2
      sent := s.sent ++ (delivered.2.2 ++ answer.1) } := by
  unfold State.event at stepped
  split at stepped
  · contradiction
  · exact (Option.some.inj stepped).symm

omit [DecidableEq κ] in
theorem asks_event (ls : List (Label κ)) (event : KeyValDict) (now : Nat) (heard : ls.any listens = true) :
    WriteThread.AsksKnown (Registered (ls ++ [.event event now]))
      (amiEventHandler plans endpoints expiry now event).2.toList := by
  intro data member _
  cases key : monitored event with
  | none =>
    simp only [amiEventHandler, key] at member
    contradiction
  | some key' =>
    simp only [amiEventHandler, key] at member
    obtain rfl := List.mem_singleton.mp member
    exact registered_snoc.mpr (.inr ⟨heard, event, now, key'.endpoint, rfl, key⟩)

theorem inv_event (held : Inv config ls s) {event : KeyValDict} {now : Nat}
    (stepped : s.event event now = some t) : Inv config (ls ++ [.event event now]) t := by
  have wider := held.cache.mono fun aor (before : Registered ls aor) => before.later (.event event now)
  cases event_step stepped
  obtain ⟨flips, _, rounds⟩ := deliver_rounds event s.plans s.handlers held.constructed.present
  constructor
  · exact held.constructed.event event now rfl rfl rfl
  · exact rounds.rendered held.rendered
  · exact (outline_rounds rounds).trans held.shaped
  · simpa [listens] using held.listening
  · exact held.withUI
  · intro q member
    rw [List.any_append, held.heard q member]
    rfl
  · intro q
    simpa [registers] using held.registered q
  · refine wider.ask ?_ none
    cases listening : s.listening with
    | false => exact List.forall_mem_nil _
    | true => exact asks_event ls event now (held.listening.symm.trans listening)

omit [LibraryInterface] in
theorem asks_expire {known : String → Prop} (params : List (String × String)) :
    WriteThread.AsksKnown known (Policy.expirePath params).2.toList := by
  intro data member action
  simp only [Policy.expirePath] at member
  split at member
  · obtain rfl := List.mem_singleton.mp member
    contradiction
  · contradiction

theorem inv_step (held : Inv config ls s) (stepped : (machine config).step s l = some t) :
    Inv config (ls ++ [l]) t := by
  have idle : ∀ l : Label κ, l.silent → (∀ handler, arms handler l = false) → ∀ {t : State κ},
      t.handlers = s.handlers → t.stage = s.stage → t.plans = s.plans → Constructed config (ls ++ [l]) t := by
    intro l silent none t handlers stage plans
    exact held.constructed.untouched silent none handlers stage (congrArg isOn plans)
  cases l with
  | install button =>
    have constructed := held.constructed.install stepped
    obtain ⟨handlers, stage, rfl⟩ := install_frame stepped
    exact held.quiet rfl (fun _ => rfl) constructed rfl rfl rfl rfl held.cache
  | store button =>
    have constructed := held.constructed.store stepped
    obtain ⟨handlers, stage, rfl⟩ := store_frame stepped
    exact held.quiet rfl (fun _ => rfl) constructed rfl rfl rfl rfl held.cache
  | request button =>
    have constructed := held.constructed.request stepped
    obtain ⟨stage, rfl⟩ := request_frame stepped
    exact held.quiet rfl (fun _ => rfl) constructed rfl rfl rfl rfl held.cache
  | registerUI p => exact inv_registerUI held stepped
  | listen =>
    obtain rfl := listen_frame stepped
    refine ⟨idle .listen trivial (fun _ => rfl) rfl rfl rfl, held.rendered, held.shaped, ?_,
      held.withUI, fun q member => ?_, fun q => ?_, ?_⟩
    · simp [listens]
    · rw [List.any_append, held.heard q member]
      rfl
    · simpa [registers] using held.registered q
    · exact held.cache.mono fun aor (before : Registered ls aor) => before.later _
  | registerButtonPlan p => exact inv_registerButtonPlan held stepped
  | event event now => exact inv_event held stepped
  | expire k params =>
    obtain rfl := expire_frame stepped
    exact held.quiet rfl (fun _ => rfl) (idle (.expire k params) trivial (fun _ => rfl) rfl rfl rfl)
      rfl rfl rfl rfl (held.cache.ask (asks_expire params) (some k))
  | cache l =>
    obtain ⟨cache, moved, rfl⟩ := Option.map_eq_some_iff.mp stepped
    exact held.quiet rfl (fun _ => rfl) (idle (.cache l) trivial (fun _ => rfl) rfl rfl rfl) rfl rfl rfl rfl (held.cache.step moved)
  | receive aor =>
    obtain ⟨_, rfl⟩ := receive_frame stepped
    exact held.quiet rfl (fun _ => rfl) (idle (.receive aor) trivial (fun _ => rfl) rfl rfl rfl)
      rfl rfl rfl rfl held.cache

theorem run_inv {config : Configuration}
    (reached : (machine config).run (start config table expiry : State κ) ls = some s) : Inv config ls s :=
  Machine.trace_invariant (C := fun _ _ => True) (inv_start config table expiry)
    (fun held _ stepped => inv_step held stepped) (Machine.Meets.of_labels fun _ _ => trivial)
    reached

end Whole
end LampMonitor.Application
