import LampMonitor.Asterisk.EventHandlers

/-! What an AMI event sends. Each button that it flips causes one round of
notifications, and nothing else is sent: an event that reports what is already
known leaves every plan as it was. -/
namespace LampMonitor.Asterisk
open Ami Bridge ButtonState Transition

section Runs
variable [LibraryInterface]

section SetOn

omit [LibraryInterface] in
theorem isOn_eq_some {plans : List ButtonPlan} {button : PhoneButtonRef} :
    isOn plans button = some on ↔
    ∃ plan phoneButton, plans[button.1]? = some plan ∧ plan.getButton button.2 = some phoneButton ∧
      phoneButton.isOn = on := by
  simp only [isOn, Option.map_eq_some_iff, Option.bind_eq_some_iff]
  constructor
  · rintro ⟨phoneButton, ⟨plan, found, present⟩, same⟩
    exact ⟨plan, phoneButton, found, present, same⟩
  · rintro ⟨plan, phoneButton, found, present, same⟩
    exact ⟨phoneButton, ⟨plan, found, present⟩, same⟩

omit [LibraryInterface] in
/-- Exchanging one flag, whatever it does to the UIs, changes the reading of that
button alone. -/
theorem isOn_set_exchange {plans : List ButtonPlan} {button : PhoneButtonRef}
    (found : plans[button.1]? = some plan) (on : Bool) (other : PhoneButtonRef) :
    isOn (plans.set button.1 (plan.exchange button.2 on).updateUIs) other =
      if other = button then (isOn plans button).map fun _ => on else isOn plans other := by
  obtain ⟨p, id⟩ := button
  obtain ⟨q, id'⟩ := other
  have bound := (List.getElem?_eq_some_iff.mp found).1
  by_cases same : q = p
  · subst q
    simp only [isOn, List.getElem?_set_self bound, found, Option.bind_some, getButton_updateUIs,
      getButton_exchange, Prod.mk.injEq, true_and, Option.map_map]
    by_cases here : id' = id
    · subst id'
      simp [Function.comp_def]
    · simp [here, Function.comp_def]
  · simp only [isOn, List.getElem?_set_ne (Ne.symm same), Prod.mk.injEq, same, false_and, if_false]

/-- A call of `setOn` either finds the button as it should be, or there is one
round after the flip. -/
theorem setOn_cases {plans : List ButtonPlan} {button : PhoneButtonRef}
    (known : isOn plans button = some was) (on : Bool) :
    (on = was ∧ setOn plans button on = (plans, [])) ∨
    (on = !was ∧ ∃ plan phoneButton messages, plans[button.1]? = some plan ∧
      plan.getButton button.2 = some phoneButton ∧ phoneButton.isOn = was ∧
      messages.Perm (rendering (plan.exchange button.2 (!was))) ∧
      setOn plans button on =
        (plans.set button.1 (plan.exchange button.2 (!was)).updateUIs, messages)) := by
  obtain ⟨plan, phoneButton, found, present, rfl⟩ := isOn_eq_some.mp known
  by_cases same : on = phoneButton.isOn
  · refine .inl ⟨same, ?_⟩
    have bound := (List.getElem?_eq_some_iff.mp found).1
    have here := (List.getElem?_eq_some_iff.mp found).2
    simp only [setOn, found, same, setOn_same present]
    rw [← here, List.set_getElem_self]
  · have flipped : on = !phoneButton.isOn := by
      cases on <;> cases state : phoneButton.isOn <;> simp_all
    refine .inr ⟨flipped, plan, phoneButton, _, found, present, rfl, round_updateUIs _, ?_⟩
    subst on
    simp only [setOn, found, setOn_flip present same]

end SetOn

/-- The flips of one event in their order, each followed by its round: a
notification for each AoR of each UI of the plan, with the rendering of all
buttons of the plan after that flip. -/
inductive Rounds : List ButtonPlan → List PhoneButtonRef → List PJSIPNotify → List ButtonPlan → Prop where
  | nil (plans : List ButtonPlan) : Rounds plans [] [] plans
  | cons {plans : List ButtonPlan} {button : PhoneButtonRef} (found : plans[button.1]? = some plan)
      (present : plan.getButton button.2 = some phoneButton)
      (round : messages.Perm (rendering (plan.exchange button.2 (!phoneButton.isOn))))
      (rest : Rounds (plans.set button.1 (plan.exchange button.2 (!phoneButton.isOn)).updateUIs) flips more final) :
      Rounds plans (button :: flips) (messages ++ more) final

section Rounds

theorem Rounds.isOn_final (rounds : Rounds plans flips messages final) (distinct : flips.Nodup)
    (button : PhoneButtonRef) :
    isOn final button = if button ∈ flips then (isOn plans button).map (!·)
    else isOn plans button := by
  induction rounds with
  | nil => simp
  | @cons plan phoneButton _ flips _ _ plans flipped found present round rest ih =>
    obtain ⟨absent, distinct⟩ := List.nodup_cons.mp distinct
    rw [ih distinct, isOn_set_exchange found]
    by_cases here : button = flipped
    · subst button
      have known : isOn plans flipped = some phoneButton.isOn :=
        isOn_eq_some.mpr ⟨plan, phoneButton, found, present, rfl⟩
      simp [absent, known]
    · simp [here]

theorem Rounds.flipped_present (rounds : Rounds plans flips messages final) (distinct : flips.Nodup)
    (member : button ∈ flips) : (isOn plans button).isSome := by
  induction rounds with
  | nil => contradiction
  | @cons plan phoneButton _ flips _ _ plans flipped found present round rest ih =>
    obtain ⟨absent, distinct⟩ := List.nodup_cons.mp distinct
    rcases List.mem_cons.mp member with rfl | later
    · rw [isOn_eq_some.mpr ⟨plan, phoneButton, found, present, rfl⟩]
      rfl
    · have before := ih distinct later
      rw [isOn_set_exchange found, if_neg] at before
      · exact before
      · rintro rfl
        exact absent later

/-- The flips are exactly the buttons that end up different. -/
theorem Rounds.mem_flips (rounds : Rounds plans flips messages final) (distinct : flips.Nodup)
    (button : PhoneButtonRef) : button ∈ flips ↔ isOn plans button ≠ isOn final button := by
  rw [rounds.isOn_final distinct]
  constructor
  · intro member
    obtain ⟨was, known⟩ := Option.isSome_iff_exists.mp (rounds.flipped_present distinct member)
    simp [member, known]
  · intro different
    by_contra absent
    exact different (by rw [if_neg absent])

theorem Rounds.of_nil (rounds : Rounds plans [] messages final) :
    messages = [] ∧ final = plans := by
  cases rounds with
  | nil => exact ⟨rfl, rfl⟩

theorem Rounds.untouched (rounds : Rounds plans flips messages final)
    (away : ∀ button ∈ flips, button.1 ≠ p) :
    final[p]? = plans[p]? := by
  induction rounds with
  | nil => rfl
  | cons found present round rest ih =>
    rw [ih fun button member => away button (List.mem_cons_of_mem _ member),
      List.getElem?_set_ne (away _ List.mem_cons_self)]

/-- Every UI caches the rendering of the buttons of its plan. -/
def Rendered (plans : List ButtonPlan) : Prop :=
  ∀ plan ∈ plans, ∀ ui ∈ plan.phoneUis, ui.cachedButtonState = render plan.buttons

theorem Rounds.rendered (rounds : Rounds plans flips messages final) (held : Rendered plans) :
    Rendered final := by
  induction rounds with
  | nil => exact held
  | cons found present round rest ih =>
    apply ih
    intro plan member
    rcases List.mem_or_eq_of_mem_set member with old | rfl
    · exact held plan old
    · exact updateUIs_rendered _

end Rounds

section Deliver
variable {event : KeyValDict} {plans : List ButtonPlan} {handlers : List EventHandler}

/-- One handler decides about its own button, if it calls `setOn` at all. -/
theorem isOn_call {button : PhoneButtonRef} (known : isOn plans button = some was)
    (call : Option Bool) (other : PhoneButtonRef) :
    isOn (call.elim (plans, []) (setOn plans button)).1 other =
      if other = button then call.or (some was) else isOn plans other := by
  cases call with
  | none =>
    split
    · rename_i same
      rw [same]
      exact known
    · rfl
  | some on =>
    simp only [Option.elim_some, Option.some_or]
    rcases setOn_cases known on with
      ⟨rfl, unchanged⟩ | ⟨rfl, plan, phoneButton, messages, found, _, _, _, result⟩
    · rw [unchanged]
      split
      · rename_i same
        rw [same, known]
      · rfl
    · rw [result, isOn_set_exchange found, known]
      rfl

theorem present_call {button : PhoneButtonRef} (known : isOn plans button = some was)
    (call : Option Bool) (present : ∀ handler ∈ handlers, (isOn plans handler.phoneButton).isSome) :
    ∀ handler ∈ handlers,
      (isOn (call.elim (plans, []) (setOn plans button)).1 handler.phoneButton).isSome := by
  intro handler member
  rw [isOn_call known]
  split
  · cases call <;> rfl
  · exact present handler member

/-- The handlers are served in order, so their flips come in that order. -/
theorem deliver_rounds (event : KeyValDict) (plans : List ButtonPlan) (handlers : List EventHandler)
    (present : ∀ handler ∈ handlers, (isOn plans handler.phoneButton).isSome) :
    ∃ flips, flips.Sublist (handlers.map EventHandler.phoneButton) ∧
      Rounds plans flips (deliver event plans handlers).2.2 (deliver event plans handlers).1 := by
  induction handlers generalizing plans with
  | nil => exact ⟨[], .slnil, .nil plans⟩
  | cons handler rest ih =>
    obtain ⟨was, known⟩ := Option.isSome_iff_exists.mp (present handler List.mem_cons_self)
    have later := present_call known (handler.amiEventHandler event).2
      fun other member => present other (List.mem_cons_of_mem handler member)
    obtain ⟨flips, inside, rounds⟩ := ih _ later
    simp only [deliver, List.map_cons]
    cases call : (handler.amiEventHandler event).2 with
    | none =>
      rw [call] at rounds
      exact ⟨flips, inside.cons _, by simpa using rounds⟩
    | some on =>
      rw [call] at rounds
      simp only [Option.elim_some] at rounds ⊢
      rcases setOn_cases known on with
        ⟨_, unchanged⟩ | ⟨_, plan, phoneButton, messages, found, here, rfl, round, result⟩
      · rw [unchanged] at rounds ⊢
        exact ⟨flips, inside.cons _, by simpa using rounds⟩
      · rw [result] at rounds ⊢
        exact ⟨handler.phoneButton :: flips, inside.cons_cons _, .cons found here round rounds⟩

theorem deliver_apart (distinct : (handlers.map EventHandler.phoneButton).Nodup)
    (present : ∀ handler ∈ handlers, (isOn plans handler.phoneButton).isSome)
    (apart : button ∉ handlers.map EventHandler.phoneButton) :
    isOn (deliver event plans handlers).1 button = isOn plans button := by
  obtain ⟨flips, inside, rounds⟩ := deliver_rounds event plans handlers present
  rw [rounds.isOn_final (distinct.sublist inside), if_neg]
  exact fun member => apart (inside.subset member)

/-- Since no two handlers share a button, each one has the last word on its own. -/
theorem deliver_isOn (distinct : (handlers.map EventHandler.phoneButton).Nodup)
    (present : ∀ handler ∈ handlers, (isOn plans handler.phoneButton).isSome)
    (member : handler ∈ handlers) :
    isOn (deliver event plans handlers).1 handler.phoneButton =
      (handler.amiEventHandler event).2.or (isOn plans handler.phoneButton) := by
  induction handlers generalizing plans with
  | nil => contradiction
  | cons head rest ih =>
    obtain ⟨apart, others⟩ := List.nodup_cons.mp distinct
    obtain ⟨was, known⟩ := Option.isSome_iff_exists.mp (present head List.mem_cons_self)
    have later := present_call known (head.amiEventHandler event).2
      fun other member => present other (List.mem_cons_of_mem head member)
    simp only [deliver]
    rcases List.mem_cons.mp member with rfl | inside
    · rw [deliver_apart others later apart, isOn_call known, if_pos rfl, known]
    · have other : handler.phoneButton ≠ head.phoneButton := by
        intro same
        exact apart (same ▸ List.mem_map_of_mem inside)
      rw [ih others later inside, isOn_call known, if_neg other]

omit [LibraryInterface] in
theorem amiEventHandler_parking (handler : ParkEventHandler) (event : KeyValDict) (was : Bool)
    (agrees : was = decide (0 < handler.parkedExtens.card)) :
    (handler.amiEventHandler event).2.or (some was) =
      some (decide (0 < (handler.amiEventHandler event).1.parkedExtens.card)) := by
  simp only [ParkEventHandler.amiEventHandler]
  split
  · simp [agrees]
  · split
    · simp [agrees]
    · rfl

theorem deliver_handlers (event : KeyValDict) (plans : List ButtonPlan)
    (handlers : List EventHandler) :
    (deliver event plans handlers).2.1 = handlers.map fun handler =>
      (handler.amiEventHandler event).1 := by
  induction handlers generalizing plans with
  | nil => rfl
  | cons handler rest ih => simp only [deliver, List.map_cons, ih]

end Deliver

section History

/-- The 0/1 status that an event reports for a hint. -/
def reported (hint : String) (event : KeyValDict) : Option Bool :=
  if event.get "Event" = "ExtensionStatus" ∧ event.get "Hint" = hint then
    if event.get "Status" = "0" then some false
    else if event.get "Status" = "1" then some true
    else none
  else none

/-- The last 0/1 status among the events. -/
def lastReported (hint : String) (events : List KeyValDict) : Option Bool :=
  (events.filterMap (reported hint)).getLast?

omit [LibraryInterface] in
theorem night_reported (handler : NightEventHandler) (event : KeyValDict) :
    handler.amiEventHandler event = reported handler.hint event := by
  simp only [NightEventHandler.amiEventHandler, reported, ← isExtensionStatus_iff]
  by_cases status : isExtensionStatus event = true
  · by_cases hint : event.get "Hint" = handler.hint <;> simp [status, hint]
  · simp [status]

omit [LibraryInterface] in
theorem lastReported_snoc (hint : String) (events : List KeyValDict) (event : KeyValDict) :
    lastReported hint (events ++ [event]) =
      (reported hint event).or (lastReported hint events) := by
  simp only [lastReported, List.filterMap_append]
  cases status : reported hint event <;> simp [status]

/-- What one event makes of the taken positions of a parking lot with these hints. -/
def occupied (hints : List String) (taken : Finset String) (event : KeyValDict) : Finset String :=
  if event.get "Event" = "ExtensionStatus" ∧ event.get "Hint" ∈ hints then
    if event.get "Status" = "0" then taken.erase (event.get "Exten")
    else if event.get "Status" = "1" then insert (event.get "Exten") taken
    else taken
  else taken

def ParkEventHandler.after (events : List KeyValDict) (handler : ParkEventHandler) : ParkEventHandler :=
  events.foldl (fun handler event => (handler.amiEventHandler event).1) handler

/-- The handler once it has seen these events. -/
def EventHandler.after (events : List KeyValDict) : EventHandler → EventHandler
  | .night handler => .night handler
  | .park handler => .park (handler.after events)

/-- What the events make of the button of a handler that started off. -/
def EventHandler.lamp (events : List KeyValDict) : EventHandler → Bool
  | .night handler => (lastReported handler.hint events).getD false
  | .park handler =>
    decide (0 < (events.foldl (occupied handler.parkingHints) handler.parkedExtens).card)

section Parking
variable (events : List KeyValDict) (event : KeyValDict) (handler : ParkEventHandler)

omit [LibraryInterface] in
theorem occupied_amiEventHandler :
    (handler.amiEventHandler event).1.parkedExtens =
      occupied handler.parkingHints handler.parkedExtens event := by
  simp only [ParkEventHandler.amiEventHandler, occupied, ← isExtensionStatus_iff,
    ← List.contains_iff_mem]
  cases isExtensionStatus event with
  | false => rfl
  | true =>
    cases handler.parkingHints.contains (event.get "Hint") with
    | false => rfl
    | true => rfl

omit [LibraryInterface] in
@[simp] theorem ParkEventHandler.amiEventHandler_parkingHints :
    (handler.amiEventHandler event).1.parkingHints = handler.parkingHints := by
  simp only [amiEventHandler]
  split
  · rfl
  · split <;> rfl

omit [LibraryInterface] in
theorem ParkEventHandler.after_snoc :
    handler.after (events ++ [event]) = ((handler.after events).amiEventHandler event).1 := by
  simp only [after, List.foldl_append, List.foldl_cons, List.foldl_nil]

omit [LibraryInterface] in
@[simp] theorem ParkEventHandler.after_parkingHints :
    (handler.after events).parkingHints = handler.parkingHints := by
  induction events using List.reverseRecOn with
  | nil => rfl
  | append_singleton events event ih => rw [after_snoc, amiEventHandler_parkingHints, ih]

omit [LibraryInterface] in
theorem after_parkedExtens : (handler.after events).parkedExtens =
    events.foldl (occupied handler.parkingHints) handler.parkedExtens := by
  induction events using List.reverseRecOn with
  | nil => rfl
  | append_singleton events event ih =>
    rw [ParkEventHandler.after_snoc, occupied_amiEventHandler, ParkEventHandler.after_parkingHints,
      ih, List.foldl_append]
    rfl

omit [LibraryInterface] in
theorem lamp_park : (EventHandler.park handler).lamp events =
    decide (0 < (handler.after events).parkedExtens.card) := by
  rw [EventHandler.lamp, after_parkedExtens]

end Parking

omit [LibraryInterface] in
theorem after_snoc (events : List KeyValDict) (event : KeyValDict) (handler : EventHandler) :
    handler.after (events ++ [event]) = ((handler.after events).amiEventHandler event).1 := by
  cases handler with
  | night => rfl
  | park handler =>
    simp only [EventHandler.after, ParkEventHandler.after, List.foldl_append, List.foldl_cons,
      List.foldl_nil, EventHandler.amiEventHandler]

omit [LibraryInterface] in
theorem after_phoneButton (events : List KeyValDict) (handler : EventHandler) :
    (handler.after events).phoneButton = handler.phoneButton := by
  induction events using List.reverseRecOn with
  | nil => cases handler <;> rfl
  | append_singleton events event ih =>
    rw [after_snoc, EventHandler.amiEventHandler_phoneButton, ih]

omit [LibraryInterface] in
theorem lamp_snoc (events : List KeyValDict) (event : KeyValDict) (handler : EventHandler) :
    some (handler.lamp (events ++ [event])) =
      ((handler.after events).amiEventHandler event).2.or (some (handler.lamp events)) := by
  cases handler with
  | night handler =>
    simp only [EventHandler.lamp, EventHandler.after, EventHandler.amiEventHandler, night_reported,
      lastReported_snoc]
    cases reported handler.hint event <;> simp
  | park handler =>
    have next := after_snoc events event (.park handler)
    simp only [EventHandler.after, EventHandler.amiEventHandler, EventHandler.park.injEq] at next
    simp only [lamp_park, EventHandler.after, EventHandler.amiEventHandler, next]
    exact (amiEventHandler_parking _ event _ rfl).symm

end History

section Invariant
variable {config : Configuration} {events : List KeyValDict} {s t : State}

/-- Handlers, flags and cached states after these events. -/
structure Inv (config : Configuration) (events : List KeyValDict) (s : State) : Prop where
  handlers : s.handlers = config.handlers.map (EventHandler.after events)
  lamps : ∀ handler ∈ config.handlers, isOn s.plans handler.phoneButton = some (handler.lamp events)
  rendered : Rendered s.plans

omit [LibraryInterface] in
theorem inv_start (config : Configuration) : Inv config [] (start config) where
  handlers := by
    refine (List.map_id _).symm.trans (List.map_congr_left fun handler _ => ?_)
    cases handler <;> rfl
  lamps handler member := by
    obtain ⟨on, known⟩ := Option.isSome_iff_exists.mp (config.present handler member)
    obtain ⟨plan, phoneButton, found, present, rfl⟩ := isOn_eq_some.mp known
    have off :=
      config.off plan (List.mem_of_getElem? found) phoneButton (List.mem_of_find?_eq_some present)
    rw [start, known, off]
    cases handler with
    | night => rfl
    | park handler =>
      simp [EventHandler.lamp, config.unparked handler member]
  rendered := config.rendered

omit [LibraryInterface] in
theorem Inv.distinct (held : Inv config events s) :
    (s.handlers.map EventHandler.phoneButton).Nodup := by
  have same : s.handlers.map EventHandler.phoneButton =
      config.handlers.map EventHandler.phoneButton := by
    rw [held.handlers, List.map_map]
    exact List.map_congr_left fun handler _ => after_phoneButton events handler
  rw [same]
  exact config.distinct

omit [LibraryInterface] in
theorem Inv.present (held : Inv config events s) :
    ∀ handler ∈ s.handlers, (isOn s.plans handler.phoneButton).isSome := by
  intro handler member
  rw [held.handlers] at member
  obtain ⟨original, inside, rfl⟩ := List.mem_map.mp member
  rw [after_phoneButton, held.lamps original inside]
  rfl

theorem inv_step (held : Inv config events s) (stepped : machine.step s event = some t) :
    Inv config (events ++ [event]) t := by
  cases Option.some.inj stepped
  obtain ⟨flips, _, rounds⟩ := deliver_rounds event s.plans s.handlers held.present
  refine ⟨?_, ?_, rounds.rendered held.rendered⟩
  · simp only [deliver_handlers, held.handlers, List.map_map]
    exact List.map_congr_left fun handler _ => (after_snoc events event handler).symm
  · intro handler member
    have inside : handler.after events ∈ s.handlers := by
      rw [held.handlers]
      exact List.mem_map_of_mem member
    have decided :
        isOn (deliver event s.plans s.handlers).1 (handler.after events).phoneButton = _ :=
      deliver_isOn held.distinct held.present inside
    rw [after_phoneButton, held.lamps handler member] at decided
    exact decided.trans (lamp_snoc events event handler).symm

end Invariant

section Trace

def EventHandler.monitors (hint : String) : EventHandler → Bool
  | .night handler => hint = handler.hint
  | .park handler => handler.parkingHints.contains hint

/-- The handler has already recorded the status that the event reports. -/
def EventHandler.Knows (plans : List ButtonPlan) (event : KeyValDict) : EventHandler → Prop
  | .night handler => isOn plans handler.phoneButton = some (decide (event.get "Status" = "1"))
  | .park handler => event.get "Exten" ∈ handler.parkedExtens ↔ event.get "Status" = "1"

/-- A different event type, an unmonitored hint, a status other than 0 and 1, or
a repeated status. -/
def Quiet (s : State) (event : KeyValDict) : Prop :=
  event.get "Event" ≠ "ExtensionStatus" ∨
  (∀ handler ∈ s.handlers, handler.monitors (event.get "Hint") = false) ∨
  (event.get "Status" ≠ "0" ∧ event.get "Status" ≠ "1") ∨
  (event.get "Status" = "0" ∨ event.get "Status" = "1") ∧
    ∀ handler ∈ s.handlers, handler.monitors (event.get "Hint") = true → handler.Knows s.plans event

/-- What processing one event does. -/
structure EventTrace (event : KeyValDict) (s t : State) : Prop where
  rounds : ∃ flips messages, flips.Nodup ∧ (∀ button, button ∈ flips ↔ isOn s.plans button ≠ isOn t.plans button) ∧
    t.sent = s.sent ++ messages ∧ Rounds s.plans flips messages t.plans
  untouched : ∀ p, (∀ id, isOn s.plans (p, id) = isOn t.plans (p, id)) → t.plans[p]? = s.plans[p]?
  quiet : Quiet s event → t.sent = s.sent ∧ t.plans = s.plans
  rendered : Rendered t.plans

omit [LibraryInterface] in
theorem park_known {parkedExtens : Finset String}
    (status : event.get "Status" = "0" ∨ event.get "Status" = "1")
    (known : event.get "Exten" ∈ parkedExtens ↔ event.get "Status" = "1") :
    ParkEventHandler.park parkedExtens event = parkedExtens := by
  rcases status with zero | one
  · have absent : event.get "Exten" ∉ parkedExtens := by simp [known, zero]
    simp [ParkEventHandler.park, zero, absent]
  · have inside : event.get "Exten" ∈ parkedExtens := known.mpr one
    simp [ParkEventHandler.park, one, inside]

omit [LibraryInterface] in
theorem park_unmoved (quiet : Quiet s event) (member : .park handler ∈ s.handlers) :
    (handler.amiEventHandler event).1.parkedExtens = handler.parkedExtens := by
  simp only [ParkEventHandler.amiEventHandler]
  split
  · rfl
  · rename_i type
    split
    · rfl
    · rename_i hint
      simp only [Bool.not_eq_true', Bool.not_eq_false] at type hint
      rcases quiet with other | unmonitored | ⟨notZero, notOne⟩ | ⟨status, known⟩
      · exact absurd (isExtensionStatus_iff.mp type) other
      · have here := unmonitored _ member
        simp only [EventHandler.monitors, hint, Bool.true_eq_false] at here
      · simp only [ParkEventHandler.park, notZero, notOne, if_false]
      · exact park_known status (known _ member hint)

omit [LibraryInterface] in
/-- A handler that a quiet event reaches asks for the state its button has. -/
theorem quiet_call (quiet : Quiet s event) (member : handler ∈ s.handlers)
    (lamp : ∀ parked, handler = .park parked →
      isOn s.plans parked.phoneButton = some (decide (0 < parked.parkedExtens.card))) :
    (handler.amiEventHandler event).2.or (isOn s.plans handler.phoneButton) =
      isOn s.plans handler.phoneButton := by
  cases handler with
  | night handler =>
    simp only [EventHandler.amiEventHandler, EventHandler.phoneButton,
      NightEventHandler.amiEventHandler]
    by_cases type : isExtensionStatus event = true
    · by_cases hint : event.get "Hint" = handler.hint
      · rcases quiet with other | unmonitored | ⟨notZero, notOne⟩ | ⟨status, known⟩
        · exact absurd (isExtensionStatus_iff.mp type) other
        · have here := unmonitored _ member
          simp [EventHandler.monitors, hint] at here
        · simp [type, hint, notZero, notOne]
        · have here := known _ member (by simp [EventHandler.monitors, hint])
          simp only [EventHandler.Knows] at here
          rcases status with zero | one
          · simp [type, hint, zero, here]
          · simp [type, hint, one, here]
      · simp [type, hint]
    · simp [type]
  | park handler =>
    simp only [EventHandler.amiEventHandler, EventHandler.phoneButton]
    rw [lamp handler rfl, amiEventHandler_parking handler event _ rfl, park_unmoved quiet member]

/-- The trace of notifications is determined by the changes of state, and the
night buttons by the last status of their hints. -/
theorem notification_trace (config : Configuration) (reached : machine.run (start config) events = some s) :
    (∀ handler, .night handler ∈ config.handlers →
      isOn s.plans handler.phoneButton = some ((lastReported handler.hint events).getD false)) ∧
    ∀ event, ∃ t, machine.step s event = some t ∧ EventTrace event s t := by
  have held : Inv config events s :=
    Machine.trace_invariant (C := fun _ _ => True) (P := Inv config) (inv_start config)
      (fun before _ stepped => inv_step before stepped)
      (Machine.Meets.of_labels fun _ _ => trivial) reached
  refine ⟨fun handler member => held.lamps _ member, fun event => ⟨_, rfl, ?_⟩⟩
  obtain ⟨flips, inside, rounds⟩ := deliver_rounds event s.plans s.handlers held.present
  have distinct := held.distinct.sublist inside
  have flipped := rounds.mem_flips distinct
  refine ⟨⟨flips, _, distinct, flipped, rfl, rounds⟩,
    fun p same => rounds.untouched ?_, fun quiet => ?_,
    rounds.rendered held.rendered⟩
  · rintro ⟨q, id⟩ member rfl
    exact (flipped (q, id)).mp member (same id)
  · have none : flips = [] := by
      apply List.eq_nil_iff_forall_not_mem.mpr
      intro button member
      apply (flipped button).mp member
      obtain ⟨handler, known, rfl⟩ := List.mem_map.mp (inside.subset member)
      rw [deliver_isOn held.distinct held.present known, quiet_call quiet known]
      rintro parked rfl
      have original := known
      rw [held.handlers] at original
      obtain ⟨first, configured, same⟩ := List.mem_map.mp original
      have lamp := held.lamps first configured
      rw [← after_phoneButton events, same] at lamp
      cases first with
      | night => contradiction
      | park first =>
        cases same
        exact lamp.trans (congrArg some (lamp_park events first))
    subst none
    obtain ⟨silent, same⟩ := rounds.of_nil
    exact ⟨by simp only [silent, List.append_nil], same⟩

end Trace
end Runs

section NightOn

local instance : LibraryInterface := sequentialInterface

theorem officePlans_off : ∀ plan ∈ [officePlan], ∀ button ∈ plan.buttons, button.isOn = false := by
  simp [officePlan, PhoneButton.isOn]

theorem officePlans_rendered :
    ∀ plan ∈ [officePlan], ∀ ui ∈ plan.phoneUis, ui.cachedButtonState = render plan.buttons := by
  simp [officePlan]

def officeConfiguration : Configuration where
  plans := [officePlan]
  handlers := [.night ⟨(0, 1), "Custom:night"⟩]
  off := officePlans_off
  rendered := officePlans_rendered
  distinct := by simp
  present := by
    intro handler member
    rw [List.mem_singleton.mp member]
    rfl
  unparked := by simp

def nightOn : KeyValDict := ⟨[("Event", "ExtensionStatus"), ("Hint", "Custom:night"), ("Status", "1")]⟩

/-- One event switches the night button on, and its round is one notification. -/
theorem notification_trace_night : ∃ s, machine.run (start officeConfiguration) [nightOn] = some s ∧
    isOn s.plans (0, 1) = some true ∧
    s.sent = [⟨"1001", ["Event=Yealink-xml", "Content-Type=application/xml",
      "Content=<?xml version=\"1.0\" encoding=\"ISO-8859-1\"?><YealinkIPPhoneExecute refresh=\"1\" " ++
        "Beep=\"yes\"><ExecuteItem URI=\"Led:LINE1_RED=on\"/></YealinkIPPhoneExecute>"]⟩] := by
  have started : machine.run (start officeConfiguration) [] = some (start officeConfiguration) :=
    rfl
  obtain ⟨s, stepped, traced⟩ := (notification_trace officeConfiguration started).2 nightOn
  have reached : machine.run (start officeConfiguration) [nightOn] = some s :=
    Machine.run_cons.mpr ⟨s, stepped, rfl⟩
  have lamp : isOn s.plans (0, 1) = some true :=
    ((notification_trace officeConfiguration reached).1 _ List.mem_cons_self).trans (by decide)
  obtain ⟨flips, messages, distinct, flipped, sent, rounds⟩ := traced.rounds
  have first : isOn officeConfiguration.plans (0, 1) = some false := rfl
  have alone : flips = [(0, 1)] := by
    refine List.perm_singleton.mp
      ((List.perm_ext_iff_of_nodup distinct (by simp)).mpr fun button => ?_)
    rw [List.mem_singleton]
    constructor
    · intro inside
      obtain ⟨on, known⟩ := Option.isSome_iff_exists.mp (rounds.flipped_present distinct inside)
      obtain ⟨p, id⟩ := button
      obtain ⟨plan, phoneButton, found, present, _⟩ := isOn_eq_some.mp known
      obtain rfl : p = 0 := Nat.lt_one_iff.mp (List.getElem?_eq_some_iff.mp found).1
      cases Option.some.inj found
      obtain rfl := List.mem_singleton.mp (List.mem_of_find?_eq_some present)
      obtain rfl : 1 = id := by simpa using List.find?_some present
      rfl
    · rintro rfl
      exact (flipped _).mpr (by rw [lamp]; exact fun same => nomatch first.symm.trans same)
  subst alone
  cases rounds with
  | cons found present round rest =>
    cases Option.some.inj found
    cases Option.some.inj present
    obtain ⟨rfl, _⟩ := rest.of_nil
    refine ⟨s, reached, lamp, ?_⟩
    rw [sent, List.perm_singleton.mp round]
    decide +kernel

end NightOn
end LampMonitor.Asterisk
