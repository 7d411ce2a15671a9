import LampMonitor.Config.Reads

/-! The plan that comes of a configuration entry. Of several buttons with one id
the first gives the button and the first gives the handler, so every handler has
a button. Reading the entry fails on ids that do not fit and on nothing else. -/
namespace LampMonitor.Config
open Fallible Script ButtonState Schema

section Steps
variable {plan plan' : Plan}

theorem toColor_ok (type : String) : ∃ color, (toColor type).outcome = .ok color := by
  unfold toColor
  split_ifs <;> simp

theorem toFlashMode_ok (mode : String) : ∃ flash, (toFlashMode mode).outcome = .ok flash := by
  unfold toFlashMode
  split_ifs <;> simp

theorem getButton_addButton {phoneButton : PhoneButton}
    (added : (plan.addButton phoneButton).outcome = .ok plan') :
    plan'.name = plan.name ∧ plan'.eventHandlers = plan.eventHandlers ∧ ∀ id, plan'.getButton id =
      (plan.getButton id).or (if phoneButton.buttonId = id then some phoneButton else none) := by
  by_cases taken : (plan.getButton phoneButton.buttonId).isSome = true
  · obtain rfl : plan = plan' := by simpa [Plan.addButton, taken] using added
    refine ⟨rfl, rfl, fun id => ?_⟩
    obtain ⟨old, found⟩ := Option.isSome_iff_exists.mp taken
    by_cases same : phoneButton.buttonId = id
    · simp [← same, found]
    · simp [same]
  · obtain rfl : { plan with buttons := plan.buttons.emplace phoneButton.buttonId phoneButton } = plan' := by
      simpa [Plan.addButton, taken] using added
    refine ⟨rfl, rfl, fun id => ?_⟩
    simp only [Plan.getButton, KeyedTable.find?_emplace, @eq_comm _ id]

theorem addButton_ok (plan : Plan) (phoneButton : PhoneButton) :
    ∃ plan', (plan.addButton phoneButton).outcome = .ok plan' := by
  unfold Plan.addButton
  split <;> simp

theorem addEventHandlers_lookup (handlers : List (UInt16 × EventHandler)) (plan : Plan) :
    (∀ id, (plan.addEventHandlers handlers).getEventHandler id =
      (plan.getEventHandler id).or ((handlers.find? (·.1 = id)).map (·.2))) ∧
    ∀ id, (plan.addEventHandlers handlers).getButton id = plan.getButton id := by
  induction handlers generalizing plan with
  | nil => simp [Plan.addEventHandlers]
  | cons handler rest ih =>
    obtain ⟨found, kept⟩ := ih (plan.addEventHandler handler.1 handler.2)
    refine ⟨fun id => ?_, kept⟩
    refine (found id).trans ?_
    simp only [Plan.getEventHandler, Plan.addEventHandler, KeyedTable.find?_emplace,
      List.find?_cons, Option.or_assoc]
    by_cases same : handler.1 = id
    · simp [same]
    · simp [same, Ne.symm same]

end Steps

variable [ScalarInterface]

/-- The entry that an id of the plan stands for. -/
def entryWith (buttons : List Node) (id : UInt16) : Option Node :=
  buttons.find? fun button => button.get Node.asUInt16 "id" = some id

theorem entryWith_snoc (buttons : List Node) (button : Node) (id : UInt16) :
    entryWith (buttons ++ [button]) id =
      (entryWith buttons id).or
      (if button.get Node.asUInt16 "id" = some id then some button else none) := by
  by_cases here : button.get Node.asUInt16 "id" = some id <;>
    simp [entryWith, List.find?_append, here]

def FitsId (button : Node) : Prop := (button.get Node.asUInt16 "id").isSome

abbrev buttonSchema : Schema := derived buttonPlanButtonFields buttonVariants

/-- The button that an entry gives. -/
def buttonOf (button : Node) : Option PhoneButton := (createPhoneButton button).outcome.toOption

/-- The handler that an entry gives for a button. -/
def handlerOf (phoneButton : Option PhoneButton) (button : Node) : Option EventHandler :=
  if button.get Node.asString "type" = some "night_button" then
    (button.get Node.asString "hint").map (.night phoneButton)
  else if button.get Node.asString "type" = some "park_button" then
    (button.get Node.asString "parking_lot").map (.park phoneButton)
  else none

section Buttons
variable {button : Node} {id : UInt16}

theorem createPhoneButton_ok
    (accepted : (record (buttonPlanButtonFields ++ fields)).accepts button = true)
    (fits : button.get Node.asUInt16 "id" = some id) :
    ∃ phoneButton, (createPhoneButton button).outcome = .ok phoneButton ∧
    phoneButton.buttonId = id := by
  obtain ⟨colorText, hc, -⟩ := get_string accepted
    (show defaulted "color" (string ["red", "green", "blue"]) "red" ∈
      buttonPlanButtonFields ++ fields by
      simp [buttonPlanButtonFields]) rfl
  obtain ⟨flashText, hf, -⟩ := get_string accepted
    (show defaulted "flash" (string ["off", "slow", "fast"]) "off" ∈
      buttonPlanButtonFields ++ fields by
      simp [buttonPlanButtonFields]) rfl
  obtain ⟨criticalOn, hon⟩ := get_bool accepted
    (show defaulted "critical_on" Schema.bool "false" ∈ buttonPlanButtonFields ++ fields by
      simp [buttonPlanButtonFields]) rfl
  obtain ⟨criticalOff, hoff⟩ := get_bool accepted
    (show defaulted "critical_off" Schema.bool "false" ∈ buttonPlanButtonFields ++ fields by
      simp [buttonPlanButtonFields]) rfl
  obtain ⟨color, color_ok⟩ := toColor_ok colorText
  obtain ⟨flash, flash_ok⟩ := toFlashMode_ok flashText
  exact ⟨⟨id, color, flash, criticalOn, criticalOff, false⟩, by
    simp [createPhoneButton, outcome_read fits, outcome_read hc,
      outcome_read hf, outcome_read hon, outcome_read hoff,
      color_ok, flash_ok], rfl⟩

/-- The id is read first. -/
theorem createPhoneButton_error (unfit : button.get Node.asUInt16 "id" = none) :
    ∃ s, (createPhoneButton button).outcome = .error s ∧ s.IsException := by
  cases ended : (read Node.asUInt16 (.valid button) "id").outcome with
  | ok a => simp [outcome_read_ok.mp ended] at unfit
  | error s => exact ⟨s, by simp [createPhoneButton, ended], (outcome_read_error ended).2⟩

theorem createPhoneButton_cases (accepted : buttonSchema.accepts button = true) :
    (∃ id phoneButton, button.get Node.asUInt16 "id" = some id ∧
      (createPhoneButton button).outcome = .ok phoneButton ∧ phoneButton.buttonId = id) ∨
    ¬ FitsId button ∧ ∃ s, (createPhoneButton button).outcome = .error s ∧ s.IsException := by
  obtain ⟨type, fields, -, -, here⟩ := derived_accepts accepted
  cases fits : button.get Node.asUInt16 "id" with
  | some id =>
    obtain ⟨phoneButton, created, same⟩ := createPhoneButton_ok here fits
    exact Or.inl ⟨id, phoneButton, rfl, created, same⟩
  | none => exact Or.inr ⟨by simp [FitsId, fits], createPhoneButton_error fits⟩

theorem buttonOf_some (accepted : buttonSchema.accepts button = true)
    (fits : button.get Node.asUInt16 "id" = some id) :
    ∃ phoneButton, buttonOf button = some phoneButton ∧ phoneButton.buttonId = id := by
  rcases createPhoneButton_cases accepted with ⟨id', phoneButton, fits', created, same⟩ | ⟨unfit, -⟩
  · obtain rfl : id' = id := Option.some.inj (fits'.symm.trans fits)
    exact ⟨phoneButton, by simp [buttonOf, created, Except.toOption], same⟩
  · simp [FitsId, fits] at unfit

theorem handlerOf_some (accepted : buttonSchema.accepts button = true)
    (phoneButton : Option PhoneButton) :
    ∃ handler, handlerOf phoneButton button = some handler ∧ handler.phoneButton = phoneButton := by
  obtain ⟨type, fields, named, found, here⟩ := derived_accepts accepted
  rcases buttonVariants_lookup.mp found with ⟨rfl, rfl⟩ | ⟨rfl, rfl⟩
  · obtain ⟨hint, hh, -⟩ := get_string here
      (show mandatory "hint" (string []) ∈ buttonPlanButtonFields ++ nightButtonFields by
        simp [nightButtonFields]) rfl
    exact ⟨.night phoneButton hint, by simp [handlerOf, named, hh], rfl⟩
  · obtain ⟨lot, hl, -⟩ := get_string here
      (show mandatory "parking_lot" (string []) ∈ buttonPlanButtonFields ++ parkButtonFields by
        simp [parkButtonFields]) rfl
    exact ⟨.park phoneButton lot, by simp [handlerOf, named, hl], rfl⟩

end Buttons

section Plans
variable {planCfg : Node} {buttons before : List Node} {plan plan' : Plan} {id : UInt16}

/-- The plan holds the buttons of the entries so far. -/
structure Holds (name : String) (before : List Node) (plan : Plan) : Prop where
  name : plan.name = name
  handlers : plan.eventHandlers = .empty
  known : ∀ button ∈ before, (buttonOf button).isSome
  buttons : ∀ id, plan.getButton id = (entryWith before id).bind buttonOf

theorem Holds.snoc {name : String} {button : Node} {phoneButton : PhoneButton}
    (holds : Holds name before plan)
    (created : (createPhoneButton button).outcome = .ok phoneButton)
    (fits : button.get Node.asUInt16 "id" = some phoneButton.buttonId)
    (added : (plan.addButton phoneButton).outcome = .ok plan') :
    Holds name (before ++ [button]) plan' := by
  obtain ⟨sameName, sameHandlers, lookup⟩ := getButton_addButton added
  have here : buttonOf button = some phoneButton := by simp [buttonOf, created, Except.toOption]
  refine ⟨sameName.trans holds.name, sameHandlers.trans holds.handlers, ?_, fun id => ?_⟩
  · simpa [here, or_imp, forall_and] using holds.known
  · rw [lookup, holds.buttons, entryWith_snoc, fits]
    simp only [Option.some.injEq]
    cases old : entryWith before id with
    | none =>
      by_cases same : phoneButton.buttonId = id
      · simp [same, here]
      · simp [same]
    | some first =>
      obtain ⟨b, hb⟩ :=
        Option.isSome_iff_exists.mp (holds.known first (List.mem_of_find?_eq_some old))
      simp [hb]

theorem addButtons_tracks (name : String) :
    Tracks (buttonSchema.accepts · = true) addConfiguredButton
      (Holds name) (fun _ button => FitsId button) where
  ok {before s button s'} accepted holds finished := by
    obtain ⟨phoneButton, created, added⟩ := bind_eq_ok.mp ((outcome_bind _ _).symm.trans finished)
    rcases createPhoneButton_cases accepted with
      ⟨id, other, fits, created', same⟩ | ⟨-, s, stopped, -⟩
    · obtain rfl : phoneButton = other := Except.ok.inj (created.symm.trans created')
      exact ⟨by simp [FitsId, fits], holds.snoc created (same ▸ fits) added⟩
    · simp [stopped] at created
  pass {before s button} accepted _ fits := by
    rcases createPhoneButton_cases accepted with ⟨id, phoneButton, -, created, -⟩ | ⟨unfit, -⟩
    · obtain ⟨plan', added⟩ := addButton_ok s phoneButton
      exact ⟨plan', by rw [addConfiguredButton, outcome_bind, created, ok_bind, added]⟩
    · exact absurd fits unfit

theorem addConfiguredButton_error {button : Node} (accepted : buttonSchema.accepts button = true)
    (stopped : (addConfiguredButton plan button).outcome = .error s) : s.IsException := by
  rcases createPhoneButton_cases accepted with
    ⟨id, phoneButton, -, created, -⟩ | ⟨-, s', ended, thrown⟩
  · obtain ⟨plan', added⟩ := addButton_ok plan phoneButton
    simp [addConfiguredButton, created, added] at stopped
  · obtain rfl : s' = s := by simpa [addConfiguredButton, ended] using stopped
    exact thrown

theorem buttons_accepted (accepted : (record buttonPlanFields).accepts planCfg = true) :
    ∀ button ∈ planCfg.itemsAt "buttons", buttonSchema.accepts button = true :=
  items_accepted accepted
    (show mandatory "buttons" (list buttonSchema) ∈ buttonPlanFields by simp [buttonPlanFields])

/-- The ids of all buttons are 16-bit numbers. -/
def FitsIds (planCfg : Node) : Prop := ∀ button ∈ planCfg.itemsAt "buttons", FitsId button

theorem createPlan_cases (accepted : (record buttonPlanFields).accepts planCfg = true) :
    (FitsIds planCfg ∧ ∃ name plan, (createPlan planCfg).outcome = .ok plan ∧
      Holds name (planCfg.itemsAt "buttons") plan) ∨
    ¬ FitsIds planCfg ∧ ∃ s, (createPlan planCfg).outcome = .error s ∧ s.IsException := by
  obtain ⟨name, hn, -⟩ := get_string accepted
    (show mandatory "name" (string []) ∈ buttonPlanFields by simp [buttonPlanFields]) rfl
  have all := buttons_accepted accepted
  have start : Holds name [] ⟨name, .empty, .empty⟩ :=
    ⟨rfl, rfl, List.forall_mem_nil _, fun _ => rfl⟩
  have course : (createPlan planCfg).outcome =
      ((planCfg.itemsAt "buttons").foldlM addConfiguredButton ⟨name, .empty, .empty⟩).outcome := by
    simp [createPlan, outcome_read hn, outcome_index (record_accepts.mp accepted).1, elim_items]
  rw [course]
  by_cases fits : FitsIds planCfg
  · obtain ⟨plan, finished⟩ := (addButtons_tracks name).loop_pass all start (allPass_each.mpr fits)
    exact Or.inl ⟨fits, name, plan, finished,
      ((addButtons_tracks name).loop_ok all start finished).2⟩
  · refine Or.inr ⟨fits, ?_⟩
    cases ended :
      ((planCfg.itemsAt "buttons").foldlM addConfiguredButton ⟨name, .empty, .empty⟩).outcome with
    | ok plan =>
      exact absurd (allPass_each.mp ((addButtons_tracks name).loop_ok all start ended).1) fits
    | error s =>
      have stops :=
        (addButtons_tracks name).loop_stopsWith (Q := fun _ s => s.IsException) [] all start id
        fun known _ e stopped => addConfiguredButton_error known stopped
      exact ⟨s, rfl, stops s ended⟩

/-- What the handlers built so far answer for an id. -/
structure Handles (plan : Plan) (before : List Node) (handlers : List (UInt16 × EventHandler)) : Prop where
  known : ∀ button ∈ before, buttonSchema.accepts button = true
  lookup : ∀ id, (handlers.find? (·.1 = id)).map (·.2) = (entryWith before id).bind (handlerOf (plan.getButton id))

theorem createEventHandler_ok {button : Node} {handlers : List (UInt16 × EventHandler)}
    (accepted : buttonSchema.accepts button = true) (fits : button.get Node.asUInt16 "id" = some id)
    (handles : Handles plan before handlers) :
    ∃ handler, (createEventHandler plan handlers button).outcome =
      .ok (handlers ++ [(id, handler)]) ∧
      Handles plan (before ++ [button]) (handlers ++ [(id, handler)]) := by
  obtain ⟨handler, here, -⟩ := handlerOf_some accepted (plan.getButton id)
  refine ⟨handler, ?_, ?_, fun id' => ?_⟩
  · obtain ⟨type, fields, named, found, inner⟩ := derived_accepts accepted
    rcases buttonVariants_lookup.mp found with ⟨rfl, rfl⟩ | ⟨rfl, rfl⟩
    · obtain ⟨hint, hh, rfl⟩ : ∃ hint, button.get Node.asString "hint" = some hint ∧
          EventHandler.night (plan.getButton id) hint = handler := by
          simpa [handlerOf, named] using here
      simp [createEventHandler, outcome_read fits, outcome_read named, outcome_read hh]
    · obtain ⟨lot, hl, rfl⟩ : ∃ lot, button.get Node.asString "parking_lot" = some lot ∧
          EventHandler.park (plan.getButton id) lot = handler := by
          simpa [handlerOf, named] using here
      simp [createEventHandler, outcome_read fits, outcome_read named, outcome_read hl]
  · simpa [accepted, or_imp, forall_and] using handles.known
  · rw [List.find?_append, Option.map_or, handles.lookup, entryWith_snoc, fits]
    simp only [Option.some.injEq]
    cases old : entryWith before id' with
    | none =>
      by_cases same : id = id'
      · subst same
        simp [here]
      · simp [same]
    | some first =>
      obtain ⟨h, hh, -⟩ :=
        handlerOf_some (handles.known first (List.mem_of_find?_eq_some old)) (plan.getButton id')
      simp [hh]

/-- The plan of an entry: each id leads to the first of its buttons and to that
button's handler. -/
structure PlanOf (planCfg : Node) (plan : Plan) : Prop where
  buttons : ∀ id, plan.getButton id = (entryWith (planCfg.itemsAt "buttons") id).bind buttonOf
  handlers : ∀ id, plan.getEventHandler id =
    (entryWith (planCfg.itemsAt "buttons") id).bind (handlerOf (plan.getButton id))

theorem createEventHandlers_ok (plan : Plan)
    (accepted : (record buttonPlanFields).accepts planCfg = true) (fits : FitsIds planCfg) :
    ∃ handlers, (createEventHandlers plan planCfg).outcome = .ok handlers ∧
      Handles plan (planCfg.itemsAt "buttons") handlers := by
  have tracks : Tracks (fun button => buttonSchema.accepts button = true ∧ FitsId button)
      (createEventHandler plan)
      (Handles plan) (fun _ _ => True) := by
    refine ⟨fun {before handlers button handlers'} known handles finished => ?_,
      fun {before handlers button} known handles _ => ?_⟩
    · obtain ⟨id, here⟩ := Option.isSome_iff_exists.mp known.2
      obtain ⟨handler, created, after⟩ := createEventHandler_ok known.1 here handles
      obtain rfl : handlers ++ [(id, handler)] = handlers' :=
        Except.ok.inj (created.symm.trans finished)
      exact ⟨trivial, after⟩
    · obtain ⟨id, here⟩ := Option.isSome_iff_exists.mp known.2
      obtain ⟨handler, created, -⟩ := createEventHandler_ok known.1 here handles
      exact ⟨_, created⟩
  have all : ∀ button ∈ planCfg.itemsAt "buttons",
      buttonSchema.accepts button = true ∧ FitsId button :=
    fun button member => ⟨buttons_accepted accepted button member, fits button member⟩
  have start : Handles plan [] [] := ⟨nofun, fun _ => rfl⟩
  obtain ⟨handlers, finished⟩ := tracks.loop_pass all start (allPass_each.mpr fun _ _ => trivial)
  refine ⟨handlers, ?_, (tracks.loop_ok all start finished).2⟩
  simp [createEventHandlers, outcome_index (record_accepts.mp accepted).1, elim_items, finished]

theorem createFullPlan_cases (accepted : (record buttonPlanFields).accepts planCfg = true) :
    (FitsIds planCfg ∧ ∃ plan, (createFullPlan planCfg).outcome = .ok plan ∧ PlanOf planCfg plan) ∨
    ¬ FitsIds planCfg ∧ ∃ s, (createFullPlan planCfg).outcome = .error s ∧ s.IsException := by
  rcases createPlan_cases accepted with
    ⟨fits, name, plan, created, holds⟩ | ⟨unfit, s, ended, thrown⟩
  · obtain ⟨handlers, built, handles⟩ := createEventHandlers_ok plan accepted fits
    obtain ⟨lookup, kept⟩ := addEventHandlers_lookup handlers plan
    refine Or.inl ⟨fits, plan.addEventHandlers handlers,
      by simp [createFullPlan, created, built], ?_, ?_⟩
    · intro id
      rw [kept, holds.buttons]
    · intro id
      have empty : plan.getEventHandler id = none := by
        simp [Plan.getEventHandler, holds.handlers, KeyedTable.find?, KeyedTable.empty]
      rw [lookup, kept, empty, Option.none_or, handles.lookup]
  · exact Or.inr ⟨unfit, s, by simp [createFullPlan, ended], thrown⟩

end Plans
end LampMonitor.Config
