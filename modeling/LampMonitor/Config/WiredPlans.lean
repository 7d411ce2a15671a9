import LampMonitor.Config.RenderedPlans

/-! The plans that a successful start-up leaves, whatever the configuration was and
whether or not it meets the schema: buttons under their own ids, all off, and event
handlers that each switch the button of their own id. -/
namespace LampMonitor.Config
open ButtonState Fallible Script

variable [ScalarInterface]

theorem createPhoneButton_off (created : (createPhoneButton entry).outcome = .ok button) :
    button.isOn = false := by
  simp only [createPhoneButton, outcome_bind, bind_eq_ok, outcome_pure, Except.ok.injEq] at created
  obtain ⟨_, _, _, _, _, _, _, _, _, _, _, _, _, _, rfl⟩ := created
  rfl

/-- The buttons of the entries so far: off, and one for the id of each entry. -/
structure Added (before : List Node) (plan : Plan) : Prop where
  off : ∀ row ∈ plan.buttons.rows, row.2.isOn = false
  handlers : plan.eventHandlers = .empty
  present : ∀ entry ∈ before, ∀ id, entry.get Node.asUInt16 "id" = some id →
    (plan.getButton id).isSome = true

theorem Added.step (held : Added before plan)
    (added : (addConfiguredButton plan entry).outcome = .ok plan') :
    Added (before ++ [entry]) plan' := by
  obtain ⟨button, created, added⟩ := bind_eq_ok.mp ((outcome_bind _ _).symm.trans added)
  have id := createPhoneButton_id created
  have result : plan' = { plan with buttons := plan.buttons.emplace button.buttonId button } := by
    by_cases taken : (plan.getButton button.buttonId).isSome = true
    · obtain rfl : plan = plan' := by simpa [Plan.addButton, taken] using added
      have known : (plan.buttons.find? button.buttonId).isSome = true := taken
      rw [KeyedTable.emplace, if_pos known]
    · simpa [Plan.addButton, taken, eq_comm] using added
  have lookup : ∀ id, plan'.getButton id =
      (plan.getButton id).or (if id = button.buttonId then some button else none) := by
    intro id
    rw [result]
    exact KeyedTable.find?_emplace plan.buttons button.buttonId id button
  constructor
  · intro row member
    rw [result] at member
    rcases KeyedTable.mem_emplace member with before | rfl
    · exact held.off row before
    · exact createPhoneButton_off created
  · rw [result]
    exact held.handlers
  · intro other member id' found
    rw [lookup]
    rcases List.mem_append.mp member with earlier | here
    · have known := held.present other earlier id' found
      simp [known]
    · obtain rfl := List.mem_singleton.mp here
      cases Option.some.inj (id.symm.trans found)
      simp

/-- An entry gives at most one handler, for the button of its id. -/
theorem createEventHandler_cases (created : (createEventHandler plan handlers entry).outcome = .ok handlers') :
    handlers' = handlers ∨ ∃ id handler, entry.get Node.asUInt16 "id" = some id ∧
      handler.phoneButton = plan.getButton id ∧ handlers' = handlers ++ [(id, handler)] := by
  simp only [createEventHandler, outcome_bind, bind_eq_ok] at created
  obtain ⟨id, found, type, _, created⟩ := created
  have id := outcome_read_ok.mp found
  split at created
  · simp only [outcome_bind, bind_eq_ok, outcome_pure, Except.ok.injEq] at created
    obtain ⟨hint, _, rfl⟩ := created
    exact .inr ⟨_, _, id, rfl, rfl⟩
  · split at created
    · simp only [outcome_bind, bind_eq_ok, outcome_pure, Except.ok.injEq] at created
      obtain ⟨lot, _, _, _, rfl⟩ := created
      exact .inr ⟨_, _, id, rfl, rfl⟩
    · simp only [outcome_bind, bind_eq_ok, outcome_pure, Except.ok.injEq] at created
      obtain ⟨_, _, rfl⟩ := created
      exact .inl rfl

/-- Every handler goes by the id of an entry and has the button of that id. -/
def Numbered (plan : Plan) (before : List Node) (handlers : List (UInt16 × EventHandler)) : Prop :=
  ∀ row ∈ handlers, row.2.phoneButton = plan.getButton row.1 ∧
    ∃ entry ∈ before, entry.get Node.asUInt16 "id" = some row.1

theorem Numbered.step (held : Numbered plan before handlers)
    (created : (createEventHandler plan handlers entry).outcome = .ok handlers') :
    Numbered plan (before ++ [entry]) handlers' := by
  have older : Numbered plan (before ++ [entry]) handlers := by
    intro row member
    obtain ⟨same, other, inside, found⟩ := held row member
    exact ⟨same, other, List.mem_append_left _ inside, found⟩
  rcases createEventHandler_cases created with rfl | ⟨id, handler, found, same, rfl⟩
  · exact older
  · intro row member
    rcases List.mem_append.mp member with earlier | here
    · exact older row earlier
    · obtain rfl := List.mem_singleton.mp here
      exact ⟨same, entry, by simp, found⟩

end LampMonitor.Config
