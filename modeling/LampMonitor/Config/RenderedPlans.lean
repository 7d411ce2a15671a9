import LampMonitor.Bridge.LedCommands
import LampMonitor.Config.Reads

/-! From the configuration of a plan to the LEDs of its phones. A plan keeps its
buttons under their ids, and whatever order the map enumerates them in, a phone
that executes the rendering ends up with the same LEDs. -/
namespace LampMonitor.Config
open Bridge ButtonState Fallible Script Xml

/-- The buttons of a plan with these flags, in some order. -/
def Plan.lit (plan : Plan) (on : UInt16 → Bool) : List PhoneButton :=
  plan.buttons.rows.map fun row => row.2.exchange (on row.1)

theorem nodup_lines {plan : Plan} {order : List PhoneButton}
    (keyed : ∀ row ∈ plan.buttons.rows, row.1 = row.2.buttonId)
    (listed : order.Perm (plan.lit on)) : ((order.map ledOf).map Led.line).Nodup := by
  have ids : (plan.lit on).map PhoneButton.buttonId = plan.buttons.rows.map Prod.fst := by
    rw [Plan.lit, List.map_map]
    exact List.map_congr_left fun row member => (keyed row member).symm
  have unique : (order.map PhoneButton.buttonId).Nodup :=
    (listed.map PhoneButton.buttonId).nodup_iff.mpr (ids ▸ plan.buttons.unique)
  have lines : (order.map ledOf).map Led.line =
      (order.map PhoneButton.buttonId).map UInt16.toNat := by
    simp only [List.map_map]
    rfl
  rw [lines]
  exact unique.map fun _ _ same => UInt16.toNat_inj.mp same

section Building
variable [ScalarInterface]

theorem createPhoneButton_id (created : (createPhoneButton entry).outcome = .ok button) :
    entry.get Node.asUInt16 "id" = some button.buttonId := by
  simp only [createPhoneButton, outcome_bind, bind_eq_ok, outcome_pure, Except.ok.injEq] at created
  obtain ⟨id, found, _, _, _, _, _, _, _, _, _, _, _, _, rfl⟩ := created
  exact outcome_read_ok.mp found

/-- No two entries have the same id. -/
def Distinct (entries : List Node) : Prop := (entries.map (Node.get Node.asUInt16 · "id")).Nodup

instance (entries : List Node) : Decidable (Distinct entries) :=
  inferInstanceAs (Decidable (List.Nodup _))

/-- The buttons of the entries so far are under their own ids, and with distinct
ids all of them are there. -/
structure Built (before : List Node) (plan : Plan) : Prop where
  keyed : ∀ row ∈ plan.buttons.rows, row.1 = row.2.buttonId
  complete : Distinct before →
    before.map (fun entry => (createPhoneButton entry).outcome) = plan.buttons.rows.map fun row =>
    .ok row.2

theorem Built.fresh (built : Built before plan) (distinct : Distinct (before ++ [entry]))
    (created : (createPhoneButton entry).outcome = .ok button) :
    plan.getButton button.buttonId = none := by
  refine KeyedTable.find?_eq_none.mpr fun row member same => ?_
  simp only [Distinct, List.map_append, List.map_singleton, List.nodup_append] at distinct
  obtain ⟨earlier, _, apart⟩ := distinct
  have made : Except.ok row.2 ∈ before.map fun entry => (createPhoneButton entry).outcome := by
    rw [built.complete earlier]
    exact List.mem_map_of_mem (f := fun row : UInt16 × PhoneButton => Except.ok row.2) member
  obtain ⟨other, known, outcome⟩ := List.mem_map.mp made
  have clash : other.get Node.asUInt16 "id" = entry.get Node.asUInt16 "id" := by
    rw [createPhoneButton_id outcome, createPhoneButton_id created, ← built.keyed row member, same]
  exact apart _ (List.mem_map_of_mem known) _ (by simp) clash

theorem Built.step (built : Built before plan)
    (added : (addConfiguredButton plan entry).outcome = .ok plan') :
    Built (before ++ [entry]) plan' := by
  obtain ⟨button, created, added⟩ := bind_eq_ok.mp ((outcome_bind _ _).symm.trans added)
  by_cases taken : (plan.getButton button.buttonId).isSome = true
  · obtain rfl : plan = plan' := by simpa [Plan.addButton, taken] using added
    refine ⟨built.keyed, fun distinct => ?_⟩
    simp [built.fresh distinct created] at taken
  · obtain rfl : { plan with buttons := plan.buttons.emplace button.buttonId button } = plan' := by
      simpa [Plan.addButton, taken] using added
    have free : plan.buttons.find? button.buttonId = none := by simpa [Plan.getButton] using taken
    have rows : (plan.buttons.emplace button.buttonId button).rows =
        plan.buttons.rows ++ [(button.buttonId, button)] :=
      KeyedTable.emplace_fresh free
    refine ⟨fun row member => ?_, fun distinct => ?_⟩
    · simp only [rows, List.mem_append, List.mem_singleton] at member
      rcases member with earlier | rfl
      · exact built.keyed row earlier
      · rfl
    · have earlier : Distinct before := by
        rw [Distinct, List.map_append, List.nodup_append] at distinct
        exact distinct.1
      simp only [rows, List.map_append, List.map_singleton, built.complete earlier, created]

theorem createPlan_built (created : (createPlan config).outcome = .ok plan) :
    ∃ buttons, (index (.valid config) "buttons").outcome = .ok buttons ∧
    Built buttons.items plan := by
  simp only [createPlan, outcome_bind, bind_eq_ok] at created
  obtain ⟨name, _, buttons, indexed, finished⟩ := created
  have start : Built [] ⟨name, .empty, .empty⟩ := ⟨List.forall_mem_nil _, fun _ => rfl⟩
  exact ⟨buttons, indexed, loop_invariant (R := Built) Built.step start finished⟩

/-- For any order of the buttons and any flags: one command for each configured
button, the LEDs of exactly these buttons, and the critical flag, all the same
for every order. -/
theorem rendering_order_free (created : (createPlan config).outcome = .ok plan)
    (indexed : (index (.valid config) "buttons").outcome = .ok entries)
    (distinct : Distinct entries.items) (on : UInt16 → Bool) (critical : Bool) :
    entries.items.map (fun entry => (createPhoneButton entry).outcome) =
      plan.buttons.rows.map (fun row => .ok row.2) ∧
    ∃ lamps flag, Shows (plan.lit on) lamps ∧
    flag = (critical || (plan.lit on).any PhoneButton.isCritical) ∧
      ∀ order : List PhoneButton, order.Perm (plan.lit on) → ∃ leds,
        readRendering (createYealinkXML order critical).1 = some ⟨leds, flag⟩ ∧
        leds.length = entries.items.length ∧
        execute leds = lamps ∧ (createYealinkXML order critical).2 = flag := by
  obtain ⟨entries', indexed', built⟩ := createPlan_built created
  obtain rfl : entries = entries' := Except.ok.inj (indexed.symm.trans indexed')
  have complete := built.complete distinct
  refine ⟨complete, execute ((plan.lit on).map ledOf), _,
    shows_execute (nodup_lines built.keyed (.refl _)), rfl, ?_⟩
  intro order listed
  refine ⟨order.map ledOf, ?_, ?_, ?_, ?_⟩
  · rw [readRendering_createYealinkXML, listed.any_eq]
  · have rows := congrArg List.length complete
    simp only [List.length_map] at rows
    rw [List.length_map, listed.length_eq, Plan.lit, List.length_map, rows]
  · have shows := (shows_execute (nodup_lines built.keyed listed)).perm listed
    exact shows.unique (shows_execute (nodup_lines built.keyed (.refl _)))
  · rw [createYealinkXML, renderFrom_eq, listed.any_eq]

end Building

section TwoKeys

local instance keyScalars : ScalarInterface := decimalScalars

def twoKeys : Node :=
  .map [("name", .scalar "default"),
    ("buttons", .sequence
      [.map [("id", .scalar "1"), ("color", .scalar "red"), ("flash", .scalar "off"),
        ("critical_on", .scalar "true"),
        ("critical_off", .scalar "false")],
       .map [("id", .scalar "2"), ("color", .scalar "green"),
         ("flash", .scalar "slow"), ("critical_on", .scalar "false"),
        ("critical_off", .scalar "false")]])]

/-- The second button enumerated first and lit. -/
theorem rendering_order_free_reversed : ∃ leds flag,
    readRendering (createYealinkXML
      [⟨2, .green, .slow, false, false, true⟩, ⟨1, .red, .off, true, false, false⟩] false).1 =
      some ⟨leds, flag⟩ ∧ leds.length = 2 ∧ execute leds 2 = some ("GREEN", "slowflash") := by
  have created :
      (createPlan twoKeys).outcome = .ok ⟨"default", ⟨[(1, ⟨1, .red, .off, true, false, false⟩),
      (2, ⟨2, .green, .slow, false, false, false⟩)], by decide⟩, .empty⟩ := rfl
  obtain ⟨_, lamps, flag, shows, _, orders⟩ :=
    rendering_order_free created rfl (by decide) (fun id => id = 2) false
  obtain ⟨leds, read, length, executed, _⟩ := orders _ (.swap _ _ [])
  refine ⟨leds, flag, read, length, ?_⟩
  rw [executed]
  exact shows.each ⟨2, .green, .slow, false, false, true⟩ (by decide)

end TwoKeys
end LampMonitor.Config
