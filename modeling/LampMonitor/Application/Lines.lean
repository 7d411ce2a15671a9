import LampMonitor.Application.Delivery

/-! What the notifications say of one line of one phone. A phone may be served by
several plans, so a line is followed only where a single plan has a button there;
then every notification to the phone shows that button as it is or is silent. -/
namespace LampMonitor.Application
open Ami Asterisk Bridge ButtonState DeskphoneCache RegisterEventHandler Transition

section Plans

def Serves (plan : ButtonPlan) (aor : String) : Prop := ∃ ui ∈ plan.phoneUis, aor ∈ ui.compatibleAors

/-- The button at a place of the plans. -/
def buttonAt (plans : List ButtonPlan) (ref : PhoneButtonRef) : Option PhoneButton :=
  plans[ref.1]?.bind fun plan => plan.getButton ref.2

/-- No other plan that serves the AoR has a button on that line. -/
def Alone (plans : List ButtonPlan) (aor : String) (ref : PhoneButtonRef) : Prop :=
  ∀ q plan, plans[q]? = some plan → Serves plan aor → q ≠ ref.1 → plan.getButton ref.2 = none

def ServedBy (plans : List ButtonPlan) (aor : String) (p : Nat) : Prop :=
  ∃ plan, plans[p]? = some plan ∧ Serves plan aor

/-- Of the plans that serve the AoR, this one alone has a button on that line. -/
structure Owns (plans : List ButtonPlan) (aor : String) (ref : PhoneButtonRef) : Prop where
  serves : ServedBy plans aor ref.1
  alone : Alone plans aor ref

/-- What events never change about a plan. -/
def outline (plan : ButtonPlan) : List PhoneButton × List (List String) :=
  (plan.buttons.map (·.exchange false), plan.phoneUis.map PhoneUI.compatibleAors)

theorem outline_exchange (plan : ButtonPlan) (id : UInt16) (on : Bool) :
    outline (plan.exchange id on).updateUIs = outline plan := by
  have buttons : (plan.exchange id on).buttons.map (·.exchange false) =
      plan.buttons.map (·.exchange false) := by
    rw [ButtonPlan.exchange, List.map_map]
    refine List.map_congr_left fun button _ => ?_
    rw [Function.comp_apply]
    split <;> rfl
  have aors : (plan.exchange id on).updateUIs.phoneUis.map PhoneUI.compatibleAors =
      plan.phoneUis.map PhoneUI.compatibleAors := by
    rw [ButtonPlan.updateUIs, List.map_map]
    rfl
  exact Prod.ext buttons aors

theorem serves_outline {plan : ButtonPlan} :
    Serves plan aor ↔ ∃ aors ∈ (outline plan).2, aors.contains aor = true := by
  simp [Serves, outline]

theorem getButton_outline (plan : ButtonPlan) (id : UInt16) :
    (plan.getButton id).map (·.exchange false) =
      (outline plan).1.find? fun button => button.buttonId = id := by
  rw [outline, List.find?_map]
  rfl

/-- The outlines of the configured plans while some of them have no UI yet. -/
def outlines (configured : List ButtonPlan) (withUI : List Nat) :
    List (List PhoneButton × List (List String)) :=
  configured.mapIdx fun p plan => ((outline plan).1, if p ∈ withUI then (outline plan).2 else [])

theorem outlines_getElem? (configured : List ButtonPlan) (withUI : List Nat) (p : Nat) :
    (outlines configured withUI)[p]? = (configured[p]?).map fun plan =>
      ((outline plan).1, if p ∈ withUI then (outline plan).2 else []) :=
  List.getElem?_mapIdx ..

/-- The plans are the configured ones, of which these have their UI. -/
def Shaped (configured plans : List ButtonPlan) (withUI : List Nat) : Prop :=
  plans.map outline = outlines configured withUI

theorem Shaped.place (shaped : Shaped configured plans withUI) {p : Nat} (found : plans[p]? = some here) :
    ∃ plan, configured[p]? = some plan ∧
      outline here = ((outline plan).1, if p ∈ withUI then (outline plan).2 else []) := by
  have place := congrArg (fun outlines => outlines[p]?) shaped
  simp only [List.getElem?_map, found, Option.map_some, outlines_getElem?] at place
  obtain ⟨plan, configured, same⟩ := Option.map_eq_some_iff.mp place.symm
  exact ⟨plan, configured, same.symm⟩

theorem Shaped.found (shaped : Shaped configured plans withUI) {p : Nat} (known : configured[p]? = some plan) :
    ∃ here, plans[p]? = some here := by
  have place := congrArg (fun outlines => outlines[p]?) shaped
  simp only [List.getElem?_map, known, Option.map_some, outlines_getElem?] at place
  obtain ⟨here, found, _⟩ := Option.map_eq_some_iff.mp place
  exact ⟨here, found⟩

theorem Shaped.alone (shaped : Shaped configured plans withUI) (alone : Alone configured aor ref) :
    Alone plans aor ref := by
  intro q here found serves apart
  obtain ⟨plan, known, same⟩ := shaped.place found
  have served : Serves plan aor := by
    rw [serves_outline] at serves ⊢
    obtain ⟨aors, member, has⟩ := serves
    rw [same] at member
    split at member
    · exact ⟨aors, member, has⟩
    · contradiction
  have absent := alone q plan known served apart
  have buttons := getButton_outline here ref.2
  rw [same, ← getButton_outline, absent] at buttons
  exact Option.map_eq_none_iff.mp buttons

theorem Shaped.served (shaped : Shaped configured plans withUI) (serves : ServedBy configured aor p)
    (rendered : p ∈ withUI) : ServedBy plans aor p := by
  obtain ⟨plan, known, served⟩ := serves
  obtain ⟨here, found⟩ := shaped.found known
  obtain ⟨plan', known', same⟩ := shaped.place found
  cases Option.some.inj (known.symm.trans known')
  refine ⟨here, found, serves_outline.mpr ?_⟩
  rw [same, if_pos rendered]
  exact serves_outline.mp served

/-- A button is the configured one with the flag that it has. -/
theorem Shaped.buttonAt (shaped : Shaped configured plans withUI)
    (known : Application.buttonAt configured ref = some button) (flag : isOn plans ref = some on) :
    Application.buttonAt plans ref = some (button.exchange on) := by
  obtain ⟨here, button', found, present, rfl⟩ := isOn_eq_some.mp flag
  obtain ⟨plan, place, same⟩ := shaped.place found
  rw [Application.buttonAt, place, Option.bind_some] at known
  have buttons := getButton_outline here ref.2
  rw [same, ← getButton_outline, known, present, Option.map_some, Option.map_some,
    Option.some.injEq] at buttons
  rw [Application.buttonAt, found, Option.bind_some, present]
  exact congrArg some (congrArg (·.exchange button'.isOn) buttons)

theorem outline_place {plans plans' : List ButtonPlan} (same : plans.map outline = plans'.map outline)
    {p : Nat} (found : plans'[p]? = some here) :
    ∃ plan, plans[p]? = some plan ∧ outline plan = outline here := by
  have place := congrArg (fun outlines => outlines[p]?) same
  simp only [List.getElem?_map, found, Option.map_some] at place
  exact Option.map_eq_some_iff.mp place

theorem Alone.outline (alone : Alone plans aor ref) (same : plans.map outline = plans'.map outline) :
    Alone plans' aor ref := by
  intro q here found serves apart
  obtain ⟨plan, place, shape⟩ := outline_place same found
  have absent := alone q plan place (serves_outline.mpr (shape ▸ serves_outline.mp serves)) apart
  have buttons := getButton_outline plan ref.2
  rw [shape, ← getButton_outline, absent] at buttons
  exact Option.map_eq_none_iff.mp buttons.symm

theorem ServedBy.outline (served : ServedBy plans aor p) (same : plans.map outline = plans'.map outline) :
    ServedBy plans' aor p := by
  obtain ⟨plan, found, serves⟩ := served
  obtain ⟨here, place, shape⟩ := outline_place same.symm found
  exact ⟨here, place, serves_outline.mpr (shape ▸ serves_outline.mp serves)⟩

end Plans

section Marks
variable [LibraryInterface]

/-- A notification to the AoR that shows all buttons of a plan that serves it. -/
def Renders (plans : List ButtonPlan) (message : PJSIPNotify) (q : Nat) : Prop :=
  ∃ plan, plans[q]? = some plan ∧ Serves plan message.endpoint ∧
    message.values = (render plan.buttons).values

/-- What the notifications say of one line of one phone. -/
def marks (unescape : String → String) (aor : String) (line : Nat) (messages : List PJSIPNotify) :
    List (String × String) :=
  (addressed aor messages).filterMap (mark unescape line)

omit [LibraryInterface] in
theorem marks_append (unescape : String → String) (aor : String) (line : Nat)
    (first second : List PJSIPNotify) :
    marks unescape aor line (first ++ second) =
      marks unescape aor line first ++ marks unescape aor line second := by
  rw [marks, addressed, List.filter_append, List.filterMap_append]
  rfl

/-- Renderings of the plans as they are say nothing of a line but how its button is. -/
theorem marks_renders (saves : SavesRaw)
    (inverse : ∀ text, unescape (LibraryInterface.escape text) = text)
    (alone : Alone plans aor ref) (here : buttonAt plans ref = some button)
    (renders : ∀ message ∈ messages, ∃ q, Renders plans message q) :
    ∃ n, marks unescape aor ref.2.toNat messages = List.replicate n (shown button) ∧
      ((∃ message ∈ messages, message.endpoint = aor ∧ Renders plans message ref.1) → 0 < n) := by
  have own : ∀ message, message.endpoint = aor → Renders plans message ref.1 →
      mark unescape ref.2.toNat message = some (shown button) := by
    rintro ⟨_, _⟩ rfl ⟨plan, found, _, rfl⟩
    rw [mark_render saves inverse plan.unique]
    rw [buttonAt, found, Option.bind_some, ButtonPlan.getButton] at here
    rw [here, Option.map_some]
  have other : ∀ message q, message.endpoint = aor → Renders plans message q → q ≠ ref.1 →
      mark unescape ref.2.toNat message = none := by
    rintro ⟨_, _⟩ q rfl ⟨plan, found, serves, rfl⟩ apart
    rw [mark_render saves inverse plan.unique]
    have absent := alone q plan found serves apart
    rw [ButtonPlan.getButton] at absent
    rw [absent, Option.map_none]
  have said : ∀ look ∈ marks unescape aor ref.2.toNat messages, look = shown button := by
    intro look member
    obtain ⟨message, sent, marked⟩ := List.mem_filterMap.mp member
    obtain ⟨inside, addressee⟩ := List.mem_filter.mp sent
    have addressee := of_decide_eq_true addressee
    obtain ⟨q, rendered⟩ := renders message inside
    by_cases here : q = ref.1
    · rw [own message addressee (here ▸ rendered)] at marked
      exact (Option.some.inj marked).symm
    · rw [other message q addressee rendered here] at marked
      contradiction
  refine ⟨_, List.eq_replicate_of_mem said, ?_⟩
  rintro ⟨message, inside, addressee, rendered⟩
  have sent : message ∈ addressed aor messages :=
    List.mem_filter.mpr ⟨inside, decide_eq_true addressee⟩
  exact List.length_pos_of_mem
    (List.mem_filterMap.mpr ⟨message, sent, own message addressee rendered⟩)

omit [LibraryInterface] in
theorem buttonAt_set_exchange {plans : List ButtonPlan} {flipped : PhoneButtonRef}
    (found : plans[flipped.1]? = some plan) (on : Bool) (ref : PhoneButtonRef) :
    buttonAt (plans.set flipped.1 (plan.exchange flipped.2 on).updateUIs) ref =
      if ref = flipped then (buttonAt plans ref).map (·.exchange on) else buttonAt plans ref := by
  have bound := (List.getElem?_eq_some_iff.mp found).1
  obtain ⟨p, id⟩ := flipped
  obtain ⟨q, id'⟩ := ref
  by_cases same : q = p
  · subst q
    simp only [buttonAt, List.getElem?_set_self bound, found, Option.bind_some, getButton_updateUIs,
      getButton_exchange, Prod.mk.injEq, true_and]
    split <;> simp
  · simp only [buttonAt, List.getElem?_set_ne (Ne.symm same), Prod.mk.injEq, same, false_and,
      if_false]

omit [LibraryInterface] in
theorem outline_set {plans : List ButtonPlan} {p : Nat} (found : plans[p]? = some plan)
    (same : outline plan' = outline plan) :
    (plans.set p plan').map outline = plans.map outline := by
  obtain ⟨bound, here⟩ := List.getElem?_eq_some_iff.mp found
  have bound' : p < (plans.map outline).length := by simpa using bound
  have entry : (plans.map outline)[p] = outline plan := by rw [List.getElem_map, here]
  rw [List.map_set, same, ← entry, List.set_getElem_self]

theorem renders_round {plans : List ButtonPlan} {p : Nat} {messages : List PJSIPNotify}
    (aor : String) (found : plans[p]? = some plan.updateUIs) (round : messages.Perm (rendering plan)) :
    (∀ message ∈ messages, Renders plans message p) ∧
      (Serves plan aor → ∃ message ∈ messages, message.endpoint = aor ∧ Renders plans message p) := by
  have aors : ∀ aor, Serves plan aor → Serves plan.updateUIs aor := by
    rintro aor ⟨ui, member, has⟩
    exact ⟨_, List.mem_map_of_mem member, has⟩
  have each : ∀ ui ∈ plan.phoneUis, ∀ aor ∈ ui.compatibleAors,
      Renders plans ((render plan.buttons).notification aor) p := by
    intro ui member aor listed
    exact ⟨_, found, aors aor ⟨ui, member, listed⟩, rfl⟩
  constructor
  · intro message member
    obtain ⟨ui, inside, sent⟩ := List.mem_flatMap.mp (round.mem_iff.mp member)
    obtain ⟨aor, listed, rfl⟩ := List.mem_map.mp sent
    exact each ui inside aor listed
  · rintro ⟨ui, member, has⟩
    refine ⟨(render plan.buttons).notification aor, ?_, rfl, each ui member aor has⟩
    exact round.mem_iff.mpr (List.mem_flatMap.mpr ⟨ui, member, List.mem_map_of_mem has⟩)

theorem outline_rounds (rounds : Rounds plans flips messages final) :
    final.map outline = plans.map outline := by
  induction rounds with
  | nil => rfl
  | cons found _ _ _ ih => exact ih.trans (outline_set found (outline_exchange _ _ _))

/-- The states of a button that the rounds of one event show: first as it was,
then as it is. -/
theorem marks_rounds (saves : SavesRaw)
    (inverse : ∀ text, unescape (LibraryInterface.escape text) = text)
    (rounds : Rounds plans flips messages final) (distinct : flips.Nodup)
    (alone : Alone plans aor ref) (before : buttonAt plans ref = some button) :
    ∃ n m button', buttonAt final ref = some button' ∧
      marks unescape aor ref.2.toNat messages =
        List.replicate n (shown button) ++ List.replicate m (shown button') ∧
      (ref ∈ flips → ServedBy plans aor ref.1 → 0 < m) ∧ (ref ∉ flips → button' = button) := by
  induction rounds generalizing button with
  | nil => exact ⟨0, 0, button, before, rfl, by simp, fun _ => rfl⟩
  | @cons plan phoneButton flips messages more final plans flipped found present round rest ih =>
    obtain ⟨absent, apart⟩ := List.nodup_cons.mp distinct
    have bound := (List.getElem?_eq_some_iff.mp found).1
    have stays := outline_set found (outline_exchange plan flipped.2 (!phoneButton.isOn))
    have alone' := alone.outline stays.symm
    have here := List.getElem?_set_self (a := (plan.exchange flipped.2 (!phoneButton.isOn)).updateUIs) bound
    obtain ⟨shows, reaches⟩ := renders_round aor here round
    have after := buttonAt_set_exchange found (!phoneButton.isOn) ref
    rw [before] at after
    by_cases same : ref = flipped
    · subst flipped
      rw [if_pos rfl, Option.map_some] at after
      obtain ⟨n, m, button', final_button, said, _, kept⟩ := ih apart alone' after
      obtain ⟨k, first, some_first⟩ :=
        marks_renders saves inverse alone' after fun message member => ⟨_, shows message member⟩
      cases kept absent
      refine ⟨0, k + (n + m), _, final_button, ?_, fun _ served => ?_,
        fun missing => absurd List.mem_cons_self missing⟩
      · rw [marks_append, first, said, List.replicate_add k, List.replicate_add n]
        rfl
      · obtain ⟨_, found', serves⟩ := served
        cases Option.some.inj (found.symm.trans found')
        exact Nat.add_pos_left (some_first (reaches serves)) _
    · rw [if_neg same] at after
      obtain ⟨n, m, button', final_button, said, flips_later, kept⟩ := ih apart alone' after
      obtain ⟨k, first, _⟩ :=
        marks_renders saves inverse alone' after fun message member => ⟨_, shows message member⟩
      refine ⟨k + n, m, button', final_button, ?_, ?_, ?_⟩
      · rw [marks_append, first, said, List.replicate_add, List.append_assoc]
      · exact fun member served => flips_later ((List.mem_cons.mp member).resolve_left same)
          (served.outline stays.symm)
      · exact fun missing => kept fun member => missing (List.mem_cons_of_mem _ member)

/-- What is published to a phone that registers: all registered plans that serve
it, if it is new. -/
theorem renders_publish (rendered : Rendered plans) (registered : List Nat) (newAor : Bool) (aor : String) :
    (∀ message ∈ publishPhoneState (published plans registered) newAor aor,
      ∃ q, Renders plans message q) ∧
    ∀ p, p ∈ registered → ServedBy plans aor p → newAor = true →
      ∃ message ∈ publishPhoneState (published plans registered) newAor aor,
        message.endpoint = aor ∧ Renders plans message p := by
  have each : ∀ q plan, plans[q]? = some plan → ∀ ui ∈ plan.phoneUis, aor ∈ ui.compatibleAors →
      Renders plans (ui.cachedButtonState.notification aor) q := by
    intro q plan found ui member has
    refine ⟨plan, found, ⟨ui, member, has⟩, ?_⟩
    exact congrArg PhoneUIState.values (rendered plan (List.mem_of_getElem? found) ui member)
  rw [publishPhoneState_eq, notifications]
  constructor
  · intro message member
    obtain ⟨plan, inside, sent⟩ := List.mem_flatMap.mp member
    obtain ⟨ui, chosen, rfl⟩ := List.mem_map.mp sent
    obtain ⟨q, _, found⟩ := List.mem_filterMap.mp inside
    obtain ⟨here, selected⟩ := List.mem_filter.mp chosen
    exact ⟨q, each q plan found ui here (of_decide_eq_true selected).1⟩
  · rintro p listed ⟨plan, found, ui, member, has⟩ rfl
    have chosen : ui ∈ plan.phoneUis.filter fun ui =>
        aor ∈ ui.compatibleAors ∧ (true || ui.cachedButtonState.isCritical) = true :=
      List.mem_filter.mpr ⟨member, decide_eq_true ⟨has, rfl⟩⟩
    have inside : plan ∈ published plans registered := List.mem_filterMap.mpr ⟨p, listed, found⟩
    refine ⟨_, ?_, rfl, each p plan found ui member has⟩
    exact List.mem_flatMap.mpr ⟨plan, inside, List.mem_map_of_mem chosen⟩

end Marks

end LampMonitor.Application
