import LampMonitor.Config.PhoneEntries

/-! The loop over the phones. It ends at the first phone that repeats a plan or a
name, names no plan, or fails in its own part; the condition on the ids of the
later ones then never matters. -/
namespace LampMonitor.Config
open Fallible Script ButtonState Schema

variable [ScalarInterface]

section Entry
variable {config phone : Node} {before : List Node} {s s' : PhonePlans} {httpUrl planName name : String}

theorem Collects.taken_iff (collects : Collects before s)
    (hplan : phone.get Node.asString "button_plan" = some planName) :
    (s.buttonPlans.find? planName).isSome = true ↔ ¬ FreshPlan before phone := by
  rw [collects.plans]
  simp [FreshPlan, hplan]

theorem Collects.duplicate_iff (collects : Collects before s)
    (hname : phone.get Node.asString "name" = some name) :
    name ∈ s.phoneUis ↔ ¬ FreshName before phone := by
  rw [collects.names]
  simp [FreshName, hname]

theorem Collects.snoc (collects : Collects before s)
    (hplan : phone.get Node.asString "button_plan" = some planName)
    (hname : phone.get Node.asString "name" = some name) (plan : Plan) :
    Collects (before ++ [phone]) ⟨s.buttonPlans.emplace planName plan, name :: s.phoneUis⟩ := by
  constructor
  · intro n
    simp only [KeyedTable.find?_emplace, Option.isSome_or, Bool.or_eq_true, collects.plans,
      List.mem_append, List.mem_singleton, or_and_right, exists_or, exists_eq_left, hplan,
      Option.some.injEq]
    by_cases same : n = planName
    · simp [same]
    · simp [same, Ne.symm same]
  · intro n
    simp only [List.mem_cons, collects.names, List.mem_append, List.not_mem_nil, or_false,
      or_and_right, exists_or, exists_eq_left, hname, Option.some.injEq]
    rw [or_comm, eq_comm]

/-- What stops at one phone, apart from the exits for a repeated or unknown name. -/
theorem createPhone_safe (accepted : configSchema.accepts config = true)
    (known : phoneSchema.accepts phone = true) (collects : Collects before s)
    {Bad : Stop → Prop} (exits : ¬ Bad (.exit Privileges.exitFailure)) :
    Safe Bad (createPhone (.valid config) httpUrl s phone) ↔
      (FreshPlan before phone → ∀ planCfg, planFor config phone = some planCfg →
        Safe Bad (createFullPlan planCfg) ∧ ∀ plan, (createFullPlan planCfg).outcome = .ok plan →
          FreshName before phone → ∀ name, phone.get Node.asString "name" = some name →
            Safe Bad (configurePaths httpUrl plan ⟨name, true⟩ phone)) := by
  obtain ⟨planName, name, hplan, hname, course⟩ := createPhone_outcome accepted known httpUrl s
  have exit : ∀ e, (Except.error (.exit Privileges.exitFailure) : Except Stop PhonePlans) =
      .error e → ¬ Bad e := by
    rintro _ ⟨⟩
    exact exits
  unfold Safe
  rw [course]
  by_cases taken : (s.buttonPlans.find? planName).isSome = true
  · rw [if_pos taken]
    exact ⟨fun _ fresh => absurd fresh ((collects.taken_iff hplan).mp taken), fun _ => exit⟩
  · have fresh : FreshPlan before phone := not_not.mp (mt (collects.taken_iff hplan).mpr taken)
    rw [if_neg taken]
    cases planFor config phone with
    | none => exact ⟨fun _ _ planCfg found => (nomatch found), fun _ => exit⟩
    | some planCfg =>
      simp only [fresh, true_implies, Option.some.injEq, forall_eq', hname, bind_eq_error]
      constructor
      · intro safe
        refine ⟨fun e stopped => safe e (Or.inl stopped), fun plan full freshName e stopped => ?_⟩
        have new : name ∉ s.phoneUis :=
          fun known => (collects.duplicate_iff hname).mp known freshName
        exact safe e (Or.inr ⟨plan, full, by rw [if_neg new, stopped, error_bind]⟩)
      · rintro ⟨first, rest⟩ e (stopped | ⟨plan, full, stopped⟩)
        · exact first e stopped
        · by_cases duplicate : name ∈ s.phoneUis
          · rw [if_pos duplicate] at stopped
            exact exit e stopped
          · rw [if_neg duplicate, bind_eq_error] at stopped
            rcases stopped with stopped | ⟨_, _, ⟨⟩⟩
            exact rest plan full
              (not_not.mp (mt (collects.duplicate_iff hname).mpr duplicate)) e stopped

theorem createFullPlan_safe {planCfg : Node}
    (accepted : (record buttonPlanFields).accepts planCfg = true)
    {Bad : Stop → Prop} (exceptions : ∀ {e : Stop}, e.IsException → Bad e) :
    Safe Bad (createFullPlan planCfg) ↔ FitsIds planCfg := by
  rcases createFullPlan_cases accepted with ⟨fits, plan, finished, -⟩ | ⟨unfit, e, ended, thrown⟩
  · exact ⟨fun _ => fits, fun _ => safe_of_ok finished⟩
  · exact ⟨fun safe => absurd (exceptions thrown) (safe e ended), fun fits => absurd fits unfit⟩

/-- Where exceptions count as bad, the ids of the plan matter before the paths do. -/
theorem createPhone_safe_iff (accepted : configSchema.accepts config = true)
    (known : phoneSchema.accepts phone = true) (collects : Collects before s)
    {Bad : Stop → Prop} {Paths : Node → Prop} (exits : ¬ Bad (.exit Privileges.exitFailure))
    (exceptions : ∀ {e : Stop}, e.IsException → Bad e)
    (paths : ∀ {planCfg plan} (name : String), PlanOf planCfg plan →
      (record buttonPlanFields).accepts planCfg = true →
      (Safe Bad (configurePaths httpUrl plan ⟨name, true⟩ phone) ↔ Paths planCfg)) :
    Safe Bad (createPhone (.valid config) httpUrl s phone) ↔ (FreshPlan before phone → ∀ planCfg,
      planFor config phone = some planCfg →
        FitsIds planCfg ∧ (FreshName before phone → Paths planCfg)) := by
  rw [createPhone_safe accepted known collects exits]
  refine imp_congr_right fun _ => forall₂_congr fun planCfg found => ?_
  have planAccepted := planFor_accepted accepted found
  rw [createFullPlan_safe planAccepted exceptions]
  refine and_congr_right fun fits => ?_
  rcases createFullPlan_cases planAccepted with ⟨-, plan, full, planOf⟩ | ⟨unfit, -⟩
  · obtain ⟨-, name, -, hname, -⟩ := phone_keys known
    simp only [full, Except.ok.injEq, forall_eq', hname, Option.some.injEq,
      paths name planOf planAccepted]
  · exact absurd fits unfit

theorem phones_track (accepted : configSchema.accepts config = true) (httpUrl : String) :
    Tracks (phoneSchema.accepts · = true) (createPhone (.valid config) httpUrl)
      Collects (PhonePasses config) where
  ok {before s phone s'} known collects finished := by
    obtain ⟨planName, name, hplan, hname, course⟩ := createPhone_outcome accepted known httpUrl s
    rw [course] at finished
    by_cases taken : (s.buttonPlans.find? planName).isSome = true
    · simp [taken] at finished
    · rw [if_neg taken] at finished
      cases found : planFor config phone with
      | none => simp [found] at finished
      | some planCfg =>
        simp only [found, bind_eq_ok] at finished
        obtain ⟨plan, full, finished⟩ := finished
        have planAccepted := planFor_accepted accepted found
        rcases createFullPlan_cases planAccepted with
          ⟨fits, plan', full', planOf⟩ | ⟨-, e, stopped, -⟩
        · obtain rfl : plan = plan' := Except.ok.inj (full.symm.trans full')
          by_cases duplicate : name ∈ s.phoneUis
          · simp [duplicate] at finished
          · rw [if_neg duplicate, bind_eq_ok] at finished
            obtain ⟨_, paths, ⟨⟩⟩ := finished
            refine ⟨⟨not_not.mp (mt (collects.taken_iff hplan).mpr taken),
              not_not.mp (mt (collects.duplicate_iff hname).mpr duplicate), planCfg, found, fits,
              (configurePaths_ok planOf planAccepted known httpUrl name).mp paths⟩,
                collects.snoc hplan hname plan⟩
        · simp [stopped] at full
  pass {before s phone} known collects passes := by
    obtain ⟨freshPlan, freshName, planCfg, found, fits, paths⟩ := passes
    obtain ⟨planName, name, hplan, hname, course⟩ := createPhone_outcome accepted known httpUrl s
    have planAccepted := planFor_accepted accepted found
    rcases createFullPlan_cases planAccepted with ⟨-, plan, full, planOf⟩ | ⟨unfit, -⟩
    · have new : ¬ (s.buttonPlans.find? planName).isSome = true := fun taken =>
        (collects.taken_iff hplan).mp taken freshPlan
      have unique : name ∉ s.phoneUis :=
        fun duplicate => (collects.duplicate_iff hname).mp duplicate freshName
      have finished := (configurePaths_ok planOf planAccepted known httpUrl name).mpr paths
      refine ⟨⟨s.buttonPlans.emplace planName plan, name :: s.phoneUis⟩, ?_⟩
      simp only [course, if_neg new, found, full, ok_bind, if_neg unique, finished]
    · exact absurd fits unfit

end Entry
section Loop
variable {config : Node}

/-- A group of the configuration is there, and accepted by its own fields. -/
theorem group_node (accepted : configSchema.accepts config = true)
    (key : String) (fields : List Field) (member : group key fields ∈ configFields) :
    ∃ node, config.find? key = some node ∧ (record fields).accepts node = true ∧
      (index (.valid config) key).outcome = .ok (.valid node) := by
  obtain ⟨node, found, here⟩ := value_accepted accepted member rfl
  exact ⟨node, found, here,
    by rw [outcome_index (record_accepts.mp accepted).1, found, Option.elim_some]⟩

theorem phones_accepted (accepted : configSchema.accepts config = true) :
    ∀ phone ∈ config.itemsAt "phones", phoneSchema.accepts phone = true :=
  items_accepted accepted
    (show mandatory "phones" (list phoneSchema) ∈ configFields by simp [configFields])

/-- Where the HTTP server is reached from outside. -/
def httpUrlOf (config : Node) : Option String := (config.find? "http").bind (·.get Node.asString "url")

/-- Up to the loop nothing can fail. -/
theorem createPhonePlans_course (accepted : configSchema.accepts config = true) :
    ∃ httpUrl, httpUrlOf config = some httpUrl ∧ Alike (createPhonePlans (.valid config))
      ((config.itemsAt "phones").foldlM (createPhone (.valid config) httpUrl) ⟨.empty, []⟩) := by
  obtain ⟨http, found, here, indexed⟩ :=
    group_node accepted "http" httpFields (by simp [configFields])
  obtain ⟨httpUrl, hu, -⟩ := get_string here
    (show mandatory "url" (string []) ∈ httpFields by simp [httpFields]) rfl
  refine ⟨httpUrl, by rw [httpUrlOf, found, Option.bind_some, hu], ?_⟩
  rw [createPhonePlans, ← elim_items]
  refine (alike_bind indexed (output_index _)).trans ?_
  exact (alike_read hu).trans (alike_index (record_accepts.mp accepted).1 "phones")

theorem collects_empty : Collects [] ⟨.empty, []⟩ := by
  constructor
  · simp [KeyedTable.find?, KeyedTable.empty]
  · simp

/-- The loop is safe when every phone that it reaches is. -/
theorem createPhonePlans_safe (accepted : configSchema.accepts config = true) {Bad : Stop → Prop}
    {Cond : List Node → Node → Prop}
    (entry : ∀ {before s phone} (httpUrl : String), phoneSchema.accepts phone = true →
      Collects before s →
      (Safe Bad (createPhone (.valid config) httpUrl s phone) ↔ Cond before phone)) :
    Safe Bad (createPhonePlans (.valid config)) ↔
      EachReached (PhonePasses config) Cond [] (config.itemsAt "phones") := by
  obtain ⟨httpUrl, -, alike⟩ := createPhonePlans_course accepted
  rw [Safe, alike.outcome]
  exact (phones_track accepted httpUrl).loop_safe (phones_accepted accepted) collects_empty
    fun known collects => entry httpUrl known collects

end Loop
end LampMonitor.Config
