import LampMonitor.Config.PhoneLoop

/-! What a phone emits: its plan and its user interface only log, and its paths do
the rest. A phone that ends the start-up by an exit says why. -/
namespace LampMonitor.Config
open Fallible Script ButtonState Schema

section Logs
variable [ScalarInterface]

theorem createPhoneButton_logs (config : Node) : Emits Event.IsLog (createPhoneButton config) := by
  have color : ∀ type, Emits Event.IsLog (toColor type) := by
    intro type
    unfold toColor
    split_ifs
    · exact emits_pure _
    · exact emits_pure _
    · exact emits_pure _
    · exact emits_bind (emits_warning _) fun _ _ => emits_pure _
  have flash : ∀ mode, Emits Event.IsLog (toFlashMode mode) := by
    intro mode
    unfold toFlashMode
    split_ifs
    · exact emits_pure _
    · exact emits_pure _
    · exact emits_pure _
    · exact emits_bind (emits_warning _) fun _ _ => emits_pure _
  apply emits_read
  intro id
  apply emits_read
  intro type
  apply emits_bind (color type)
  intro color _
  apply emits_read
  intro mode
  apply emits_bind (flash mode)
  intro flash _
  apply emits_read
  intro criticalOn
  exact emits_read fun criticalOff => emits_pure _

theorem createPlan_logs (config : Node) : Emits Event.IsLog (createPlan config) := by
  apply emits_read
  intro name
  apply emits_index
  intro buttons
  refine loop_emits (fun plan button _ => ?_) _
  apply emits_bind (createPhoneButton_logs button)
  intro phoneButton _
  unfold Plan.addButton
  split
  · exact emits_bind (emits_warning _) fun _ _ => emits_pure _
  · exact emits_pure _

theorem createEventHandlers_logs (plan : Plan) (config : Node) :
    Emits Event.IsLog (createEventHandlers plan config) := by
  apply emits_index
  intro buttons
  refine loop_emits (fun handlers button _ => ?_) _
  apply emits_read
  intro id
  apply emits_read
  intro type
  split
  · exact emits_read fun hint => emits_pure _
  · split
    · apply emits_read
      intro lot
      exact emits_bind (emits_silent (output_request _)) fun _ _ => emits_pure _
    · exact emits_bind (emits_warning _) fun _ _ => emits_pure _

theorem createButtonPlan_logs (name : String) (plans : List Node) :
    Emits Event.IsLog (createButtonPlan name plans) := by
  induction plans with
  | nil => exact emits_pure _
  | cons planCfg rest ih =>
    apply emits_read
    intro found
    split
    · exact ih
    · refine emits_bind ?_ fun _ _ => emits_pure _
      apply emits_bind (createPlan_logs planCfg)
      intro plan _
      exact emits_bind (createEventHandlers_logs plan planCfg) fun _ _ => emits_pure _

theorem createUI_logs (config : Node) : Emits Event.IsLog (createUI config) := by
  apply emits_read
  intro name
  apply emits_index
  intro handle
  apply emits_bind (createProvider_logs handle)
  intro provider _
  apply emits_read
  intro type
  split
  · refine emits_bind (emits_silent (output_deref _)) fun provider _ => ?_
    exact emits_bind (emits_silent (output_request _)) fun _ _ => emits_pure _
  · exact emits_pure _

end Logs

section Phones
variable [ScalarInterface] {config phone : Node} {s : PhonePlans} {httpUrl : String}

/-- The courses a phone can take. Only its paths attach anything. -/
inductive PhoneCourse (config phone : Node) (httpUrl : String) (p : StartUp PhonePlans) : Prop where
  | paths : planFor config phone = some planCfg → PlanOf planCfg plan → phone.get Node.asString "name" = some name →
      p.outcome = ((configurePaths httpUrl plan ⟨name, true⟩ phone).outcome >>= fun _ => .ok after) →
      p.output = logs ++ (configurePaths httpUrl plan ⟨name, true⟩ phone).output → (∀ event ∈ logs, event.IsLog) →
      PhoneCourse config phone httpUrl p
  | exits : p.outcome = .error (.exit Privileges.exitFailure) → p.output = logs ++ [.syslog .err message] →
      (∀ event ∈ logs, event.IsLog) → PhoneCourse config phone httpUrl p
  | unfit : p.outcome = .error e → e.IsException → Emits Event.IsLog p → PhoneCourse config phone httpUrl p

theorem PhoneCourse.congr {p q : StartUp PhonePlans} (course : PhoneCourse config phone httpUrl q)
    (alike : Alike p q) :
    PhoneCourse config phone httpUrl p := by
  obtain ⟨outcome, output⟩ := alike
  cases course with
  | paths found planOf named ended emitted logs =>
    exact .paths found planOf named (outcome.trans ended) (output.trans emitted) logs
  | exits ended emitted logs => exact .exits (outcome.trans ended) (output.trans emitted) logs
  | unfit ended thrown logs => exact .unfit (outcome.trans ended) thrown (by rwa [Emits, output])

theorem PhoneCourse.after {p : StartUp α} {f : α → StartUp PhonePlans} (first : p.outcome = .ok a)
    (earlier : Emits Event.IsLog p) (rest : PhoneCourse config phone httpUrl (f a)) :
    PhoneCourse config phone httpUrl (p >>= f) := by
  have outcome : (p >>= f).outcome = (f a).outcome := by rw [outcome_bind, first, ok_bind]
  have output : (p >>= f).output = p.output ++ (f a).output := output_bind_ok first
  cases rest with
  | paths found planOf named ended emitted logs =>
    refine .paths found planOf named (outcome.trans ended)
      (by rw [output, emitted, ← List.append_assoc]) ?_
    exact List.forall_mem_append.mpr ⟨earlier, logs⟩
  | exits ended emitted logs =>
    refine .exits (outcome.trans ended) (by rw [output, emitted, ← List.append_assoc]) ?_
    exact List.forall_mem_append.mpr ⟨earlier, logs⟩
  | unfit ended thrown logs =>
    refine .unfit (outcome.trans ended) thrown ?_
    rw [Emits, output]
    exact List.forall_mem_append.mpr ⟨earlier, logs⟩

theorem createPhone_course (accepted : configSchema.accepts config = true)
    (known : phoneSchema.accepts phone = true) (httpUrl : String) (s : PhonePlans) :
    PhoneCourse config phone httpUrl (createPhone (.valid config) httpUrl s phone) := by
  obtain ⟨planName, name, hplan, hname, htype⟩ := phone_keys known
  rw [createPhone]
  refine PhoneCourse.congr ?_ (alike_read hplan)
  by_cases taken : (s.buttonPlans.find? planName).isSome = true
  · rw [if_pos taken]
    exact .exits rfl (List.nil_append _).symm (List.forall_mem_nil _)
  · rw [if_neg taken]
    refine PhoneCourse.congr ?_ (alike_index (record_accepts.mp accepted).1 "button_plans")
    rw [elim_items]
    have named : planFor config phone = (config.itemsAt "button_plans").find? fun planCfg =>
        planCfg.get Node.asString "name" = some planName := by simp [planFor, hplan, planNamed]
    have created := createButtonPlan_outcome planName (plans_accepted accepted)
    rw [← named] at created
    have logs := createButtonPlan_logs planName (config.itemsAt "button_plans")
    cases found : planFor config phone with
    | none =>
      rw [found] at created
      refine .after created logs ?_
      exact .exits rfl (List.nil_append _).symm (List.forall_mem_nil _)
    | some planCfg =>
      simp only [found] at created
      rcases createFullPlan_cases (planFor_accepted accepted found) with
        ⟨-, plan, full, planOf⟩ | ⟨-, e, ended, thrown⟩
      · rw [full, ok_bind] at created
        refine .after created logs (.after (createUI_ok known hname) (createUI_logs phone) ?_)
        refine PhoneCourse.congr ?_ (alike_bind (outcome_deref_some _) (output_deref _))
        by_cases duplicate : name ∈ s.phoneUis
        · rw [if_pos duplicate]
          exact .exits rfl (List.nil_append _).symm (List.forall_mem_nil _)
        · rw [if_neg duplicate]
          refine PhoneCourse.congr ?_
            ((alike_read htype).trans (alike_index (record_accepts.mp known).1 "http_paths"))
          rw [elim_items]
          exact .paths found planOf hname (outcome_bind _ _)
            (output_bind_pure _ _) (List.forall_mem_nil _)
      · rw [ended, error_bind] at created
        refine .unfit (by rw [outcome_bind, created, error_bind]) thrown ?_
        rwa [Emits, output_bind_error created]

end Phones

end LampMonitor.Config
