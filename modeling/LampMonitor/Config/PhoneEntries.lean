import LampMonitor.Config.PlanEntries

/-! What becomes of one phone entry. Its paths name buttons of its plan: a path to a
button of the other type is skipped with a warning, while one to no button at all
dereferences null. -/
namespace LampMonitor.Config
open Fallible Script ButtonState Schema

variable [ScalarInterface]

abbrev httpPathSchema : Schema := derived phoneConfigHttpPathFields httpPathVariants

/-- A state path names no button. -/
def NamesButton (path : Node) : Prop := path.get Node.asString "type" ≠ some "http_state"

def FitsButtonId (path : Node) : Prop := NamesButton path → (path.get Node.asUInt16 "button_id").isSome

def Resolves (planCfg path : Node) : Prop := NamesButton path →
  ∀ id, path.get Node.asUInt16 "button_id" = some id → (entryWith (planCfg.itemsAt "buttons") id).isSome

/-- What a path of a phone leads to: the object it names, or one warning where
its button is of the other type. -/
inductive Handled (planCfg : Node) (phone httpUrl : String) (path : Node) : List Event → Prop where
  | state : path.get Node.asString "type" = some "http_state" → path.get Node.asString "path" = some uri →
      Handled planCfg phone httpUrl path [.attach uri (.state phone)]
  | night : path.get Node.asString "type" = some "http_night" → path.get Node.asUInt16 "button_id" = some buttonId →
      entryWith (planCfg.itemsAt "buttons") buttonId = some button → buttonOf button = some phoneButton →
      button.get Node.asString "type" = some "night_button" → button.get Node.asString "hint" = some hint →
      path.get Node.asString "path" = some uri →
      Handled planCfg phone httpUrl path [.attach uri (.night (some ⟨some phoneButton, hint⟩))]
  | park : path.get Node.asString "type" = some "http_park" → path.get Node.asUInt16 "button_id" = some buttonId →
      entryWith (planCfg.itemsAt "buttons") buttonId = some button →
      button.get Node.asString "type" = some "park_button" → button.get Node.asString "parking_lot" = some lot →
      path.get Node.asString "park_list_path" = some listUri → path.get Node.asString "park_info_path" = some infoUri →
      Handled planCfg phone httpUrl path
        [.attach listUri (.parkList (some ⟨lot, httpUrl ++ infoUri⟩)), .attach infoUri (.parkInfo (some ⟨lot, httpUrl ++ infoUri⟩))]
  | skippedNight : path.get Node.asString "type" = some "http_night" → path.get Node.asUInt16 "button_id" = some buttonId →
      entryWith (planCfg.itemsAt "buttons") buttonId = some button → button.get Node.asString "type" ≠ some "night_button" →
      path.get Node.asString "path" = some uri →
      Handled planCfg phone httpUrl path [.syslog .warning ("Unable to configure night button URI " ++ uri)]
  | skippedPark : path.get Node.asString "type" = some "http_park" → path.get Node.asUInt16 "button_id" = some buttonId →
      entryWith (planCfg.itemsAt "buttons") buttonId = some button → button.get Node.asString "type" ≠ some "park_button" →
      path.get Node.asString "park_list_path" = some uri →
      Handled planCfg phone httpUrl path [.syslog .warning ("Unable to configure park button URI " ++ uri)]

section Paths
variable {planCfg path : Node} {plan : Plan} {ui : UI} {httpUrl : String} {id : UInt16}

/-- The courses a path can take, by its id alone. -/
inductive PathCourse (planCfg : Node) (phone httpUrl : String) (path : Node) (p : StartUp Unit) : Prop where
  | handled : FitsButtonId path → Resolves planCfg path → p.outcome = .ok () →
      Handled planCfg phone httpUrl path p.output → PathCourse planCfg phone httpUrl path p
  | unfit : ¬ FitsButtonId path → p.outcome = .error s → s.IsException → p.output = [] →
      PathCourse planCfg phone httpUrl path p
  | dangling : FitsButtonId path → ¬ Resolves planCfg path → p.outcome = .error .nullDereference → p.output = [] →
      PathCourse planCfg phone httpUrl path p

theorem PathCourse.congr {p q : StartUp Unit} (course : PathCourse planCfg phone httpUrl path q)
    (alike : Alike p q) :
    PathCourse planCfg phone httpUrl path p := by
  obtain ⟨outcome, output⟩ := alike
  cases course with
  | handled fits resolves ended emitted =>
    exact .handled fits resolves (outcome ▸ ended) (output ▸ emitted)
  | unfit unfits ended thrown silent =>
    exact .unfit unfits (outcome.trans ended) thrown (output.trans silent)
  | dangling fits dangles ended silent =>
    exact .dangling fits dangles (outcome.trans ended) (output.trans silent)

theorem configureHTTPStateButton_course
    (accepted : (record (phoneConfigHttpPathFields ++ httpStateFields)).accepts path = true)
    (named : path.get Node.asString "type" = some "http_state") (provides : ui.httpState = true) :
    PathCourse planCfg ui.name httpUrl path (configureHTTPStateButton path ui) := by
  obtain ⟨uri, hu, -⟩ := get_string accepted
    (show mandatory "path" (string []) ∈ phoneConfigHttpPathFields ++ httpStateFields by
      simp [httpStateFields]) rfl
  rw [configureHTTPStateButton]
  refine PathCourse.congr ?_ (alike_read hu)
  rw [if_pos provides]
  exact .handled (fun other => absurd named other) (fun other => absurd named other)
    rfl (.state named hu)

/-- The button entry that an id leads to, with what the plan has for it. -/
theorem PlanOf.entry (planOf : PlanOf planCfg plan)
    (accepted : (record buttonPlanFields).accepts planCfg = true)
    (found : entryWith (planCfg.itemsAt "buttons") id = some button) :
    ∃ phoneButton handler, buttonOf button = some phoneButton ∧
    plan.getButton id = some phoneButton ∧
      plan.getEventHandler id = some handler ∧
      handlerOf (some phoneButton) button = some handler := by
  have known := buttons_accepted accepted button (List.mem_of_find?_eq_some found)
  have fits : button.get Node.asUInt16 "id" = some id := by simpa using List.find?_some found
  obtain ⟨phoneButton, gives, -⟩ := buttonOf_some known fits
  obtain ⟨handler, handles, -⟩ := handlerOf_some known (some phoneButton)
  have getButton : plan.getButton id = some phoneButton := by
    rw [planOf.buttons, found, Option.bind_some, gives]
  exact ⟨phoneButton, handler, gives, getButton,
    by rw [planOf.handlers, found, Option.bind_some, getButton, handles], handles⟩

/-- The handler of an entry is of the entry's type. -/
theorem handlerOf_cases (known : buttonSchema.accepts button = true)
    (handles : handlerOf (some phoneButton) button = some handler) :
    (∃ hint, handler = .night (some phoneButton) hint ∧
      button.get Node.asString "type" = some "night_button" ∧
      button.get Node.asString "hint" = some hint) ∨
    ∃ lot, handler = .park (some phoneButton) lot ∧
    button.get Node.asString "type" = some "park_button" ∧
      button.get Node.asString "parking_lot" = some lot := by
  obtain ⟨type, fields, named, found, -⟩ := derived_accepts known
  rcases buttonVariants_lookup.mp found with ⟨rfl, -⟩ | ⟨rfl, -⟩
  · obtain ⟨hint, hh, rfl⟩ : ∃ hint, button.get Node.asString "hint" = some hint ∧
        EventHandler.night (some phoneButton) hint = handler := by
        simpa [handlerOf, named] using handles
    exact Or.inl ⟨hint, rfl, named, hh⟩
  · obtain ⟨lot, hl, rfl⟩ : ∃ lot, button.get Node.asString "parking_lot" = some lot ∧
        EventHandler.park (some phoneButton) lot = handler := by
        simpa [handlerOf, named] using handles
    exact Or.inr ⟨lot, rfl, named, hl⟩

/-- The id is read first. -/
theorem unfit_course {body : UInt16 → StartUp Unit} (refers : NamesButton path)
    (unfit : path.get Node.asUInt16 "button_id" = none) (phone : String) :
    PathCourse planCfg phone httpUrl path
      (read Node.asUInt16 (.valid path) "button_id" >>= body) := by
  cases ended : (read Node.asUInt16 (.valid path) "button_id").outcome with
  | ok a => simp [outcome_read_ok.mp ended] at unfit
  | error s =>
    refine .unfit (fun all => ?_) (s := s) ?_ (outcome_read_error ended).2 ?_
    · simpa [unfit] using all refers
    · simp [ended]
    · simp [output_bind_error ended]

theorem resolves_of (fits : path.get Node.asUInt16 "button_id" = some id)
    (found : entryWith (planCfg.itemsAt "buttons") id = some button) : Resolves planCfg path := by
  intro _ id' here
  obtain rfl : id = id' := Option.some.inj (fits.symm.trans here)
  simp [found]

theorem not_resolves_of (refers : NamesButton path)
    (fits : path.get Node.asUInt16 "button_id" = some id)
    (missing : entryWith (planCfg.itemsAt "buttons") id = none) : ¬ Resolves planCfg path := by
  intro all
  simpa [missing] using all refers id fits

/-- A path that has its button's handler looked up once its keys are read. What is
left to show is what it does with a handler of either type. -/
theorem buttonPath_course (planOf : PlanOf planCfg plan)
    (planAccepted : (record buttonPlanFields).accepts planCfg = true) (refers : NamesButton path)
    {body : UInt16 → StartUp Unit} {use : UInt16 → EventHandler → StartUp Unit}
    (reads : ∀ id, Alike (body id) (deref (plan.getEventHandler id) >>= use id))
    (night : ∀ {id button phoneButton hint}, path.get Node.asUInt16 "button_id" = some id →
      entryWith (planCfg.itemsAt "buttons") id = some button → buttonOf button = some phoneButton →
      plan.getButton id = some phoneButton → button.get Node.asString "type" = some "night_button" →
      button.get Node.asString "hint" = some hint →
      (use id (.night (some phoneButton) hint)).outcome = .ok () ∧
        Handled planCfg phone httpUrl path (use id (.night (some phoneButton) hint)).output)
    (park : ∀ {id button phoneButton lot}, path.get Node.asUInt16 "button_id" = some id →
      entryWith (planCfg.itemsAt "buttons") id = some button →
      button.get Node.asString "type" = some "park_button" →
      button.get Node.asString "parking_lot" = some lot →
      (use id (.park phoneButton lot)).outcome = .ok () ∧
        Handled planCfg phone httpUrl path (use id (.park phoneButton lot)).output) :
    PathCourse planCfg phone httpUrl path
      (read Node.asUInt16 (.valid path) "button_id" >>= body) := by
  cases fits : path.get Node.asUInt16 "button_id" with
  | none => exact unfit_course refers fits phone
  | some id =>
    have fitting : FitsButtonId path := fun _ => by simp [fits]
    have course : PathCourse planCfg phone httpUrl path
        (deref (plan.getEventHandler id) >>= use id) := by
      cases found : entryWith (planCfg.itemsAt "buttons") id with
      | none =>
        have missing : plan.getEventHandler id = none := by
          rw [planOf.handlers, found, Option.bind_none]
        rw [missing]
        exact .dangling fitting (not_resolves_of refers fits found) rfl rfl
      | some button =>
        obtain ⟨phoneButton, handler, gives, hasButton, hasHandler, handles⟩ :=
          planOf.entry planAccepted found
        have known := buttons_accepted planAccepted button (List.mem_of_find?_eq_some found)
        have handled : (use id handler).outcome = .ok () ∧
            Handled planCfg phone httpUrl path (use id handler).output := by
          rcases handlerOf_cases known handles with ⟨hint, rfl, type, hh⟩ | ⟨lot, rfl, type, hl⟩
          · exact night fits found gives hasButton type hh
          · exact park fits found type hl
        rw [hasHandler]
        exact .handled fitting (resolves_of fits found) handled.1 handled.2
    exact course.congr ((alike_read fits).trans (reads id))

theorem configureHTTPNightButton_course (planOf : PlanOf planCfg plan)
    (planAccepted : (record buttonPlanFields).accepts planCfg = true)
    (accepted : (record (phoneConfigHttpPathFields ++ httpNightFields)).accepts path = true)
    (named : path.get Node.asString "type" = some "http_night") (phone : String) :
    PathCourse planCfg phone httpUrl path (configureHTTPNightButton "yealink" path plan) := by
  obtain ⟨uri, hu, -⟩ := get_string accepted
    (show mandatory "path" (string []) ∈ phoneConfigHttpPathFields ++ httpNightFields by
      simp [httpNightFields]) rfl
  rw [configureHTTPNightButton]
  apply buttonPath_course planOf planAccepted (by simp [NamesButton, named])
  · intro id
    exact alike_read hu
  · intro id button phoneButton hint fits found gives hasButton type hh
    rw [hasButton]
    exact ⟨rfl, .night named fits found gives type hh hu⟩
  · intro id button phoneButton lot fits found type _
    exact ⟨rfl, .skippedNight named fits found (by simp [type]) hu⟩

theorem configureHTTPParkButton_course (planOf : PlanOf planCfg plan)
    (planAccepted : (record buttonPlanFields).accepts planCfg = true)
    (accepted : (record (phoneConfigHttpPathFields ++ httpParkFields)).accepts path = true)
    (named : path.get Node.asString "type" = some "http_park") (phone httpUrl : String) :
    PathCourse planCfg phone httpUrl path
      (configureHTTPParkButton "yealink" path httpUrl plan) := by
  obtain ⟨listUri, hlist, -⟩ := get_string accepted
    (show mandatory "park_list_path" (string []) ∈ phoneConfigHttpPathFields ++ httpParkFields by
      simp [httpParkFields]) rfl
  obtain ⟨infoUri, hinfo, -⟩ := get_string accepted
    (show mandatory "park_info_path" (string []) ∈ phoneConfigHttpPathFields ++ httpParkFields by
      simp [httpParkFields]) rfl
  rw [configureHTTPParkButton]
  apply buttonPath_course planOf planAccepted (by simp [NamesButton, named])
  · intro id
    exact (alike_read hlist).trans (alike_read hinfo)
  · intro id button phoneButton hint fits found _ _ type _
    exact ⟨rfl, .skippedPark named fits found (by simp [type]) hlist⟩
  · intro id button phoneButton lot fits found type hl
    exact ⟨rfl, .park named fits found type hl hlist hinfo⟩

theorem configureHTTPButton_course (planOf : PlanOf planCfg plan)
    (planAccepted : (record buttonPlanFields).accepts planCfg = true)
    (accepted : httpPathSchema.accepts path = true) (httpUrl : String)
    (ui : UI) (provides : ui.httpState = true) :
    PathCourse planCfg ui.name httpUrl path
      (configureHTTPButton "yealink" httpUrl plan ui path) := by
  obtain ⟨type, fields, named, found, here⟩ := derived_accepts accepted
  rw [configureHTTPButton]
  refine PathCourse.congr ?_ (alike_read named)
  rcases httpPathVariants_lookup.mp found with ⟨rfl, rfl⟩ | ⟨rfl, rfl⟩ | ⟨rfl, rfl⟩
  · rw [if_neg (by simp), if_pos rfl]
    exact configureHTTPNightButton_course planOf planAccepted here named ui.name
  · rw [if_neg (by simp), if_neg (by simp), if_pos rfl]
    exact configureHTTPParkButton_course planOf planAccepted here named ui.name httpUrl
  · rw [if_pos rfl]
    exact configureHTTPStateButton_course here named provides

end Paths

section Phones
variable {config phone : Node} {before : List Node} {s : PhonePlans} {httpUrl : String}

abbrev phoneSchema : Schema := record phoneConfigFields

/-- The first plan with the name. -/
def planNamed (config : Node) (name : String) : Option Node :=
  (config.itemsAt "button_plans").find? fun planCfg => planCfg.get Node.asString "name" = some name

def planFor (config phone : Node) : Option Node := (phone.get Node.asString "button_plan").bind (planNamed config)

theorem createButtonPlan_outcome (name : String) {plans : List Node}
    (accepted : ∀ planCfg ∈ plans, (record buttonPlanFields).accepts planCfg = true) :
    (createButtonPlan name plans).outcome =
      match plans.find? (fun planCfg => planCfg.get Node.asString "name" = some name) with
      | none => .ok none
      | some planCfg => (createFullPlan planCfg).outcome >>= fun plan => .ok (some plan) := by
  induction plans with
  | nil => rfl
  | cons planCfg rest ih =>
    obtain ⟨found, hn, -⟩ := get_string (accepted planCfg List.mem_cons_self)
      (show mandatory "name" (string []) ∈ buttonPlanFields by simp [buttonPlanFields]) rfl
    by_cases same : found = name
    · simp [createButtonPlan, outcome_read hn, hn, same]
    · have skipped := ih fun p h => accepted p (List.mem_cons_of_mem _ h)
      simp only [createButtonPlan, outcome_bind, outcome_read hn, ok_bind, ne_eq, same,
        not_false_eq_true, if_true, skipped, List.find?_cons, hn, Option.some.injEq, decide_false]

/-- What every phone has. -/
theorem phone_keys (known : phoneSchema.accepts phone = true) :
    ∃ planName name, phone.get Node.asString "button_plan" = some planName ∧
      phone.get Node.asString "name" = some name ∧
      phone.get Node.asString "type" = some "yealink" := by
  obtain ⟨planName, hplan, -⟩ := get_string known
    (show mandatory "button_plan" (string []) ∈ phoneConfigFields by simp [phoneConfigFields]) rfl
  obtain ⟨name, hname, -⟩ := get_string known
    (show mandatory "name" (string []) ∈ phoneConfigFields by simp [phoneConfigFields]) rfl
  obtain ⟨type, htype, option⟩ := get_string known
    (show mandatory "type" (string ["yealink"]) ∈ phoneConfigFields by simp [phoneConfigFields]) rfl
  obtain rfl : type = "yealink" := by simpa using option
  exact ⟨planName, name, hplan, hname, htype⟩

theorem createUI_ok (accepted : phoneSchema.accepts phone = true)
    (named : phone.get Node.asString "name" = some name) :
    (createUI phone).outcome = .ok (some ⟨name, true⟩) := by
  obtain ⟨-, -, -, -, htype⟩ := phone_keys accepted
  obtain ⟨providerCfg, hp, here⟩ := value_accepted accepted
    (show mandatory "provider" (derived providerFields adapterVariants) ∈ phoneConfigFields by
      simp [phoneConfigFields]) rfl
  obtain ⟨provider, created⟩ := createProvider_ok here
  simp [createUI, outcome_read named, outcome_index (record_accepts.mp accepted).1, hp, created,
    outcome_read htype]

/-- The loop over the paths of a phone. -/
def configurePaths (httpUrl : String) (plan : Plan) (ui : UI) (phone : Node) : StartUp Unit :=
  (phone.itemsAt "http_paths").foldlM (fun _ path => configureHTTPButton "yealink" httpUrl plan ui path) ()

theorem plans_accepted (accepted : configSchema.accepts config = true) :
    ∀ planCfg ∈ config.itemsAt "button_plans", (record buttonPlanFields).accepts planCfg = true :=
  items_accepted accepted
    (show mandatory "button_plans" (list (record buttonPlanFields)) ∈ configFields by
      simp [configFields])

theorem planFor_accepted (accepted : configSchema.accepts config = true)
    (found : planFor config phone = some planCfg) :
    (record buttonPlanFields).accepts planCfg = true := by
  obtain ⟨name, -, here⟩ := Option.bind_eq_some_iff.mp found
  exact plans_accepted accepted planCfg (List.mem_of_find?_eq_some here)

theorem createPhone_outcome (accepted : configSchema.accepts config = true)
    (known : phoneSchema.accepts phone = true) (httpUrl : String) (s : PhonePlans) :
    ∃ planName name, phone.get Node.asString "button_plan" = some planName ∧
    phone.get Node.asString "name" = some name ∧
      (createPhone (.valid config) httpUrl s phone).outcome =
        if (s.buttonPlans.find? planName).isSome then .error (.exit Privileges.exitFailure)
        else match planFor config phone with
          | none => .error (.exit Privileges.exitFailure)
          | some planCfg => (createFullPlan planCfg).outcome >>= fun plan =>
              if name ∈ s.phoneUis then .error (.exit Privileges.exitFailure)
              else (configurePaths httpUrl plan ⟨name, true⟩ phone).outcome >>= fun _ =>
                .ok ⟨s.buttonPlans.emplace planName plan, name :: s.phoneUis⟩ := by
  obtain ⟨planName, name, hplan, hname, htype⟩ := phone_keys known
  refine ⟨planName, name, hplan, hname, ?_⟩
  by_cases taken : (s.buttonPlans.find? planName).isSome = true
  · simp [createPhone, outcome_read hplan, taken]
  · have named : planFor config phone = (config.itemsAt "button_plans").find? fun planCfg =>
        planCfg.get Node.asString "name" = some planName := by simp [planFor, hplan, planNamed]
    have created := createButtonPlan_outcome planName (plans_accepted accepted)
    rw [← named] at created
    have plans : (index (.valid config) "button_plans").outcome =
        .ok ((config.find? "button_plans").elim (.zombie "button_plans") .valid) :=
      outcome_index (record_accepts.mp accepted).1 _
    rw [createPhone, outcome_bind, outcome_read hplan, ok_bind, if_neg taken, if_neg taken,
      outcome_bind, plans, ok_bind, outcome_bind, elim_items, created]
    cases planFor config phone with
    | none => rfl
    | some planCfg =>
      cases full : (createFullPlan planCfg).outcome with
      | error e => simp only [full, error_bind]
      | ok plan =>
        simp only [full, ok_bind, outcome_bind, createUI_ok known hname, outcome_deref_some]
        by_cases duplicate : name ∈ s.phoneUis
        · simp only [if_pos duplicate, outcome_failure]
        · simp only [if_neg duplicate, outcome_bind, outcome_read htype, ok_bind,
            outcome_index (record_accepts.mp known).1, elim_items, configurePaths, outcome_pure]

def FreshPlan (before : List Node) (phone : Node) : Prop :=
  ∀ earlier ∈ before, earlier.get Node.asString "button_plan" ≠ phone.get Node.asString "button_plan"

def FreshName (before : List Node) (phone : Node) : Prop :=
  ∀ earlier ∈ before, earlier.get Node.asString "name" ≠ phone.get Node.asString "name"

def PathPasses (planCfg path : Node) : Prop := FitsButtonId path ∧ Resolves planCfg path

/-- A phone after which the next one is reached. -/
def PhonePasses (config : Node) (before : List Node) (phone : Node) : Prop :=
  FreshPlan before phone ∧ FreshName before phone ∧ ∃ planCfg, planFor config phone = some planCfg ∧ FitsIds planCfg ∧
    ∀ path ∈ phone.itemsAt "http_paths", PathPasses planCfg path

/-- The two collections know the phones so far. -/
structure Collects (before : List Node) (s : PhonePlans) : Prop where
  plans : ∀ n, (s.buttonPlans.find? n).isSome ↔ ∃ g ∈ before, g.get Node.asString "button_plan" = some n
  names : ∀ n, n ∈ s.phoneUis ↔ ∃ g ∈ before, g.get Node.asString "name" = some n

theorem paths_accepted (known : phoneSchema.accepts phone = true) :
    ∀ path ∈ phone.itemsAt "http_paths", httpPathSchema.accepts path = true :=
  items_accepted known
    (show optional "http_paths" (list httpPathSchema) ∈ phoneConfigFields by
      simp [phoneConfigFields])

section PathLoop
variable {plan : Plan} {planCfg : Node} {name : String}

theorem paths_track (planOf : PlanOf planCfg plan)
    (planAccepted : (record buttonPlanFields).accepts planCfg = true) :
    Tracks (httpPathSchema.accepts · = true)
      (fun (_ : Unit) path =>
        configureHTTPButton "yealink" httpUrl plan ⟨name, true⟩ path) (fun _ _ => True)
      (fun _ path => PathPasses planCfg path) where
  ok {before _ path _} accepted _ finished := by
    cases configureHTTPButton_course planOf planAccepted accepted httpUrl ⟨name, true⟩ rfl with
    | handled fits resolves => exact ⟨⟨fits, resolves⟩, trivial⟩
    | unfit _ ended => simp [ended] at finished
    | dangling _ _ ended => simp [ended] at finished
  pass {before _ path} accepted _ passes := by
    cases configureHTTPButton_course planOf planAccepted accepted httpUrl ⟨name, true⟩ rfl with
    | handled _ _ ended => exact ⟨(), ended⟩
    | unfit unfits => exact absurd passes.1 unfits
    | dangling _ dangles => exact absurd passes.2 dangles

theorem configurePaths_ok (planOf : PlanOf planCfg plan)
    (planAccepted : (record buttonPlanFields).accepts planCfg = true)
    (known : phoneSchema.accepts phone = true) (httpUrl name : String) :
    (configurePaths httpUrl plan ⟨name, true⟩ phone).outcome = .ok () ↔
      ∀ path ∈ phone.itemsAt "http_paths", PathPasses planCfg path := by
  have tracks := @paths_track _ httpUrl plan planCfg name planOf planAccepted
  constructor
  · intro finished
    have passed : AllPass (fun _ path => PathPasses planCfg path) [] (phone.itemsAt "http_paths") :=
      (tracks.loop_ok (paths_accepted known) trivial finished).1
    exact allPass_each.mp passed
  · intro passes
    have each : AllPass (fun _ path => PathPasses planCfg path) [] (phone.itemsAt "http_paths") :=
      allPass_each.mpr passes
    exact (tracks.loop_pass (paths_accepted known) trivial each).choose_spec

/-- Reading the paths of a phone is safe when each id that is reached fits. -/
theorem configurePaths_typed (planOf : PlanOf planCfg plan)
    (planAccepted : (record buttonPlanFields).accepts planCfg = true)
    (known : phoneSchema.accepts phone = true) (httpUrl name : String) :
    Safe Stop.IsException (configurePaths httpUrl plan ⟨name, true⟩ phone) ↔
      EachReached (fun _ path => PathPasses planCfg path) (fun _ path => FitsButtonId path) []
        (phone.itemsAt "http_paths") := by
  refine (paths_track planOf planAccepted).loop_safe (paths_accepted known)
    trivial fun {before _ path} accepted _ => ?_
  cases configureHTTPButton_course planOf planAccepted accepted httpUrl ⟨name, true⟩ rfl with
  | handled fits _ ended => exact ⟨fun _ => fits, fun _ => safe_of_ok ended⟩
  | unfit unfits ended thrown =>
    exact ⟨fun safe => absurd thrown (safe _ ended), fun fits => absurd fits unfits⟩
  | dangling fits _ ended =>
    refine ⟨fun _ => fits, fun _ s stopped => ?_⟩
    obtain rfl : Stop.nullDereference = s := Except.error.inj (ended.symm.trans stopped)
    exact id

end PathLoop

end Phones
end LampMonitor.Config
