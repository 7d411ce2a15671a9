import LampMonitor.Config.PhoneCourse
import LampMonitor.Config.TypedReads

/-! What becomes of the references of a configuration: of the providers that paths
of the phonebooks name, of the plans that phones name, and of the buttons that
paths of the phones name. Of these only a button that no plan has is used unseen;
an entry that cannot be read leaves by an exception. -/
namespace LampMonitor.Config
open Fallible Script ButtonState Schema

section Ends
variable {p : StartUp α}

def Stop.IsCrash : Stop → Prop
  | exit _ => False
  | _ => True

/-- Whatever stops the run, it is an exit with failure right after an error message. -/
def EndsReported (run : Run Event Request Stop α) : Prop :=
  ∀ s, run.result = .error (.stopped s) →
    s = .exit Privileges.exitFailure ∧ ∃ before message, run.output = before ++ [.syslog .err message]

/-- An exit is a failure and follows its message. -/
def Announced (output : List Event) : Stop → Prop
  | .exit status => status = Privileges.exitFailure ∧ ∃ before message, output = before ++ [.syslog .err message]
  | _ => True

theorem Announced.later {before output : List Event} (announced : Announced output s) :
    Announced (before ++ output) s := by
  cases s with
  | exit status =>
    obtain ⟨failed, earlier, message, rfl⟩ := announced
    exact ⟨failed, before ++ earlier, message, (List.append_assoc ..).symm⟩
  | exception thrown => trivial
  | nullDereference => trivial

theorem Stop.IsCrash.announced {s : Stop} {output : List Event} (crash : s.IsCrash) :
    Announced output s := by
  cases s with
  | exit status => exact absurd crash id
  | exception thrown => trivial
  | nullDereference => trivial

theorem Stop.IsException.crash {s : Stop} (thrown : s.IsException) : s.IsCrash := by
  cases s with
  | exit status => exact thrown
  | exception e => trivial
  | nullDereference => trivial

theorem safe_crash_iff : Safe Stop.IsCrash p ↔ Safe Stop.IsException p ∧ Safe Stop.IsNull p := by
  constructor
  · intro safe
    constructor
    · exact fun s stopped thrown => safe s stopped thrown.crash
    · intro s stopped null
      cases s with
      | nullDereference => exact safe _ stopped trivial
      | exit status => exact null
      | exception thrown => exact null
  · rintro ⟨typed, resolved⟩ s stopped crash
    cases s with
    | exit status => exact crash
    | exception thrown => exact typed _ stopped trivial
    | nullDereference => exact resolved _ stopped trivial

/-- A program whose exits are announced reports its ends when it never crashes. -/
theorem endsReported_iff (announces : StopsWith Announced p) :
    (∀ grants, EndsReported (p.run grants)) ↔ Safe Stop.IsCrash p := by
  rw [safe_run]
  constructor
  · intro reported grants s stopped crash
    obtain ⟨rfl, -⟩ := reported grants s stopped
    exact crash
  · intro safe grants s stopped
    cases s with
    | exit status =>
      obtain ⟨rfl, announced⟩ := announces.run stopped
      exact ⟨rfl, announced⟩
    | exception thrown => exact absurd trivial (safe grants _ stopped)
    | nullDereference => exact absurd trivial (safe grants _ stopped)

end Ends

section Attachments
variable {Named Named' : String → Target → Prop}

/-- An attached path has its target by right. -/
def Event.Attaches (Named : String → Target → Prop) : Event → Prop
  | syslog _ _ => True
  | attach uri target => Named uri target

theorem Event.IsLog.attaches {event : Event} (log : event.IsLog) : event.Attaches Named := by
  cases event with
  | syslog level message => trivial
  | attach uri target => exact absurd log id

theorem Event.Attaches.mono {event : Event} (attaches : event.Attaches Named)
    (weaker : ∀ uri target, Named uri target → Named' uri target) : event.Attaches Named' := by
  cases event with
  | syslog level message => trivial
  | attach uri target => exact weaker uri target attaches

end Attachments

section Phonebooks
variable [ScalarInterface] {config : Node}

/-- Only the phonebooks of the paths are attached, all of them unless the run ends
early, and an end is reported. -/
structure PhonebooksReported (config : Node) (run : Run Event Request Stop Unit) : Prop where
  attached : ∀ uri target, .attach uri target ∈ run.output →
    ∃ path ∈ config.itemsAt "http_paths", PhonebookNamed config path uri target
  finished : run.result = .ok () → ∀ path ∈ config.itemsAt "http_paths",
    ∃ uri target, PhonebookNamed config path uri target ∧ .attach uri target ∈ run.output
  stopped : EndsReported run

theorem createPhonebooks_output (accepted : (record phonebooksFields).accepts config = true) :
    (createPhonebooks (.valid config)).output =
      ((config.itemsAt "http_paths").foldlM (createPhonebook (.valid config)) .empty).output := by
  have paths := outcome_index (record_accepts.mp accepted).1 "http_paths"
  simp only [createPhonebooks, output_bind_ok paths, output_index, List.nil_append, elim_items,
    output_bind_pure]

theorem createPhonebooks_announces (accepted : (record phonebooksFields).accepts config = true) :
    StopsWith Announced (createPhonebooks (.valid config)) := by
  have loop :=
    (phonebooks_track accepted).loop_stopsWith (Q := Announced)
    [] (phonebookPaths_accepted accepted)
    (knows_empty config) Announced.later fun {_ adapters path} known knows e stopped => ?_
  · intro e stopped
    rw [createPhonebooks_outcome accepted, bind_eq_error] at stopped
    rw [createPhonebooks_output accepted]
    rcases stopped with stopped | ⟨_, _, ⟨⟩⟩
    exact loop e stopped
  · cases createPhonebook_course accepted known knows with
    | attached _ ended => simp [ended] at stopped
    | unknown _ ended output =>
      obtain rfl := Except.error.inj (ended.symm.trans stopped)
      exact ⟨rfl, _, _, output⟩
    | noTtl _ _ ended thrown =>
      obtain rfl := Except.error.inj (ended.symm.trans stopped)
      exact thrown.crash.announced

theorem createPhonebooks_attaches (accepted : (record phonebooksFields).accepts config = true) :
    Emits (Event.Attaches fun uri target =>
      ∃ path ∈ config.itemsAt "http_paths", PhonebookNamed config path uri target)
      (createPhonebooks (.valid config)) := by
  rw [Emits, createPhonebooks_output accepted]
  refine (phonebooks_track accepted).loop_emits [] (phonebookPaths_accepted accepted)
    (knows_empty config)
    fun {_ adapters path} member known knows event emitted => ?_
  cases createPhonebook_course accepted known knows with
  | attached _ _ _ named output logs =>
    rw [output] at emitted
    rcases List.mem_append.mp emitted with log | attached
    · exact (logs event log).attaches
    · obtain rfl := List.mem_singleton.mp attached
      exact ⟨path, member, named⟩
  | unknown _ _ output logs =>
    rw [output] at emitted
    rcases List.mem_append.mp emitted with log | error
    · exact (logs event log).attaches
    · obtain rfl := List.mem_singleton.mp error
      trivial
  | noTtl _ _ _ _ logs => exact (logs event emitted).attaches

theorem createPhonebooks_attached (accepted : (record phonebooksFields).accepts config = true)
    (finished : (createPhonebooks (.valid config)).outcome = .ok ())
    (member : path ∈ config.itemsAt "http_paths") :
    ∃ uri target, PhonebookNamed config path uri target ∧
      .attach uri target ∈ (createPhonebooks (.valid config)).output := by
  rw [createPhonebooks_outcome accepted, bind_eq_ok] at finished
  obtain ⟨adapters, finished, -⟩ := finished
  obtain ⟨earlier, t, t', knows, passed, emitted⟩ := (phonebooks_track accepted).loop_emitted []
    (phonebookPaths_accepted accepted) (knows_empty config) finished member
  rw [createPhonebooks_output accepted]
  cases createPhonebook_course accepted (phonebookPaths_accepted accepted path member) knows with
  | attached _ _ _ named output => exact ⟨_, _, named, emitted _ (by simp [output])⟩
  | unknown _ ended => simp [ended] at passed
  | noTtl _ _ ended => simp [ended] at passed

end Phonebooks

section Phones
variable [ScalarInterface] {config phone : Node}

/-- What a path of a phone leads to in the plan that the phone names. -/
def Answered (config phone path : Node) (events : List Event) : Prop :=
  ∃ httpUrl planCfg name, httpUrlOf config = some httpUrl ∧ planFor config phone = some planCfg ∧
    phone.get Node.asString "name" = some name ∧ Handled planCfg name httpUrl path events

/-- Only what the paths of the phones name is attached, every path is attached or
skipped with a warning unless the run ends early, and an end is reported. -/
structure PhonesReported (config : Node) (run : Run Event Request Stop PhonePlans) : Prop where
  attached : ∀ uri target, .attach uri target ∈ run.output → ∃ phone ∈ config.itemsAt "phones",
    ∃ path ∈ phone.itemsAt "http_paths", ∃ events, Answered config phone path events ∧ .attach uri target ∈ events
  finished : ∀ plans, run.result = .ok plans → ∀ phone ∈ config.itemsAt "phones", ∀ path ∈ phone.itemsAt "http_paths",
    ∃ events, Answered config phone path events ∧ ∀ event ∈ events, event ∈ run.output
  stopped : EndsReported run

section Paths
variable {planCfg path : Node} {plan : Plan}

theorem configurePaths_crashes (planOf : PlanOf planCfg plan)
    (planAccepted : (record buttonPlanFields).accepts planCfg = true)
    (known : phoneSchema.accepts phone = true) (httpUrl name : String) :
    StopsWith (fun _ s => s.IsCrash) (configurePaths httpUrl plan ⟨name, true⟩ phone) := by
  refine (paths_track planOf planAccepted).loop_stopsWith (Q := fun _ s => s.IsCrash)
    [] (paths_accepted known) trivial id
    fun {_ _ path} accepted _ e stopped => ?_
  cases configureHTTPButton_course planOf planAccepted accepted httpUrl ⟨name, true⟩ rfl with
  | handled _ _ ended => simp [ended] at stopped
  | unfit _ ended thrown =>
    obtain rfl := Except.error.inj (ended.symm.trans stopped)
    exact thrown.crash
  | dangling _ _ ended =>
    obtain rfl := Except.error.inj (ended.symm.trans stopped)
    trivial

/-- The paths of a phone never exit, so they are safe only where all of them pass. -/
theorem configurePaths_resolved (planOf : PlanOf planCfg plan)
    (planAccepted : (record buttonPlanFields).accepts planCfg = true)
    (known : phoneSchema.accepts phone = true) (httpUrl name : String) :
    Safe Stop.IsCrash (configurePaths httpUrl plan ⟨name, true⟩ phone) ↔
      ∀ path ∈ phone.itemsAt "http_paths", PathPasses planCfg path := by
  rw [← configurePaths_ok planOf planAccepted known httpUrl name]
  constructor
  · intro safe
    cases ended : (configurePaths httpUrl plan ⟨name, true⟩ phone).outcome with
    | ok u => rfl
    | error e =>
      exact absurd (configurePaths_crashes planOf planAccepted known httpUrl name e ended)
        (safe e ended)
  · exact safe_of_ok

theorem configurePaths_attaches (planOf : PlanOf planCfg plan)
    (planAccepted : (record buttonPlanFields).accepts planCfg = true)
    (known : phoneSchema.accepts phone = true) (httpUrl name : String) :
    Emits (Event.Attaches fun uri target => ∃ path ∈ phone.itemsAt "http_paths", ∃ events,
        Handled planCfg name httpUrl path events ∧ .attach uri target ∈ events)
      (configurePaths httpUrl plan ⟨name, true⟩ phone) := by
  refine (paths_track planOf planAccepted).loop_emits [] (paths_accepted known) trivial
    fun {_ _ path} member accepted _ event emitted => ?_
  cases configureHTTPButton_course planOf planAccepted accepted httpUrl ⟨name, true⟩ rfl with
  | handled _ _ _ handled =>
    cases event with
    | syslog level message => trivial
    | attach uri target => exact ⟨path, member, _, handled, emitted⟩
  | unfit _ _ _ silent => simp [silent] at emitted
  | dangling _ _ _ silent => simp [silent] at emitted

theorem configurePaths_handled (planOf : PlanOf planCfg plan)
    (planAccepted : (record buttonPlanFields).accepts planCfg = true)
    (known : phoneSchema.accepts phone = true) {httpUrl name : String}
    (finished : (configurePaths httpUrl plan ⟨name, true⟩ phone).outcome = .ok ())
    (member : path ∈ phone.itemsAt "http_paths") :
    ∃ events, Handled planCfg name httpUrl path events ∧
      ∀ event ∈ events, event ∈ (configurePaths httpUrl plan ⟨name, true⟩ phone).output := by
  obtain ⟨earlier, _, _, -, passed, emitted⟩ :=
    (paths_track planOf planAccepted).loop_emitted [] (paths_accepted known) trivial finished member
  cases configureHTTPButton_course planOf planAccepted (paths_accepted known path member)
    httpUrl ⟨name, true⟩ rfl with
  | handled _ _ _ handled => exact ⟨_, handled, emitted⟩
  | unfit _ ended => simp [ended] at passed
  | dangling _ _ ended => simp [ended] at passed

end Paths

section Entry
variable {httpUrl : String} {s s' : PhonePlans}

theorem createPhone_announces (accepted : configSchema.accepts config = true)
    (known : phoneSchema.accepts phone = true) (httpUrl : String) (s : PhonePlans) :
    StopsWith Announced (createPhone (.valid config) httpUrl s phone) := by
  intro e stopped
  cases createPhone_course accepted known httpUrl s with
  | paths found planOf _ course output =>
    rw [course, bind_eq_error] at stopped
    rw [output]
    rcases stopped with stopped | ⟨_, _, ⟨⟩⟩
    have crash :=
      configurePaths_crashes planOf (planFor_accepted accepted found) known httpUrl _ e stopped
    exact crash.announced
  | exits ended output =>
    obtain rfl := Except.error.inj (ended.symm.trans stopped)
    exact ⟨rfl, _, _, output⟩
  | unfit ended thrown =>
    obtain rfl := Except.error.inj (ended.symm.trans stopped)
    exact thrown.crash.announced

theorem createPhone_attaches (accepted : configSchema.accepts config = true)
    (known : phoneSchema.accepts phone = true) (url : httpUrlOf config = some httpUrl)
    (s : PhonePlans) :
    Emits (Event.Attaches fun uri target => ∃ path ∈ phone.itemsAt "http_paths", ∃ events,
        Answered config phone path events ∧ .attach uri target ∈ events)
      (createPhone (.valid config) httpUrl s phone) := by
  intro event emitted
  cases createPhone_course accepted known httpUrl s with
  | paths found planOf named _ output logs =>
    rw [output] at emitted
    rcases List.mem_append.mp emitted with log | here
    · exact (logs event log).attaches
    · refine (configurePaths_attaches planOf (planFor_accepted accepted found)
        known httpUrl _ event here).mono ?_
      rintro uri target ⟨path, member, events, handled, attached⟩
      exact ⟨path, member, events, ⟨httpUrl, _, _, url, found, named, handled⟩, attached⟩
  | exits _ output logs =>
    rw [output] at emitted
    rcases List.mem_append.mp emitted with log | error
    · exact (logs event log).attaches
    · obtain rfl := List.mem_singleton.mp error
      trivial
  | unfit _ _ logs => exact (logs event emitted).attaches

theorem createPhone_answers (accepted : configSchema.accepts config = true)
    (known : phoneSchema.accepts phone = true) (url : httpUrlOf config = some httpUrl)
    (finished : (createPhone (.valid config) httpUrl s phone).outcome = .ok s')
    (member : path ∈ phone.itemsAt "http_paths") :
    ∃ events, Answered config phone path events ∧
      ∀ event ∈ events, event ∈ (createPhone (.valid config) httpUrl s phone).output := by
  cases createPhone_course accepted known httpUrl s with
  | paths found planOf named course output =>
    obtain ⟨_, configured, -⟩ := bind_eq_ok.mp (course.symm.trans finished)
    obtain ⟨events, handled, emitted⟩ :=
      configurePaths_handled planOf (planFor_accepted accepted found) known configured member
    refine ⟨events, ⟨httpUrl, _, _, url, found, named, handled⟩, fun event h => ?_⟩
    rw [output]
    exact List.mem_append_right _ (emitted event h)
  | exits ended => simp [ended] at finished
  | unfit ended => simp [ended] at finished

end Entry

section Loop

theorem createPhonePlans_announces (accepted : configSchema.accepts config = true) :
    StopsWith Announced (createPhonePlans (.valid config)) := by
  obtain ⟨httpUrl, -, outcome, output⟩ := createPhonePlans_course accepted
  rw [StopsWith, outcome, output]
  exact (phones_track accepted httpUrl).loop_stopsWith [] (phones_accepted accepted)
    collects_empty Announced.later
    fun known _ => createPhone_announces accepted known httpUrl _

theorem createPhonePlans_attaches (accepted : configSchema.accepts config = true) :
    Emits (Event.Attaches fun uri target =>
      ∃ phone ∈ config.itemsAt "phones", ∃ path ∈ phone.itemsAt "http_paths",
        ∃ events, Answered config phone path events ∧ .attach uri target ∈ events)
      (createPhonePlans (.valid config)) := by
  obtain ⟨httpUrl, url, -, output⟩ := createPhonePlans_course accepted
  rw [Emits, output]
  refine (phones_track accepted httpUrl).loop_emits [] (phones_accepted accepted) collects_empty
    fun {_ s phone} member known _ event emitted => ?_
  exact (createPhone_attaches accepted known url s event emitted).mono fun uri target named =>
    ⟨phone, member, named⟩

theorem createPhonePlans_answers (accepted : configSchema.accepts config = true)
    (finished : (createPhonePlans (.valid config)).outcome = .ok plans)
    (there : phone ∈ config.itemsAt "phones") (member : path ∈ phone.itemsAt "http_paths") :
    ∃ events, Answered config phone path events ∧
    ∀ event ∈ events, event ∈ (createPhonePlans (.valid config)).output := by
  obtain ⟨httpUrl, url, outcome, output⟩ := createPhonePlans_course accepted
  obtain ⟨earlier, t, t', -, passed, emitted⟩ :=
    (phones_track accepted httpUrl).loop_emitted [] (phones_accepted accepted)
    collects_empty (outcome.symm.trans finished) there
  obtain ⟨events, answered, here⟩ :=
    createPhone_answers accepted (phones_accepted accepted phone there) url passed member
  exact ⟨events, answered, fun event h => output ▸ emitted event (here event h)⟩

end Loop

end Phones

section Whole
variable [ScalarInterface] {config phone : Node}

/-- Every id that handlers are created for has its button. -/
def ButtonsFound (config : Node) : Prop :=
  ∀ planCfg ∈ config.itemsAt "button_plans", ∀ plan, (createPlan planCfg).outcome = .ok plan →
    ∀ button ∈ planCfg.itemsAt "buttons", ∀ id, button.get Node.asUInt16 "id" = some id → (plan.getButton id).isSome

/-- Every reference is followed, skipped with a warning or reported by an exit,
and nothing that was not found is used. -/
structure ReferencesReported (config : Node) : Prop where
  phonebooks : ∀ node, config.find? "phonebooks" = some node → ∀ grants,
    PhonebooksReported node ((createPhonebooks (.valid node)).run grants)
  phones : ∀ grants, PhonesReported config ((createPhonePlans (.valid config)).run grants)
  buttons : ButtonsFound config

/-- When a phone is reached, the ids of its plan and of its paths are 16-bit
numbers, and those of the paths lead to buttons of the plan. -/
def PhoneResolves (config : Node) (before : List Node) (phone : Node) : Prop :=
  FreshPlan before phone → ∀ planCfg, planFor config phone = some planCfg →
    FitsIds planCfg ∧ (FreshName before phone → ∀ path ∈ phone.itemsAt "http_paths", PathPasses planCfg path)

structure ReferencesResolve (config : Node) : Prop where
  phonebooks : ∀ node, config.find? "phonebooks" = some node → PhonebooksReadable node
  phones : EachReached (PhonePasses config) (PhoneResolves config) [] (config.itemsAt "phones")

theorem createPhone_resolved (accepted : configSchema.accepts config = true)
    (known : phoneSchema.accepts phone = true) (collects : Collects before s) (httpUrl : String) :
    Safe Stop.IsCrash (createPhone (.valid config) httpUrl s phone) ↔
      PhoneResolves config before phone :=
  createPhone_safe_iff accepted known collects id Stop.IsException.crash
    fun name planOf planAccepted =>
    configurePaths_resolved planOf planAccepted known httpUrl name

theorem createPhonePlans_resolved (accepted : configSchema.accepts config = true) :
    Safe Stop.IsCrash (createPhonePlans (.valid config)) ↔
      EachReached (PhonePasses config) (PhoneResolves config) [] (config.itemsAt "phones") :=
  createPhonePlans_safe accepted fun httpUrl known collects =>
    createPhone_resolved accepted known collects httpUrl

theorem buttons_found (accepted : configSchema.accepts config = true) : ButtonsFound config := by
  intro planCfg member plan created button there id fits
  rcases createPlan_cases (plans_accepted accepted planCfg member) with
    ⟨-, name, plan', created', holds⟩ | ⟨-, e, ended, -⟩
  · obtain rfl : plan = plan' := Except.ok.inj (created.symm.trans created')
    obtain ⟨first, found⟩ : ∃ first, entryWith (planCfg.itemsAt "buttons") id = some first :=
      Option.isSome_iff_exists.mp (List.find?_isSome.mpr ⟨button, there, by simp [fits]⟩)
    rw [holds.buttons, found]
    exact holds.known first (List.mem_of_find?_eq_some found)
  · simp [ended] at created

theorem phonebooks_reported_iff {node : Node}
    (accepted : (record phonebooksFields).accepts node = true) :
    (∀ grants, PhonebooksReported node ((createPhonebooks (.valid node)).run grants)) ↔
      PhonebooksReadable node := by
  have safe : Safe Stop.IsCrash (createPhonebooks (.valid node)) ↔ PhonebooksReadable node := by
    rw [safe_crash_iff, createPhonebooks_typed accepted,
      and_iff_left (createPhonebooks_resolved accepted), PhonebooksReadable]
  rw [← safe, ← endsReported_iff (createPhonebooks_announces accepted)]
  constructor
  · exact fun reported grants => (reported grants).stopped
  · intro ends grants
    refine ⟨fun uri target emitted => ?_, fun finished path member => ?_, ends grants⟩
    · exact createPhonebooks_attaches accepted _ ((output_run_initial _ grants).subset emitted)
    · obtain ⟨outcome, output⟩ := run_ok finished
      rw [output]
      exact createPhonebooks_attached accepted outcome member

theorem phones_reported_iff (accepted : configSchema.accepts config = true) :
    (∀ grants, PhonesReported config ((createPhonePlans (.valid config)).run grants)) ↔
      EachReached (PhonePasses config) (PhoneResolves config) [] (config.itemsAt "phones") := by
  rw [← createPhonePlans_resolved accepted,
    ← endsReported_iff (createPhonePlans_announces accepted)]
  constructor
  · exact fun reported grants => (reported grants).stopped
  · intro ends grants
    refine ⟨fun uri target emitted => ?_,
      fun plans finished phone there path member => ?_, ends grants⟩
    · exact createPhonePlans_attaches accepted _ ((output_run_initial _ grants).subset emitted)
    · obtain ⟨outcome, output⟩ := run_ok finished
      rw [output]
      exact createPhonePlans_answers accepted outcome there member

/-- Exactly for these configurations every dangling reference is reported. -/
theorem references_reported_iff (accepted : configSchema.accepts config = true) :
    ReferencesReported config ↔ ReferencesResolve config := by
  have phonebooks : ∀ node, config.find? "phonebooks" = some node →
      (record phonebooksFields).accepts node = true := by
    intro node found
    obtain ⟨node', found', here, -⟩ :=
      group_node accepted "phonebooks" phonebooksFields (by simp [configFields])
    obtain rfl : node = node' := Option.some.inj (found.symm.trans found')
    exact here
  constructor
  · intro reported
    constructor
    · exact fun node found =>
        (phonebooks_reported_iff (phonebooks node found)).mp (reported.phonebooks node found)
    · exact (phones_reported_iff accepted).mp reported.phones
  · intro resolve
    constructor
    · exact fun node found =>
        (phonebooks_reported_iff (phonebooks node found)).mpr (resolve.phonebooks node found)
    · exact (phones_reported_iff accepted).mpr resolve.phones
    · exact buttons_found accepted

end Whole

section Sample
local instance nightScalars : ScalarInterface := decimalScalars

/-- A file with one phone, whose only path is that of the night button with the id. -/
def nightFile (buttonId : String) : Node :=
  .map [("http", .map [("url", .scalar "http://127.0.0.1")]),
        ("ami", .map [("username", .scalar "username"), ("secret", .scalar "secret")]),
        ("database", .map [("filename", .scalar "/tmp/cache.sqlite3")]),
        ("phonebooks", .map [("providers", .sequence []), ("http_paths", .sequence [])]),
        ("button_plans", .sequence [.map
          [("name", .scalar "default"),
           ("buttons", .sequence [.map [("id", .scalar "2"), ("type", .scalar "night_button"), ("hint", .scalar "night")]])]]),
        ("phones", .sequence [.map
          [("name", .scalar "T48"), ("button_plan", .scalar "default"), ("type", .scalar "yealink"),
           ("provider", .map [("type", .scalar "pjsip_wizard_cfg"), ("match", .scalar "phone_model == 'T48'")]),
           ("http_paths", .sequence [.map
             [("type", .scalar "http_night"), ("path", .scalar "/night"), ("button_id", .scalar buttonId)]])]])]

theorem references_reported_iff_night :
    configSchema.accepts (configSchema.fill (nightFile "2")) = true ∧ ReferencesReported (configSchema.fill (nightFile "2")) := by
  have accepted : configSchema.accepts (configSchema.fill (nightFile "2")) = true := by decide
  refine ⟨accepted, (references_reported_iff accepted).mpr ⟨?_, ?_⟩⟩
  · intro node found
    obtain rfl := Option.some.inj found
    trivial
  · refine ⟨fun _ planCfg found => ?_, fun _ => trivial⟩
    obtain rfl := Option.some.inj found
    refine ⟨List.forall_mem_singleton.mpr rfl,
      fun _ => List.forall_mem_singleton.mpr ⟨fun _ => rfl, fun _ id here => ?_⟩⟩
    obtain rfl := Option.some.inj here
    rfl

theorem missing_button_dereferenced :
    configSchema.accepts (configSchema.fill (nightFile "3")) = true ∧ ¬ ReferencesReported (configSchema.fill (nightFile "3")) := by
  refine ⟨by decide, fun reported => ?_⟩
  have ended := (reported.phones fun _ => true).stopped .nullDereference rfl
  exact nomatch ended.1

end Sample
end LampMonitor.Config
