import LampMonitor.Config.TypedReads

/-! The course of `main` with a configuration file, and how it ends. From the login
on a thread pings Asterisk. It is joined behind the HTTP server; an exception before
that unwinds past it, and the destructor of a thread that can be joined terminates
the program before the handler of `main` is reached. -/
namespace LampMonitor.Config
open Fallible Script ButtonState Schema

inductive Thrown where
  | yaml (exception : YamlException)
  | call (request : Request)
  | logoff

inductive Ending where
  /-- `EXIT_SUCCESS` -/
  | returned
  | exited (status : Nat)
  /-- The message is logged as critical, and the status is `EXIT_FAILURE`. -/
  | caught (thrown : Thrown)
  | terminated (thrown : Thrown)
  | nullDereference

structure ApplicationParameters where
  user : String
  group : String
  isDaemon : Bool

/-- What is outside: the file system, the credentials, the signals, and what is requested. -/
structure World where
  exists_ : Bool
  daemon : Bool
  system : Privileges.System
  process : Privileges.Credentials
  sigaction : Bool
  grants : Request → Bool
  logoff : Bool

section Course

def unwound (joinable : Bool) (thrown : Thrown) : Ending :=
  if joinable then .terminated thrown else .caught thrown

/-- A login without success exits; other requests throw. -/
def ended (joinable : Bool) : Halt Request Stop → Ending
  | .stopped (.exit status) => .exited status
  | .stopped .nullDereference => .nullDereference
  | .stopped (.exception exception) => unwound joinable (.yaml exception)
  | .refused (.login _ _ _ _) => .exited Privileges.exitFailure
  | .refused request => unwound joinable (.call request)

def World.during (world : World) (joinable : Bool) (step : StartUp α) (next : α → Ending) : Ending :=
  match (step.run world.grants).result with
  | .ok a => next a
  | .error halt => ended joinable halt

variable [ScalarInterface]

def prepare (config : Handle) (isDaemon : Bool) : StartUp (String × UInt16) := do
  let _ ← configureSyslog (← index config "syslog") isDaemon
  createHTTPServer (← index config "http")

def connect (config : Handle) : StartUp Unit := do
  createAMIConnection (← index config "ami")

/-- What `main` does while the thread is running. -/
def populate (config : Handle) : StartUp PhonePlans := do
  createPhonebooks (← index config "phonebooks")
  createDeskphoneCache (← index config "database")
  createPhonePlans config

def main (world : World) (args : ApplicationParameters) (file : Node) : Ending :=
  if !world.exists_ then .exited Privileges.exitFailure
  else match loadConfigFile file with
  | none => .exited Privileges.exitFailure
  | some config =>
    if args.isDaemon && !world.daemon then .exited Privileges.exitFailure
    else match world.system.setUserGroup args.user args.group world.process with
    | .error (.exit status _) => .exited status
    | .error .nullDereference => .nullDereference
    | .ok _ =>
      world.during false (prepare (.valid config) args.isDaemon) fun _ =>
        if !world.sigaction then .exited Privileges.exitFailure
        else world.during false (connect (.valid config)) fun _ =>
          world.during true (populate (.valid config)) fun _ =>
            -- `listen` returned, whether or not the address could be bound
            if world.logoff then .returned else .caught .logoff

end Course

section Outcomes
variable {world : World} {joinable : Bool} {step : StartUp α} {next : α → Ending}

/-- A refusal ends a stage as well as what stops it. -/
theorem during_cases (world : World) (joinable : Bool) (step : StartUp α) (next : α → Ending) :
    (∃ a, step.outcome = .ok a ∧ world.during joinable step next = next a) ∨
    (∃ s, step.outcome = .error s ∧ world.during joinable step next = ended joinable (.stopped s)) ∨
      ∃ request, world.during joinable step next = ended joinable (.refused request) := by
  rcases step.run_cases world.grants with course | ⟨request, before, -, refused⟩
  · simp only [World.during, course]
    cases step.outcome with
    | ok a => exact .inl ⟨a, rfl, rfl⟩
    | error s => exact .inr (.inl ⟨s, rfl, rfl⟩)
  · exact .inr (.inr ⟨request, by rw [World.during, refused]⟩)

theorem during_granted (granted : ∀ request, world.grants request = true) :
    world.during joinable step next = match step.outcome with
      | .ok a => next a
      | .error s => ended joinable (.stopped s) := by
  have all : world.grants = fun _ => true := funext granted
  rw [World.during, all, run_granted]
  cases step.outcome <;> rfl

/-- An exception of a typed read that `main` logs. -/
def Ending.Caught : Ending → Prop
  | .caught (.yaml _) => True
  | _ => False

/-- An exception of a typed read that ends in `std::terminate`. -/
def Ending.Terminated : Ending → Prop
  | .terminated (.yaml _) => True
  | _ => False

def Ending.Returned : Ending → Prop
  | .returned => True
  | _ => False

theorem ended_refused (joinable : Bool) (request : Request) : ¬ (ended joinable (.refused request)).Caught ∧
    ¬ (ended joinable (.refused request)).Terminated ∧ ¬ (ended joinable (.refused request)).Returned := by
  cases request <;> cases joinable <;> exact ⟨id, id, id⟩

theorem ended_stopped (joinable : Bool) (s : Stop) :
    ((ended joinable (.stopped s)).Caught ↔ joinable = false ∧ s.IsException) ∧
    ((ended joinable (.stopped s)).Terminated ↔ joinable = true ∧ s.IsException) ∧
      ¬ (ended joinable (.stopped s)).Returned := by
  cases s <;> cases joinable <;> simp [ended, unwound, Ending.Caught, Ending.Terminated, Ending.Returned,
    Stop.IsException]

end Outcomes

section Exceptions
variable [ScalarInterface] {file config : Node}

/-- Some run of the program with the file ends so. -/
def CanEnd (file : Node) (P : Ending → Prop) : Prop := ∃ world args, P (main world args file)

def PortsFit (config : Node) : Prop :=
  ∀ section_ ∈ ["http", "ami"], ∀ node, config.find? section_ = some node → (node.get Node.asUInt16 "port").isSome

/-- What is read while the thread is running. -/
structure EntriesReadable (config : Node) : Prop where
  phonebooks : ∀ node, config.find? "phonebooks" = some node → PhonebooksReadable node
  phones : ∀ node, config.find? "phonebooks" = some node →
    (∀ path ∈ node.itemsAt "http_paths", PhonebookPasses node path) → PhonesReadable config

/-- Every entry passes. -/
structure EntriesPass (config : Node) : Prop where
  phonebooks : ∀ node, config.find? "phonebooks" = some node →
    ∀ path ∈ node.itemsAt "http_paths", PhonebookPasses node path
  phones : AllPass (PhonePasses config) [] (config.itemsAt "phones")


theorem prepare_cases (accepted : configSchema.accepts config = true) (isDaemon : Bool) :
    (∃ http, config.find? "http" = some http ∧ ((http.get Node.asUInt16 "port").isSome ∧
      (∃ server, (prepare (.valid config) isDaemon).outcome = .ok server) ∨
      ¬ (http.get Node.asUInt16 "port").isSome ∧
        ∃ s : Stop, (prepare (.valid config) isDaemon).outcome = .error s ∧ s.IsException)) := by
  obtain ⟨syslog, -, syslogAccepted, syslogIndexed⟩ :=
    group_node accepted "syslog" syslogFields (by simp [configFields])
  obtain ⟨http, httpFound, httpAccepted, httpIndexed⟩ :=
    group_node accepted "http" httpFields (by simp [configFields])
  obtain ⟨options, logged⟩ := configureSyslog_ok syslogAccepted isDaemon
  obtain ⟨typed, finishes⟩ := createHTTPServer_typed httpAccepted
  have course : (prepare (.valid config) isDaemon).outcome = (createHTTPServer (.valid http)).outcome := by
    simp only [prepare, outcome_bind, syslogIndexed, logged, httpIndexed, ok_bind]
  refine ⟨http, httpFound, ?_⟩
  rw [course]
  by_cases fits : (http.get Node.asUInt16 "port").isSome
  · exact .inl ⟨fits, finishes fits⟩
  · refine .inr ⟨fits, ?_⟩
    have unsafe_ := mt typed.mp fits
    simpa only [Safe, not_forall, not_not, exists_prop] using unsafe_

theorem connect_cases (accepted : configSchema.accepts config = true) :
    (∃ ami, config.find? "ami" = some ami ∧ ((ami.get Node.asUInt16 "port").isSome ∧
      (connect (.valid config)).outcome = .ok () ∨
      ¬ (ami.get Node.asUInt16 "port").isSome ∧
        ∃ s : Stop, (connect (.valid config)).outcome = .error s ∧ s.IsException)) := by
  obtain ⟨ami, amiFound, amiAccepted, amiIndexed⟩ :=
    group_node accepted "ami" amiFields (by simp [configFields])
  obtain ⟨typed, finishes⟩ := createAMIConnection_typed amiAccepted
  have course : (connect (.valid config)).outcome = (createAMIConnection (.valid ami)).outcome := by
    simp only [connect, outcome_bind, amiIndexed, ok_bind]
  refine ⟨ami, amiFound, ?_⟩
  rw [course]
  by_cases fits : (ami.get Node.asUInt16 "port").isSome
  · exact .inl ⟨fits, finishes fits⟩
  · refine .inr ⟨fits, ?_⟩
    have unsafe_ := mt typed.mp fits
    simpa only [Safe, not_forall, not_not, exists_prop] using unsafe_

theorem portsFit_iff {http ami : Node} (httpFound : config.find? "http" = some http)
    (amiFound : config.find? "ami" = some ami) : PortsFit config ↔
      (http.get Node.asUInt16 "port").isSome ∧ (ami.get Node.asUInt16 "port").isSome := by
  simp only [PortsFit, List.forall_mem_cons, httpFound, amiFound, Option.some.injEq, forall_eq']
  exact ⟨fun fits => ⟨fits.1, fits.2.1⟩, fun fits => ⟨fits.1, fits.2, List.forall_mem_nil _⟩⟩

theorem createPhonePlans_ok (accepted : configSchema.accepts config = true) :
    (∃ plans, (createPhonePlans (.valid config)).outcome = .ok plans) ↔
      AllPass (PhonePasses config) [] (config.itemsAt "phones") := by
  obtain ⟨httpUrl, -, alike⟩ := createPhonePlans_course accepted
  have tracks := phones_track accepted httpUrl
  have all := phones_accepted accepted
  rw [alike.outcome]
  constructor
  · intro ⟨plans, finished⟩
    exact (tracks.loop_ok all collects_empty finished).1
  · exact tracks.loop_pass all collects_empty

theorem populate_cases (accepted : configSchema.accepts config = true) :
    (Safe Stop.IsException (populate (.valid config)) ↔ EntriesReadable config) ∧
      ((∃ plans, (populate (.valid config)).outcome = .ok plans) ↔ EntriesPass config) := by
  obtain ⟨database, -, databaseAccepted, databaseIndexed⟩ :=
    group_node accepted "database" databaseFields (by simp [configFields])
  obtain ⟨phonebooks, found, phonebooksAccepted, phonebooksIndexed⟩ :=
    group_node accepted "phonebooks" phonebooksFields (by simp [configFields])
  have books := createPhonebooks_ok phonebooksAccepted
  have cached := createDeskphoneCache_ok databaseAccepted
  constructor
  · have readable : EntriesReadable config ↔ PhonebooksReadable phonebooks ∧
        ((∀ path ∈ phonebooks.itemsAt "http_paths", PhonebookPasses phonebooks path) →
          PhonesReadable config) := by
      constructor
      · exact fun readable => ⟨readable.phonebooks _ found, readable.phones _ found⟩
      · rintro ⟨books, phones⟩
        constructor
        · simpa [found] using books
        · simpa [found] using phones
    have after : ∀ u : Unit, Safe Stop.IsException (do
        createDeskphoneCache (← index (.valid config) "database")
        createPhonePlans (.valid config)) ↔ PhonesReadable config := by
      intro u
      rw [safe_bind_ok databaseIndexed, safe_bind_ok cached, createPhonePlans_typed accepted]
    rw [readable, populate, safe_bind_ok phonebooksIndexed, safe_bind,
      createPhonebooks_typed phonebooksAccepted, ← books, PhonebooksReadable]
    refine and_congr_right fun _ => ⟨fun rest finished => ?_, fun rest u finished => ?_⟩
    · exact (after ()).mp (rest () finished)
    · exact (after u).mpr (rest finished)
  · have course : (populate (.valid config)).outcome =
        (createPhonebooks (.valid phonebooks)).outcome >>= fun _ =>
          (createPhonePlans (.valid config)).outcome := by
      simp only [populate, outcome_bind, phonebooksIndexed, databaseIndexed, cached, ok_bind]
    rw [course]
    constructor
    · rintro ⟨plans, finished⟩
      obtain ⟨⟨⟩, first, second⟩ := bind_eq_ok.mp finished
      refine ⟨?_, (createPhonePlans_ok accepted).mp ⟨plans, second⟩⟩
      simpa [found] using books.mp first
    · intro passes
      obtain ⟨plans, second⟩ := (createPhonePlans_ok accepted).mpr passes.phones
      exact ⟨plans, by rw [books.mpr (passes.phonebooks _ found), ok_bind, second]⟩

/-- How the program can end with an accepted file. -/
inductive Course (config : Node) : Ending → Prop where
  | other : ¬ e.Caught → ¬ e.Terminated → ¬ e.Returned → Course config e
  | ports : ¬ PortsFit config → Course config (ended false (.stopped s))
  | entries : PortsFit config → (populate (.valid config)).outcome = .error s →
      Course config (ended true (.stopped s))
  | served : PortsFit config → (populate (.valid config)).outcome = .ok plans → Course config .returned

theorem Course.during {next : α → Ending} (finishes : ∀ a, step.outcome = .ok a → Course config (next a))
    (stops : ∀ s, step.outcome = .error s → Course config (ended joinable (.stopped s))) (world : World) :
    Course config (world.during joinable step next) := by
  rcases during_cases world joinable step next with
    ⟨a, finished, here⟩ | ⟨s, stopped, here⟩ | ⟨request, here⟩
  · rw [here]
    exact finishes a finished
  · rw [here]
    exact stops s stopped
  · obtain ⟨caught, terminated, returned⟩ := ended_refused joinable request
    rw [here]
    exact .other caught terminated returned

theorem main_course (loaded : loadConfigFile file = some config)
    (accepted : configSchema.accepts config = true) (world : World) (args : ApplicationParameters) :
    Course config (main world args file) := by
  have exited : ∀ status, Course config (.exited status) := fun status => .other id id id
  obtain ⟨http, httpFound, prepared⟩ := prepare_cases accepted args.isDaemon
  obtain ⟨ami, amiFound, connected⟩ := connect_cases accepted
  have ports := portsFit_iff httpFound amiFound
  unfold main
  simp only [loaded]
  split
  · exact exited _
  split
  · exact exited _
  split
  · exact exited _
  · exact .other id id id
  refine Course.during (fun server served => ?_) (fun s stopped => .ports fun fits => ?_) world
  · split
    · exact exited _
    refine Course.during (fun _ greeted => ?_) (fun s stopped => .ports fun fits => ?_) world
    · have fits : PortsFit config := by
        refine ports.mpr ⟨?_, ?_⟩
        · exact (prepared.resolve_right fun ⟨_, s, stopped, _⟩ => nomatch served.symm.trans stopped).1
        · exact (connected.resolve_right fun ⟨_, s, stopped, _⟩ => nomatch greeted.symm.trans stopped).1
      refine Course.during (fun plans finished => ?_) (fun s stopped => .entries fits stopped) world
      split
      · exact .served fits finished
      · exact .other id id id
    · rcases connected with ⟨_, finished⟩ | ⟨unfit, _⟩
      · exact nomatch finished.symm.trans stopped
      · exact unfit (ports.mp fits).2
  · rcases prepared with ⟨_, server, finished⟩ | ⟨unfit, _⟩
    · exact nomatch finished.symm.trans stopped
    · exact unfit (ports.mp fits).1

omit [ScalarInterface] in
theorem zero_ne_unchanged : (0 : UInt32) ≠ Privileges.unchanged := by
  decide

/-- Everything is granted, and no user is named. -/
def granting : World where
  exists_ := true
  daemon := true
  system := ⟨[], [], fun _ => true, fun _ => "Success"⟩
  process :=
    let root : Privileges.HeldId := ⟨0, zero_ne_unchanged⟩
    ⟨⟨root, root, root⟩, ⟨root, root, root⟩, []⟩
  sigaction := true
  grants _ := true
  logoff := true

theorem main_granting (loaded : loadConfigFile file = some config) :
    main granting ⟨"", "", false⟩ file =
      match (prepare (.valid config) false).outcome, (connect (.valid config)).outcome,
        (populate (.valid config)).outcome with
      | .error s, _, _ => ended false (.stopped s)
      | .ok _, .error s, _ => ended false (.stopped s)
      | .ok _, .ok _, .error s => ended true (.stopped s)
      | .ok _, .ok _, .ok _ => .returned := by
  have granted : ∀ request, granting.grants request = true := fun _ => rfl
  have unchanged : granting.system.setUserGroup "" "" granting.process = .ok granting.process := rfl
  simp only [main, loaded, unchanged, during_granted granted]
  cases (prepare (.valid config) false).outcome with
  | error s => rfl
  | ok server =>
    cases (connect (.valid config)).outcome with
    | error s => rfl
    | ok _ =>
      cases (populate (.valid config)).outcome with
      | error s => rfl
      | ok plans => rfl

theorem accepts_loaded (loaded : loadConfigFile file = some config) : configSchema.accepts config = true := by
  unfold loadConfigFile at loaded
  split at loaded
  · cases loaded
    assumption
  · cases loaded

theorem Course.caught (course : Course config e) (caught : e.Caught) : ¬ PortsFit config := by
  cases course with
  | other never => exact absurd caught never
  | ports unfit => exact unfit
  | entries _ _ => exact nomatch ((ended_stopped true _).1.mp caught).1
  | served _ _ => exact caught.elim

theorem Course.terminated (course : Course config e) (terminated : e.Terminated) :
    PortsFit config ∧ ¬ Safe Stop.IsException (populate (.valid config)) := by
  cases course with
  | other _ never => exact absurd terminated never
  | ports _ => exact nomatch ((ended_stopped false _).2.1.mp terminated).1
  | entries fits stopped =>
    have thrown := ((ended_stopped true _).2.1.mp terminated).2
    exact ⟨fits, fun safe => safe _ stopped thrown⟩
  | served _ _ => exact terminated.elim

theorem Course.returned (course : Course config e) (returned : e.Returned) :
    PortsFit config ∧ ∃ plans, (populate (.valid config)).outcome = .ok plans := by
  cases course with
  | other _ _ never => exact absurd returned never
  | ports _ => exact absurd returned (ended_stopped false _).2.2
  | entries _ _ => exact absurd returned (ended_stopped true _).2.2
  | served fits finished => exact ⟨fits, _, finished⟩

theorem granting_unfit (loaded : loadConfigFile file = some config) (unfit : ¬ PortsFit config) :
    (main granting ⟨"", "", false⟩ file).Caught := by
  have accepted := accepts_loaded loaded
  obtain ⟨http, httpFound, prepared⟩ := prepare_cases accepted false
  obtain ⟨ami, amiFound, connected⟩ := connect_cases accepted
  rw [main_granting loaded]
  rcases prepared with ⟨httpFits, server, served⟩ | ⟨_, s, stopped, thrown⟩
  · rcases connected with ⟨amiFits, _⟩ | ⟨_, s, stopped, thrown⟩
    · exact absurd ((portsFit_iff httpFound amiFound).mpr ⟨httpFits, amiFits⟩) unfit
    · rw [served, stopped]
      exact (ended_stopped false s).1.mpr ⟨rfl, thrown⟩
  · rw [stopped]
    exact (ended_stopped false s).1.mpr ⟨rfl, thrown⟩

theorem granting_fit (loaded : loadConfigFile file = some config) (fits : PortsFit config) :
    main granting ⟨"", "", false⟩ file = match (populate (.valid config)).outcome with
      | .error s => ended true (.stopped s)
      | .ok _ => .returned := by
  have accepted := accepts_loaded loaded
  obtain ⟨http, httpFound, prepared⟩ := prepare_cases accepted false
  obtain ⟨ami, amiFound, connected⟩ := connect_cases accepted
  have both := (portsFit_iff httpFound amiFound).mp fits
  obtain ⟨server, served⟩ := (prepared.resolve_right fun unfit => unfit.1 both.1).2
  have greeted := (connected.resolve_right fun unfit => unfit.1 both.2).2
  rw [main_granting loaded, served, greeted]
  cases (populate (.valid config)).outcome with
  | error s => rfl
  | ok plans => rfl

/-- For which files some run logs an exception of a typed read, is terminated by one, and
serves. Only the ports are read where `main` can log what is thrown. -/
theorem exceptions_end (loaded : loadConfigFile file = some config) :
    (CanEnd file Ending.Caught ↔ ¬ PortsFit config) ∧
    (CanEnd file Ending.Terminated ↔ PortsFit config ∧ ¬ EntriesReadable config) ∧
    (CanEnd file Ending.Returned ↔ PortsFit config ∧ EntriesPass config) := by
  have accepted := accepts_loaded loaded
  obtain ⟨readable, passes⟩ := populate_cases accepted
  have course := main_course loaded accepted
  rw [← readable, ← passes]
  refine ⟨⟨?_, fun unfit => ?_⟩, ⟨?_, ?_⟩, ⟨?_, ?_⟩⟩
  · rintro ⟨world, args, caught⟩
    exact (course world args).caught caught
  · exact ⟨granting, ⟨"", "", false⟩, granting_unfit loaded unfit⟩
  · rintro ⟨world, args, terminated⟩
    exact (course world args).terminated terminated
  · rintro ⟨fits, failing⟩
    obtain ⟨s, stopped, thrown⟩ : ∃ s, (populate (.valid config)).outcome = .error s ∧ s.IsException := by
      simpa only [Safe, not_forall, not_not, exists_prop] using failing
    refine ⟨granting, ⟨"", "", false⟩, ?_⟩
    rw [granting_fit loaded fits, stopped]
    exact (ended_stopped true s).2.1.mpr ⟨rfl, thrown⟩
  · rintro ⟨world, args, returned⟩
    exact (course world args).returned returned
  · rintro ⟨fits, plans, finished⟩
    refine ⟨granting, ⟨"", "", false⟩, ?_⟩
    rw [granting_fit loaded fits, finished]
    trivial

end Exceptions

section Sample
local instance fileScalars : ScalarInterface := decimalScalars

/-- A path of the phonebooks with the keys of the schema. -/
def ttlLess : Node := phonebookFile [("path", .scalar "/phonebook"), ("provider", .scalar "default")]

/-- The exception for the missing `ttl` is never logged. -/
theorem exceptions_end_ttl :
    CanEnd ttlLess Ending.Terminated ∧ ¬ CanEnd ttlLess Ending.Caught ∧ ¬ CanEnd ttlLess Ending.Returned := by
  have accepted : configSchema.accepts (configSchema.fill ttlLess) = true := by decide
  have loaded : loadConfigFile ttlLess = some (configSchema.fill ttlLess) := if_pos accepted
  obtain ⟨caught, terminated, returned⟩ := exceptions_end loaded
  have fits : PortsFit (configSchema.fill ttlLess) := by
    simp only [PortsFit, List.forall_mem_cons]
    refine ⟨fun node found => ?_, fun node found => ?_, List.forall_mem_nil _⟩
    · obtain rfl := Option.some.inj found
      rfl
    · obtain rfl := Option.some.inj found
      rfl
  have unreadable : ¬ EntriesReadable (configSchema.fill ttlLess) := fun readable =>
    nomatch (readable.phonebooks _ rfl).1 rfl
  have stops : ¬ EntriesPass (configSchema.fill ttlLess) := fun passes =>
    nomatch (passes.phonebooks _ rfl _ List.mem_cons_self).2
  exact ⟨terminated.mpr ⟨fits, unreadable⟩, fun logged => caught.mp logged fits,
    fun served => stops (returned.mp served).2⟩

end Sample
end LampMonitor.Config
