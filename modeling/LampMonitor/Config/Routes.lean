import LampMonitor.Config.References

/-! The routes of the HTTP server. Every path of the configuration is attached in the
order of the file, and nothing checks that the paths differ. -/
namespace LampMonitor.Config
open Fallible Script ButtonState Schema

/-- What is used of cpp-httplib: whether a pattern matches a path, and which of the
attached patterns answers it. -/
class ServerInterface where
  matchesPath : String → String → Bool
  dispatch : List String → String → Option Nat

/-- What is assumed of `dispatch`: the patterns are asked in the order in which they were attached. -/
def DispatchesInOrder [ServerInterface] : Prop :=
  ∀ patterns path, ServerInterface.dispatch patterns path =
    patterns.findIdx? fun pattern => ServerInterface.matchesPath pattern path

section Answers

abbrev Params := List (String × String)

/-- What the handler of a route does with a request. -/
inductive Answer where
  | getPhonebook (phonebook : HTTPPhonebook)
  /-- Status 204. -/
  | deleteEndpoint (aor ip : String)
  /-- Status 400. -/
  | badRequest
  | getHTTPState (phone : String)
  | pushNight (button : Option NightButton)
  | pushPark (button : Option ParkButton)
  | pushParkExten (button : Option ParkButton) (exten : String)
  | displayErrorMessage (button : Option ParkButton) (title text : String)

/-- The lambdas that are attached. -/
def Target.answer (params : Params) : Target → Answer
  | .phonebook book => .getPhonebook book
  | .expire =>
    match params.lookup "aor", params.lookup "ip" with
    | some aor, some ip => .deleteEndpoint aor ip
    | _, _ => .badRequest
  | .state phone => .getHTTPState phone
  | .night button => .pushNight button
  | .parkList button => .pushPark button
  | .parkInfo button =>
    match params.lookup "selection" with
    | some exten => .pushParkExten button exten
    | none => .displayErrorMessage button "Missing Extension Parameter" "Missing URL parameter '&selection=xxx'."

abbrev Route := String × Target

def Event.route? : Event → Option Route
  | .attach uri target => some (uri, target)
  | .syslog _ _ => none

/-- The routes in the order in which they were attached. -/
def routed (events : List Event) : List Route := events.filterMap Event.route?

def respond [ServerInterface] (routes : List Route) (path : String) (params : Params) : Option Answer :=
  (ServerInterface.dispatch (routes.map Prod.fst) path).bind fun k =>
    routes[k]?.map fun route => route.2.answer params

/-- What a request with these parameters is for at each target. -/
inductive Replies (params : Params) : Target → Answer → Prop where
  | phonebook : Replies params (.phonebook book) (.getPhonebook book)
  | expire (aor_given : params.lookup "aor" = some aor) (ip_given : params.lookup "ip" = some ip) :
      Replies params .expire (.deleteEndpoint aor ip)
  | incomplete (missing : params.lookup "aor" = none ∨ params.lookup "ip" = none) :
      Replies params .expire .badRequest
  | state : Replies params (.state phone) (.getHTTPState phone)
  | night : Replies params (.night button) (.pushNight button)
  | parkList : Replies params (.parkList button) (.pushPark button)
  | parkInfo (selected : params.lookup "selection" = some exten) :
      Replies params (.parkInfo button) (.pushParkExten button exten)
  | unselected (missing : params.lookup "selection" = none) :
      Replies params (.parkInfo button) (.displayErrorMessage button "Missing Extension Parameter"
        "Missing URL parameter '&selection=xxx'.")

theorem replies_answer (params : Params) (target : Target) :
    Replies params target (target.answer params) := by
  cases target with
  | phonebook => exact .phonebook
  | state => exact .state
  | night => exact .night
  | parkList => exact .parkList
  | expire =>
    rw [Target.answer]
    cases aor_given : params.lookup "aor" with
    | none => exact .incomplete (.inl aor_given)
    | some aor =>
      cases ip_given : params.lookup "ip" with
      | none => exact .incomplete (.inr ip_given)
      | some ip => exact .expire aor_given ip_given
  | parkInfo =>
    rw [Target.answer]
    cases selected : params.lookup "selection" with
    | none => exact .unselected selected
    | some exten => exact .parkInfo selected

end Answers

section Spec
variable [ScalarInterface]

/-- The type of the button that a path of a phone names. -/
def buttonType (planCfg path : Node) : Option String :=
  ((path.get Node.asUInt16 "button_id").bind (entryWith (planCfg.itemsAt "buttons"))).bind
    (·.get Node.asString "type")

def urisAt (node : Node) (keys : List String) : List String := keys.filterMap (node.get Node.asString)

def pathUris (planCfg path : Node) : List String :=
  if path.get Node.asString "type" = some "http_state" then urisAt path ["path"]
  else if path.get Node.asString "type" = some "http_night" then
    if buttonType planCfg path = some "night_button" then urisAt path ["path"] else []
  else if buttonType planCfg path = some "park_button" then urisAt path ["park_list_path", "park_info_path"]
  else []

def phoneUris (config phone : Node) : List String :=
  (planFor config phone).elim [] fun planCfg => (phone.itemsAt "http_paths").flatMap (pathUris planCfg)

def expireUris (config : Node) : List String :=
  (((config.find? "database").bind (·.find? "http_paths")).elim [] (urisAt · ["expire_path"])).filter (· ≠ "")

def phonebookUris (config : Node) : List String :=
  ((config.find? "phonebooks").elim [] (·.itemsAt "http_paths")).flatMap (urisAt · ["path"])

/-- The patterns that a configuration names, in the order of the start-up. -/
def uris (config : Node) : List String :=
  phonebookUris config ++ expireUris config ++ (config.itemsAt "phones").flatMap (phoneUris config)

def PathRoutes (planCfg : Node) (name httpUrl : String) (path : Node) (routes : List Route) : Prop :=
  ∃ events, Handled planCfg name httpUrl path events ∧ routed events = routes

def PhoneRoutes (config phone : Node) (routes : List Route) : Prop :=
  ∃ planCfg name httpUrl parts, planFor config phone = some planCfg ∧
    phone.get Node.asString "name" = some name ∧ httpUrlOf config = some httpUrl ∧
    List.Forall₂ (PathRoutes planCfg name httpUrl) (phone.itemsAt "http_paths") parts ∧ routes = parts.flatten

def PhonebookRoutes (phonebooks path : Node) (routes : List Route) : Prop :=
  ∃ uri target, PhonebookNamed phonebooks path uri target ∧ routes = [(uri, target)]

/-- What the entries of a configuration name, one after the other. -/
inductive Configured (config : Node) : List Route → Prop where
  | intro : config.find? "phonebooks" = some phonebooks →
      List.Forall₂ (PhonebookRoutes phonebooks) (phonebooks.itemsAt "http_paths") books →
      List.Forall₂ (PhoneRoutes config) (config.itemsAt "phones") phones →
      Configured config
        (books.flatten ++ (expireUris config).map (·, .expire) ++ phones.flatten)

end Spec

section Events

theorem flatten_uris {xs : List α} {parts : List (List Route)} {Part : α → List Route → Prop}
    {named : α → List String} (each : List.Forall₂ Part xs parts)
    (uri : ∀ x part, Part x part → part.map Prod.fst = named x) :
    parts.flatten.map Prod.fst = xs.flatMap named := by
  induction each with
  | nil => rfl
  | cons here _ ih => rw [List.flatten_cons, List.map_append, List.flatMap_cons, uri _ _ here, ih]

theorem routed_logs (logs : ∀ event ∈ events, event.IsLog) : routed events = [] := by
  refine List.filterMap_eq_nil_iff.mpr fun event member => ?_
  cases event with
  | syslog level message => rfl
  | attach uri target => exact (logs _ member).elim

theorem routed_append (first second : List Event) :
    routed (first ++ second) = routed first ++ routed second :=
  List.filterMap_append

end Events

section Uris
variable [ScalarInterface] {config phone path planCfg node : Node} {routes : List Route}

theorem pathUris_handled (handled : Handled planCfg name httpUrl path events) :
    (routed events).map Prod.fst = pathUris planCfg path := by
  cases handled with
  | state type uri => simp [routed, Event.route?, pathUris, urisAt, type, uri]
  | night type id entry _ button _ uri =>
    simp [routed, Event.route?, pathUris, urisAt, buttonType, type, id, entry, button, uri]
  | park type id entry button _ list info =>
    simp [routed, Event.route?, pathUris, urisAt, buttonType, type, id, entry, button, list, info]
  | skippedNight type id entry other _ =>
    simp [routed, Event.route?, pathUris, buttonType, type, id, entry, other]
  | skippedPark type id entry other _ =>
    simp [routed, Event.route?, pathUris, buttonType, type, id, entry, other]

theorem phoneUris_routes (phoneRoutes : PhoneRoutes config phone routes) :
    routes.map Prod.fst = phoneUris config phone := by
  obtain ⟨planCfg, name, httpUrl, parts, found, -, -, each, rfl⟩ := phoneRoutes
  rw [phoneUris, found, Option.elim_some]
  refine flatten_uris each ?_
  rintro path _ ⟨events, handled, rfl⟩
  exact pathUris_handled handled

theorem phonebookUris_routes (phonebookRoutes : PhonebookRoutes node path routes) :
    routes.map Prod.fst = urisAt path ["path"] := by
  obtain ⟨uri, target, named, rfl⟩ := phonebookRoutes
  cases named with
  | intro uri => simp [urisAt, uri]

theorem uris_configured (configured : Configured config routes) :
    routes.map Prod.fst = uris config := by
  cases configured with
  | intro found books phones =>
    rw [List.map_append, List.map_append, flatten_uris books fun _ _ => phonebookUris_routes,
      flatten_uris phones fun _ _ => phoneUris_routes]
    simp [uris, phonebookUris, found, List.map_map, Function.comp_def]

end Uris

section Output
variable [ScalarInterface] {config phone path node : Node}

theorem createPhonebooks_routes (accepted : (record phonebooksFields).accepts node = true)
    (finished : (createPhonebooks (.valid node)).outcome = .ok ()) :
    ∃ books, List.Forall₂ (PhonebookRoutes node) (node.itemsAt "http_paths") books ∧
      routed (createPhonebooks (.valid node)).output = books.flatten := by
  rw [createPhonebooks_outcome accepted] at finished
  obtain ⟨adapters, finished, -⟩ := bind_eq_ok.mp finished
  rw [createPhonebooks_output accepted]
  refine (phonebooks_track accepted).loop_parts [] (phonebookPaths_accepted accepted)
    (knows_empty node) finished fun {_ adapters path _} known knows passed => ?_
  cases createPhonebook_course accepted known knows with
  | attached _ _ _ named output logs =>
    refine ⟨_, _, named, ?_⟩
    change routed _ = _
    rw [output, routed_append, routed_logs logs]
    rfl
  | unknown _ ended => exact nomatch ended.symm.trans passed
  | noTtl _ _ ended => exact nomatch ended.symm.trans passed

theorem createDeskphoneCache_routes (found : config.find? "database" = some node)
    (accepted : (record databaseFields).accepts node = true) :
    routed (createDeskphoneCache (.valid node)).output = (expireUris config).map (·, .expire) := by
  obtain ⟨filename, hf, -⟩ := get_string accepted
    (show mandatory "filename" (string []) ∈ databaseFields by simp [databaseFields]) rfl
  obtain ⟨expiry, he⟩ := get_uint32 accepted
    (show defaulted "expiry" unsignedInt "120" ∈ databaseFields by simp [databaseFields]) rfl
  obtain ⟨paths, hp, here⟩ := value_accepted accepted
    (show group "http_paths" databaseHttpPathsFields ∈ databaseFields by simp [databaseFields]) rfl
  obtain ⟨expirePath, hx, -⟩ := get_string here
    (show defaulted "expire_path" (string []) "" ∈ databaseHttpPathsFields by
      simp [databaseHttpPathsFields]) rfl
  have cached : Alike (createCache (.valid node))
      (request (.openDatabase filename (max 60 expiry))) := by
    rw [createCache]
    exact (alike_read hf).trans (alike_read he)
  have course : Alike (createDeskphoneCache (.valid node))
      (if expirePath = "" then pure () else attach expirePath .expire) := by
    rw [createDeskphoneCache]
    refine (alike_bind (cached.outcome.trans rfl) (cached.output.trans rfl)).trans ?_
    refine (alike_index (record_accepts.mp accepted).1 "http_paths").trans ?_
    rw [hp]
    exact alike_read hx
  have named : expireUris config = [expirePath].filter (· ≠ "") := by
    simp [expireUris, found, hp, urisAt, hx]
  rw [course.output, named]
  by_cases unset : expirePath = ""
  · rw [if_pos unset, unset]
    rfl
  · rw [if_neg unset]
    simp [routed, Event.route?, unset]

theorem configurePaths_routes (planOf : PlanOf planCfg plan)
    (planAccepted : (record buttonPlanFields).accepts planCfg = true)
    (known : phoneSchema.accepts phone = true)
    (finished : (configurePaths httpUrl plan ⟨name, true⟩ phone).outcome = .ok ()) :
    ∃ parts, List.Forall₂ (PathRoutes planCfg name httpUrl) (phone.itemsAt "http_paths") parts ∧
      routed (configurePaths httpUrl plan ⟨name, true⟩ phone).output = parts.flatten := by
  refine (paths_track planOf planAccepted).loop_parts [] (paths_accepted known) trivial finished
    fun {_ _ path _} accepted _ passed => ?_
  cases configureHTTPButton_course planOf planAccepted accepted httpUrl ⟨name, true⟩ rfl with
  | handled _ _ _ handled => exact ⟨_, handled, rfl⟩
  | unfit _ ended => exact nomatch ended.symm.trans passed
  | dangling _ _ ended => exact nomatch ended.symm.trans passed

theorem createPhonePlans_routes (accepted : configSchema.accepts config = true)
    (finished : (createPhonePlans (.valid config)).outcome = .ok plans) :
    ∃ phones, List.Forall₂ (PhoneRoutes config) (config.itemsAt "phones") phones ∧
      routed (createPhonePlans (.valid config)).output = phones.flatten := by
  obtain ⟨httpUrl, url, alike⟩ := createPhonePlans_course accepted
  rw [alike.output]
  refine (phones_track accepted httpUrl).loop_parts [] (phones_accepted accepted) collects_empty
    (alike.outcome.symm.trans finished) fun {_ s phone s'} known _ passed => ?_
  cases createPhone_course accepted known httpUrl s with
  | paths found planOf named course output logs =>
    obtain ⟨_, configured, -⟩ := bind_eq_ok.mp (course.symm.trans passed)
    obtain ⟨parts, each, emitted⟩ :=
      configurePaths_routes planOf (planFor_accepted accepted found) known configured
    refine ⟨_, _, httpUrl, parts, found, named, url, each, ?_⟩
    change routed _ = _
    rw [output, routed_append, routed_logs logs, emitted, List.nil_append]
  | exits ended => exact nomatch ended.symm.trans passed
  | unfit ended => exact nomatch ended.symm.trans passed

theorem configureSyslog_silent (node : Handle) (isDaemon : Bool) :
    (configureSyslog node isDaemon).output = [] := by
  have level : ∀ console, (do
      let logLevel ← read Node.asString node "level"
      return ⟨console, toLogLevel logLevel⟩ : StartUp SyslogOptions).output = [] :=
    fun console => output_bind_nil (output_read _) fun _ => rfl
  cases isDaemon with
  | true => exact level false
  | false => exact output_bind_nil (output_read _) level

theorem createHTTPServer_silent (node : Handle) : (createHTTPServer node).output = [] := by
  refine output_bind_nil (output_read _) fun host => ?_
  exact output_bind_nil (output_read _) fun port => rfl

theorem createAMIConnection_silent (node : Handle) : (createAMIConnection node).output = [] := by
  refine output_bind_nil (output_read _) fun hostname => ?_
  refine output_bind_nil (output_read _) fun port => ?_
  refine output_bind_nil (output_request _) fun _ => ?_
  refine output_bind_nil (output_read _) fun username => ?_
  exact output_bind_nil (output_read _) fun secret => rfl

/-- Up to the login nothing is attached. -/
theorem startUp_routes (accepted : configSchema.accepts config = true)
    (finished : (startUp (.valid config) isDaemon).outcome = .ok plans) :
    Configured config (routed (startUp (.valid config) isDaemon).output) := by
  obtain ⟨syslog, -, syslogAccepted, syslogIndexed⟩ :=
    group_node accepted "syslog" syslogFields (by simp [configFields])
  obtain ⟨http, -, -, httpIndexed⟩ :=
    group_node accepted "http" httpFields (by simp [configFields])
  obtain ⟨ami, -, -, amiIndexed⟩ := group_node accepted "ami" amiFields (by simp [configFields])
  obtain ⟨database, databaseFound, databaseAccepted, databaseIndexed⟩ :=
    group_node accepted "database" databaseFields (by simp [configFields])
  obtain ⟨phonebooks, phonebooksFound, phonebooksAccepted, phonebooksIndexed⟩ :=
    group_node accepted "phonebooks" phonebooksFields (by simp [configFields])
  obtain ⟨options, logged⟩ := configureSyslog_ok syslogAccepted isDaemon
  have cached := createDeskphoneCache_ok databaseAccepted
  rw [startUp] at finished ⊢
  simp only [outcome_bind, syslogIndexed, logged, httpIndexed, amiIndexed, phonebooksIndexed,
    databaseIndexed, cached, ok_bind] at finished
  obtain ⟨server, served, finished⟩ := bind_eq_ok.mp finished
  obtain ⟨⟨⟩, greeted, finished⟩ := bind_eq_ok.mp finished
  obtain ⟨⟨⟩, filled, finished⟩ := bind_eq_ok.mp finished
  obtain ⟨books, eachBook, bookRoutes⟩ := createPhonebooks_routes phonebooksAccepted filled
  obtain ⟨phones, eachPhone, phoneRoutes⟩ := createPhonePlans_routes accepted finished
  rw [output_bind_ok syslogIndexed, output_bind_ok logged, output_bind_ok httpIndexed,
    output_bind_ok served, output_bind_ok amiIndexed, output_bind_ok greeted,
    output_bind_ok phonebooksIndexed, output_bind_ok filled, output_bind_ok databaseIndexed,
    output_bind_ok cached]
  simp only [output_index, configureSyslog_silent, createHTTPServer_silent,
    createAMIConnection_silent, List.nil_append, routed_append, bookRoutes, phoneRoutes,
    createDeskphoneCache_routes databaseFound databaseAccepted]
  rw [← List.append_assoc]
  exact .intro phonebooksFound eachBook eachPhone

end Output

section Dispatch
variable [ServerInterface] {patterns : List String}

/-- Every pattern answers for itself. -/
def AnswersOwn (patterns : List String) : Prop :=
  ∀ k uri, patterns[k]? = some uri → ServerInterface.dispatch patterns uri = some k

/-- Every pattern matches itself, and none that stands before it does. -/
structure Unshadowed (patterns : List String) : Prop where
  self : ∀ uri ∈ patterns, ServerInterface.matchesPath uri uri = true
  earlier : patterns.Pairwise fun earlier uri => ServerInterface.matchesPath earlier uri = false

theorem answersOwn_iff (ordered : DispatchesInOrder) : AnswersOwn patterns ↔
    Unshadowed patterns := by
  simp only [AnswersOwn, ordered patterns, List.findIdx?_eq_some_iff_getElem]
  constructor
  · intro own
    refine ⟨fun uri member => ?_, List.pairwise_iff_getElem.mpr fun j k _ here before => ?_⟩
    · obtain ⟨k, inside, rfl⟩ := List.mem_iff_getElem.mp member
      obtain ⟨_, matched, _⟩ := own k _ (List.getElem?_eq_getElem inside)
      exact matched
    · obtain ⟨_, _, first⟩ := own k _ (List.getElem?_eq_getElem here)
      exact Bool.eq_false_iff.mpr (first j before)
  · intro ⟨self, earlier⟩ k uri found
    obtain ⟨inside, rfl⟩ := List.getElem?_eq_some_iff.mp found
    refine ⟨inside, self _ (List.getElem_mem inside), fun j before => ?_⟩
    have apart := List.pairwise_iff_getElem.mp earlier j k (by omega) inside before
    exact Bool.eq_false_iff.mp apart

theorem respond_own {routes : List Route} (own : AnswersOwn (routes.map Prod.fst))
    (member : route ∈ routes) (params : Params) :
    ∃ answer, respond routes route.1 params = some answer ∧ Replies params route.2 answer := by
  obtain ⟨k, inside, rfl⟩ := List.mem_iff_getElem.mp member
  have here : routes[k]? = some routes[k] := List.getElem?_eq_getElem inside
  have pattern : (routes.map Prod.fst)[k]? = some routes[k].1 := by
    rw [List.getElem?_map, here, Option.map_some]
  refine ⟨routes[k].2.answer params, ?_, replies_answer params _⟩
  rw [respond, own k _ pattern, Option.bind_some, here, Option.map_some]

/-- After a start-up the server has the routes that the configuration names, in its order, and
each of them answers its own requests exactly if no pattern is shadowed by an earlier one. -/
theorem routes_answer_iff [ScalarInterface] (ordered : DispatchesInOrder)
    (accepted : configSchema.accepts config = true)
    (finished : ((startUp (.valid config) isDaemon).run grants).result = .ok plans) :
    let routes := routed ((startUp (.valid config) isDaemon).run grants).output
    Configured config routes ∧ (AnswersOwn (routes.map Prod.fst) ↔ Unshadowed (uris config)) ∧
      (Unshadowed (uris config) → ∀ route ∈ routes, ∀ params,
        ∃ answer, respond routes route.1 params = some answer ∧ Replies params route.2 answer) := by
  intro routes
  obtain ⟨outcome, output⟩ := run_ok finished
  have configured : Configured config routes := by
    change Configured config (routed _)
    rw [output]
    exact startUp_routes accepted outcome
  have own : AnswersOwn (routes.map Prod.fst) ↔ Unshadowed (uris config) := by
    rw [uris_configured configured]
    exact answersOwn_iff ordered
  exact ⟨configured, own, fun unshadowed route member => respond_own (own.mpr unshadowed) member⟩

end Dispatch

section Sample
local instance lobbyScalars : ScalarInterface := decimalScalars

/-- Patterns without special characters match themselves only. -/
local instance literalServer : ServerInterface where
  matchesPath pattern path := pattern = path
  dispatch patterns path := patterns.findIdx? fun pattern => pattern = path

/-- A file with a path for phonebooks, one to expire phones, and the state of one phone. -/
def lobbyFile (statePath : String) : Node :=
  .map [("http", .map [("url", .scalar "http://127.0.0.1")]),
        ("ami", .map [("username", .scalar "username"), ("secret", .scalar "secret")]),
        ("database", .map [("filename", .scalar "/tmp/cache.sqlite3"),
          ("http_paths", .map [("expire_path", .scalar "/expire")])]),
        ("phonebooks", .map
          [("providers", .sequence [.map [("name", .scalar "default"), ("type", .scalar "pjsip_wizard_cfg"),
            ("match", .scalar "ec == 'local-set'")]]),
           ("http_paths", .sequence [.map [("path", .scalar "/phonebook"), ("provider", .scalar "default"),
             ("ttl", .scalar "60")]])]),
        ("button_plans", .sequence [.map
          [("name", .scalar "default"),
           ("buttons", .sequence [.map [("id", .scalar "2"), ("type", .scalar "night_button"), ("hint", .scalar "night")]])]]),
        ("phones", .sequence [.map
          [("name", .scalar "T48"), ("button_plan", .scalar "default"), ("type", .scalar "yealink"),
           ("provider", .map [("type", .scalar "pjsip_wizard_cfg"), ("match", .scalar "phone_model == 'T48'")]),
           ("http_paths", .sequence [.map [("type", .scalar "http_state"), ("path", .scalar statePath)]])]])]

/-- The state path either is its own, or that of the expiry, which then answers in its place. -/
theorem routes_answer_iff_lobby :
    AnswersOwn ((routed ((startUp (.valid (configSchema.fill (lobbyFile "/state"))) false).run
      fun _ => true).output).map Prod.fst) ∧
    ¬ AnswersOwn ((routed ((startUp (.valid (configSchema.fill (lobbyFile "/expire"))) false).run
      fun _ => true).output).map Prod.fst) := by
  have ordered : DispatchesInOrder := fun _ _ => rfl
  have starts : ∀ statePath ∈ ["/state", "/expire"],
      ((startUp (.valid (configSchema.fill (lobbyFile statePath))) false).run fun _ =>
        true).result.isOk = true := by
    decide +kernel
  have named : ∀ statePath ∈ ["/state", "/expire"],
      uris (configSchema.fill (lobbyFile statePath)) = ["/phonebook", "/expire", statePath] := by
    decide +kernel
  have answers : ∀ statePath ∈ ["/state", "/expire"],
      AnswersOwn ((routed ((startUp (.valid (configSchema.fill (lobbyFile statePath))) false).run
        fun _ => true).output).map Prod.fst) ↔ Unshadowed ["/phonebook", "/expire", statePath] := by
    intro statePath listed
    have started := starts statePath listed
    cases finished :
      ((startUp (.valid (configSchema.fill (lobbyFile statePath))) false).run fun _ =>
      true).result with
    | error halt =>
      rw [finished] at started
      exact nomatch started
    | ok plans =>
      have accepted : ∀ statePath ∈ ["/state", "/expire"],
          configSchema.accepts (configSchema.fill (lobbyFile statePath)) = true := by decide +kernel
      rw [← named statePath listed]
      exact (routes_answer_iff ordered (accepted statePath listed) finished).2.1
  refine ⟨(answers "/state" (by simp)).mpr ⟨by decide, by decide⟩, fun own => ?_⟩
  exact absurd ((answers "/expire" (by simp)).mp own).earlier (by decide)

end Sample
end LampMonitor.Config
