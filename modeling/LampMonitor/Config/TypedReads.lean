import LampMonitor.Config.PhonebookEntries
import LampMonitor.Config.PhoneLoop

/-! The schemas against the readers. They disagree on one key and on one width: a
path of the phonebooks is read for `ttl`, which no schema names, and ports and ids
of 32 bits are read into 16. -/
namespace LampMonitor.Config
open Fallible Script ButtonState Schema

section Conditions
variable [ScalarInterface]

/-- No typed read of the start-up throws, whatever the rest of the world answers. -/
def TypedReadsSucceed (config : Node) : Prop :=
  ∀ isDaemon grants thrown,
    ((startUp (.valid config) isDaemon).run grants).result ≠ .error (.stopped (.exception thrown))

/-- The ids that a phone has read when it is reached. -/
def PhoneReadable (config : Node) (before : List Node) (phone : Node) : Prop :=
  FreshPlan before phone → ∀ planCfg, planFor config phone = some planCfg →
    FitsIds planCfg ∧ (FreshName before phone →
      EachReached (fun _ path => PathPasses planCfg path) (fun _ path => FitsButtonId path) []
        (phone.itemsAt "http_paths"))

def PhonesReadable (config : Node) : Prop :=
  EachReached (PhonePasses config) (PhoneReadable config) [] (config.itemsAt "phones")

def PhonebooksReadable (phonebooks : Node) : Prop :=
  EachReached (fun _ path => PhonebookPasses phonebooks path)
    (fun _ path => (providerFor phonebooks path).isSome = true → HasTtl path) [] (phonebooks.itemsAt "http_paths")

/-- The ports are 16-bit numbers, and of the entries that the start-up reaches
every path of the phonebooks has a `ttl` and every id is a 16-bit number. -/
structure Readable (config : Node) : Prop where
  ports : ∀ section_ ∈ ["http", "ami"], ∀ node, config.find? section_ = some node →
    (node.get Node.asUInt16 "port").isSome
  phonebooks : ∀ node, config.find? "phonebooks" = some node → PhonebooksReadable node
  phones : ∀ node, config.find? "phonebooks" = some node →
    (∀ path ∈ node.itemsAt "http_paths", PhonebookPasses node path) → PhonesReadable config

end Conditions

section Stages
variable [ScalarInterface] {config node : Node}

theorem createHTTPServer_typed (accepted : (record httpFields).accepts node = true) :
    (Safe Stop.IsException (createHTTPServer (.valid node)) ↔
      (node.get Node.asUInt16 "port").isSome) ∧
      ((node.get Node.asUInt16 "port").isSome →
        ∃ r, (createHTTPServer (.valid node)).outcome = .ok r) := by
  obtain ⟨addr, ha, -⟩ := get_string accepted
    (show defaulted "addr" (string []) "0.0.0.0" ∈ httpFields by simp [httpFields]) rfl
  have finishes : (node.get Node.asUInt16 "port").isSome →
      ∃ r, (createHTTPServer (.valid node)).outcome = .ok r := by
    intro fits
    obtain ⟨port, hp⟩ := Option.isSome_iff_exists.mp fits
    exact ⟨(addr, port), by simp [createHTTPServer, outcome_read ha, outcome_read hp]⟩
  refine ⟨⟨fun safe => ?_, fun fits => safe_of_ok (finishes fits).choose_spec⟩, finishes⟩
  rw [createHTTPServer, safe_bind_ok (outcome_read ha)] at safe
  exact safe_read.mp (safe_bind.mp safe).1

theorem createAMIConnection_typed (accepted : (record amiFields).accepts node = true) :
    (Safe Stop.IsException (createAMIConnection (.valid node)) ↔
      (node.get Node.asUInt16 "port").isSome) ∧
      ((node.get Node.asUInt16 "port").isSome →
        (createAMIConnection (.valid node)).outcome = .ok ()) := by
  obtain ⟨host, hh, -⟩ := get_string accepted
    (show defaulted "host" (string []) "127.0.0.1" ∈ amiFields by simp [amiFields]) rfl
  obtain ⟨username, hu, -⟩ := get_string accepted
    (show mandatory "username" (string []) ∈ amiFields by simp [amiFields]) rfl
  obtain ⟨secret, hs, -⟩ := get_string accepted
    (show mandatory "secret" (string []) ∈ amiFields by simp [amiFields]) rfl
  have finishes : (node.get Node.asUInt16 "port").isSome →
      (createAMIConnection (.valid node)).outcome = .ok () := by
    intro fits
    obtain ⟨port, hp⟩ := Option.isSome_iff_exists.mp fits
    simp [createAMIConnection, outcome_read hh, outcome_read hp, outcome_read hu, outcome_read hs]
  refine ⟨⟨fun safe => ?_, fun fits => safe_of_ok (finishes fits)⟩, finishes⟩
  rw [createAMIConnection, safe_bind_ok (outcome_read hh)] at safe
  exact safe_read.mp (safe_bind.mp safe).1

theorem createPhone_typed (accepted : configSchema.accepts config = true)
    (known : phoneSchema.accepts phone = true) (collects : Collects before s) (httpUrl : String) :
    Safe Stop.IsException (createPhone (.valid config) httpUrl s phone) ↔
      PhoneReadable config before phone :=
  createPhone_safe_iff accepted known collects id id fun name planOf planAccepted =>
    configurePaths_typed planOf planAccepted known httpUrl name

theorem createPhonePlans_typed (accepted : configSchema.accepts config = true) :
    Safe Stop.IsException (createPhonePlans (.valid config)) ↔ PhonesReadable config :=
  createPhonePlans_safe accepted fun httpUrl known collects =>
    createPhone_typed accepted known collects httpUrl

end Stages

section Whole
variable [ScalarInterface] {config : Node}

theorem readable_iff {http ami phonebooks : Node} (httpFound : config.find? "http" = some http)
    (amiFound : config.find? "ami" = some ami)
    (phonebooksFound : config.find? "phonebooks" = some phonebooks) :
    Readable config ↔ (http.get Node.asUInt16 "port").isSome ∧
    (ami.get Node.asUInt16 "port").isSome ∧
      PhonebooksReadable phonebooks ∧
        ((∀ path ∈ phonebooks.itemsAt "http_paths", PhonebookPasses phonebooks path) →
          PhonesReadable config) := by
  constructor
  · intro readable
    exact ⟨readable.ports "http" (by simp) http httpFound,
      readable.ports "ami" (by simp) ami amiFound,
      readable.phonebooks phonebooks phonebooksFound, readable.phones phonebooks phonebooksFound⟩
  · rintro ⟨httpFits, amiFits, books, phones⟩
    constructor
    · simp [httpFound, amiFound, httpFits, amiFits]
    · simpa [phonebooksFound] using books
    · simpa [phonebooksFound] using phones

theorem startUp_typed (accepted : configSchema.accepts config = true) (isDaemon : Bool) :
    Safe Stop.IsException (startUp (.valid config) isDaemon) ↔ Readable config := by
  obtain ⟨syslog, -, syslogAccepted, syslogIndexed⟩ :=
    group_node accepted "syslog" syslogFields (by simp [configFields])
  obtain ⟨http, httpFound, httpAccepted, httpIndexed⟩ :=
    group_node accepted "http" httpFields (by simp [configFields])
  obtain ⟨ami, amiFound, amiAccepted, amiIndexed⟩ :=
    group_node accepted "ami" amiFields (by simp [configFields])
  obtain ⟨database, -, databaseAccepted, databaseIndexed⟩ :=
    group_node accepted "database" databaseFields (by simp [configFields])
  obtain ⟨phonebooks, phonebooksFound, phonebooksAccepted, phonebooksIndexed⟩ :=
    group_node accepted "phonebooks" phonebooksFields (by simp [configFields])
  obtain ⟨options, logged⟩ := configureSyslog_ok syslogAccepted isDaemon
  obtain ⟨httpTyped, httpFinishes⟩ := createHTTPServer_typed httpAccepted
  obtain ⟨amiTyped, amiFinishes⟩ := createAMIConnection_typed amiAccepted
  rw [readable_iff httpFound amiFound phonebooksFound, startUp, safe_bind_ok syslogIndexed,
    safe_bind_ok logged, safe_bind_ok httpIndexed, safe_bind, httpTyped]
  refine and_congr_right fun httpFits => ?_
  obtain ⟨server, served⟩ := httpFinishes httpFits
  simp only [served, Except.ok.injEq, forall_eq', safe_bind_ok amiIndexed]
  rw [safe_bind, amiTyped]
  refine and_congr_right fun amiFits => ?_
  simp only [amiFinishes amiFits, forall_const, safe_bind_ok phonebooksIndexed]
  rw [safe_bind, createPhonebooks_typed phonebooksAccepted]
  refine and_congr_right fun books => ?_
  rw [← createPhonebooks_ok phonebooksAccepted, ← createPhonePlans_typed accepted]
  have after : ∀ u : Unit, Safe Stop.IsException (do
      createDeskphoneCache (← index (.valid config) "database")
      createPhonePlans (.valid config)) ↔
        Safe Stop.IsException (createPhonePlans (.valid config)) := by
    intro u
    rw [safe_bind_ok databaseIndexed, safe_bind_ok (createDeskphoneCache_ok databaseAccepted)]
  exact ⟨fun rest finished => (after ()).mp (rest () finished),
    fun rest u finished => (after u).mpr (rest finished)⟩

/-- Exactly for these configurations no typed read of the start-up throws. -/
theorem typed_reads_succeed_iff (accepted : configSchema.accepts config = true) :
    TypedReadsSucceed config ↔ Readable config := by
  constructor
  · intro succeed
    rw [← startUp_typed accepted false, safe_run]
    rintro grants s stopped thrown
    cases s with
    | exception e => exact succeed false grants e stopped
    | exit status => exact thrown
    | nullDereference => exact thrown
  · intro readable isDaemon grants thrown stopped
    exact safe_run.mp ((startUp_typed accepted isDaemon).mpr readable)
      grants (.exception thrown) stopped trivial

end Whole

section Sample
local instance : ScalarInterface := decimalScalars

/-- A file with one path for phonebooks and no phones. -/
def phonebookFile (path : List (String × Node)) : Node :=
  .map [("http", .map [("url", .scalar "http://127.0.0.1")]),
        ("ami", .map [("username", .scalar "username"), ("secret", .scalar "secret")]),
        ("database", .map [("filename", .scalar "/tmp/cache.sqlite3")]),
        ("phonebooks", .map
          [("providers", .sequence [.map [("name", .scalar "default"), ("type", .scalar "pjsip_wizard_cfg"),
                                          ("match", .scalar "ec == 'local-set'")]]),
           ("http_paths", .sequence [.map path])]),
        ("button_plans", .sequence []),
        ("phones", .sequence [])]

/-- What loading gives for a path with the keys of the schema, and for one with a `ttl`. -/
def loaded (extra : List (String × Node)) : Node :=
  configSchema.fill (phonebookFile ([("path", .scalar "/phonebook"), ("provider", .scalar "default")] ++ extra))

theorem typed_reads_succeed_iff_ttl :
    configSchema.accepts (loaded [("ttl", .scalar "60")]) = true ∧ TypedReadsSucceed (loaded [("ttl", .scalar "60")]) := by
  have accepted : configSchema.accepts (loaded [("ttl", .scalar "60")]) = true := by decide
  refine ⟨accepted, (typed_reads_succeed_iff accepted).mpr ⟨?_, ?_, ?_⟩⟩
  · intro name listed node found
    rcases List.mem_cons.mp listed with rfl | listed
    · obtain rfl := Option.some.inj found
      rfl
    · obtain rfl := List.mem_singleton.mp listed
      obtain rfl := Option.some.inj found
      rfl
  · intro node found
    obtain rfl := Option.some.inj found
    exact ⟨fun _ => rfl, fun _ => trivial⟩
  · intro node found _
    trivial

theorem ttl_not_in_schema :
    configSchema.accepts (loaded []) = true ∧ ¬ TypedReadsSucceed (loaded []) :=
  ⟨by decide, fun succeed => succeed false (fun _ => true) (.invalidNode "ttl") rfl⟩

end Sample
end LampMonitor.Config
