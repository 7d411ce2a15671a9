import LampMonitor.Config.Reads

/-! The loop over the paths of the phonebooks. The first path with an unknown
provider ends the start-up with a message, before anything else of it is read. -/
namespace LampMonitor.Config
open Fallible Script Schema Phonebook

variable [ScalarInterface]

abbrev providerSchema : Schema := derived namedProviderFields adapterVariants

abbrev phonebookPathSchema : Schema := record phonebookHttpPathFields

/-- The first provider with the name. -/
def providerNamed (config : Node) (name : String) : Option Node :=
  (config.itemsAt "providers").find? fun provider => provider.get Node.asString "name" = some name

/-- The provider that a path of the phonebooks names. -/
def providerFor (config path : Node) : Option Node := (path.get Node.asString "provider").bind (providerNamed config)

/-- `ttl` is not a key of the schema. -/
def HasTtl (path : Node) : Prop := (path.get Node.asUInt32 "ttl").isSome

def PhonebookPasses (config path : Node) : Prop := (providerFor config path).isSome ∧ HasTtl path

/-- The adapters are providers of the configuration under their names. -/
def Knows (config : Node) (adapters : Adapters) : Prop :=
  ∀ name adapter, adapters.find? name = some adapter → ∃ cfg provider, providerNamed config name = some cfg ∧
    adapter = some provider ∧ (createProvider (.valid cfg)).outcome = .ok (some provider)

section Adapters
variable {config path : Node} {adapters adapters' : Adapters} {name : String}

theorem findAdapter_outcome {providers : List Node}
    (accepted : ∀ cfg ∈ providers, providerSchema.accepts cfg = true) :
    (findAdapter adapters name providers).outcome =
      match providers.find? (fun cfg => cfg.get Node.asString "name" = some name) with
      | none => .ok (adapters, none)
      | some cfg => (createProvider (.valid cfg)).outcome >>= fun adapter =>
          .ok (adapters.emplace name adapter, adapter) := by
  induction providers with
  | nil => rfl
  | cons cfg rest ih =>
    obtain ⟨type, fields, -, -, here⟩ := derived_accepts (accepted cfg List.mem_cons_self)
    obtain ⟨found, hn, -⟩ := get_string here
      (show mandatory "name" (string []) ∈ namedProviderFields ++ fields by
        simp [namedProviderFields]) rfl
    by_cases same : found = name
    · simp [findAdapter, outcome_read hn, hn, same]
    · have skipped := ih fun p h => accepted p (List.mem_cons_of_mem _ h)
      simp only [findAdapter, outcome_bind, outcome_read hn, ok_bind, same, if_false, skipped,
        List.find?_cons, hn, Option.some.injEq, decide_false]

theorem providers_accepted (accepted : (record phonebooksFields).accepts config = true) :
    ∀ cfg ∈ config.itemsAt "providers", providerSchema.accepts cfg = true :=
  items_accepted accepted
    (show mandatory "providers" (list providerSchema) ∈ phonebooksFields by simp [phonebooksFields])

theorem createAdapter_cases (accepted : (record phonebooksFields).accepts config = true)
    (knows : Knows config adapters) (name : String) :
    (∃ cfg provider adapters', providerNamed config name = some cfg ∧
      (createProvider (.valid cfg)).outcome = .ok (some provider) ∧ Knows config adapters' ∧
        (createAdapter (.valid config) adapters name).outcome = .ok (adapters', some provider)) ∨
    providerNamed config name = none ∧
    (createAdapter (.valid config) adapters name).outcome = .ok (adapters, none) := by
  cases cached : adapters.find? name with
  | some adapter =>
    obtain ⟨cfg, provider, named, rfl, created⟩ := knows name adapter cached
    exact Or.inl ⟨cfg, provider, adapters, named, created, knows, by simp [createAdapter, cached]⟩
  | none =>
    have course : (createAdapter (.valid config) adapters name).outcome =
        (findAdapter adapters name (config.itemsAt "providers")).outcome := by
      simp only [createAdapter, cached, outcome_bind, outcome_index (record_accepts.mp accepted).1,
        ok_bind, elim_items]
    rw [findAdapter_outcome (providers_accepted accepted)] at course
    cases named : providerNamed config name with
    | none => exact Or.inr ⟨rfl, by rw [course, ← providerNamed, named]⟩
    | some cfg =>
      obtain ⟨provider, created⟩ :=
        createProvider_ok (providers_accepted accepted cfg (List.mem_of_find?_eq_some named))
      refine Or.inl ⟨cfg, provider, adapters.emplace name (some provider), rfl, created, ?_, ?_⟩
      · intro other adapter found
        rw [KeyedTable.find?_emplace] at found
        by_cases same : other = name
        · subst same
          obtain rfl : some provider = adapter := by simpa [cached] using found
          exact ⟨cfg, provider, named, rfl, created⟩
        · exact knows other adapter (by simpa [same] using found)
      · rw [course, ← providerNamed, named]
        simp only [created, ok_bind]

theorem createAdapter_logs (config : Node) (adapters : Adapters) (name : String) :
    Emits Event.IsLog (createAdapter (.valid config) adapters name) := by
  have search : ∀ providers, Emits Event.IsLog (findAdapter adapters name providers) := by
    intro providers
    induction providers with
    | nil => exact emits_pure _
    | cons cfg rest ih =>
      apply emits_read
      intro found
      split
      · exact emits_bind (createProvider_logs _) fun _ _ => emits_pure _
      · exact ih
  unfold createAdapter
  split
  · exact emits_pure _
  · exact emits_index fun handle => search handle.items

end Adapters

section Paths
variable {config path : Node} {adapters : Adapters}

/-- The phonebook that a path names. -/
inductive PhonebookNamed (config path : Node) : String → Target → Prop where
  | intro : path.get Node.asString "path" = some uri → providerFor config path = some cfg →
      (createProvider (.valid cfg)).outcome = .ok (some provider) →
      (path.get Node.asString "type").bind PhonebookType.ofString = some type →
      path.get Node.asUInt32 "ttl" = some ttl →
      PhonebookNamed config path uri (.phonebook ⟨provider, type, max ttl 120⟩)

/-- The courses a path of the phonebooks can take. -/
inductive PhonebookCourse (config path : Node) (p : StartUp Adapters) : Prop where
  | attached : PhonebookPasses config path → p.outcome = .ok adapters' → Knows config adapters' →
      PhonebookNamed config path uri target → p.output = logs ++ [.attach uri target] → (∀ event ∈ logs, event.IsLog) →
      PhonebookCourse config path p
  | unknown : providerFor config path = none → p.outcome = .error (.exit Privileges.exitFailure) →
      p.output = logs ++ [.syslog .err message] → (∀ event ∈ logs, event.IsLog) → PhonebookCourse config path p
  | noTtl : (providerFor config path).isSome → ¬ HasTtl path → p.outcome = .error s → s.IsException →
      Emits Event.IsLog p → PhonebookCourse config path p

theorem createHTTPPhonebook_silent (config : Handle) (source : Provider) :
    (createHTTPPhonebook config source).output = [] := by
  refine output_bind_nil (output_read _) fun ttl => ?_
  exact output_bind_nil (output_read _) fun type => rfl

theorem PhonebookCourse.congr {p q : StartUp Adapters} (course : PhonebookCourse config path q)
    (alike : Alike p q) :
    PhonebookCourse config path p := by
  obtain ⟨outcome, output⟩ := alike
  cases course with
  | attached passes ended knows named emitted logs =>
    exact .attached passes (outcome.trans ended) knows named (output.trans emitted) logs
  | unknown missing ended emitted logs =>
    exact .unknown missing (outcome.trans ended) (output.trans emitted) logs
  | noTtl there missing ended thrown logs =>
    exact .noTtl there missing (outcome.trans ended) thrown (by rwa [Emits, output])

/-- What is logged on the way does not change the course. -/
theorem PhonebookCourse.after {p : StartUp α} {f : α → StartUp Adapters} (first : p.outcome = .ok a)
    (earlier : Emits Event.IsLog p) (rest : PhonebookCourse config path (f a)) :
    PhonebookCourse config path (p >>= f) := by
  have outcome : (p >>= f).outcome = (f a).outcome := by rw [outcome_bind, first, ok_bind]
  have output : (p >>= f).output = p.output ++ (f a).output := output_bind_ok first
  cases rest with
  | attached passes ended knows named emitted logs =>
    refine .attached passes (outcome.trans ended) knows named
      (by rw [output, emitted, ← List.append_assoc]) ?_
    exact List.forall_mem_append.mpr ⟨earlier, logs⟩
  | unknown missing ended emitted logs =>
    refine .unknown missing (outcome.trans ended) (by rw [output, emitted, ← List.append_assoc]) ?_
    exact List.forall_mem_append.mpr ⟨earlier, logs⟩
  | noTtl there missing ended thrown logs =>
    refine .noTtl there missing (outcome.trans ended) thrown ?_
    rw [Emits, output]
    exact List.forall_mem_append.mpr ⟨earlier, logs⟩

theorem createPhonebook_course (accepted : (record phonebooksFields).accepts config = true)
    (known : phonebookPathSchema.accepts path = true) (knows : Knows config adapters) :
    PhonebookCourse config path (createPhonebook (.valid config) adapters path) := by
  obtain ⟨adapterId, ha, -⟩ := get_string known
    (show mandatory "provider" (string []) ∈ phonebookHttpPathFields by
      simp [phonebookHttpPathFields]) rfl
  obtain ⟨uri, hu, -⟩ := get_string known
    (show mandatory "path" (string []) ∈ phonebookHttpPathFields by simp [phonebookHttpPathFields])
    rfl
  obtain ⟨type, ht, option⟩ := get_string known
    (show defaulted "type" (string ["snom", "yealink"]) "yealink" ∈ phonebookHttpPathFields by
      simp [phonebookHttpPathFields]) rfl
  have provider_eq : providerFor config path = providerNamed config adapterId := by
    simp [providerFor, ha]
  have logs := createAdapter_logs config adapters adapterId
  rw [createPhonebook]
  refine PhonebookCourse.congr ?_ (alike_read ha)
  rcases createAdapter_cases accepted knows adapterId with
    ⟨cfg, provider, adapters', named, created, knows', adapter⟩ | ⟨missing, adapter⟩
  · refine .after adapter logs (PhonebookCourse.congr ?_ (alike_read hu))
    cases ttl : path.get Node.asUInt32 "ttl" with
    | none =>
      cases ended : (read Node.asUInt32 (.valid path) "ttl").outcome with
      | ok a => simp [outcome_read_ok.mp ended] at ttl
      | error s =>
        have thrown : (createHTTPPhonebook (.valid path) provider).outcome = .error s := by
          simp [createHTTPPhonebook, ended]
        refine .noTtl (by simp [provider_eq, named]) (by simp [HasTtl, ttl])
          ?_ (outcome_read_error ended).2 ?_
        · rw [outcome_bind, thrown, error_bind]
        · exact emits_silent (by rw [output_bind_error thrown, createHTTPPhonebook_silent])
    | some minutes =>
      obtain ⟨renderer, hr⟩ : ∃ t, PhonebookType.ofString type = some t := by
        have option : type = "snom" ∨ type = "yealink" := by simpa using option
        rcases option with rfl | rfl
        · exact ⟨.snom, rfl⟩
        · exact ⟨.yealink, rfl⟩
      have phonebook : (createHTTPPhonebook (.valid path) provider).outcome =
          .ok (some ⟨provider, renderer, max minutes 120⟩) := by
        simp [createHTTPPhonebook, outcome_read ttl, outcome_read ht, hr]
      have names : PhonebookNamed config path uri
          (.phonebook ⟨provider, renderer, max minutes 120⟩) :=
        .intro hu (provider_eq.trans named) created (by simp [ht, hr]) ttl
      have passes : PhonebookPasses config path :=
        ⟨by simp [provider_eq, named], by simp [HasTtl, ttl]⟩
      refine PhonebookCourse.congr ?_ (alike_bind phonebook (createHTTPPhonebook_silent _ _))
      exact .attached passes rfl knows' names (List.nil_append _).symm (List.forall_mem_nil _)
  · refine .after adapter logs ?_
    exact .unknown (provider_eq.trans missing) rfl (List.nil_append _).symm (List.forall_mem_nil _)

theorem phonebooks_track (accepted : (record phonebooksFields).accepts config = true) :
    Tracks (phonebookPathSchema.accepts · = true) (createPhonebook (.valid config))
      (fun _ => Knows config)
      (fun _ path => PhonebookPasses config path) where
  ok {before s path s'} known knows finished := by
    cases createPhonebook_course accepted known knows with
    | attached passes ended knows' =>
      obtain rfl := Except.ok.inj (ended.symm.trans finished)
      exact ⟨passes, knows'⟩
    | unknown _ ended => simp [ended] at finished
    | noTtl _ _ ended => simp [ended] at finished
  pass {before s path} known knows passes := by
    cases createPhonebook_course accepted known knows with
    | attached _ ended => exact ⟨_, ended⟩
    | unknown missing => simp [PhonebookPasses, missing] at passes
    | noTtl _ missing => exact absurd passes.2 missing

theorem knows_empty (config : Node) : Knows config .empty := nofun

theorem phonebookPaths_accepted (accepted : (record phonebooksFields).accepts config = true) :
    ∀ path ∈ config.itemsAt "http_paths", phonebookPathSchema.accepts path = true :=
  items_accepted accepted
    (show mandatory "http_paths" (list phonebookPathSchema) ∈ phonebooksFields by
    simp [phonebooksFields])

theorem createPhonebooks_outcome (accepted : (record phonebooksFields).accepts config = true) :
    (createPhonebooks (.valid config)).outcome =
      ((config.itemsAt "http_paths").foldlM (createPhonebook (.valid config)) .empty).outcome
      >>= fun _ => .ok () := by
  simp only [createPhonebooks, outcome_bind, outcome_index (record_accepts.mp accepted).1, ok_bind,
    elim_items, outcome_pure]

theorem createPhonebooks_safe (accepted : (record phonebooksFields).accepts config = true)
    {Bad : Stop → Prop} :
    Safe Bad (createPhonebooks (.valid config)) ↔
      Safe Bad ((config.itemsAt "http_paths").foldlM (createPhonebook (.valid config)) .empty) := by
  simp only [Safe, createPhonebooks_outcome accepted, bind_eq_error, reduceCtorEq, and_false,
    exists_false, or_false]

theorem createPhonebooks_ok (accepted : (record phonebooksFields).accepts config = true) :
    (createPhonebooks (.valid config)).outcome = .ok () ↔
      ∀ path ∈ config.itemsAt "http_paths", PhonebookPasses config path := by
  have tracks := phonebooks_track accepted
  have all := phonebookPaths_accepted accepted
  rw [createPhonebooks_outcome accepted, bind_eq_ok]
  constructor
  · rintro ⟨adapters, finished, -⟩
    have passed : AllPass (fun _ path => PhonebookPasses config path)
        [] (config.itemsAt "http_paths") :=
      (tracks.loop_ok all (knows_empty config) finished).1
    exact allPass_each.mp passed
  · intro passes
    have each : AllPass (fun _ path => PhonebookPasses config path)
        [] (config.itemsAt "http_paths") :=
      allPass_each.mpr passes
    obtain ⟨adapters, finished⟩ := tracks.loop_pass all (knows_empty config) each
    exact ⟨adapters, finished, rfl⟩

/-- Where every path that is reached has a `ttl`, nothing throws. -/
theorem createPhonebooks_typed (accepted : (record phonebooksFields).accepts config = true) :
    Safe Stop.IsException (createPhonebooks (.valid config)) ↔
      EachReached (fun _ path => PhonebookPasses config path)
        (fun _ path => (providerFor config path).isSome = true → HasTtl path)
        [] (config.itemsAt "http_paths") := by
  rw [createPhonebooks_safe accepted]
  refine (phonebooks_track accepted).loop_safe (phonebookPaths_accepted accepted)
    (knows_empty config)
    fun {before adapters path} known knows => ?_
  cases createPhonebook_course accepted known knows with
  | attached passes ended => exact ⟨fun _ _ => passes.2, fun _ => safe_of_ok ended⟩
  | unknown missing ended =>
    refine ⟨fun _ there => by simp [missing] at there, fun _ s stopped => ?_⟩
    obtain rfl := Except.error.inj (ended.symm.trans stopped)
    exact id
  | noTtl there missing ended thrown =>
    exact ⟨fun safe => absurd thrown (safe _ ended), fun fits => absurd (fits there) missing⟩

/-- The adapters that are looked up are never null. -/
theorem createPhonebooks_resolved (accepted : (record phonebooksFields).accepts config = true) :
    Safe Stop.IsNull (createPhonebooks (.valid config)) := by
  rw [createPhonebooks_safe accepted]
  refine (phonebooks_track accepted).loop_always_safe (phonebookPaths_accepted accepted)
    (knows_empty config)
    fun {_ adapters path} known knows s stopped => ?_
  cases createPhonebook_course accepted known knows with
  | attached _ ended => simp [ended] at stopped
  | unknown _ ended =>
    obtain rfl := Except.error.inj (ended.symm.trans stopped)
    exact id
  | noTtl _ _ ended thrown =>
    obtain rfl := Except.error.inj (ended.symm.trans stopped)
    exact thrown.not_null

end Paths
end LampMonitor.Config
