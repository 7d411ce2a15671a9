import LampMonitor.Asterisk.RegisterEventHandler
import LampMonitor.Cache.Refinement

/-! The registration policy over whole histories. A phone that registers is sent
the lamp states unless it is live: registered before, not yet expired, and not
expired by hand since. The writer is drained between two steps, so the table is
the log of requests replayed over the table that start-up left behind. -/
namespace LampMonitor.RegisterEventHandler.Policy
open Ami Bridge ButtonState DeskphoneCache Transition

/-- The endpoints that Asterisk reports: four fields without a slash. -/
structure Contact where
  ver : String
  transport : String
  ip : String
  port : String
  plain : ∀ field ∈ [ver, transport, ip, port], '/' ∉ field.toList

def Contact.endpoint (contact : Contact) : String :=
  contact.ver ++ "/" ++ contact.transport ++ "/" ++ contact.ip ++ "/" ++ contact.port

/-- The expire path: the status of the response and the request to the cache. -/
def expirePath (params : List (String × String)) : Nat × Option HandsetData :=
  let value (name : String) : Option String := (params.find? fun param => param.1 = name).map Prod.snd
  match value "aor", value "ip" with
  | some aor, some ip => (204, some (deleteEndpoint aor ip))
  | _, _ => (400, none)

/-- What the policy depends on, in the order in which it happened. -/
inductive Happening where
  | registered (key : EndpointKey) (now : Int)
  | expired (aor ip : String)

structure State where
  buttonPlans : List ButtonPlan
  expiry : Int
  /-- The table as `initializeDatabase` left it, and the requests since. -/
  opened : Endpoints
  log : List HandsetData
  now : Int
  history : List Happening
  sent : List PJSIPNotify

def State.database (s : State) : Database := replay s.opened s.log

/-- The configured lifetime of an entry, in the nanoseconds of the clock: so many
minutes, but not less than an hour. -/
def configuredLifetime (expiry : UInt32) : Int := 60000000000 * max 60 expiry.toNat

/-- A writer that has drained the same requests has committed this table. -/
theorem drained_committed [DecidableEq ι] {requests : ι → List HandsetData}
    {w : WriteThread.State ι} (succeeds : ∀ l ∈ ls, l.Succeeds)
    (reached : WriteThread.machine.run (WriteThread.start s.opened requests) ls = some w)
    (same : WriteThread.enqueued ls = s.log) (resting : w.writer.resting = true)
    (empty : w.batch = []) :
    w.committed = (State.database s).endpoints := by
  rw [WriteThread.committed_replay succeeds reached,
    WriteThread.committedOps_drained succeeds reached resting empty, same]
  rfl

inductive Label where
  | event (event : KeyValDict)
  | expire (params : List (String × String))
  | tick (duration : Nat)

/-- A phone has authenticated itself. -/
def Registers (event : KeyValDict) : Prop :=
  event.get "Event" = "SuccessfulAuth" ∧ event.get "Service" = "PJSIP"

instance (event : KeyValDict) : Decidable (Registers event) := inferInstanceAs (Decidable (_ ∧ _))

/-- What a label adds to the history. -/
def happenings (now : Int) : Label → List Happening
  | .event event =>
    if Registers event then [.registered ⟨event.get "AccountID", event.get "RemoteAddress"⟩ now] else []
  | .expire params =>
    match params.lookup "aor", params.lookup "ip" with
    | some aor, some ip => [.expired aor ip]
    | _, _ => []
  | .tick _ => []

/-- There was a registration of exactly this pair, the latest one has not run
out, and nobody has expired the AoR at this address since. -/
def Live (lifetime : Int) (history : List Happening) (aor : String) (contact : Contact) (now : Int) : Prop :=
  ∃ before t after, history = before ++ .registered ⟨aor, contact.endpoint⟩ t :: after ∧ now < t + lifetime ∧
    (∀ t', .registered ⟨aor, contact.endpoint⟩ t' ∉ after) ∧ .expired aor contact.ip ∉ after

section Fields

theorem fields_endpoint (contact : Contact) : fields contact.endpoint =
    [contact.ver.toList, contact.transport.toList, contact.ip.toList, contact.port.toList] := by
  have joined : contact.endpoint.toList = ['/'].intercalate
      [contact.ver.toList, contact.transport.toList, contact.ip.toList, contact.port.toList] := by
    simp [Contact.endpoint, List.intercalate]
  have present : contact.endpoint.toList ≠ [] := by simp [Contact.endpoint]
  rw [fields, if_neg present, joined]
  refine List.splitOn_intercalate '/' ?_ (by simp)
  intro field member
  simp only [List.mem_cons, List.not_mem_nil, or_false] at member
  have plain := contact.plain
  simp only [List.mem_cons, List.not_mem_nil, or_false, forall_eq_or_imp, forall_eq] at plain
  rcases member with rfl | rfl | rfl | rfl
  · exact plain.1
  · exact plain.2.1
  · exact plain.2.2.1
  · exact plain.2.2.2

theorem bound_ip (contact : Contact) (b : Bindings) :
    (bindFields 4 contact.endpoint b).ip = some contact.ip := by
  simp [bindFields, fields_endpoint, bindFieldsFrom, bindField]

theorem ip_eq (contact contact' : Contact) (same : contact.endpoint = contact'.endpoint) :
    contact.ip = contact'.ip := by
  have ips := bound_ip contact Bindings.unbound
  rw [same, bound_ip contact'] at ips
  exact (Option.some.inj ips).symm

end Fields

section History

theorem split_snoc {history before after : List Happening}
    (split : history ++ [h] = before ++ x :: after) :
    (after = [] ∧ h = x ∧ history = before) ∨
    ∃ rest, after = rest ++ [h] ∧ history = before ++ x :: rest := by
  rcases List.eq_nil_or_concat after with rfl | ⟨rest, last, rfl⟩
  · obtain ⟨rfl, last⟩ := List.append_inj' split rfl
    exact .inl ⟨rfl, List.head_eq_of_cons_eq last, rfl⟩
  · have parts : history ++ [h] = (before ++ x :: rest) ++ [last] := by simpa using split
    obtain ⟨rfl, last⟩ := List.append_inj' parts rfl
    cases List.head_eq_of_cons_eq last
    exact .inr ⟨rest, by simp, rfl⟩

theorem live_registered :
    Live lifetime (history ++ [.registered ⟨aor, contact.endpoint⟩ t]) aor contact now ↔
    now < t + lifetime := by
  constructor
  · rintro ⟨before, t', after, split, unexpired, latest, _⟩
    rcases split_snoc split with ⟨_, same, _⟩ | ⟨rest, rfl, _⟩
    · cases same
      exact unexpired
    · exact absurd (by simp) (latest t)
  · intro unexpired
    exact ⟨history, t, [], rfl, unexpired, by simp, by simp⟩

theorem not_live_expired :
    ¬ Live lifetime (history ++ [.expired aor contact.ip]) aor contact now := by
  rintro ⟨before, t, after, split, _, _, kept⟩
  rcases split_snoc split with ⟨_, same, _⟩ | ⟨rest, rfl, _⟩
  · contradiction
  · exact absurd (by simp) kept

theorem live_other (registers : ∀ t, h ≠ .registered ⟨aor, contact.endpoint⟩ t)
    (expires : h ≠ .expired aor contact.ip) :
    Live lifetime (history ++ [h]) aor contact now ↔ Live lifetime history aor contact now := by
  constructor
  · rintro ⟨before, t, after, split, unexpired, latest, kept⟩
    rcases split_snoc split with ⟨_, same, _⟩ | ⟨rest, rfl, rfl⟩
    · exact absurd same (registers t)
    · refine ⟨before, t, rest, rfl, unexpired, fun t' member => latest t' ?_, fun member => kept ?_⟩
      · exact List.mem_append_left _ member
      · exact List.mem_append_left _ member
  · rintro ⟨before, t, after, rfl, unexpired, latest, kept⟩
    refine ⟨before, t, after ++ [h], by simp, unexpired, fun t' => ?_, ?_⟩
    · simp [latest t', Ne.symm (registers t')]
    · simp [kept, Ne.symm expires]

end History

section Table

/-- What the table says of a pair agrees with the history of that pair. A row
whose address is not that of its endpoint can only be left from before. -/
structure Tracks (lifetime : Int) (endpoints : Endpoints) (history : List Happening) (aor : String)
    (contact : Contact) : Prop where
  live : ∀ now, 0 < now → (unexpired endpoints aor contact.endpoint now = true ↔ Live lifetime history aor contact now)
  address : ∀ row, endpoints.find? ⟨aor, contact.endpoint⟩ = some row → row.ip = contact.ip ∨ row.expiry = some 0

theorem tracks_start (lifetime : Int) (table : Endpoints) (aor : String) (contact : Contact) :
    Tracks lifetime (initializeDatabase table) [] aor contact := by
  have reset : (initializeDatabase table).find? ⟨aor, contact.endpoint⟩ =
      (table.find? ⟨aor, contact.endpoint⟩).map fun row => { row with expiry := some 0 } := by
    rw [initializeDatabase, KeyedTable.find?_update]
    rfl
  constructor
  · intro now positive
    constructor
    · intro found
      obtain ⟨row, e, present, expiry, later⟩ := unexpired_iff.mp found
      rw [reset] at present
      obtain ⟨old, _, rfl⟩ := Option.map_eq_some_iff.mp present
      cases Option.some.inj expiry
      omega
    · rintro ⟨before, t, after, split, _⟩
      simp at split
  · intro row present
    rw [reset] at present
    obtain ⟨old, _, rfl⟩ := Option.map_eq_some_iff.mp present
    exact .inr rfl

theorem Tracks.registered (held : Tracks lifetime db.endpoints history aor contact)
    (aor' : String) (contact' : Contact) (t : Int) :
    Tracks lifetime (execute db ⟨.aorInsert, aor', contact'.endpoint, t + lifetime⟩).endpoints
      (history ++ [.registered ⟨aor', contact'.endpoint⟩ t]) aor contact := by
  have bound :
      (bindFields 4 (⟨.aorInsert, aor', contact'.endpoint, t + lifetime⟩ : HandsetData).endpoint
      db.bindings).ip = some contact'.ip := bound_ip contact' _
  simp only [execute, addAor_bound bound]
  by_cases same : (⟨aor, contact.endpoint⟩ : EndpointKey) = ⟨aor', contact'.endpoint⟩
  · obtain ⟨rfl, endpoint⟩ := EndpointKey.mk.inj same
    rw [← endpoint, ← ip_eq contact contact' endpoint]
    constructor
    · intro now _
      rw [live_registered, unexpired, KeyedTable.find?_upsert, if_pos rfl]
      simp
    · intro row present
      rw [KeyedTable.find?_upsert, if_pos rfl] at present
      cases Option.some.inj present
      exact .inl rfl
  · have unchanged :
        ∀ row, (db.endpoints.upsert ⟨aor', contact'.endpoint⟩ row).find? ⟨aor, contact.endpoint⟩ =
        db.endpoints.find? ⟨aor, contact.endpoint⟩ := fun row => by
          rw [KeyedTable.find?_upsert, if_neg same]
    constructor
    · intro now positive
      rw [live_other (by simpa [eq_comm] using same) (by simp), unexpired, unchanged]
      exact held.live now positive
    · intro row present
      rw [unchanged] at present
      exact held.address row present

theorem find?_deleteEndpoint (db : Database) (aor' ip : String) (key : EndpointKey) :
    (execute db (deleteEndpoint aor' ip)).endpoints.find? key =
      (db.endpoints.find? key).map fun row =>
      if key.aor = aor' ∧ row.ip = ip then { row with expiry := some 0 } else row :=
  find?_delAor db (deleteEndpoint aor' ip) key

/-- Of the rows that had not run out, those named by the request have now. -/
theorem unexpired_deleteEndpoint (positive : 0 < now) :
    unexpired (execute db (deleteEndpoint aor' ip)).endpoints aor endpoint now = true ↔
      ∃ row e, db.endpoints.find? ⟨aor, endpoint⟩ = some row ∧ row.expiry = some e ∧ now < e ∧
        ¬ (aor = aor' ∧ row.ip = ip) := by
  rw [unexpired_iff, find?_deleteEndpoint]
  constructor
  · rintro ⟨row, e, present, expiry, later⟩
    obtain ⟨old, found, rfl⟩ := Option.map_eq_some_iff.mp present
    split at expiry
    · cases Option.some.inj expiry
      omega
    · rename_i missed
      exact ⟨old, e, found, expiry, later, missed⟩
  · rintro ⟨row, e, found, expiry, later, missed⟩
    refine ⟨row, e, ?_, expiry, later⟩
    rw [found, Option.map_some, if_neg missed]

/-- A row with a stored expiry ahead carries the address of its endpoint. -/
theorem Tracks.own_address (held : Tracks lifetime endpoints history aor contact)
    (positive : 0 < now) (found : endpoints.find? ⟨aor, contact.endpoint⟩ = some row)
    (expiry : row.expiry = some e) (later : now < e) :
    row.ip = contact.ip := by
  rcases held.address row found with own | zero
  · exact own
  · rw [expiry] at zero
    cases Option.some.inj zero
    omega

theorem Tracks.expired (held : Tracks lifetime db.endpoints history aor contact)
    (aor' ip : String) :
    Tracks lifetime (execute db (deleteEndpoint aor' ip)).endpoints
      (history ++ [.expired aor' ip]) aor contact := by
  constructor
  · intro now positive
    rw [unexpired_deleteEndpoint positive]
    by_cases hit : aor = aor' ∧ contact.ip = ip
    · obtain ⟨rfl, rfl⟩ := hit
      refine iff_of_false ?_ not_live_expired
      rintro ⟨row, e, found, expiry, later, missed⟩
      exact missed ⟨rfl, held.own_address positive found expiry later⟩
    · rw [live_other (by simp) (fun same => hit (by cases same; exact ⟨rfl, rfl⟩)),
        ← held.live now positive, unexpired_iff]
      constructor
      · rintro ⟨row, e, found, expiry, later, _⟩
        exact ⟨row, e, found, expiry, later⟩
      · rintro ⟨row, e, found, expiry, later⟩
        refine ⟨row, e, found, expiry, later, fun named => hit ⟨named.1, ?_⟩⟩
        exact (held.own_address positive found expiry later).symm.trans named.2
  · intro row present
    rw [find?_deleteEndpoint] at present
    obtain ⟨old, before, rfl⟩ := Option.map_eq_some_iff.mp present
    split
    · exact .inr rfl
    · exact held.address old before

end Table

section Labels

theorem monitored_eq (event : KeyValDict) : monitored event =
    if Registers event then some ⟨event.get "AccountID", event.get "RemoteAddress"⟩ else none := by
  have type : event.get "Event" = (event.getValue "Event").getD "" := rfl
  unfold monitored
  cases present : event.getValue "Event" with
  | none => simp [Registers, type, present]
  | some eventType =>
    by_cases succeeded : eventType = "SuccessfulAuth"
    · by_cases service : event.get "Service" = "PJSIP" <;>
        simp [Registers, type, present, succeeded, service, validEvents, validServices]
    · simp [Registers, type, present, succeeded, validEvents]

theorem lookup_eq_find? (params : List (String × String)) (name : String) :
    params.lookup name = (params.find? fun param => param.1 = name).map Prod.snd := by
  induction params with
  | nil => rfl
  | cons param rest ih =>
    obtain ⟨key, value⟩ := param
    by_cases here : key = name
    · simp [here]
    · have other : (name == key) = false := beq_eq_false_iff_ne.mpr (Ne.symm here)
      simp [List.lookup_cons, here, other, ih]

/-- The expire path asks for what the parameters name. -/
theorem expirePath_happenings (params : List (String × String)) (now : Int) :
    ((expirePath params).2 = none ∧ happenings now (.expire params) = []) ∨
    ∃ aor ip, (expirePath params).2 = some (deleteEndpoint aor ip) ∧
      happenings now (.expire params) = [.expired aor ip] := by
  unfold expirePath happenings
  simp only [lookup_eq_find?]
  cases (params.find? fun param => param.1 = "aor").map Prod.snd with
  | none => exact .inl ⟨rfl, rfl⟩
  | some aor =>
    cases (params.find? fun param => param.1 = "ip").map Prod.snd with
    | none => exact .inl ⟨rfl, rfl⟩
    | some ip => exact .inr ⟨aor, ip, rfl, rfl⟩

end Labels

section Runs
variable [LibraryInterface]

def machine : Machine State Label where
  step s l :=
    let history := s.history ++ happenings s.now l
    match l with
    | .event event =>
      let (messages, request) := amiEventHandler s.buttonPlans s.database.endpoints s.expiry s.now event
      some { s with log := s.log ++ request.toList, history := history, sent := s.sent ++ messages }
    | .expire params =>
      some { s with log := s.log ++ (expirePath params).2.toList, history := history }
    | .tick duration => some { s with now := s.now + duration, history := history }

omit [LibraryInterface] in
def start (table : Endpoints) (plans : List ButtonPlan) (expiry : UInt32) (now : Int) : State where
  buttonPlans := plans
  expiry := create expiry
  opened := initializeDatabase table
  log := []
  now := now
  history := []
  sent := []

/-- What one step sends. -/
def Sends (lifetime : Int) (s : State) (messages : List PJSIPNotify) : Label → Prop
  | .event event =>
    if Registers event then ∃ contact : Contact, event.get "RemoteAddress" = contact.endpoint ∧
      (Live lifetime s.history (event.get "AccountID") contact s.now →
        messages = notifications s.buttonPlans (event.get "AccountID") PhoneUIState.isCritical) ∧
      (¬ Live lifetime s.history (event.get "AccountID") contact s.now →
        messages = notifications s.buttonPlans (event.get "AccountID") fun _ => true)
    else messages = []
  | _ => messages = []

/-- Endpoints come in four fields, and the expiry of an entry can be represented. -/
def Admissible (lifetime : Int) (s : State) : Label → Prop
  | .event event => s.now + lifetime < 2 ^ 63 ∧
      (Registers event → ∃ contact : Contact, event.get "RemoteAddress" = contact.endpoint)
  | _ => True

omit [LibraryInterface] in
theorem create_eq (expiry : UInt32) : create expiry = 60000 * max 60 expiry.toNat := by
  have bound := expiry.toNat_lt
  rw [create, int64_eq]
  · omega
  · omega

omit [LibraryInterface] in
theorem create_lifetime (expiry : UInt32) :
    create expiry * 1000000 = configuredLifetime expiry := by
  rw [create_eq, configuredLifetime]
  omega

/-- What holds between two steps. -/
structure Inv (lifetime : Int) (s : State) : Prop where
  positive : 0 < s.now
  lasting : 0 ≤ lifetime
  configured : s.expiry * 1000000 = lifetime
  tracks : ∀ aor contact, Tracks lifetime s.database.endpoints s.history aor contact

omit [LibraryInterface] in
theorem inv_start (table : Endpoints) (plans : List ButtonPlan)
    (expiry : UInt32) (positive : 0 < now) :
    Inv (configuredLifetime expiry) (start table plans expiry now) where
  positive := positive
  lasting := by
    rw [configuredLifetime]
    exact Int.mul_nonneg (by decide) (Int.natCast_nonneg _)
  configured := by
    simp only [start, create_lifetime]
  tracks aor contact := tracks_start _ table aor contact

omit [LibraryInterface] in
theorem Inv.expiresAt (held : Inv lifetime s) (fits : s.now + lifetime < 2 ^ 63) :
    expiresAt s.expiry s.now = s.now + lifetime := by
  have positive := held.positive
  have lasting := held.lasting
  rw [DeskphoneCache.expiresAt, held.configured, int64_eq lasting (by omega),
    int64_eq (by omega) fits]

theorem inv_step (held : Inv lifetime s) (admissible : Admissible lifetime s l)
    (stepped : machine.step s l = some t) : Inv lifetime t := by
  cases l with
  | tick duration =>
    cases Option.some.inj stepped
    have positive := held.positive
    refine ⟨by simp only; omega, held.lasting, held.configured, fun aor contact => ?_⟩
    simpa [happenings, State.database] using held.tracks aor contact
  | expire params =>
    cases Option.some.inj stepped
    refine ⟨held.positive, held.lasting, held.configured, fun aor contact => ?_⟩
    rcases expirePath_happenings params s.now with ⟨none, quiet⟩ | ⟨aor', ip, request, happened⟩
    · simpa [none, quiet, State.database] using held.tracks aor contact
    · simp only [State.database, request, happened, Option.toList_some, replay_snoc]
      exact (held.tracks aor contact).expired aor' ip
  | event event =>
    cases Option.some.inj stepped
    obtain ⟨fits, formed⟩ := admissible
    refine ⟨held.positive, held.lasting, held.configured, fun aor contact => ?_⟩
    by_cases registers : Registers event
    · obtain ⟨contact', endpoint⟩ := formed registers
      simp only [State.database, monitored_eq, happenings, if_pos registers,
        Option.toList_some, addEndpoint, replay_snoc, held.expiresAt fits, endpoint]
      exact (held.tracks aor contact).registered _ contact' s.now
    · simpa [State.database, amiEventHandler, monitored_eq, happenings, registers] using
        held.tracks aor contact

/-- Every registration is answered by the policy, and nothing else sends. -/
theorem registration_policy (table : Endpoints) (plans : List ButtonPlan) (expiry : UInt32) (positive : 0 < now)
    (admissible : machine.Meets (Admissible (configuredLifetime expiry)) (start table plans expiry now) (ls ++ [l]))
    (reached : machine.run (start table plans expiry now) ls = some s) :
    ∃ t messages, machine.step s l = some t ∧ t.sent = s.sent ++ messages ∧
      Sends (configuredLifetime expiry) s messages l := by
  obtain ⟨before, here⟩ := admissible.snoc reached
  have held : Inv (configuredLifetime expiry) s :=
    Machine.run_invariant_meets inv_step before reached (inv_start table plans expiry positive)
  cases l with
  | tick duration => exact ⟨_, [], rfl, by simp, rfl⟩
  | expire params => exact ⟨_, [], rfl, by simp, rfl⟩
  | event event =>
    refine ⟨_, _, rfl, rfl, ?_⟩
    by_cases registers : Registers event
    · obtain ⟨contact, endpoint⟩ := here.2 registers
      have live := (held.tracks (event.get "AccountID") contact).live s.now held.positive
      rw [← endpoint] at live
      simp only [Sends, monitored_eq, if_pos registers, addEndpoint, publishPhoneState_eq]
      refine ⟨contact, endpoint, fun alive => ?_, fun dead => ?_⟩
      · rw [live.mpr alive]
        rfl
      · have expired : unexpired s.database.endpoints (event.get "AccountID")
            (event.get "RemoteAddress") s.now = false := by
          simpa using mt live.mp dead
        rw [expired]
        rfl
    · simp [Sends, monitored_eq, registers]

end Runs

section Renewal

local instance : LibraryInterface := sequentialInterface

/-- A phone is sent the state of its UI when it registers, and nothing when it registers
again while its entry is live. -/
theorem registration_policy_renewal : ∃ s t,
    machine.run (start KeyedTable.empty [officePlan] 60 1) [.event registration] = some s ∧
    s.sent = [⟨"1001", ["Event=Yealink-xml", "Content-Type=application/xml",
      "Content=<?xml version=\"1.0\" encoding=\"ISO-8859-1\"?><YealinkIPPhoneExecute refresh=\"1\" " ++
        "Beep=\"no\"><ExecuteItem URI=\"Led:LINE1_RED=off\"/></YealinkIPPhoneExecute>"]⟩] ∧
    machine.run s [.tick 5, .event registration] = some t ∧ t.sent = s.sent := by
  have formed : Registers registration →
      ∃ contact : Contact, registration.get "RemoteAddress" = contact.endpoint :=
    fun _ => ⟨⟨"IPV4", "UDP", "10.0.0.7", "5060", by decide⟩, by decide⟩
  have registers : Registers registration := by decide
  have first : machine.Meets (Admissible (configuredLifetime 60))
      (start KeyedTable.empty [officePlan] 60 1)
      ([] ++ [.event registration]) :=
    .cons ⟨by decide, formed⟩ rfl trivial
  have second : machine.Meets (Admissible (configuredLifetime 60))
      (start KeyedTable.empty [officePlan] 60 1)
      ([.event registration, .tick 5] ++ [.event registration]) :=
    .cons ⟨by decide, formed⟩ rfl (.cons trivial rfl (.cons ⟨by decide, formed⟩ rfl trivial))
  obtain ⟨s, messages, here, sent, sends⟩ :=
    registration_policy KeyedTable.empty [officePlan] 60 (by decide : (0 : Int) < 1) first rfl
  obtain ⟨t, more, again, kept, quiet⟩ :=
    registration_policy KeyedTable.empty [officePlan] 60 (by decide : (0 : Int) < 1) second rfl
  rw [Sends, if_pos registers] at sends quiet
  obtain ⟨_, _, _, unknown⟩ := sends
  obtain ⟨contact, address, known, _⟩ := quiet
  have shown := unknown (by
    rintro ⟨before, _, _, split, _⟩
    exact nomatch (List.append_eq_nil_iff.mp split.symm).2)
  have silent := known
    ⟨[], 1, [], by rw [← address]; rfl, by decide, fun _ => List.not_mem_nil, List.not_mem_nil⟩
  cases Option.some.inj here
  refine ⟨_, t, rfl, ?_, Machine.run_cons.mpr ⟨_, rfl, Machine.run_cons.mpr ⟨t, again, rfl⟩⟩, ?_⟩
  · rw [sent, shown]
    decide +kernel
  · rw [kept, silent]
    exact List.append_nil _

end Renewal
end LampMonitor.RegisterEventHandler.Policy
