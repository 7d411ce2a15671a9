import LampMonitor.Config.PhonePlans
import LampMonitor.Config.Schema

/-! What the schemas promise the single reads, and with them the parts of the
start-up that no accepted configuration can stop. -/
namespace LampMonitor.Config
open Fallible Script ButtonState Schema

def Stop.IsException : Stop → Prop
  | exception _ => True
  | _ => False

def Stop.IsNull : Stop → Prop
  | nullDereference => True
  | _ => False

theorem Stop.IsException.not_null {s : Stop} (thrown : s.IsException) : ¬ s.IsNull := by
  cases s with
  | exception e => exact id
  | exit status => exact id
  | nullDereference => exact absurd thrown id

section Steps
variable {node : Node} {convert : Node → Option α} {Bad : Stop → Prop}

theorem outcome_read_ok : (read convert (.valid node) key).outcome = .ok a ↔
    node.get convert key = some a := by
  rw [← read_eq_ok, read]
  cases (Handle.valid node).read convert key <;> simp [attempt, outcome]

theorem outcome_read (found : node.get convert key = some a) :
    (read convert (.valid node) key).outcome = .ok a :=
  outcome_read_ok.mpr found

/-- A read that does not find a value ends in an exception, and in nothing worse. -/
theorem outcome_read_error (stopped : (read convert (.valid node) key).outcome = .error s) :
    node.get convert key = none ∧ s.IsException := by
  constructor
  · cases found : node.get convert key with
    | none => rfl
    | some a => simp [outcome_read found] at stopped
  · simp only [read, attempt] at stopped
    split at stopped
    · cases stopped
    · cases stopped
      trivial

theorem safe_read : Safe Stop.IsException (read convert (.valid node) key) ↔
    (node.get convert key).isSome := by
  constructor
  · intro safe
    by_contra missing
    cases ended : (read convert (.valid node) key).outcome with
    | ok a => simp [outcome_read_ok.mp ended] at missing
    | error s => exact safe s ended (outcome_read_error ended).2
  · intro there
    obtain ⟨a, found⟩ := Option.isSome_iff_exists.mp there
    exact safe_of_ok (outcome_read found)

theorem outcome_index (takes : node.isMap = true) (key : String) :
    (index (.valid node) key).outcome = .ok ((node.find? key).elim (.zombie key) .valid) := by
  cases node with
  | map entries => rfl
  | null => cases takes
  | scalar text => cases takes
  | sequence elements => cases takes

theorem elim_items (node : Node) (key : String) :
    ((node.find? key).elim (.zombie key) Handle.valid).items = node.itemsAt key := by
  cases found : node.find? key <;> simp [Node.itemsAt, Handle.items, found]

@[simp] theorem outcome_warning (message : String) : (warning message).outcome = .ok () := rfl

@[simp] theorem outcome_failure (message : String) :
    (failure message : StartUp α).outcome = .error (.exit Privileges.exitFailure) := rfl

@[simp] theorem outcome_request (r : Request) : (request r).outcome = .ok () := rfl

@[simp] theorem outcome_attach (uri : String) (target : Target) :
    (attach uri target).outcome = .ok () := rfl

@[simp] theorem outcome_deref_some (a : α) : (deref (some a)).outcome = .ok a := rfl

@[simp] theorem outcome_deref_none : (deref (none : Option α)).outcome = .error .nullDereference :=
  rfl

@[simp] theorem output_read (config : Handle) : (read convert config key).output = [] := by
  unfold read attempt
  split <;> rfl

@[simp] theorem output_index (config : Handle) : (index config key).output = [] := by
  unfold index attempt
  split <;> rfl

theorem alike_read {f : α → StartUp β} (found : node.get convert key = some a) :
    Alike (read convert (.valid node) key >>= f) (f a) :=
  alike_bind (outcome_read found) (output_read _)

theorem alike_index {f : Handle → StartUp β} (takes : node.isMap = true) (key : String) :
    Alike (index (.valid node) key >>= f) (f ((node.find? key).elim (.zombie key) .valid)) :=
  alike_bind (outcome_index takes key) (output_index _)

@[simp] theorem output_warning (message : String) :
    (warning message).output = [.syslog .warning message] := rfl

@[simp] theorem output_failure (message : String) :
    (failure message : StartUp α).output = [.syslog .err message] := rfl

@[simp] theorem output_request (r : Request) : (request r).output = [] := rfl

@[simp] theorem output_attach (uri : String) (target : Target) :
    (attach uri target).output = [.attach uri target] := rfl

@[simp] theorem output_deref (pointer : Option α) : (deref pointer).output = [] := by
  cases pointer <;> rfl

end Steps

def Event.IsLog : Event → Prop
  | syslog _ _ => True
  | attach _ _ => False

section Logs
variable {P : Event → Prop}

theorem emits_silent {p : StartUp α} (silent : p.output = []) : Emits P p := by
  rw [Emits, silent]
  exact nofun

theorem emits_warning (message : String) : Emits Event.IsLog (warning message) := by
  rintro event ⟨⟩
  · trivial
  · contradiction

theorem emits_read {f : α → StartUp β} (rest : ∀ a, Emits P (f a)) :
    Emits P (read convert config key >>= f) :=
  emits_bind (emits_silent (output_read _)) fun a _ => rest a

theorem emits_index {f : Handle → StartUp α} (rest : ∀ handle, Emits P (f handle)) :
    Emits P (index config key >>= f) :=
  emits_bind (emits_silent (output_index _)) fun handle _ => rest handle

/-- Creating a provider attaches no path. -/
theorem createProvider_logs [ScalarInterface] (config : Handle) :
    Emits Event.IsLog (createProvider config) := by
  have symbols : ∀ handle : Handle, Emits Event.IsLog (createSymbolMap handle) := by
    intro handle
    refine loop_emits (fun map entry _ => ?_) _
    apply emits_read
    intro symbol
    apply emits_read
    intro key
    split
    · exact emits_bind (emits_warning _) fun _ _ => emits_pure _
    · exact emits_pure _
  apply emits_read
  intro type
  split
  · refine emits_bind ?_ fun _ _ => emits_pure _
    apply emits_read
    intro match_
    apply emits_index
    intro handle
    exact emits_bind (symbols handle) fun _ _ => emits_pure _
  · exact emits_pure _

end Logs

section Unstoppable
variable [ScalarInterface] {node : Node}

theorem createSymbolMap_ok {config : Handle}
    (accepted : ∀ x ∈ config.items, (record symbolMapFields).accepts x = true) :
    ∃ map, (createSymbolMap config).outcome = .ok map := by
  refine loop_finishes (fun map entry member => ?_) _
  obtain ⟨symbol, hs, -⟩ := get_string (accepted entry member)
    (show mandatory "symbol" (string []) ∈ symbolMapFields by simp [symbolMapFields]) rfl
  obtain ⟨key, hk, -⟩ := get_string (accepted entry member)
    (show mandatory "key" (string []) ∈ symbolMapFields by simp [symbolMapFields]) rfl
  simp only [addSymbol, outcome_bind, outcome_read hs, outcome_read hk, ok_bind]
  split <;> simp

theorem createPJSIPWizardProvider_ok
    (accepted : (record (base ++ pjsipWizardCfgFields)).accepts node = true) :
    ∃ provider, (createPJSIPWizardProvider (.valid node)).outcome = .ok provider := by
  obtain ⟨match_, hm, -⟩ := get_string accepted
    (show mandatory "match" (string []) ∈ base ++ pjsipWizardCfgFields by
      simp [pjsipWizardCfgFields]) rfl
  have symbols := items_accepted accepted
    (show optional "symbol_maps" (list (record symbolMapFields)) ∈ base ++ pjsipWizardCfgFields by
      simp [pjsipWizardCfgFields])
  rw [← elim_items] at symbols
  obtain ⟨map, created⟩ := createSymbolMap_ok symbols
  exact ⟨⟨match_, map⟩, by
    simp [createPJSIPWizardProvider, outcome_read hm,
      outcome_index (record_accepts.mp accepted).1, created]⟩

/-- The type of a provider is one of the options, so no provider is null. -/
theorem createProvider_ok (accepted : (derived base adapterVariants).accepts node = true) :
    ∃ provider, (createProvider (.valid node)).outcome = .ok (some provider) := by
  obtain ⟨type, fields, named, found, here⟩ := derived_accepts accepted
  obtain ⟨rfl, rfl⟩ := adapterVariants_lookup.mp found
  obtain ⟨provider, created⟩ := createPJSIPWizardProvider_ok here
  exact ⟨provider, by simp [createProvider, outcome_read named, created]⟩

theorem configureSyslog_ok (accepted : (record syslogFields).accepts node = true)
    (isDaemon : Bool) :
    ∃ options, (configureSyslog (.valid node) isDaemon).outcome = .ok options := by
  obtain ⟨console, hc⟩ := get_bool accepted
    (show defaulted "console" Schema.bool "false" ∈ syslogFields by simp [syslogFields]) rfl
  obtain ⟨level, hl, -⟩ := get_string accepted
    (show defaulted "level"
      (string ["EMERG", "ALERT", "CRIT", "ERR", "WARNING", "NOTICE", "INFO", "DEBUG"]) "ERR" ∈
      syslogFields by simp [syslogFields]) rfl
  cases isDaemon
  · exact ⟨⟨console, toLogLevel level⟩, by simp [configureSyslog, outcome_read hc, outcome_read hl]⟩
  · exact ⟨⟨false, toLogLevel level⟩, by simp [configureSyslog, outcome_read hl]⟩

theorem createDeskphoneCache_ok (accepted : (record databaseFields).accepts node = true) :
    (createDeskphoneCache (.valid node)).outcome = .ok () := by
  obtain ⟨filename, hf, -⟩ := get_string accepted
    (show mandatory "filename" (string []) ∈ databaseFields by simp [databaseFields]) rfl
  obtain ⟨expiry, he⟩ := get_uint32 accepted
    (show defaulted "expiry" unsignedInt "120" ∈ databaseFields by simp [databaseFields]) rfl
  obtain ⟨paths, hp, here⟩ := value_accepted accepted
    (show group "http_paths" databaseHttpPathsFields ∈ databaseFields by simp [databaseFields]) rfl
  obtain ⟨expirePath, hx, -⟩ := get_string here
    (show defaulted "expire_path" (string []) "" ∈ databaseHttpPathsFields by
      simp [databaseHttpPathsFields]) rfl
  simp only [createDeskphoneCache, createCache, outcome_bind, outcome_read hf, outcome_read he,
    ok_bind, outcome_request, outcome_index (record_accepts.mp accepted).1, hp, Option.elim_some,
    outcome_read hx]
  split <;> simp

end Unstoppable
end LampMonitor.Config
