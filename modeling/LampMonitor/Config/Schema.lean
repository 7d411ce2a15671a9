import LampMonitor.Config.Yaml

/-! The schema files and what applying them to a configuration file does: absent
keys with a default are filled in, then every key must be there and convert. A
key that no schema names is ignored. -/
namespace LampMonitor.Config

/-- One node's schema: what is filled in, and what is accepted afterwards. -/
structure Schema where
  fill : Node → Node
  accepts : Node → Bool

/-- `_mandatory` and `_default`. -/
inductive Presence where
  | mandatory
  | optional
  | default (value : Node)

def Presence.required : Presence → Bool
  | .optional => false
  | _ => true

structure Field where
  key : String
  presence : Presence
  value : Schema

namespace Field

def fill (field : Field) (node : Node) : Node :=
  match node.find? field.key, field.presence with
  | some value, _ => node.set field.key (field.value.fill value)
  | none, .default value => node.set field.key (field.value.fill value)
  | none, _ => node

def accepts (field : Field) (node : Node) : Bool :=
  match node.find? field.key with
  | some value => field.value.accepts value
  | none => !field.presence.required

end Field

namespace Schema

def record (fields : List Field) : Schema where
  fill node := fields.foldl (fun node field => field.fill node) node
  accepts node := node.isMap && fields.all (·.accepts node)

def list (item : Schema) : Schema where
  fill
    | .sequence elements => .sequence (elements.map item.fill)
    | node => node
  accepts
    | .sequence elements => elements.all item.accepts
    | _ => false

variable [ScalarInterface]

/-- `_type: string` with its `_options`; no options admit every string. -/
def string (options : List String) : Schema where
  fill := id
  accepts node := node.asString.any fun text => options.isEmpty || options.contains text

def unsignedInt : Schema where
  fill := id
  accepts node := node.asUInt32.isSome

def bool : Schema where
  fill := id
  accepts node := node.asBool.isSome

/-- The fields that the value of `type` adds. -/
def variant (variants : List (String × List Field)) (node : Node) : Option (List Field) :=
  (node.get Node.asString "type").bind fun type => variants.lookup type

/-- `_type: derived`, with the schemas of the folder of its `_base`. -/
def derived (base : List Field) (variants : List (String × List Field)) : Schema where
  fill node := (record (base ++ (variant variants node).getD [])).fill node
  accepts node := (variant variants node).any fun fields => (record (base ++ fields)).accepts node

end Schema

section Files
open Schema
variable [ScalarInterface]

def mandatory (key : String) (value : Schema) : Field := ⟨key, .mandatory, value⟩

def optional (key : String) (value : Schema) : Field := ⟨key, .optional, value⟩

def defaulted (key : String) (value : Schema) (text : String) : Field := ⟨key, .default (.scalar text), value⟩

/-- A group of keys without a `_type` of its own. -/
def group (key : String) (fields : List Field) : Field := ⟨key, .default (.map []), record fields⟩

def symbolMapFields : List Field := [mandatory "symbol" (string []), mandatory "key" (string [])]

def namedProviderFields : List Field :=
  [mandatory "type" (string ["pjsip_wizard_cfg"]), mandatory "name" (string [])]

def providerFields : List Field := [mandatory "type" (string ["pjsip_wizard_cfg"])]

def pjsipWizardCfgFields : List Field :=
  [mandatory "match" (string []), optional "symbol_maps" (list (record symbolMapFields))]

def adapterVariants : List (String × List Field) := [("pjsip_wizard_cfg", pjsipWizardCfgFields)]

def buttonPlanButtonFields : List Field :=
  [mandatory "type" (string ["night_button", "park_button"]), mandatory "id" unsignedInt,
   defaulted "label" (string []) "", defaulted "color" (string ["red", "green", "blue"]) "red",
   defaulted "critical_on" bool "false", defaulted "critical_off" bool "false",
   defaulted "flash" (string ["off", "slow", "fast"]) "off"]

def nightButtonFields : List Field := [mandatory "hint" (string [])]

def parkButtonFields : List Field := [mandatory "parking_lot" (string [])]

def buttonVariants : List (String × List Field) :=
  [("night_button", nightButtonFields), ("park_button", parkButtonFields)]

def buttonPlanFields : List Field :=
  [mandatory "name" (string []), mandatory "buttons" (list (derived buttonPlanButtonFields buttonVariants))]

def phoneConfigHttpPathFields : List Field :=
  [mandatory "type" (string ["http_night", "http_park", "http_state"])]

def httpNightFields : List Field := [mandatory "button_id" unsignedInt, mandatory "path" (string [])]

def httpParkFields : List Field :=
  [mandatory "button_id" unsignedInt, mandatory "park_list_path" (string []), mandatory "park_info_path" (string [])]

def httpStateFields : List Field := [mandatory "path" (string [])]

def httpPathVariants : List (String × List Field) :=
  [("http_night", httpNightFields), ("http_park", httpParkFields), ("http_state", httpStateFields)]

def phoneConfigFields : List Field :=
  [mandatory "name" (string []), mandatory "type" (string ["yealink"]), mandatory "button_plan" (string []),
   mandatory "provider" (derived providerFields adapterVariants),
   optional "http_paths" (list (derived phoneConfigHttpPathFields httpPathVariants))]

def phonebookHttpPathFields : List Field :=
  [mandatory "path" (string []), mandatory "provider" (string []),
   defaulted "type" (string ["snom", "yealink"]) "yealink", defaulted "expiry" unsignedInt "60"]

def syslogFields : List Field :=
  [defaulted "level" (string ["EMERG", "ALERT", "CRIT", "ERR", "WARNING", "NOTICE", "INFO", "DEBUG"]) "ERR",
   defaulted "console" bool "false"]

def httpFields : List Field :=
  [defaulted "addr" (string []) "0.0.0.0", defaulted "port" unsignedInt "80", mandatory "url" (string [])]

def amiFields : List Field :=
  [defaulted "host" (string []) "127.0.0.1", defaulted "port" unsignedInt "5038", mandatory "username" (string []),
   mandatory "secret" (string [])]

def databaseHttpPathsFields : List Field := [defaulted "expire_path" (string []) ""]

def databaseFields : List Field :=
  [mandatory "filename" (string []), defaulted "expiry" unsignedInt "120", group "http_paths" databaseHttpPathsFields]

def phonebooksFields : List Field :=
  [mandatory "providers" (list (derived namedProviderFields adapterVariants)),
   mandatory "http_paths" (list (record phonebookHttpPathFields))]

def configFields : List Field :=
  [group "syslog" syslogFields, group "http" httpFields, group "ami" amiFields, group "database" databaseFields,
   group "phonebooks" phonebooksFields, mandatory "button_plans" (list (record buttonPlanFields)),
   mandatory "phones" (list (record phoneConfigFields))]

def configSchema : Schema := record configFields

/-- The field lists of all the files. -/
def files : List (List Field) :=
  [symbolMapFields, namedProviderFields, providerFields, pjsipWizardCfgFields, buttonPlanButtonFields,
   nightButtonFields, parkButtonFields, buttonPlanFields, phoneConfigHttpPathFields, httpNightFields, httpParkFields,
   httpStateFields, phoneConfigFields, phonebookHttpPathFields, syslogFields, httpFields, amiFields,
   databaseHttpPathsFields, databaseFields, phonebooksFields, configFields]

/-- The configuration the readers get; without one the process exits with the log of the schema server. -/
def loadConfigFile (file : Node) : Option Node :=
  if configSchema.accepts (configSchema.fill file) then some (configSchema.fill file) else none

end Files

section Accepted
open Schema
variable {fields : List Field} {node : Node}

theorem record_accepts : (record fields).accepts node = true ↔
    node.isMap = true ∧ ∀ field ∈ fields, field.accepts node = true := by
  simp [record]

theorem Field.accepts_iff {field : Field} : field.accepts node = true ↔
    (∀ value, node.find? field.key = some value → field.value.accepts value = true) ∧
      (field.presence.required = true → (node.find? field.key).isSome) := by
  cases found : node.find? field.key <;> simp [Field.accepts, found]

/-- The nodes below a list-valued key, none where the key is missing. -/
def Node.itemsAt (node : Node) (key : String) : List Node := ((node.find? key).map Node.items).getD []

theorem items_accepted {item : Schema} (accepted : (record fields).accepts node = true)
    (member : ⟨key, presence, list item⟩ ∈ fields) :
    ∀ x ∈ node.itemsAt key, item.accepts x = true := by
  have here := (Field.accepts_iff.mp ((record_accepts.mp accepted).2 _ member)).1
  intro x listed
  cases found : node.find? key with
  | none => simp [Node.itemsAt, found] at listed
  | some value =>
    have all := here value found
    cases value with
    | sequence elements =>
      have listed : x ∈ elements := by simpa [Node.itemsAt, found, Node.items] using listed
      exact List.all_eq_true.mp all x listed
    | map entries => cases all
    | null => cases all
    | scalar text => cases all

theorem value_accepted (accepted : (record fields).accepts node = true)
    (member : ⟨key, presence, value⟩ ∈ fields) (required : presence.required = true) :
    ∃ v, node.find? key = some v ∧ value.accepts v = true := by
  obtain ⟨here, present⟩ := Field.accepts_iff.mp ((record_accepts.mp accepted).2 _ member)
  obtain ⟨v, found⟩ := Option.isSome_iff_exists.mp (present required)
  exact ⟨v, found, here v found⟩

def Field.DefaultAccepted (field : Field) : Prop :=
  ∀ text, field.presence = .default (.scalar text) → field.value.accepts (.scalar text) = true

theorem mandatory_default (key : String) (value : Schema) : (mandatory key value).DefaultAccepted :=
  nofun

theorem optional_default (key : String) (value : Schema) : (optional key value).DefaultAccepted :=
  nofun

theorem group_default (key : String) (fields : List Field) : (group key fields).DefaultAccepted :=
  nofun

theorem defaulted_default {value : Schema} {text : String} (key : String)
    (accepted : value.accepts (.scalar text) = true) :
    (defaulted key value text).DefaultAccepted := by
  rintro _ ⟨⟩
  exact accepted

theorem lookup_cons_some {k k' : String} {v v' : β} {rest : List (String × β)} :
    ((k', v') :: rest).lookup k = some v ↔ k = k' ∧ v = v' ∨ k ≠ k' ∧ rest.lookup k = some v := by
  by_cases same : k = k'
  · simp [same, eq_comm]
  · have different : (k == k') = false := beq_eq_false_iff_ne.mpr same
    simp [List.lookup_cons, different, same]

variable [ScalarInterface]

theorem get_string (accepted : (record fields).accepts node = true)
    (member : ⟨key, presence, string options⟩ ∈ fields) (required : presence.required = true) :
    ∃ text, node.get Node.asString key = some text ∧ (options = [] ∨ text ∈ options) := by
  obtain ⟨v, found, here⟩ := value_accepted accepted member required
  obtain ⟨text, converts, option⟩ := (Option.any_eq_true _ _).mp here
  exact ⟨text, Node.get_eq_some.mpr ⟨v, found, converts⟩, by simpa using option⟩

theorem get_uint32 (accepted : (record fields).accepts node = true)
    (member : ⟨key, presence, unsignedInt⟩ ∈ fields) (required : presence.required = true) :
    ∃ n, node.get Node.asUInt32 key = some n := by
  obtain ⟨v, found, here⟩ := value_accepted accepted member required
  obtain ⟨n, converts⟩ := Option.isSome_iff_exists.mp here
  exact ⟨n, Node.get_eq_some.mpr ⟨v, found, converts⟩⟩

theorem get_bool (accepted : (record fields).accepts node = true)
    (member : ⟨key, presence, Schema.bool⟩ ∈ fields) (required : presence.required = true) :
    ∃ b, node.get Node.asBool key = some b := by
  obtain ⟨v, found, here⟩ := value_accepted accepted member required
  obtain ⟨b, converts⟩ := Option.isSome_iff_exists.mp here
  exact ⟨b, Node.get_eq_some.mpr ⟨v, found, converts⟩⟩

theorem derived_accepts {base : List Field} {variants : List (String × List Field)}
    (accepted : (derived base variants).accepts node = true) :
    ∃ type fields, node.get Node.asString "type" = some type ∧ variants.lookup type = some fields ∧
      (record (base ++ fields)).accepts node = true := by
  obtain ⟨fields, chosen, here⟩ := (Option.any_eq_true _ _).mp accepted
  obtain ⟨type, named, found⟩ := Option.bind_eq_some_iff.mp chosen
  exact ⟨type, fields, named, found, here⟩

theorem adapterVariants_lookup : adapterVariants.lookup type = some fields ↔
    type = "pjsip_wizard_cfg" ∧ fields = pjsipWizardCfgFields := by
  simp [adapterVariants, lookup_cons_some]

theorem buttonVariants_lookup : buttonVariants.lookup type = some fields ↔
    type = "night_button" ∧ fields = nightButtonFields ∨
    type = "park_button" ∧ fields = parkButtonFields := by
  simp only [buttonVariants, lookup_cons_some, List.lookup_nil, reduceCtorEq, and_false, or_false]
  grind

theorem httpPathVariants_lookup : httpPathVariants.lookup type = some fields ↔
    type = "http_night" ∧ fields = httpNightFields ∨ type = "http_park" ∧ fields = httpParkFields ∨
      type = "http_state" ∧ fields = httpStateFields := by
  simp only [httpPathVariants, lookup_cons_some, List.lookup_nil, reduceCtorEq, and_false, or_false]
  grind

theorem string_default (key : String) (option : options = [] ∨ text ∈ options) :
    (defaulted key (string options) text).DefaultAccepted :=
  defaulted_default key (by simpa [Schema.string, Node.asString] using option)

theorem unsignedInt_default (key : String) (n : Nat) (literal : n.repr = text)
    (fits : n < UInt32.size) :
    (defaulted key unsignedInt text).DefaultAccepted := by
  subst literal
  exact defaulted_default key
    (by simp [unsignedInt, Node.asUInt32, Node.asNatural, ScalarInterface.natural_decimal, fits])

theorem bool_default (key : String) : (defaulted key Schema.bool "false").DefaultAccepted :=
  defaulted_default key (by simp [Schema.bool, Node.asBool, ScalarInterface.boolean_false])

/-- No default is rejected by its own field. -/
theorem default_accepted : ∀ fields ∈ files, ∀ field ∈ fields, field.DefaultAccepted := by
  intro fields file
  simp only [files, List.mem_cons, List.not_mem_nil, or_false] at file
  have port : (defaulted "port" unsignedInt "80").DefaultAccepted :=
    unsignedInt_default "port" 80 rfl (by decide)
  have amiPort : (defaulted "port" unsignedInt "5038").DefaultAccepted :=
    unsignedInt_default "port" 5038 rfl (by decide)
  have expiry : (defaulted "expiry" unsignedInt "120").DefaultAccepted :=
    unsignedInt_default "expiry" 120 rfl (by decide)
  have refresh : (defaulted "expiry" unsignedInt "60").DefaultAccepted :=
    unsignedInt_default "expiry" 60 rfl (by decide)
  rcases file with
    rfl | rfl | rfl | rfl | rfl | rfl | rfl | rfl | rfl | rfl | rfl | rfl | rfl | rfl | rfl | rfl | rfl |
    rfl | rfl | rfl | rfl
  all_goals
    simp [symbolMapFields, namedProviderFields, providerFields, pjsipWizardCfgFields,
      buttonPlanButtonFields, nightButtonFields, parkButtonFields, buttonPlanFields,
      phoneConfigHttpPathFields, httpNightFields, httpParkFields, httpStateFields,
      phoneConfigFields, phonebookHttpPathFields, syslogFields, httpFields, amiFields,
      databaseHttpPathsFields, databaseFields, phonebooksFields, configFields, mandatory_default,
      optional_default, group_default, string_default, bool_default, port, amiPort, expiry, refresh]

end Accepted

section Filled
variable {node : Node}

/-- What a field finds after the filling. -/
def Field.filled (field : Field) (node : Node) : Option Node :=
  match node.find? field.key, field.presence with
  | some value, _ => some (field.value.fill value)
  | none, .default value => some (field.value.fill value)
  | none, _ => none

theorem Field.find?_fill_self (takes : node.isMap = true) (field : Field) :
    (field.fill node).find? field.key = field.filled node := by
  cases found : node.find? field.key with
  | some value => simp [Field.fill, Field.filled, found, Node.find?_set_self takes]
  | none =>
    cases given : field.presence <;>
    simp [Field.fill, Field.filled, found, given, Node.find?_set_self takes]

theorem Field.find?_fill_other {key : String} (field : Field)
    (node : Node) (different : key ≠ field.key) :
    (field.fill node).find? key = node.find? key := by
  unfold Field.fill
  split
  · exact Node.find?_set_other node _ different
  · exact Node.find?_set_other node _ different
  · rfl

theorem Field.isMap_fill (takes : node.isMap = true) (field : Field) :
    (field.fill node).isMap = true := by
  have kept : ∀ value, (node.set field.key value).isMap = true := by
    intro value
    cases node with
    | map entries =>
      simp only [Node.set]
      split <;> rfl
    | null => cases takes
    | scalar text => cases takes
    | sequence elements => cases takes
  unfold Field.fill
  split
  · exact kept _
  · exact kept _
  · exact takes

theorem record_isMap_fill (takes : node.isMap = true) (fields : List Field) :
    ((Schema.record fields).fill node).isMap = true := by
  simp only [Schema.record]
  induction fields generalizing node with
  | nil => exact takes
  | cons field rest ih => exact ih (field.isMap_fill takes)

theorem record_find?_other (absent : key ∉ fields.map Field.key) (node : Node) :
    ((Schema.record fields).fill node).find? key = node.find? key := by
  simp only [Schema.record]
  induction fields generalizing node with
  | nil => rfl
  | cons field rest ih =>
    obtain ⟨here, later⟩ := not_or.mp (mt List.mem_cons.mpr absent)
    rw [List.foldl_cons, ih later, field.find?_fill_other node here]

/-- Filling in one key leaves the others as they are, so each field sees the file's own value or its default. -/
theorem record_find?_fill (takes : node.isMap = true) (distinct : (fields.map Field.key).Nodup)
    (member : field ∈ fields) :
      ((Schema.record fields).fill node).find? field.key = field.filled node := by
  induction fields generalizing node with
  | nil => cases member
  | cons first rest ih =>
    obtain ⟨absent, others⟩ := List.nodup_cons.mp distinct
    have step : (Schema.record (first :: rest)).fill node =
        (Schema.record rest).fill (first.fill node) := rfl
    rw [step]
    rcases List.mem_cons.mp member with rfl | later
    · rw [record_find?_other absent, field.find?_fill_self takes]
    · have different : field.key ≠ first.key :=
        fun same => absent (same ▸ List.mem_map_of_mem later)
      rw [ih (first.isMap_fill takes) others later]
      simp only [Field.filled, first.find?_fill_other node different]

/-- A record is rejected for a value it has or a mandatory key it lacks. -/
theorem record_accepts_fill (takes : node.isMap = true) (distinct : (fields.map Field.key).Nodup) :
    (Schema.record fields).accepts ((Schema.record fields).fill node) = true ↔
      ∀ field ∈ fields,
        (∀ value, field.filled node = some value → field.value.accepts value = true) ∧
        (field.presence = .mandatory → (node.find? field.key).isSome) := by
  rw [record_accepts]
  simp only [record_isMap_fill takes, true_and, Field.accepts_iff]
  refine forall₂_congr fun field member => ?_
  rw [record_find?_fill takes distinct member]
  refine and_congr_right fun _ => ?_
  cases found : node.find? field.key <;> cases given : field.presence <;>
    simp [Field.filled, found, given, Presence.required]

end Filled
end LampMonitor.Config
