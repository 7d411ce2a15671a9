import Mathlib.Init

/-! Configuration trees as yaml-cpp hands them to the readers. A missing key is no
error by itself: it gives a node that fails on the first conversion or lookup.
What a scalar text means as a number or a flag is left to an interface. -/
namespace LampMonitor.Config

inductive Node where
  | null
  | scalar (text : String)
  | sequence (elements : List Node)
  | map (entries : List (String × Node))

class ScalarInterface where
  /-- The number of an unsigned literal, before its width is checked. -/
  natural : String → Option Nat
  boolean : String → Option Bool
  /-- The string a null converts to, where it converts at all. -/
  nullText : Option String
  natural_decimal : ∀ n : Nat, natural n.repr = some n
  boolean_false : boolean "false" = some false

/-- Decimal numbers, and flags spelled out. -/
abbrev decimalScalars : ScalarInterface where
  natural text :=
    if text.toList ≠ [] ∧ text.toList.all Char.isDigit = true then some (Nat.ofDigitChars 10 text.toList 0) else none
  boolean text := if text = "true" then some true else if text = "false" then some false else none
  nullText := some "null"
  natural_decimal n := by
    have digits : (Nat.toDigits 10 n).all Char.isDigit = true :=
      List.all_eq_true.mpr fun _ h => Nat.isDigit_of_mem_toDigits (by decide) (by decide) h
    simp only [Nat.toList_repr, ne_eq, Nat.toDigits_ne_nil, not_false_eq_true, digits, and_self,
      if_true, Nat.ofDigitChars_ten_toDigits]
  boolean_false := rfl

namespace Node

def find? (key : String) : Node → Option Node
  | map entries => (entries.find? fun entry => entry.1 = key).map (·.2)
  | _ => none

def isMap : Node → Bool
  | map _ => true
  | _ => false

/-- The nodes of a range-based loop; those of a map have no value of their own. -/
def items : Node → List Node
  | sequence elements => elements
  | map entries => entries.map fun _ => null
  | _ => []

/-- `node[key] = value`, for the nodes that can take a key. -/
def set (node : Node) (key : String) (value : Node) : Node :=
  match node with
  | null => map [(key, value)]
  | map entries =>
    if entries.any (fun entry => entry.1 = key) then
      map (entries.map fun entry => if entry.1 = key then (key, value) else entry)
    else map (entries ++ [(key, value)])
  | node => node

section Conversions
variable [ScalarInterface]

def asString : Node → Option String
  | scalar text => some text
  | null => ScalarInterface.nullText
  | _ => none

def asNatural : Node → Option Nat
  | scalar text => ScalarInterface.natural text
  | _ => none

def asUInt16 (node : Node) : Option UInt16 :=
  node.asNatural.bind fun n => if n < UInt16.size then some (UInt16.ofNat n) else none

def asUInt32 (node : Node) : Option UInt32 :=
  node.asNatural.bind fun n => if n < UInt32.size then some (UInt32.ofNat n) else none

def asBool : Node → Option Bool
  | scalar text => ScalarInterface.boolean text
  | _ => none

end Conversions

/-- The value at a key, where it is there and converts. -/
def get (as : Node → Option α) (node : Node) (key : String) : Option α := (node.find? key).bind as

theorem get_eq_some {node : Node} : node.get as key = some a ↔
    ∃ value, node.find? key = some value ∧ as value = some a :=
  Option.bind_eq_some_iff

theorem find?_set_self {node : Node} (takes : node.isMap = true) (key : String) (value : Node) :
    (node.set key value).find? key = some value := by
  cases node with
  | map entries =>
    simp only [set]
    split
    · rename_i here
      induction entries with
      | nil => simp at here
      | cons entry rest ih =>
        by_cases first : entry.1 = key
        · simp [find?, first]
        · have later : rest.any (fun entry => entry.1 = key) = true := by simpa [first] using here
          simpa [find?, first] using ih rfl later
    · rename_i missing
      have absent : entries.find? (fun entry => entry.1 = key) = none := by
        rw [List.find?_eq_none]
        exact fun entry member same => missing (List.any_eq_true.mpr ⟨entry, member, same⟩)
      simp [find?, absent]
  | null => cases takes
  | scalar text => cases takes
  | sequence elements => cases takes

theorem find?_set_other (node : Node) {key other : String} (value : Node)
    (different : other ≠ key) :
    (node.set key value).find? other = node.find? other := by
  cases node with
  | map entries =>
    simp only [set]
    split
    · rename_i here
      clear here
      simp only [find?, List.find?_map, Option.map_map]
      induction entries with
      | nil => rfl
      | cons entry rest ih =>
        by_cases first : entry.1 = key
        · simp only [List.find?_cons, Function.comp_apply, first, if_true, different.symm,
            decide_false]
          exact ih
        · by_cases found : entry.1 = other
          · simp [found, different]
          · simp only [List.find?_cons, Function.comp_apply, first, if_false, found, decide_false]
            exact ih
    · simp [find?, List.find?_append, different.symm]
  | null => simp [set, find?, different.symm]
  | scalar text => rfl
  | sequence elements => rfl

end Node

inductive YamlException where
  | invalidNode (firstInvalidKey : String)
  | badConversion
  | badSubscript (key : String)
  deriving DecidableEq, Repr

/-- A `YAML::Node`; the second kind is what a missing key gives. -/
inductive Handle where
  | valid (node : Node)
  | zombie (firstInvalidKey : String)

namespace Handle

def index : Handle → String → Except YamlException Handle
  | zombie first, _ => .error (.invalidNode first)
  | valid (.scalar _), key => .error (.badSubscript key)
  | valid node, key => .ok ((node.find? key).elim (zombie key) valid)

def as (convert : Node → Option α) : Handle → Except YamlException α
  | zombie first => .error (.invalidNode first)
  | valid node => (convert node).elim (.error .badConversion) .ok

/-- `config[key].as<T>()` -/
def read (convert : Node → Option α) (config : Handle) (key : String) : Except YamlException α := do
  (← config.index key).as convert

def items : Handle → List Node
  | valid node => node.items
  | zombie _ => []

end Handle

/-- A typed read succeeds exactly where the key is there and its value converts. -/
theorem read_eq_ok {node : Node} {convert : Node → Option α} :
    (Handle.valid node).read convert key = .ok a ↔ node.get convert key = some a := by
  have lookup : ∀ {m : Node}, (∀ text, m ≠ .scalar text) →
      (Handle.valid m).index key = .ok ((m.find? key).elim (.zombie key) .valid) := by
    intro m other
    cases m with
    | scalar text => exact absurd rfl (other text)
    | null => rfl
    | sequence elements => rfl
    | map entries => rfl
  by_cases text : ∃ text, node = .scalar text
  · obtain ⟨text, rfl⟩ := text
    simp [Handle.read, Handle.index, Node.get, Node.find?, bind, Except.bind]
  · simp only [Handle.read, lookup (fun t h => text ⟨t, h⟩), bind, Except.bind, Node.get]
    cases node.find? key with
    | none => simp [Handle.as]
    | some value => cases converted : convert value <;> simp [Handle.as, converted]

end LampMonitor.Config
