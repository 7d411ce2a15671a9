import LampMonitor.KeyedTable

/-! The expression matcher of the phonebooks. A compiled expression reads its
string variables by reference, so what earlier documents left behind stays in
the string table, in the symbol table and in the validity flag. exprtk is an
interface: it asks for unknown symbols in text order and evaluates a compiled
text from the contents of its variables alone. -/
namespace LampMonitor.Match

/-- A mapping from keys to scalar strings. -/
structure Document where
  entries : List (String × String)

def Document.get? (doc : Document) (key : String) : Option String :=
  (doc.entries.find? fun entry => entry.1 = key).map Prod.snd

structure SymbolMap where
  symbolMap : List (String × String)

namespace SymbolMap

/-- `emplace` keeps the first key of a symbol. -/
def create (config : List (String × String)) : SymbolMap where
  symbolMap := config.foldl (fun known (symbol, key) =>
    if known.any (·.1 = symbol) then known else known ++ [(symbol, key)]) []

def getSymbol (map : SymbolMap) (symbol : String) : String :=
  match map.symbolMap.find? (·.1 = symbol) with
  | some (_, key) => key
  | none => symbol

end SymbolMap

class ExpressionInterface where
  /-- The symbols of a text in the order in which the parser reaches them. -/
  symbols : String → List String
  /-- The text compiles once its symbols are known as strings. -/
  parses : String → Bool
  /-- Names are compared without regard to case. -/
  fold : String → String
  /-- What `add_constants` enters. -/
  constants : List String
  Number : Type
  /-- The value of a compiled text, from its variables by folded name. -/
  value : String → (String → Option String) → Number
  /-- `!= 0.0` -/
  nonzero : Number → Bool
  /-- The iteration order of an `unordered_map` with these keys. -/
  iterate : List String → List String
  iterate_perm : ∀ keys, (iterate keys).Perm keys

/-- A language with the single text `ec == 'yes'`. -/
abbrev singleExpression : ExpressionInterface where
  symbols _ := ["ec"]
  parses _ := true
  fold := id
  constants := ["pi"]
  Number := Bool
  value _ values := decide (values "ec" = some "yes")
  nonzero := id
  iterate := id
  iterate_perm _ := .refl _

open ExpressionInterface
variable [ExpressionInterface]

/-- The string variables entered so far, and what they refer to. -/
structure Tables where
  symbolTable : List String
  stringTable : KeyedTable String String

def Tables.hasStringvar (tables : Tables) (symbol : String) : Bool :=
  tables.symbolTable.any fun known => fold known = fold symbol

/-- The parser does not ask for this symbol. -/
def known (symbolTable : List String) (symbol : String) : Bool :=
  constants.any (fun name => fold name = fold symbol) || symbolTable.any (fun name => fold name = fold symbol)

/-- `JSONUnknownSymbolResolver::process` -/
def process (doc : Document) (map : SymbolMap) (symbol : String) (tables : Tables) : Option Tables :=
  (doc.get? (map.getSymbol symbol)).map fun text =>
    { stringTable := tables.stringTable.upsert symbol text
      symbolTable := if tables.hasStringvar symbol then tables.symbolTable else tables.symbolTable ++ [symbol] }

/-- The symbols the parser passes; it stops where the resolver refuses one. -/
def resolve (doc : Document) (map : SymbolMap) : List String → Tables → Tables × Bool
  | [], tables => (tables, true)
  | symbol :: rest, tables =>
    if known tables.symbolTable symbol then resolve doc map rest tables
    else match process doc map symbol tables with
      | none => (tables, false)
      | some extended => resolve doc map rest extended

structure JSONExpressionMatcher where
  match_ : String
  symbolMap : SymbolMap
  tables : Tables
  isValidAst : Bool

namespace JSONExpressionMatcher

omit [ExpressionInterface] in
def new (match_ : String) (symbolMap : SymbolMap) : JSONExpressionMatcher :=
  ⟨match_, symbolMap, ⟨[], .empty⟩, false⟩

/-- `parser.compile(match_, expression_)` -/
def parse (m : JSONExpressionMatcher) (doc : Document) : JSONExpressionMatcher × Bool :=
  let (tables, resolved) := resolve doc m.symbolMap (symbols m.match_) m.tables
  ({ m with tables := tables }, resolved && parses m.match_)

def setValid (m : JSONExpressionMatcher) (ok : Bool) : JSONExpressionMatcher := { m with isValidAst := ok }

/-- One iteration of the loop in `evaluate`. -/
def assign (m : JSONExpressionMatcher) (doc : Document) (symbol : String) : Option JSONExpressionMatcher :=
  (doc.get? (m.symbolMap.getSymbol symbol)).map fun text =>
    { m with tables.stringTable := m.tables.stringTable.upsert symbol text }

/-- `expression_.value() != 0.0` -/
def eval (m : JSONExpressionMatcher) : Bool :=
  nonzero (value m.match_ fun name =>
    (m.tables.symbolTable.find? fun symbol => fold symbol = name).bind m.tables.stringTable.find?)

def evaluateFrom (m : JSONExpressionMatcher) (doc : Document) : List String → JSONExpressionMatcher × Bool
  | [] => (m, m.eval)
  | symbol :: rest =>
    match m.assign doc symbol with
    | none => (m, false)
    | some assigned => evaluateFrom assigned doc rest

def evaluate (m : JSONExpressionMatcher) (doc : Document) : JSONExpressionMatcher × Bool :=
  m.evaluateFrom doc (iterate m.tables.stringTable.keys)

def compile (m : JSONExpressionMatcher) (doc : Document) : JSONExpressionMatcher × Bool :=
  let (parsed, ok) := m.parse doc
  if !ok then (parsed.setValid ok, false) else (parsed.setValid ok).evaluate doc

def isMatch (m : JSONExpressionMatcher) (doc : Document) : JSONExpressionMatcher × Bool :=
  if m.isValidAst then m.evaluate doc else m.compile doc

/-- The matcher once it has been applied to these documents. -/
def after (m : JSONExpressionMatcher) (docs : List Document) : JSONExpressionMatcher :=
  docs.foldl (fun m doc => (m.isMatch doc).1) m

end JSONExpressionMatcher

/-- The symbols that the parser still asks for when these are known. -/
def unresolved : List String → List String → List String
  | _, [] => []
  | symbolTable, symbol :: rest =>
    if known symbolTable symbol then unresolved symbolTable rest
    else symbol :: unresolved (symbolTable ++ [symbol]) rest

/-- The symbols a new matcher needs, in text order. -/
def referenced (match_ : String) : List String := unresolved [] (symbols match_)

/-- What a match means, without any state: the text compiles, the document has
every referenced key, and the expression holds of its values. -/
def accepts (match_ : String) (map : SymbolMap) (doc : Document) : Bool :=
  let lookup (symbol : String) : Option String := doc.get? (map.getSymbol symbol)
  parses match_ && (referenced match_).all (fun symbol => (lookup symbol).isSome) &&
    nonzero (value match_ fun name => ((referenced match_).find? fun symbol => fold symbol = name).bind lookup)

section Resolution

theorem known_mono (grows : ∀ symbol ∈ first, symbol ∈ second) (found : known first symbol = true) :
    known second symbol = true := by
  simp only [known, Bool.or_eq_true, List.any_eq_true] at found ⊢
  apply found.imp_right
  rintro ⟨name, member, same⟩
  exact ⟨name, grows name member, same⟩

theorem known_self (member : symbol ∈ symbolTable) : known symbolTable symbol = true := by
  simp only [known, Bool.or_eq_true, List.any_eq_true]
  exact .inr ⟨symbol, member, by simp⟩

/-- Entering the first of the missing symbols leaves exactly the others missing. -/
theorem unresolved_enter (split : unresolved symbolTable syms = entered ++ missing) :
    unresolved (symbolTable ++ entered) syms = missing := by
  induction syms generalizing symbolTable entered with
  | nil =>
    simp only [unresolved, List.nil_eq, List.append_eq_nil_iff] at split
    simp only [unresolved, split]
  | cons symbol rest ih =>
    by_cases here : known symbolTable symbol = true
    · simp only [unresolved, here, if_true] at split
      have there : known (symbolTable ++ entered) symbol = true :=
        known_mono (fun _ member => List.mem_append_left _ member) here
      simp only [unresolved, there, if_true]
      exact ih split
    · cases entered with
      | nil => simpa using split
      | cons first entered =>
        simp only [unresolved, here, Bool.false_eq_true, if_false, List.cons_append,
          List.cons.injEq] at split
        obtain ⟨rfl, split⟩ := split
        have there : known (symbolTable ++ symbol :: entered) symbol = true := known_self (by simp)
        simp only [unresolved, there, if_true]
        simpa using ih split

/-- A pass of the parser enters missing symbols in order until the document
lacks the key of one. -/
theorem resolve_spec (doc : Document) (map : SymbolMap) (syms : List String) {tables : Tables}
    (keys : tables.stringTable.keys = tables.symbolTable) :
    ∃ entered missing, unresolved tables.symbolTable syms = entered ++ missing ∧
      (resolve doc map syms tables).1.symbolTable = tables.symbolTable ++ entered ∧
      (resolve doc map syms tables).1.stringTable.keys = tables.symbolTable ++ entered ∧
      ((resolve doc map syms tables).2 = true → missing = []) ∧
      ((resolve doc map syms tables).2 = false →
        ∃ symbol ∈ missing, doc.get? (map.getSymbol symbol) = none) := by
  induction syms generalizing tables with
  | nil => exact ⟨[], [], by simp [unresolved, resolve, keys]⟩
  | cons symbol rest ih =>
    by_cases here : known tables.symbolTable symbol = true
    · simpa only [unresolved, resolve, here, if_true] using ih keys
    · simp only [unresolved, resolve, here, Bool.false_eq_true, if_false]
      cases text : doc.get? (map.getSymbol symbol) with
      | none =>
        exact ⟨[], _, rfl, by simp [process, text, keys]⟩
      | some text' =>
        have fresh : tables.hasStringvar symbol = false := by
          simp only [known, Bool.or_eq_true, not_or] at here
          simpa [Tables.hasStringvar] using here.2
        have absent : symbol ∉ tables.stringTable.keys :=
          fun member => here (known_self (keys ▸ member))
        have added : (tables.stringTable.upsert symbol text').keys =
            tables.symbolTable ++ [symbol] := by
          rw [KeyedTable.keys_upsert, if_neg absent, keys]
        obtain ⟨entered, missing, split, symbols, keys', complete, refused⟩ :=
          @ih ⟨tables.symbolTable ++ [symbol], tables.stringTable.upsert symbol text'⟩ added
        simp only [process, text, Option.map_some, fresh, Bool.false_eq_true, if_false]
        refine ⟨symbol :: entered, missing, by rw [split]; rfl, ?_, ?_, complete, refused⟩
        · simpa using symbols
        · simpa using keys'

end Resolution
end LampMonitor.Match
