import LampMonitor.Match.JsonExpressionMatcher

/-! A matcher that has been applied before answers like a new one. What survives
a document is a prefix of the referenced symbols with some text for each, and
the flag only once the prefix is complete; evaluation then overwrites every text
it reads. -/
namespace LampMonitor.Match.JSONExpressionMatcher
open ExpressionInterface
variable [ExpressionInterface]

/-- Only texts in the string table differ. -/
structure SameShape (m m' : JSONExpressionMatcher) : Prop where
  match_ : m'.match_ = m.match_
  symbolMap : m'.symbolMap = m.symbolMap
  isValidAst : m'.isValidAst = m.isValidAst
  symbolTable : m'.tables.symbolTable = m.tables.symbolTable
  keys : m'.tables.stringTable.keys = m.tables.stringTable.keys

omit [ExpressionInterface] in
theorem SameShape.trans (first : SameShape m m') (second : SameShape m' m'') : SameShape m m'' where
  match_ := second.match_.trans first.match_
  symbolMap := second.symbolMap.trans first.symbolMap
  isValidAst := second.isValidAst.trans first.isValidAst
  symbolTable := second.symbolTable.trans first.symbolTable
  keys := second.keys.trans first.keys

omit [ExpressionInterface] in
theorem assign_shape {m : JSONExpressionMatcher} (member : symbol ∈ m.tables.stringTable.keys)
    (assigned : m.assign doc symbol = some m') : SameShape m m' := by
  obtain ⟨text, _, rfl⟩ := Option.map_eq_some_iff.mp assigned
  exact ⟨rfl, rfl, rfl, rfl, by simp only [KeyedTable.keys_upsert, if_pos member]⟩

omit [ExpressionInterface] in
theorem assign_find? {m : JSONExpressionMatcher}
    (assigned : m.assign doc symbol = some m') (key : String) :
    m'.tables.stringTable.find? key =
      if key = symbol then doc.get? (m.symbolMap.getSymbol symbol)
      else m.tables.stringTable.find? key := by
  obtain ⟨text, found, rfl⟩ := Option.map_eq_some_iff.mp assigned
  simp only [KeyedTable.find?_upsert, found]

theorem evaluateFrom_shape {m : JSONExpressionMatcher}
    (inside : ∀ key ∈ keys, key ∈ m.tables.stringTable.keys) :
    SameShape m (m.evaluateFrom doc keys).1 := by
  induction keys generalizing m with
  | nil => exact ⟨rfl, rfl, rfl, rfl, rfl⟩
  | cons symbol rest ih =>
    simp only [evaluateFrom]
    cases assigned : m.assign doc symbol with
    | none => exact ⟨rfl, rfl, rfl, rfl, rfl⟩
    | some m' =>
      have shape := assign_shape (inside symbol List.mem_cons_self) assigned
      refine shape.trans (ih fun key member => ?_)
      rw [shape.keys]
      exact inside key (List.mem_cons_of_mem _ member)

/-- The loop gives up at a missing key and otherwise takes over every value. -/
theorem evaluateFrom_spec (m : JSONExpressionMatcher) (doc : Document) (keys : List String) :
    ((m.evaluateFrom doc keys).2 = true →
      ∀ key ∈ keys, (doc.get? (m.symbolMap.getSymbol key)).isSome) ∧
    ((∀ key ∈ keys, (doc.get? (m.symbolMap.getSymbol key)).isSome) →
      (m.evaluateFrom doc keys).2 = (m.evaluateFrom doc keys).1.eval ∧
      ∀ key, (m.evaluateFrom doc keys).1.tables.stringTable.find? key =
        if key ∈ keys then doc.get? (m.symbolMap.getSymbol key)
          else m.tables.stringTable.find? key) := by
  induction keys generalizing m with
  | nil => exact ⟨by simp, fun _ => ⟨rfl, by simp [evaluateFrom]⟩⟩
  | cons symbol rest ih =>
    simp only [evaluateFrom]
    cases assigned : m.assign doc symbol with
    | none =>
      have missing : doc.get? (m.symbolMap.getSymbol symbol) = none := by
        simpa [assign] using assigned
      refine ⟨by simp, fun present => ?_⟩
      have here := present symbol List.mem_cons_self
      rw [missing] at here
      contradiction
    | some m' =>
      have found : (doc.get? (m.symbolMap.getSymbol symbol)).isSome := by
        obtain ⟨text, found, _⟩ := Option.map_eq_some_iff.mp assigned
        rw [found]
        rfl
      have map : m'.symbolMap = m.symbolMap := by
        obtain ⟨text, _, rfl⟩ := Option.map_eq_some_iff.mp assigned
        rfl
      obtain ⟨complete, values⟩ := ih m'
      rw [map] at complete values
      constructor
      · intro holds key member
        rcases List.mem_cons.mp member with rfl | later
        · exact found
        · exact complete holds key later
      · intro present
        obtain ⟨result, each⟩ :=
          values fun key member => present key (List.mem_cons_of_mem _ member)
        refine ⟨result, fun key => ?_⟩
        rw [each, assign_find? assigned]
        by_cases last : key ∈ rest
        · simp [last]
        · by_cases same : key = symbol <;> simp [last, same]

/-- What earlier documents can leave behind. -/
structure Inv (m : JSONExpressionMatcher) : Prop where
  keys : m.tables.stringTable.keys = m.tables.symbolTable
  resolved : m.tables.symbolTable ++ unresolved m.tables.symbolTable (symbols m.match_) = referenced m.match_
  valid : m.isValidAst = true →
    unresolved m.tables.symbolTable (symbols m.match_) = [] ∧ parses m.match_ = true

theorem inv_new (match_ : String) (symbolMap : SymbolMap) : Inv (new match_ symbolMap) :=
  ⟨rfl, rfl, nofun⟩

theorem Inv.sameShape (held : Inv m) (shape : SameShape m m') : Inv m' where
  keys := by rw [shape.keys, shape.symbolTable, held.keys]
  resolved := by rw [shape.symbolTable, shape.match_, held.resolved]
  valid := by
    rw [shape.isValidAst, shape.symbolTable, shape.match_]
    exact held.valid

theorem evaluate_shape (m : JSONExpressionMatcher) (doc : Document) :
    SameShape m (m.evaluate doc).1 :=
  evaluateFrom_shape fun _ member => (iterate_perm _).mem_iff.mp member

/-- With every referenced symbol entered, only the document decides. -/
theorem evaluate_eq (held : Inv m)
    (complete : unresolved m.tables.symbolTable (symbols m.match_) = [])
    (parsed : parses m.match_ = true) (doc : Document) :
    (m.evaluate doc).2 = accepts m.match_ m.symbolMap doc := by
  have table : m.tables.symbolTable = referenced m.match_ := by
    rw [← held.resolved, complete, List.append_nil]
  have members : ∀ key, key ∈ iterate m.tables.stringTable.keys ↔ key ∈ referenced m.match_ := by
    intro key
    rw [(iterate_perm _).mem_iff, held.keys, table]
  obtain ⟨some_missing, values⟩ := evaluateFrom_spec m doc (iterate m.tables.stringTable.keys)
  have shape := evaluate_shape m doc
  by_cases present : ∀ key ∈ referenced m.match_, (doc.get? (m.symbolMap.getSymbol key)).isSome
  · obtain ⟨result, each⟩ := values fun key member => present key ((members key).mp member)
    have all : (referenced m.match_).all
        (fun key => (doc.get? (m.symbolMap.getSymbol key)).isSome) = true := by
      simpa using present
    rw [evaluate, result, accepts, parsed, all]
    simp only [evaluate] at shape
    simp only [eval, shape.match_, shape.symbolTable, table, Bool.true_and]
    refine congrArg _ (congrArg _ (funext fun name => ?_))
    cases found : (referenced m.match_).find? fun symbol => fold symbol = name with
    | none => rfl
    | some symbol =>
      rw [Option.bind_some, Option.bind_some, each, if_pos]
      exact (members symbol).mpr (List.mem_of_find?_eq_some found)
  · have rejected : (m.evaluate doc).2 = false := by
      by_contra holds
      refine present fun key member => some_missing ?_ key ((members key).mpr member)
      simpa [evaluate] using holds
    have none : (referenced m.match_).all
        (fun key => (doc.get? (m.symbolMap.getSymbol key)).isSome) = false := by
      simpa using present
    rw [rejected, accepts, parsed, none]
    rfl

theorem accepts_missing {match_ : String} (member : symbol ∈ referenced match_)
    (absent : doc.get? (map.getSymbol symbol) = none) : accepts match_ map doc = false := by
  have none : (referenced match_).all
      (fun key => (doc.get? (map.getSymbol key)).isSome) = false := by
    rw [List.all_eq_false]
    exact ⟨symbol, member, by simp [absent]⟩
  simp [accepts, none]

/-- A compilation leaves a matcher that may be asked again, and tells whether
every referenced symbol is now entered. -/
theorem inv_parse (held : Inv m) (doc : Document) :
    Inv ((m.parse doc).1.setValid (m.parse doc).2) ∧ (m.parse doc).1.match_ = m.match_ ∧
    (m.parse doc).1.symbolMap = m.symbolMap ∧
    ((m.parse doc).2 = false → accepts m.match_ m.symbolMap doc = false) := by
  obtain ⟨entered, missing, split, table, keys, complete, refused⟩ :=
    resolve_spec doc m.symbolMap (symbols m.match_) held.keys
  have rest := unresolved_enter split
  have referenced_eq : referenced m.match_ = m.tables.symbolTable ++ entered ++ missing := by
    rw [← held.resolved, split, List.append_assoc]
  refine ⟨⟨?_, ?_, ?_⟩, rfl, rfl, ?_⟩
  · exact keys.trans table.symm
  · simp only [parse, setValid, table, rest, referenced_eq]
  · intro ok
    simp only [parse, setValid, Bool.and_eq_true] at ok ⊢
    rw [table, rest]
    exact ⟨complete ok.1, ok.2⟩
  · intro failed
    simp only [parse, Bool.and_eq_false_iff] at failed
    rcases failed with refusal | syntaxError
    · obtain ⟨symbol, member, absent⟩ := refused refusal
      have inside : symbol ∈ referenced m.match_ := by
        rw [referenced_eq]
        exact List.mem_append_right _ member
      exact accepts_missing inside absent
    · simp [accepts, syntaxError]

theorem compile_eq (held : Inv m) (doc : Document) :
    (m.compile doc).2 = accepts m.match_ m.symbolMap doc ∧ Inv (m.compile doc).1 ∧
    (m.compile doc).1.match_ = m.match_ ∧ (m.compile doc).1.symbolMap = m.symbolMap := by
  obtain ⟨inv, text, map, rejects⟩ := inv_parse held doc
  simp only [compile]
  cases ok : (m.parse doc).2 with
  | false =>
    rw [ok] at inv
    exact ⟨(rejects ok).symm, inv, text, map⟩
  | true =>
    rw [ok] at inv
    obtain ⟨complete, parsed⟩ := inv.valid rfl
    have shape := evaluate_shape ((m.parse doc).1.setValid true) doc
    refine ⟨?_, inv.sameShape shape, shape.match_.trans text, shape.symbolMap.trans map⟩
    have result := evaluate_eq inv complete parsed doc
    rw [← text, ← map]
    exact result

theorem isMatch_eq (held : Inv m) (doc : Document) :
    (m.isMatch doc).2 = accepts m.match_ m.symbolMap doc ∧ Inv (m.isMatch doc).1 ∧
    (m.isMatch doc).1.match_ = m.match_ ∧ (m.isMatch doc).1.symbolMap = m.symbolMap := by
  simp only [isMatch]
  cases cached : m.isValidAst with
  | false => simpa using compile_eq held doc
  | true =>
    obtain ⟨complete, parsed⟩ := held.valid cached
    have shape := evaluate_shape m doc
    exact ⟨evaluate_eq held complete parsed doc, held.sameShape shape,
      shape.match_, shape.symbolMap⟩

theorem inv_after (held : Inv m) (docs : List Document) :
    Inv (m.after docs) ∧ (m.after docs).match_ = m.match_ ∧
    (m.after docs).symbolMap = m.symbolMap := by
  induction docs generalizing m with
  | nil => exact ⟨held, rfl, rfl⟩
  | cons doc docs ih =>
    obtain ⟨_, inv, text, map⟩ := isMatch_eq held doc
    obtain ⟨final, text', map'⟩ := ih inv
    exact ⟨final, text'.trans text, map'.trans map⟩

/-- Whatever came before, a document is judged as by a new matcher, and never
matches where it lacks a referenced key. -/
theorem cached_eq_fresh (match_ : String) (symbolMap : SymbolMap) (docs : List Document) (doc : Document) :
    (((new match_ symbolMap).after docs).isMatch doc).2 = ((new match_ symbolMap).isMatch doc).2 ∧
    ∀ symbol ∈ referenced match_, doc.get? (symbolMap.getSymbol symbol) = none →
      (((new match_ symbolMap).after docs).isMatch doc).2 = false := by
  have fresh := (isMatch_eq (inv_new match_ symbolMap) doc).1
  obtain ⟨inv, text, map⟩ := inv_after (inv_new match_ symbolMap) docs
  have cached := (isMatch_eq inv doc).1
  rw [text, map] at cached
  refine ⟨cached.trans fresh.symm, fun symbol member absent => ?_⟩
  rw [cached]
  exact accepts_missing member absent

end LampMonitor.Match.JSONExpressionMatcher
