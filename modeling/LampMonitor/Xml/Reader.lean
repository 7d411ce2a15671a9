import LampMonitor.Spans
import LampMonitor.Transition
import LampMonitor.Xml

/-! A reader of XML documents, one step for each character: a declaration, tags
with attributes in double quotes, text, and the references to the characters of markup. It
is written against the format, not against the writer, and gives back every
document that the writer writes. -/
namespace LampMonitor.Xml.Reader
open Transition

abbrev Attributes := List (String × String)

/-- Where in a tag or a text the reader stands, and what it has of it so far. -/
inductive Mode where
  | content (text : List Char)
  | reference (text name : List Char)
  | tagName (name : List Char)
  | tag (name : String) (attributes : Attributes)
  | attributeName (name : String) (attributes : Attributes) (key : List Char)
  | equals (name : String) (attributes : Attributes) (key : List Char)
  | value (name : String) (attributes : Attributes) (key text : List Char)
  | valueReference (name : String) (attributes : Attributes) (key text reference : List Char)
  | finish (name : String) (attributes : Attributes)
  | endName (name : List Char)

/-- An element whose end tag is still to come, with the siblings before it. -/
structure Pending where
  name : String
  attributes : Attributes
  before : List Xml

structure State where
  declaration : Attributes
  pending : List Pending
  /-- The children so far of the innermost element. -/
  children : List Xml
  mode : Mode

def entity (name : List Char) : Option Char :=
  match String.ofList name with
  | "amp" => some '&'
  | "lt" => some '<'
  | "gt" => some '>'
  | "quot" => some '"'
  | "apos" => some (.ofNat 39)
  | _ => none

/-- A text becomes a child once markup follows. -/
def flush (children : List Xml) (text : List Char) : List Xml :=
  if text = [] then children else children ++ [.pcdata (String.ofList text)]

namespace State

def enter (s : State) (name : String) (attributes : Attributes) : State :=
  { s with pending := ⟨name, attributes, s.children⟩ :: s.pending, children := [], mode := .content [] }

/-- The end of a tag that has no end tag: the declaration or an empty element. -/
def empty (s : State) (name : String) (attributes : Attributes) : State :=
  if name = "?xml" then { s with declaration := attributes, mode := .content [] }
  else { s with children := s.children ++ [.element name attributes []], mode := .content [] }

def leave (s : State) (name : String) : Option State :=
  match s.pending with
  | ⟨open_, attributes, before⟩ :: pending =>
    if open_ = name then
      some { s with
        pending := pending
        children := before ++ [.element name attributes s.children]
        mode := .content [] }
    else none
  | [] => none

def step (s : State) (c : Char) : Option State :=
  match s.mode with
  | .content text =>
    if c = '<' then some { s with children := flush s.children text, mode := .tagName [] }
    else if c = '&' then some { s with mode := .reference text [] }
    else some { s with mode := .content (text ++ [c]) }
  | .reference text name =>
    if c = ';' then (entity name).map fun d => { s with mode := .content (text ++ [d]) }
    else some { s with mode := .reference text (name ++ [c]) }
  | .tagName name =>
    if c = ' ' then some { s with mode := .tag (String.ofList name) [] }
    else if c = '>' then some (s.enter (String.ofList name) [])
    else if c = '/' then
      some { s with mode := if name = [] then .endName [] else .finish (String.ofList name) [] }
    else some { s with mode := .tagName (name ++ [c]) }
  | .tag name attributes =>
    if c = ' ' then some s
    else if c = '>' then some (s.enter name attributes)
    else if c = '/' ∨ c = '?' then some { s with mode := .finish name attributes }
    else some { s with mode := .attributeName name attributes [c] }
  | .attributeName name attributes key =>
    if c = '=' then some { s with mode := .equals name attributes key }
    else some { s with mode := .attributeName name attributes (key ++ [c]) }
  | .equals name attributes key =>
    if c = '"' then some { s with mode := .value name attributes key [] } else none
  | .value name attributes key text =>
    if c = '"' then
      some { s with mode := .tag name (attributes ++ [(String.ofList key, String.ofList text)]) }
    else if c = '<' then none
    else if c = '&' then some { s with mode := .valueReference name attributes key text [] }
    else some { s with mode := .value name attributes key (text ++ [c]) }
  | .valueReference name attributes key text reference =>
    if c = ';' then
      (entity reference).map fun d => { s with mode := .value name attributes key (text ++ [d]) }
    else some { s with mode := .valueReference name attributes key text (reference ++ [c]) }
  | .finish name attributes => if c = '>' then some (s.empty name attributes) else none
  | .endName name =>
    if c = '>' then s.leave (String.ofList name) else some { s with mode := .endName (name ++ [c]) }

end State

def machine : Machine State Char where
  step := State.step

def start : State := ⟨[], [], [], .content []⟩

/-- A document is one element, with nothing but the declaration beside it. -/
def State.document? (s : State) : Option Document :=
  match s with
  | ⟨declaration, [], [.element name attributes children], .content []⟩ =>
    some ⟨declaration, .element name attributes children⟩
  | _ => none

def read (text : List Char) : Option Document := (machine.run start text).bind State.document?

/-! The document that the writer was given, but for its empty texts. -/

def isEmptyText : Xml → Bool
  | .pcdata text => text = ""
  | .element _ _ _ => false

mutual
def tidy : Xml → Xml
  | .pcdata text => .pcdata text
  | .element name attributes children => .element name attributes (tidyAll children)

def tidyAll : List Xml → List Xml
  | [] => []
  | child :: children =>
    if isEmptyText child then tidyAll children else tidy child :: tidyAll children
end

/-- A name that a tag can have. -/
def Name (name : String) : Prop :=
  name ≠ "" ∧ ∀ c ∈ name.toList, c ≠ ' ' ∧ c ≠ '>' ∧ c ≠ '/' ∧ c ≠ '=' ∧ c ≠ '?'

instance (name : String) : Decidable (Name name) := inferInstanceAs (Decidable (_ ∧ _))

/-- Names are well formed, and an element has either elements or a single text. -/
inductive Plain : Xml → Prop where
  | text : Name name → (∀ a ∈ attributes, Name a.1) →
    Plain (.element name attributes [.pcdata content])
  | elements : Name name → (∀ a ∈ attributes, Name a.1) → (∀ child ∈ children, Plain child) →
      Plain (.element name attributes children)

section Reading
variable {d : Attributes} {p : List Pending} {cs : List Xml}

theorem run_step (stepped : State.step s c = some t) (text : List Char) :
    machine.run s (c :: text) = machine.run t text := by
  simp [Machine.run, machine, stepped]

theorem run_end (s : State) : machine.run s [] = some s := rfl

def textReference (c : Char) : List Char :=
  if c = '&' then ['&', 'a', 'm', 'p', ';']
  else if c = '<' then ['&', 'l', 't', ';']
  else if c = '>' then ['&', 'g', 't', ';']
  else [c]

theorem escapeText_toList (text : String) :
    (escapeText text).toList = text.toList.flatMap textReference := by
  rw [escapeText, String.toList_ofList]
  refine congrArg (List.flatMap · text.toList) (funext fun c => ?_)
  split <;> simp_all [textReference]

def valueReference (c : Char) : List Char :=
  if c = '&' then ['&', 'a', 'm', 'p', ';']
  else if c = '<' then ['&', 'l', 't', ';']
  else if c = '"' then ['&', 'q', 'u', 'o', 't', ';']
  else [c]

theorem escapeAttribute_toList (text : String) :
    (escapeAttribute text).toList = text.toList.flatMap valueReference := by
  rw [escapeAttribute, String.toList_ofList]
  refine congrArg (List.flatMap · text.toList) (funext fun c => ?_)
  split <;> simp_all [valueReference]

/-- The reader gathers a text whose characters it takes one by one. -/
theorem run_gather (mode : List Char → Mode) (written : Char → List Char) {text : List Char}
    (each : ∀ before, ∀ c ∈ text,
      machine.run ⟨d, p, cs, mode before⟩ (written c) = some ⟨d, p, cs, mode (before ++ [c])⟩)
      (before : List Char) :
    machine.run ⟨d, p, cs, mode before⟩ (text.flatMap written) =
      some ⟨d, p, cs, mode (before ++ text)⟩ := by
  induction text generalizing before with
  | nil => simp [run_end]
  | cons c text ih =>
    obtain ⟨here, later⟩ : machine.run ⟨d, p, cs, mode before⟩ (written c) = _ ∧ _ :=
      ⟨each before c List.mem_cons_self, fun before c member =>
        each before c (List.mem_cons_of_mem _ member)⟩
    rw [List.flatMap_cons, Machine.run_append, here, Option.bind_some, ih later, List.append_assoc,
      List.singleton_append]

theorem run_characters (mode : List Char → Mode) {text : List Char}
    (each : ∀ before, ∀ c ∈ text,
      State.step ⟨d, p, cs, mode before⟩ c = some ⟨d, p, cs, mode (before ++ [c])⟩)
      (before : List Char) :
    machine.run ⟨d, p, cs, mode before⟩ text = some ⟨d, p, cs, mode (before ++ text)⟩ := by
  have gathered := run_gather (d := d) (p := p) mode (fun c => [c])
    (fun before c member => run_step (each before c member) []) before
  rwa [List.flatMap_singleton'] at gathered

theorem run_text (before text : List Char) :
    machine.run ⟨d, p, cs, .content before⟩ (text.flatMap textReference) =
      some ⟨d, p, cs, .content (before ++ text)⟩ := by
  refine run_gather .content textReference (fun before c _ => ?_) before
  by_cases amp : c = '&'
  · subst amp; rfl
  by_cases lt : c = '<'
  · subst lt; rfl
  by_cases gt : c = '>'
  · subst gt; rfl
  simp [textReference, amp, lt, gt, Machine.run, machine, State.step]

theorem run_value (name : String) (attributes : Attributes) (key before text : List Char) :
    machine.run ⟨d, p, cs, .value name attributes key before⟩ (text.flatMap valueReference) =
      some ⟨d, p, cs, .value name attributes key (before ++ text)⟩ := by
  refine run_gather (.value name attributes key) valueReference (fun before c _ => ?_) before
  by_cases amp : c = '&'
  · subst amp; rfl
  by_cases lt : c = '<'
  · subst lt; rfl
  by_cases quot : c = '"'
  · subst quot; rfl
  simp [valueReference, amp, lt, quot, Machine.run, machine, State.step]

theorem run_tagName {name : List Char} (inside : ∀ c ∈ name, c ≠ ' ' ∧ c ≠ '>' ∧ c ≠ '/')
    (before : List Char) :
    machine.run ⟨d, p, cs, .tagName before⟩ name = some ⟨d, p, cs, .tagName (before ++ name)⟩ := by
  refine run_characters .tagName (fun before c member => ?_) before
  obtain ⟨space, gt, slash⟩ := inside c member
  simp [State.step, space, gt, slash]

theorem run_endName {name : List Char} (inside : ∀ c ∈ name, c ≠ '>') (before : List Char) :
    machine.run ⟨d, p, cs, .endName before⟩ name = some ⟨d, p, cs, .endName (before ++ name)⟩ := by
  refine run_characters .endName (fun before c member => ?_) before
  simp [State.step, inside c member]

/-- An attribute, from the space before it to its closing quote. -/
theorem run_attribute (name : String) (attributes : Attributes)
    (named : Name key) (value : String) :
    machine.run ⟨d, p, cs, .tag name attributes⟩
      (" " ++ key ++ "=\"" ++ escapeAttribute value ++ "\"").toList =
      some ⟨d, p, cs, .tag name (attributes ++ [(key, value)])⟩ := by
  obtain ⟨nonempty, inside⟩ := named
  obtain ⟨c, rest, split⟩ : ∃ c rest, key.toList = c :: rest :=
    List.exists_cons_of_ne_nil fun empty => nonempty (String.toList_eq_nil_iff.mp empty)
  obtain ⟨space, gt, slash, _, question⟩ := inside c (split ▸ List.mem_cons_self)
  have first : State.step ⟨d, p, cs, .tag name attributes⟩ c =
      some ⟨d, p, cs, .attributeName name attributes [c]⟩ := by
    simp [State.step, space, gt, slash, question]
  have later : machine.run ⟨d, p, cs, .attributeName name attributes [c]⟩ rest =
      some ⟨d, p, cs, .attributeName name attributes key.toList⟩ := by
    rw [split]
    refine run_characters (.attributeName name attributes) (fun before c member => ?_) [c]
    simp [State.step, (inside c (split ▸ List.mem_cons_of_mem _ member)).2.2.2.1]
  have named := (run_step first rest).trans later
  rw [← split] at named
  have quoted : machine.run ⟨d, p, cs, .attributeName name attributes key.toList⟩ ['=', '"'] =
      some ⟨d, p, cs, .value name attributes key.toList []⟩ := rfl
  have closed : machine.run ⟨d, p, cs, .value name attributes key.toList value.toList⟩ ['"'] =
      some ⟨d, p, cs, .tag name (attributes ++ [(key, value)])⟩ := by
    simp [Machine.run, machine, State.step]
  simp only [String.toList_append, escapeAttribute_toList]
  exact Machine.run_trans
    (Machine.run_trans (Machine.run_trans (Machine.run_trans rfl named) quoted)
    (run_value name attributes key.toList [] value.toList)) closed

theorem rawAttributes_cons (key value : String) (attributes : Attributes) :
    rawAttributes ((key, value) :: attributes) =
      " " ++ key ++ "=\"" ++ escapeAttribute value ++ "\"" ++ rawAttributes attributes := by
  simp [rawAttributes, String.join_cons]

theorem run_attributes (name : String) (before : Attributes) (named : ∀ a ∈ attributes, Name a.1) :
    machine.run ⟨d, p, cs, .tag name before⟩ (rawAttributes attributes).toList =
      some ⟨d, p, cs, .tag name (before ++ attributes)⟩ := by
  induction attributes generalizing before with
  | nil => simp [rawAttributes, run_end]
  | cons a attributes ih =>
    obtain ⟨here, later⟩ := List.forall_mem_cons.mp named
    rw [rawAttributes_cons a.1 a.2, String.toList_append, Machine.run_append,
      run_attribute name before here, Option.bind_some, ih _ later, List.append_assoc,
      List.singleton_append]

theorem Name.inTag (named : Name name) : ∀ c ∈ name.toList, c ≠ ' ' ∧ c ≠ '>' ∧ c ≠ '/' := by
  intro c member
  obtain ⟨space, gt, slash, _⟩ := named.2 c member
  exact ⟨space, gt, slash⟩

/-- A tag up to its end: after the name alone, `>` and `/` do what they do after
the attributes. -/
theorem run_tag (name : String) (inside : ∀ c ∈ name.toList, c ≠ ' ' ∧ c ≠ '>' ∧ c ≠ '/')
    (text : List Char) (attributed : ∀ a ∈ attributes, Name a.1) :
    machine.run ⟨d, p, cs, .content text⟩ ("<" ++ name ++ rawAttributes attributes).toList =
      some ⟨d, p, flush cs text, if attributes = [] then .tagName name.toList
        else .tag name attributes⟩ := by
  have opened : machine.run ⟨d, p, cs, .content text⟩ ("<" ++ name).toList =
      some ⟨d, p, flush cs text, .tagName name.toList⟩ := by
    rw [String.toList_append]
    exact Machine.run_trans rfl (run_tagName inside [])
  rw [String.toList_append, Machine.run_append, opened, Option.bind_some]
  cases attributes with
  | nil => rfl
  | cons a attributes =>
    have rest : machine.run ⟨d, p, flush cs text, .tag name []⟩
        (rawAttributes (a :: attributes)).toList =
        some ⟨d, p, flush cs text, .tag name ([] ++ a :: attributes)⟩ :=
          run_attributes name [] attributed
    rw [List.nil_append] at rest
    rw [if_neg (List.cons_ne_nil _ _), ← rest]
    simp [rawAttributes_cons a.1 a.2, Machine.run, machine, State.step]

theorem run_startTag (named : Name name) (text : List Char)
    (attributed : ∀ a ∈ attributes, Name a.1) :
    machine.run ⟨d, p, cs, .content text⟩ ("<" ++ name ++ rawAttributes attributes ++ ">").toList =
      some ⟨d, ⟨name, attributes, flush cs text⟩ :: p, [], .content []⟩ := by
  rw [String.toList_append]
  refine Machine.run_trans (run_tag name named.inTag text attributed) ?_
  by_cases bare : attributes = []
  · simp [bare, Machine.run, machine, State.step, State.enter]
  · rw [if_neg bare]
    rfl

theorem Name.not_declaration (named : Name name) : name ≠ "?xml" := by
  rintro rfl
  exact (named.2 '?' (by decide)).2.2.2.2 rfl

theorem run_emptyTag (named : Name name) (text : List Char)
    (attributed : ∀ a ∈ attributes, Name a.1) :
    machine.run ⟨d, p, cs, .content text⟩ ("<" ++ name ++ rawAttributes attributes ++ "/>").toList =
      some ⟨d, p, flush cs text ++ [.element name attributes []], .content []⟩ := by
  have finished : machine.run ⟨d, p, flush cs text, .finish name attributes⟩ ['>'] =
      some ⟨d, p, flush cs text ++ [.element name attributes []], .content []⟩ := by
    simp [Machine.run, machine, State.step, State.empty, named.not_declaration]
  have slashed : machine.run ⟨d, p, flush cs text, if attributes = [] then .tagName name.toList
      else .tag name attributes⟩
      ['/'] = some ⟨d, p, flush cs text, .finish name attributes⟩ := by
    by_cases bare : attributes = []
    · simp [bare, Machine.run, machine, State.step, named.1]
    · rw [if_neg bare]
      rfl
  rw [String.toList_append]
  exact Machine.run_trans (run_tag name named.inTag text attributed)
    (Machine.run_trans slashed finished)

theorem run_endTag (named : Name name) (text : List Char) (attributes : Attributes)
    (before : List Xml) :
    machine.run ⟨d, ⟨name, attributes, before⟩ :: p, cs, .content text⟩
      ("</" ++ name ++ ">").toList =
      some ⟨d, p, before ++ [.element name attributes (flush cs text)], .content []⟩ := by
  have closed : machine.run
      ⟨d, ⟨name, attributes, before⟩ :: p, flush cs text, .endName name.toList⟩ ['>'] =
      some ⟨d, p, before ++ [.element name attributes (flush cs text)], .content []⟩ := by
    simp [Machine.run, machine, State.step, State.leave]
  rw [String.toList_append, String.toList_append]
  exact Machine.run_trans
    (Machine.run_trans rfl (run_endName (fun c member => (named.inTag c member).2.1) [])) closed

theorem raw_element (name : String) (attributes : Attributes) (nonempty : children ≠ []) :
    raw (.element name attributes children) =
      "<" ++ name ++ rawAttributes attributes ++ ">" ++ rawAll children ++
        ("</" ++ name ++ ">") := by
  obtain ⟨child, rest, rfl⟩ := List.exists_cons_of_ne_nil nonempty
  simp [raw, rawAll, String.append_assoc]

theorem tidy_element (plain : Plain child) :
    ∃ name attributes children, child = .element name attributes children := by
  cases plain <;> exact ⟨_, _, _, rfl⟩

theorem tidyAll_element (name : String) (attributes : Attributes) (children rest : List Xml) :
    tidyAll (.element name attributes children :: rest) =
      .element name attributes (tidyAll children) :: tidyAll rest := by
  rw [tidyAll, isEmptyText, if_neg Bool.false_ne_true, tidy]

theorem tidyAll_elements (plain : ∀ child ∈ children, Plain child) :
    tidyAll children = children.map tidy := by
  induction children with
  | nil => simp [tidyAll]
  | cons child children ih =>
    obtain ⟨here, later⟩ := List.forall_mem_cons.mp plain
    obtain ⟨name, attributes, inner, rfl⟩ := tidy_element here
    rw [tidyAll_element, ih later, List.map_cons, tidy]

theorem tidy_text (name : String) (attributes : Attributes) (content : String) :
    tidy (.element name attributes [.pcdata content]) =
      .element name attributes (flush [] content.toList) := by
  by_cases empty : content = ""
  · simp [tidy, tidyAll, isEmptyText, flush, empty]
  · have nonempty : content.toList ≠ [] := fun nil => empty (String.toList_eq_nil_iff.mp nil)
    simp [tidy, tidyAll, isEmptyText, flush, empty]

/-- The reader takes the elements one by one for children. -/
theorem run_rawAll {children : List Xml}
    (each : ∀ child ∈ children, ∀ cs,
      machine.run ⟨d, p, cs, .content []⟩ (raw child).toList =
        some ⟨d, p, cs ++ [tidy child], .content []⟩)
    (cs : List Xml) :
    machine.run ⟨d, p, cs, .content []⟩ (rawAll children).toList =
      some ⟨d, p, cs ++ children.map tidy, .content []⟩ := by
  induction children generalizing cs with
  | nil => simp [rawAll, run_end]
  | cons child children ih =>
    obtain ⟨here, later⟩ := List.forall_mem_cons.mp each
    rw [rawAll, String.toList_append, Machine.run_append, here, Option.bind_some, ih later,
      List.append_assoc]
    rfl

/-- The reader takes an element for one more child. -/
theorem run_raw (plain : Plain x) {d : Attributes} {p : List Pending} (cs : List Xml) :
    machine.run ⟨d, p, cs, .content []⟩ (raw x).toList =
      some ⟨d, p, cs ++ [tidy x], .content []⟩ := by
  induction plain generalizing p cs with
  | @text name attributes content named attributed =>
    have written : rawAll [.pcdata content] = escapeText content := by simp [rawAll, raw]
    rw [raw_element name attributes (List.cons_ne_nil _ _), written, String.toList_append,
      String.toList_append, escapeText_toList, tidy_text]
    exact Machine.run_trans
      (Machine.run_trans (run_startTag named [] attributed) (run_text [] content.toList))
      (run_endTag named content.toList attributes cs)
  | @elements name attributes children named attributed plain ih =>
    by_cases none : children = []
    · subst none
      rw [raw, run_emptyTag named [] attributed]
      simp [flush, tidy, tidyAll]
    · rw [raw_element name attributes none, String.toList_append, String.toList_append, tidy,
        tidyAll_elements plain]
      exact Machine.run_trans (Machine.run_trans (run_startTag named [] attributed)
        (run_rawAll (fun child member => ih child member) []))
        (run_endTag named [] attributes cs)

theorem run_declaration (declared : declaration ≠ []) (named : ∀ a ∈ declaration, Name a.1) :
    machine.run start ("<?xml" ++ rawAttributes declaration ++ "?>").toList =
      some ⟨declaration, [], [], .content []⟩ := by
  have opened : machine.run start ("<" ++ "?xml" ++ rawAttributes declaration).toList =
      some ⟨[], [], [], .tag "?xml" declaration⟩ := by
    have tag : machine.run ⟨[], [], [], .content []⟩ _ = some ⟨[], [], flush [] [], _⟩ :=
      run_tag "?xml" (by decide) [] named
    rwa [if_neg declared] at tag
  rw [String.toList_append]
  exact Machine.run_trans opened rfl

/-- What the writer wrote is read back. -/
theorem read_raw (document : Document) (declared : document.declaration ≠ [])
    (named : ∀ a ∈ document.declaration, Name a.1) (plain : Plain document.root) :
    read document.raw.toList = some ⟨document.declaration, tidy document.root⟩ := by
  have whole : machine.run start document.raw.toList =
      some ⟨document.declaration, [], [tidy document.root], .content []⟩ := by
    rw [Document.raw, String.toList_append]
    exact Machine.run_trans (run_declaration declared named) (run_raw plain [])
  obtain ⟨name, attributes, children, root⟩ := tidy_element plain
  rw [read, whole, Option.bind_some, root, tidy]
  rfl

end Reading

example : (read ("<?xml version=\"1.0\"?><a b=\"x&quot;\"><c>1 &lt; 2</c><d/></a>").toList).map
    Document.declaration =
    some [("version", "1.0")] := by decide

end LampMonitor.Xml.Reader
