import LampMonitor.Bridge.PhoneUi
import LampMonitor.Cache.Endpoints
import LampMonitor.Phonebook.Provider
import LampMonitor.Transition

/-! The cached phonebook of one HTTP path. The provider cannot tell a source that
answered with failure from an empty one, so the cache takes the empty directory
over; an exception on the other hand passes the cache by. -/
namespace LampMonitor.Phonebook
open Bridge Match Transition

inductive PhonebookType where
  | snom
  | yealink
  deriving DecidableEq, Repr

namespace PhonebookType

def ofString : String → Option PhonebookType
  | "snom" => some .snom
  | "yealink" => some .yealink
  | _ => none

def textNode (name text : String) : Xml := .element name [] [.pcdata text]

def document (type : PhonebookType) (details : List CallerIDDetails) : Xml.Document :=
  match type with
  | .yealink =>
    ⟨[("version", "1.0"), ("encoding", "ISO-8859-1")], .element "YealinkIPPhoneDirectory" [] <|
      details.map fun detail => .element "DirectoryEntry" []
        [textNode "Name" detail.name, textNode "Telephone" detail.number]⟩
  | .snom =>
    ⟨[("version", "1.0"), ("encoding", "utf-8")], .element "settings" [] [.element "tbook" [] <|
      details.map fun detail => .element "item" []
        [textNode "first_name" detail.name, textNode "number" detail.number, textNode "number_type" "work"]]⟩

end PhonebookType

/-- The clock readings of `getPhonebook` and the end of its query, should it make
one. -/
structure Request where
  now : Int
  query : Query
  later : Int

structure State where
  type : PhonebookType
  /-- In minutes. -/
  expiry : Nat
  matcher : JSONExpressionMatcher
  cachedPhonebook : String
  timestamp : Int
  /-- The queries made so far. -/
  queries : List Query

def create (type : PhonebookType) (ttl : UInt32) (match_ : String) (map : SymbolMap) : State where
  type := type
  expiry := max ttl.toNat 120
  matcher := .new match_ map
  cachedPhonebook := ""
  timestamp := 0
  queries := []

/-- The instant `expiry_` after this one, in the nanoseconds of the clock. -/
def validUntil (expiry : Nat) (now : Int) : Int :=
  DeskphoneCache.int64 (now + DeskphoneCache.int64 (expiry * 60000000000))

section Requests
variable [LibraryInterface] [ExpressionInterface]

def getPhonebook (s : State) (request : Request) : State × Option String :=
  if s.timestamp < request.now then
    let (matcher, details) := getCallerDetails s.matcher request.query
    let queried := { s with matcher := matcher, queries := s.queries ++ [request.query] }
    match details with
    | none => (queried, none)
    | some details =>
      let text := LibraryInterface.save (s.type.document details)
      ({ queried with cachedPhonebook := text, timestamp := validUntil s.expiry request.later }, some text)
  else (s, some s.cachedPhonebook)

def machine : Machine State Request where
  step s request := some (getPhonebook s request).1

def rendering (type : PhonebookType) (match_ : String) (map : SymbolMap) (records : List Document) : String :=
  LibraryInterface.save (type.document (listing match_ map records))

/-- A call returns the directory of some successful query or fails, and keeps
the cache as it was where its own query does not succeed. -/
structure Faithful (match_ : String) (map : SymbolMap) (s : State) (request : Request) : Prop where
  rendered : ∀ text, (getPhonebook s request).2 = some text →
    ∃ records, .success records ∈ (getPhonebook s request).1.queries ∧ text = rendering s.type match_ map records
  fails : (∀ records, .success records ∉ (getPhonebook s request).1.queries) → (getPhonebook s request).2 = none
  kept : s.timestamp < request.now → (∀ records, request.query ≠ .success records) →
    (getPhonebook s request).1.cachedPhonebook = s.cachedPhonebook ∧
    (getPhonebook s request).1.timestamp = s.timestamp

/-- The clock is past its epoch, and a query that is made is not answered with
failure. -/
def Answered (s : State) (request : Request) : Prop :=
  0 < request.now ∧ (s.timestamp < request.now → request.query ≠ .failure)

section Invariant
variable {match_ : String} {map : SymbolMap}

/-- The cache holds the directory of some successful query, or nothing yet. -/
structure Inv (match_ : String) (map : SymbolMap) (s : State) : Prop where
  ready : Ready match_ map s.matcher
  cached : s.timestamp = 0 ∨ ∃ records, .success records ∈ s.queries ∧
    s.cachedPhonebook = rendering s.type match_ map records

theorem getPhonebook_success (ready : Ready match_ map s.matcher)
    (expired : s.timestamp < request.now) (query : request.query = .success records) :
    getPhonebook s request =
      ({ s with
          matcher := (getCallerDetails s.matcher (.success records)).1
          queries := s.queries ++ [.success records]
          cachedPhonebook := rendering s.type match_ map records
          timestamp := validUntil s.expiry request.later },
        some (rendering s.type match_ map records)) := by
  have details : (getCallerDetails s.matcher (.success records)).2 =
      some (listing match_ map records) :=
    (ready.getCallerDetails (.success records)).2
  simp only [getPhonebook, if_pos expired, query, details, rendering]

theorem getPhonebook_throws (expired : s.timestamp < request.now)
    (query : request.query = .throws records) :
    getPhonebook s request =
      ({ s with
          matcher := (getCallerDetails s.matcher (.throws records)).1
          queries := s.queries ++ [.throws records] }, none) := by
  simp only [getPhonebook, if_pos expired, query, getCallerDetails]

theorem Inv.success (held : Inv match_ map s) (expired : s.timestamp < request.now)
    (query : request.query = .success records) :
    Inv match_ map (getPhonebook s request).1 ∧ Faithful match_ map s request := by
  have result := getPhonebook_success held.ready expired query
  refine ⟨⟨?_, ?_⟩, ⟨?_, ?_, ?_⟩⟩
  · rw [result]
    exact (held.ready.getCallerDetails (.success records)).1
  · rw [result]
    exact .inr ⟨records, by simp, rfl⟩
  · intro text returned
    rw [result] at returned ⊢
    exact ⟨records, by simp, (Option.some.inj returned).symm⟩
  · intro none
    rw [result] at none
    exact absurd (by simp) (none records)
  · intro _ unsuccessful
    exact absurd query (unsuccessful records)

theorem Inv.throws (held : Inv match_ map s) (expired : s.timestamp < request.now)
    (query : request.query = .throws records) :
    Inv match_ map (getPhonebook s request).1 ∧ Faithful match_ map s request := by
  have result := getPhonebook_throws expired query
  refine ⟨⟨?_, ?_⟩, ⟨?_, ?_, ?_⟩⟩
  · rw [result]
    exact (held.ready.getCallerDetails (.throws records)).1
  · rw [result]
    apply held.cached.imp_right
    rintro ⟨earlier, made, same⟩
    exact ⟨earlier, List.mem_append_left _ made, same⟩
  · intro text returned
    rw [result] at returned
    contradiction
  · intro _
    rw [result]
  · intro _ _
    rw [result]
    exact ⟨rfl, rfl⟩

/-- A call that makes no query: the timestamp is past the epoch, so some query
has succeeded. -/
theorem Inv.unexpired (held : Inv match_ map s) (positive : 0 < request.now)
    (valid : ¬ s.timestamp < request.now) :
    Inv match_ map (getPhonebook s request).1 ∧ Faithful match_ map s request := by
  have result : getPhonebook s request = (s, some s.cachedPhonebook) := if_neg valid
  have cached : ∃ records, .success records ∈ s.queries ∧
      s.cachedPhonebook = rendering s.type match_ map records := by
    rcases held.cached with unset | cached
    · omega
    · exact cached
  refine ⟨by rw [result]; exact held, ⟨?_, ?_, fun expired => absurd expired valid⟩⟩
  · intro text returned
    rw [result] at returned ⊢
    cases Option.some.inj returned
    exact cached
  · intro none
    rw [result] at none
    obtain ⟨records, made, _⟩ := cached
    exact absurd made (none records)

theorem faithful_of_inv (held : Inv match_ map s) (answered : Answered s request) :
    Inv match_ map (getPhonebook s request).1 ∧ Faithful match_ map s request := by
  obtain ⟨positive, answers⟩ := answered
  by_cases expired : s.timestamp < request.now
  · cases query : request.query with
    | success records => exact held.success expired query
    | failure => exact absurd query (answers expired)
    | throws records => exact held.throws expired query
  · exact held.unexpired positive expired

end Invariant

/-- A failure that reaches the cache moves the timestamp. -/
theorem failure_not_kept {s : State} {request : Request} (positive : 0 < request.now)
    (expired : s.timestamp < request.now) (ordered : request.now ≤ request.later)
    (fits : request.later + s.expiry * 60000000000 < 2 ^ 63) (failed : request.query = .failure) :
      (getPhonebook s request).1.timestamp ≠ s.timestamp := by
  have result : (getPhonebook s request).1.timestamp = validUntil s.expiry request.later := by
    simp only [getPhonebook, if_pos expired, failed, getCallerDetails]
  have until_eq : validUntil s.expiry request.later = request.later + s.expiry * 60000000000 := by
    rw [validUntil, DeskphoneCache.int64_eq (x := s.expiry * 60000000000) (by omega) (by omega),
      DeskphoneCache.int64_eq (by omega) fits]
  rw [result, until_eq]
  omega

/-- Where every query that is made succeeds or throws, all calls are faithful;
one answered with failure never is. -/
theorem faithful_unless_failure (type : PhonebookType) (ttl : UInt32) (match_ : String) (map : SymbolMap) :
    (∀ (requests : List Request) (request : Request) (s : State), machine.Meets Answered (create type ttl match_ map) (requests ++ [request]) →
      machine.run (create type ttl match_ map) requests = some s → Faithful match_ map s request) ∧
    ∀ (s : State) (request : Request), 0 < request.now → s.timestamp < request.now → request.now ≤ request.later →
      request.later + s.expiry * 60000000000 < 2 ^ 63 → request.query = .failure → ¬ Faithful match_ map s request := by
  constructor
  · intro requests request s answered reached
    obtain ⟨before, here⟩ := answered.snoc reached
    have held : Inv match_ map s := by
      refine Machine.run_invariant_meets (P := Inv match_ map)
        ?_ before reached ⟨ready_new match_ map, .inl rfl⟩
      intro t request u held here stepped
      cases Option.some.inj stepped
      exact (faithful_of_inv held here).1
    exact (faithful_of_inv held here).2
  · intro s request positive expired ordered fits failed faithful
    obtain ⟨_, kept⟩ := faithful.kept expired (by simp [failed])
    exact failure_not_kept positive expired ordered fits failed kept

end Requests

section EmptyDirectory

local instance : LibraryInterface := sequentialInterface
local instance : ExpressionInterface := singleExpression

def office : State := create .yealink 120 "ec == 'yes'" ⟨[]⟩

/-- The very first query is answered with failure: the call returns a directory
although no query has succeeded. -/
theorem failure_becomes_directory : ∃ request : Request, 0 < request.now ∧ request.query = .failure ∧
    ¬ Faithful "ec == 'yes'" ⟨[]⟩ office request := by
  refine ⟨⟨1, .failure, 2⟩, by decide, rfl, fun faithful => ?_⟩
  obtain ⟨records, made, _⟩ := faithful.rendered _ rfl
  simp [getPhonebook, office, create, getCallerDetails] at made

/-- An exception before the first success: the call fails. -/
theorem faithful_unless_failure_throwing : Faithful "ec == 'yes'" ⟨[]⟩ office ⟨1, .throws [], 2⟩ := by
  refine (faithful_unless_failure .yealink 120 "ec == 'yes'" ⟨[]⟩).1 []
    ⟨1, .throws [], 2⟩ office ?_ rfl
  exact .cons ⟨by decide, fun _ => nofun⟩ rfl trivial

end EmptyDirectory
end LampMonitor.Phonebook
