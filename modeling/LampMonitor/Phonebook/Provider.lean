import LampMonitor.Match.CachedExpression

/-! The phonebook provider over pjsip_wizard.conf: one caller ID for each record
that matches the expression and has one. -/
namespace LampMonitor.Phonebook
open Match

structure CallerIDDetails where
  name : String
  number : String
  deriving DecidableEq, Repr

/-- `"([^"]*)" <([0-9]*)>` at the head of the text. Neither repetition can match
the character that ends it, so there is nothing to backtrack to. -/
def matchHere : List Char → Option CallerIDDetails
  | '"' :: text =>
    match text.dropWhile (· ≠ '"') with
    | '"' :: ' ' :: '<' :: digits =>
      match digits.dropWhile Char.isDigit with
      | '>' :: _ => some ⟨String.ofList (text.takeWhile (· ≠ '"')), String.ofList (digits.takeWhile Char.isDigit)⟩
      | _ => none
    | _ => none
  | _ => none

/-- `std::regex_search`: the leftmost match. -/
def search : List Char → Option CallerIDDetails
  | [] => none
  | c :: text => (matchHere (c :: text)).or (search text)

/-- The caller ID of a matching record. Where the search fails, both groups read
as the empty string. -/
def callerDetails (record : Document) : Option CallerIDDetails :=
  match record.get? "endpoint/callerid" with
  | none => none
  | some callerId => if callerId = "" then none else some ((search callerId.toList).getD ⟨"", ""⟩)

def entry (matched : Bool) (record : Document) : List CallerIDDetails :=
  if matched then (callerDetails record).toList else []

/-- How a query of pjsip_wizard.conf may end. `PJSIPWizardConfig::process` returns
without a word on an answer that is not a success; an exception may fly after
some of the records. -/
inductive Query where
  | success (records : List Document)
  | failure
  | throws (records : List Document)

variable [ExpressionInterface]

/-- The records still to come, each one first asked about with `isMatch`. -/
def collect (m : JSONExpressionMatcher) (data : List CallerIDDetails) :
    List Document → JSONExpressionMatcher × List CallerIDDetails
  | [] => (m, data)
  | record :: rest => collect (m.isMatch record).1 (data ++ entry (m.isMatch record).2 record) rest

/-- What `getCallerDetails` leaves of the matcher, and its list; `none` when the
exception of the query passes through. -/
def getCallerDetails (m : JSONExpressionMatcher) (query : Query) :
    JSONExpressionMatcher × Option (List CallerIDDetails) :=
  match query with
  | .success records => ((collect m [] records).1, some (collect m [] records).2)
  | .failure => (m, some [])
  | .throws records => ((collect m [] records).1, none)

/-- What a request returns that has the provider to itself. -/
def alone (match_ : String) (map : SymbolMap) (records : List Document) : List CallerIDDetails :=
  (collect (.new match_ map) [] records).2

/-- The caller IDs of exactly the records that match on their own values. -/
def listing (match_ : String) (map : SymbolMap) (records : List Document) : List CallerIDDetails :=
  (records.filter (accepts match_ map)).filterMap callerDetails

section Lemmas
variable {match_ : String} {map : SymbolMap}

theorem listing_append (first second : List Document) :
    listing match_ map (first ++ second) = listing match_ map first ++
    listing match_ map second := by
  simp only [listing, List.filter_append, List.filterMap_append]

theorem listing_singleton (record : Document) :
    listing match_ map [record] = entry (accepts match_ map record) record := by
  cases holds : accepts match_ map record with
  | false => simp [listing, entry, holds]
  | true =>
    cases details : callerDetails record <;> simp [listing, entry, holds, details]

/-- The matcher of this expression between two requests. -/
structure Ready (match_ : String) (map : SymbolMap) (m : JSONExpressionMatcher) : Prop where
  inv : m.Inv
  text : m.match_ = match_
  symbolMap : m.symbolMap = map

theorem ready_new (match_ : String) (map : SymbolMap) : Ready match_ map (.new match_ map) :=
  ⟨JSONExpressionMatcher.inv_new match_ map, rfl, rfl⟩

theorem Ready.isMatch (ready : Ready match_ map m) (record : Document) :
    Ready match_ map (m.isMatch record).1 ∧ (m.isMatch record).2 = accepts match_ map record := by
  obtain ⟨result, inv, text, symbolMap⟩ := JSONExpressionMatcher.isMatch_eq ready.inv record
  exact ⟨⟨inv, text.trans ready.text, symbolMap.trans ready.symbolMap⟩,
    by rw [result, ready.text, ready.symbolMap]⟩

theorem Ready.collect (ready : Ready match_ map m) (data : List CallerIDDetails)
    (records : List Document) :
    Ready match_ map (collect m data records).1 ∧
    (Phonebook.collect m data records).2 = data ++ listing match_ map records := by
  induction records generalizing m data with
  | nil => exact ⟨ready, by simp [Phonebook.collect, listing]⟩
  | cons record rest ih =>
    obtain ⟨next, result⟩ := ready.isMatch record
    obtain ⟨final, collected⟩ := ih next (data ++ entry (m.isMatch record).2 record)
    refine ⟨final, ?_⟩
    rw [Phonebook.collect, collected, result, ← listing_singleton, List.append_assoc,
      ← listing_append, List.singleton_append]

theorem alone_eq (match_ : String) (map : SymbolMap) (records : List Document) :
    alone match_ map records = listing match_ map records :=
  ((ready_new match_ map).collect [] records).2

theorem Ready.getCallerDetails (ready : Ready match_ map m) (query : Query) :
    Ready match_ map (Phonebook.getCallerDetails m query).1 ∧
    (Phonebook.getCallerDetails m query).2 = match query with
      | .success records => some (listing match_ map records)
      | .failure => some []
      | .throws _ => none := by
  cases query with
  | success records =>
    obtain ⟨next, data⟩ := ready.collect [] records
    exact ⟨next, congrArg some data⟩
  | failure => exact ⟨ready, rfl⟩
  | throws records => exact ⟨(ready.collect [] records).1, rfl⟩

end Lemmas
end LampMonitor.Phonebook
