import LampMonitor.Ami
import LampMonitor.Match.CachedExpression

/-! The AoRs that a phone is compatible with. They are asked for once, when the phone
is created: the credentials of the records of pjsip_wizard.conf that match the
expression of the provider, which is compiled while the records are gone through. -/
namespace LampMonitor.Bridge
open Ami Match

section Process
variable {σ : Type} (load : String → Option (List Document))

/-- `PJSIPWizardConfig::process`: nothing on an answer that is not a success, else the
records of the first event; a text that does not load throws. -/
def process (response : Option (List KeyValDict)) (lambda : σ → Document → σ) (state : σ) : Option σ :=
  match response with
  | none => some state
  | some events =>
    forEach (fun state event => (load (event.get "JSON")).map fun records => (true, records.foldl lambda state))
      events state

/-- Of the events of an answer the first alone is read. -/
theorem process_success (events : List KeyValDict) (lambda : σ → Document → σ) (state : σ) :
    process load (some events) lambda state =
      events.head?.elim (some state) fun event =>
        (load (event.get "JSON")).map fun records => records.foldl lambda state := by
  cases events with
  | nil => rfl
  | cons event rest =>
    cases loaded : load (event.get "JSON") with
    | none =>
      simp only [process, forEach, loaded, Option.map_none, List.head?_cons, Option.elim_some]
      rfl
    | some records =>
      simp only [process, forEach, loaded, Option.map_some, List.head?_cons, Option.elim_some]
      rfl

end Process

variable [ExpressionInterface]

/-- The lambda of `getCompatibleAoRs`; `List.insert` is `emplace` on the set. -/
def addAoR (s : JSONExpressionMatcher × List String) (record : Document) : JSONExpressionMatcher × List String :=
  let (matcher, matched) := s.1.isMatch record
  if !matched then (matcher, s.2)
  else match record.get? "endpoint/auth" with
    | none => (matcher, s.2)
    | some aor => (matcher, s.2.insert aor)

def getCompatibleAoRs (match_ : String) (symbolMap : SymbolMap) (load : String → Option (List Document))
    (response : Option (List KeyValDict)) : Option (List String) :=
  (process load response addAoR (.new match_ symbolMap, [])).map Prod.snd

/-- What a record contributes, whatever records there are besides. -/
def compatible (match_ : String) (symbolMap : SymbolMap) (record : Document) : Option String :=
  if accepts match_ symbolMap record then record.get? "endpoint/auth" else none

theorem addAoR_eq {matcher : JSONExpressionMatcher} (held : matcher.Inv) (aors : List String) (record : Document) :
    (addAoR (matcher, aors) record).2 =
      ((compatible matcher.match_ matcher.symbolMap record).elim aors fun aor => aors.insert aor) ∧
    (addAoR (matcher, aors) record).1 = (matcher.isMatch record).1 := by
  obtain ⟨result, _⟩ := JSONExpressionMatcher.isMatch_eq held record
  simp only [addAoR, compatible, result]
  cases matched : accepts matcher.match_ matcher.symbolMap record with
  | false => exact ⟨rfl, rfl⟩
  | true =>
    cases record.get? "endpoint/auth" <;> exact ⟨rfl, rfl⟩

theorem foldl_addAoR {matcher : JSONExpressionMatcher} (held : matcher.Inv) (unique : aors.Nodup)
    (records : List Document) :
    (records.foldl addAoR (matcher, aors)).2.Nodup ∧
      ∀ aor, aor ∈ (records.foldl addAoR (matcher, aors)).2 ↔ aor ∈ aors ∨
        ∃ record ∈ records, compatible matcher.match_ matcher.symbolMap record = some aor := by
  induction records generalizing matcher aors with
  | nil => exact ⟨unique, by simp⟩
  | cons record rest ih =>
    obtain ⟨added, next⟩ := addAoR_eq held aors record
    obtain ⟨_, inv, text, map⟩ := JSONExpressionMatcher.isMatch_eq held record
    have state : addAoR (matcher, aors) record = ((matcher.isMatch record).1,
        (compatible matcher.match_ matcher.symbolMap record).elim aors fun aor => aors.insert aor) :=
      Prod.ext next added
    have kept : ((compatible matcher.match_ matcher.symbolMap record).elim aors
        fun aor => aors.insert aor).Nodup := by
      cases compatible matcher.match_ matcher.symbolMap record with
      | none => exact unique
      | some aor => exact unique.insert
    obtain ⟨nodup, all⟩ := ih inv kept
    rw [List.foldl_cons, state]
    refine ⟨nodup, fun aor => (all aor).trans ?_⟩
    rw [text, map]
    simp only [List.exists_mem_cons_iff, ← or_assoc]
    refine or_congr_left ?_
    cases compatible matcher.match_ matcher.symbolMap record with
    | none => simp
    | some other =>
      rw [Option.elim_some, List.mem_insert_iff, Option.some.injEq]
      exact or_comm.trans (or_congr_right eq_comm)

/-- The AoRs of a phone are those of the matching records of the first event, each
judged by its own values, whatever came before it and however often it occurs. -/
theorem compatible_aors_exact (match_ : String) (symbolMap : SymbolMap)
    (load : String → Option (List Document)) (response : Option (List KeyValDict)) :
    (getCompatibleAoRs match_ symbolMap load response = none ↔
      ∃ event rest, response = some (event :: rest) ∧ load (event.get "JSON") = none) ∧
    ∀ aors, getCompatibleAoRs match_ symbolMap load response = some aors →
      aors.Nodup ∧ ∀ aor, aor ∈ aors ↔ ∃ event rest records, response = some (event :: rest) ∧
        load (event.get "JSON") = some records ∧
        ∃ record ∈ records, accepts match_ symbolMap record = true ∧
          record.get? "endpoint/auth" = some aor := by
  have inv := JSONExpressionMatcher.inv_new match_ symbolMap
  cases response with
  | none => simp [getCompatibleAoRs, process]
  | some events =>
    cases events with
    | nil => simp [getCompatibleAoRs, process_success]
    | cons event rest =>
      cases loaded : load (event.get "JSON") with
      | none => simp [getCompatibleAoRs, process_success, loaded]
      | some records =>
        obtain ⟨nodup, all⟩ := foldl_addAoR inv List.nodup_nil records
        have result : getCompatibleAoRs match_ symbolMap load (some (event :: rest)) =
            some (records.foldl addAoR (.new match_ symbolMap, [])).2 := by
          simp [getCompatibleAoRs, process_success, loaded]
        refine ⟨by simp [result, loaded], fun aors found => ?_⟩
        cases Option.some.inj (result.symm.trans found)
        refine ⟨nodup, fun aor => (all aor).trans ?_⟩
        simp only [List.not_mem_nil, false_or, compatible, Option.ite_none_right_eq_some]
        constructor
        · rintro ⟨record, member, accepted, auth⟩
          exact ⟨event, rest, records, rfl, loaded, record, member, accepted, auth⟩
        · rintro ⟨_, _, _, ⟨⟩, loaded', record, member, accepted, auth⟩
          cases Option.some.inj (loaded.symm.trans loaded')
          exact ⟨record, member, accepted, auth⟩

end LampMonitor.Bridge
