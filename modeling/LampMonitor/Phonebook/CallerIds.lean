import LampMonitor.Phonebook.Provider
import LampMonitor.Spans

/-! What a directory lists of the caller IDs of its records. The result of
`regex_search` is dropped, and the groups of a search that failed read as two
empty strings: a caller ID that is there, but not of the form, is listed too. -/
namespace LampMonitor.Phonebook
open Match Spans

namespace CallerIDDetails

/-- `"name" <number>` -/
def written (details : CallerIDDetails) : List Char :=
  '"' :: (details.name.toList ++ '"' :: ' ' :: '<' :: (details.number.toList ++ ['>']))

structure Valid (details : CallerIDDetails) : Prop where
  name : '"' ∉ details.name.toList
  number : ∀ c ∈ details.number.toList, c.isDigit = true

/-- The text continues with a caller ID of the form. -/
def Starts (details : CallerIDDetails) (text : List Char) : Prop :=
  details.Valid ∧ details.written <+: text

/-- The leftmost place of the text where a caller ID of the form starts. -/
def Leftmost (details : CallerIDDetails) (text : List Char) : Prop :=
  ∃ before rest, text = before ++ rest ∧ details.Starts rest ∧
    ∀ earlier other : List Char, text = earlier ++ other → earlier.length < before.length →
      ∀ details' : CallerIDDetails, ¬ details'.Starts other

theorem matchHere_complete (starts : details.Starts text) : matchHere text = some details := by
  obtain ⟨valid, rest, rfl⟩ := starts
  have name : ∀ c ∈ details.name.toList, decide (c ≠ '"') = true := by
    intro c member
    exact decide_eq_true fun quote => valid.name (quote ▸ member)
  simp only [written, List.cons_append, List.append_assoc, matchHere,
    dropWhile_stop name (c := '"') rfl, takeWhile_stop name (c := '"') rfl, List.nil_append,
    dropWhile_stop valid.number (c := '>') rfl, takeWhile_stop valid.number (c := '>') rfl,
    String.ofList_toList]

theorem matchHere_sound (found : matchHere text = some details) : details.Starts text := by
  unfold matchHere at found
  split at found
  · rename_i text
    split at found
    · rename_i digits named
      obtain ⟨whole, name⟩ := dropWhile_split named
      split at found
      · rename_i rest numbered
        obtain ⟨digits_eq, number⟩ := dropWhile_split numbered
        cases Option.some.inj found
        refine ⟨⟨fun member => ?_, ?_⟩, rest, ?_⟩
        · simpa using name '"' (by simpa using member)
        · simpa using number
        · simp only [written, String.toList_ofList, List.cons_append, List.append_assoc,
            List.nil_append]
          rw [← digits_eq, ← whole]
      · contradiction
    · contradiction
  · contradiction

theorem matchHere_iff : matchHere text = some details ↔ details.Starts text :=
  ⟨matchHere_sound, matchHere_complete⟩

theorem matchHere_none : matchHere text = none ↔
    ∀ details : CallerIDDetails, ¬ details.Starts text := by
  simp only [Option.eq_none_iff_forall_ne_some, ne_eq, matchHere_iff]

theorem Starts.leftmost (starts : Starts details text) : details.Leftmost text :=
  ⟨[], text, rfl, starts, fun _ _ _ shorter => absurd shorter (Nat.not_lt_zero _)⟩

theorem Leftmost.starts (leftmost : Leftmost details text) (here : Starts details' text) :
    details.Starts text := by
  obtain ⟨before, rest, rfl, starts, earliest⟩ := leftmost
  cases before with
  | nil => exact starts
  | cons c before => exact absurd here (earliest [] _ rfl (by simp) details')

theorem leftmost_cons (none : ∀ details : CallerIDDetails, ¬ details.Starts (c :: text)) :
    Leftmost details (c :: text) ↔ details.Leftmost text := by
  constructor
  · rintro ⟨before, rest, split, starts, earliest⟩
    cases before with
    | nil => exact absurd (split ▸ starts) (none details)
    | cons d before =>
      obtain ⟨rfl, rfl⟩ := List.cons.inj split
      refine ⟨before, rest, rfl, starts, fun earlier other same shorter => ?_⟩
      exact earliest (c :: earlier) other (congrArg (c :: ·) same) (Nat.succ_lt_succ shorter)
  · rintro ⟨before, rest, rfl, starts, earliest⟩
    refine ⟨c :: before, rest, rfl, starts, fun earlier other same shorter => ?_⟩
    cases earlier with
    | nil =>
      obtain rfl : c :: (before ++ rest) = other := same
      exact none
    | cons d earlier =>
      obtain ⟨rfl, tails⟩ := List.cons.inj same
      exact earliest earlier other tails (Nat.lt_of_succ_lt_succ shorter)

theorem not_starts_nil (details : CallerIDDetails) : ¬ details.Starts [] := by
  rintro ⟨_, rest, empty⟩
  simp [written] at empty

/-- `regex_search` finds the leftmost caller ID of the form. -/
theorem search_iff : search text = some details ↔ details.Leftmost text := by
  induction text with
  | nil =>
    constructor
    · simp [search]
    · rintro ⟨before, rest, split, starts, _⟩
      obtain ⟨rfl, rfl⟩ := List.append_eq_nil_iff.mp split.symm
      exact absurd starts (not_starts_nil details)
  | cons c text ih =>
    cases here : matchHere (c :: text) with
    | some found =>
      have starts := matchHere_sound here
      simp only [search, here, Option.some_or, Option.some.injEq]
      constructor
      · rintro rfl
        exact Starts.leftmost starts
      · intro leftmost
        have same := matchHere_complete (leftmost.starts starts)
        exact Option.some.inj (here.symm.trans same)
    | none =>
      simp only [search, here, Option.none_or, ih]
      exact (leftmost_cons (matchHere_none.mp here)).symm

theorem search_none (nowhere : search text = none) (split : text = before ++ rest)
    (details : CallerIDDetails) :
    ¬ details.Starts rest := by
  induction text generalizing before with
  | nil =>
    obtain ⟨rfl, rfl⟩ := List.append_eq_nil_iff.mp split.symm
    exact not_starts_nil details
  | cons c text ih =>
    obtain ⟨here, later⟩ := Option.or_eq_none_iff.mp nowhere
    cases before with
    | nil =>
      obtain rfl : c :: text = rest := split
      exact matchHere_none.mp here details
    | cons d before => exact ih later (List.cons.inj split).2

end CallerIDDetails

open CallerIDDetails

/-- The record has a caller ID whose leftmost part of the form is this one. -/
def Contributes (record : Document) (details : CallerIDDetails) : Prop :=
  ∃ callerId, record.get? "endpoint/callerid" = some callerId ∧ details.Leftmost callerId.toList

/-- A caller ID that is not empty has a part of the form. -/
def Formed (record : Document) : Prop :=
  ∀ callerId, record.get? "endpoint/callerid" = some callerId → callerId ≠ "" →
    ∃ before details after, CallerIDDetails.Valid details ∧
    callerId.toList = before ++ details.written ++ after

theorem callerDetails_of_contributes (contributes : Contributes record details) :
    callerDetails record = some details := by
  obtain ⟨callerId, present, leftmost⟩ := contributes
  have found := search_iff.mpr leftmost
  have nonempty : callerId ≠ "" := by
    rintro rfl
    simp [search] at found
  simp only [callerDetails, present, if_neg nonempty, found, Option.getD_some]

theorem callerDetails_formed (formed : Formed record) :
    callerDetails record = some details ↔ Contributes record details := by
  refine ⟨fun listed => ?_, callerDetails_of_contributes⟩
  cases present : record.get? "endpoint/callerid" with
  | none => simp [callerDetails, present] at listed
  | some callerId =>
    by_cases empty : callerId = ""
    · simp [callerDetails, present, empty] at listed
    obtain ⟨before, details', after, valid, split⟩ := formed callerId present empty
    simp only [callerDetails, present, if_neg empty, Option.some.injEq] at listed
    cases found : search callerId.toList with
    | none =>
      rw [List.append_assoc] at split
      exact absurd ⟨valid, List.prefix_append _ _⟩ (search_none found split details')
    | some first =>
      rw [found, Option.getD_some] at listed
      exact ⟨callerId, present, search_iff.mp (listed ▸ found)⟩

/-- The entry that a caller ID without any part of the form gets all the same. -/
theorem callerDetails_unformed (unformed : ¬ Formed record) :
    callerDetails record = some ⟨"", ""⟩ ∧ ∀ details, ¬ Contributes record details := by
  simp only [Formed, not_forall] at unformed
  obtain ⟨callerId, present, nonempty, nowhere⟩ := unformed
  have missed : search callerId.toList = none := by
    refine Option.eq_none_iff_forall_ne_some.mpr fun details found => nowhere ?_
    obtain ⟨before, rest, split, ⟨valid, after, rfl⟩, _⟩ := search_iff.mp found
    exact ⟨before, details, after, valid, by rw [split, List.append_assoc]⟩
  constructor
  · simp only [callerDetails, present, if_neg nonempty, missed, Option.getD_none]
  · rintro details ⟨callerId', same, leftmost⟩
    obtain rfl := Option.some.inj (present.symm.trans same)
    rw [search_iff.mpr leftmost] at missed
    contradiction

theorem contributes_written {details : CallerIDDetails} (valid : details.Valid)
    (written : record.get? "endpoint/callerid" = some (String.ofList details.written)) :
    Contributes record details :=
  ⟨_, written, by rw [String.toList_ofList]; exact Starts.leftmost ⟨valid, List.prefix_rfl⟩⟩

section Directories
variable [ExpressionInterface]

/-- In the order of the records, one entry for each that matches and has a caller
ID with a part of the form, and none for the others. -/
inductive Directory (match_ : String) (map : SymbolMap) :
    List Document → List CallerIDDetails → Prop where
  | nil : Directory match_ map [] []
  | listed : accepts match_ map record = true → Contributes record details →
      Directory match_ map records data → Directory match_ map (record :: records) (details :: data)
  | passed : (accepts match_ map record = true → ∀ details, ¬ Contributes record details) →
      Directory match_ map records data → Directory match_ map (record :: records) data

/-- The matcher of a provider that has answered these queries. -/
def answered (match_ : String) (map : SymbolMap) (earlier : List Query) : JSONExpressionMatcher :=
  earlier.foldl (fun m query => (getCallerDetails m query).1) (.new match_ map)

theorem ready_foldl (ready : Ready match_ map m) (queries : List Query) :
    Ready match_ map (queries.foldl (fun m query => (getCallerDetails m query).1) m) := by
  induction queries generalizing m with
  | nil => exact ready
  | cons query queries ih => exact ih (ready.getCallerDetails query).1

theorem getCallerDetails_answered (match_ : String) (map : SymbolMap)
    (earlier : List Query) (records : List Document) :
    (getCallerDetails (answered match_ map earlier) (.success records)).2 =
      some (listing match_ map records) :=
  ((ready_foldl (ready_new match_ map) earlier).getCallerDetails (.success records)).2

section Listing
variable {match_ : String} {map : SymbolMap}

theorem listing_cons (record : Document) (records : List Document) :
    listing match_ map (record :: records) = entry (accepts match_ map record) record ++
    listing match_ map records := by
  rw [← listing_singleton, ← listing_append, List.singleton_append]

theorem directory_cons : Directory match_ map (record :: records) data ↔
    (∃ details rest, data = details :: rest ∧ accepts match_ map record = true ∧
      Contributes record details ∧
      Directory match_ map records rest) ∨
    (accepts match_ map record = true → ∀ details, ¬ Contributes record details) ∧
    Directory match_ map records data := by
  constructor
  · intro directory
    cases directory with
    | listed holds contributes rest => exact .inl ⟨_, _, rfl, holds, contributes, rest⟩
    | passed never rest => exact .inr ⟨never, rest⟩
  · rintro (⟨details, rest, rfl, holds, contributes, directory⟩ | ⟨never, directory⟩)
    · exact .listed holds contributes directory
    · exact .passed never directory

theorem directory_listing
    (formed : ∀ record ∈ records, accepts match_ map record = true → Formed record) :
    Directory match_ map records (listing match_ map records) := by
  induction records with
  | nil => exact .nil
  | cons record records ih =>
    have rest := ih fun later member => formed later (List.mem_cons_of_mem _ member)
    rw [listing_cons]
    cases holds : accepts match_ map record with
    | false =>
      exact .passed (fun accepted => absurd (holds.symm.trans accepted) Bool.false_ne_true) rest
    | true =>
      have here := formed record List.mem_cons_self holds
      cases details : callerDetails record with
      | none =>
        rw [entry, if_pos rfl, details]
        refine .passed (fun _ other contributes => ?_) rest
        simp [callerDetails_of_contributes contributes] at details
      | some first =>
        rw [entry, if_pos rfl, details]
        exact .listed holds ((callerDetails_formed here).mp details) rest

/-- Whatever belongs into a directory is in the listing. -/
theorem Directory.length_le (directory : Directory match_ map records data) :
    data.length ≤ (listing match_ map records).length := by
  induction directory with
  | nil => exact Nat.zero_le _
  | listed holds contributes _ ih =>
    rw [listing_cons, entry, if_pos holds, callerDetails_of_contributes contributes]
    simpa using ih
  | passed _ _ ih =>
    rw [listing_cons, List.length_append]
    omega

theorem formed_of_directory
    (directory : Directory match_ map records (listing match_ map records)) :
    ∀ record ∈ records, accepts match_ map record = true → Formed record := by
  induction records with
  | nil => exact List.forall_mem_nil _
  | cons record records ih =>
    rw [listing_cons] at directory
    have first : accepts match_ map record = true → Formed record := by
      intro holds
      by_contra unformed
      obtain ⟨listed, never⟩ := callerDetails_unformed unformed
      rw [entry, if_pos holds, listed] at directory
      obtain ⟨details, _, _, _, contributes, _⟩ | ⟨_, rest⟩ := directory_cons.mp directory
      · exact never details contributes
      · -- the record's own entry is one more than the others make
        have short := rest.length_le
        simp only [Option.toList_some, List.length_append, List.length_singleton] at short
        omega
    have later : Directory match_ map records (listing match_ map records) := by
      obtain ⟨details, rest, split, holds, contributes, directory⟩ | ⟨never, directory⟩ :=
        directory_cons.mp directory
      · rw [entry, if_pos holds, callerDetails_of_contributes contributes] at split
        obtain rfl : listing match_ map records = rest := (List.cons.inj split).2
        exact directory
      · cases holds : accepts match_ map record with
        | false => simpa [holds, entry] using directory
        | true =>
          cases details : callerDetails record with
          | none => simpa [holds, entry, details] using directory
          | some found =>
            exact absurd ((callerDetails_formed (first holds)).mp details) (never holds found)
    exact List.forall_mem_cons.mpr ⟨first, ih later⟩

end Listing

/-- A query lists the directory of its records exactly where every matching
record's caller ID is missing, empty, or has a part of the form; a caller ID that
is written in the form comes back as it is. -/
theorem directory_exact (match_ : String) (map : SymbolMap) (earlier : List Query)
    (records : List Document) :
    ((∃ data, (getCallerDetails (answered match_ map earlier) (.success records)).2 = some data ∧
        Directory match_ map records data) ↔
      ∀ record ∈ records, accepts match_ map record = true → Formed record) ∧
    ∀ (record : Document) (details : CallerIDDetails),
      accepts match_ map record = true → details.Valid →
      record.get? "endpoint/callerid" = some (String.ofList details.written) →
      (getCallerDetails (answered match_ map earlier) (.success [record])).2 = some [details] := by
  simp only [getCallerDetails_answered, Option.some.injEq, exists_eq_left']
  refine ⟨⟨formed_of_directory, directory_listing⟩, fun record details holds valid written => ?_⟩
  rw [listing_singleton, entry, if_pos holds,
    callerDetails_of_contributes (contributes_written valid written)]
  rfl

end Directories

section Unquoted

local instance matchingYes : ExpressionInterface := singleExpression

def unquoted : Document := ⟨[("ec", "yes"), ("endpoint/callerid", "Ann <100>")]⟩

/-- A matching record whose caller ID has no quotes is listed with an empty name
and an empty number. -/
theorem unquoted_listed :
    (getCallerDetails (answered "ec == 'yes'" ⟨[]⟩ []) (.success [unquoted])).2 = some [⟨"", ""⟩] ∧
    ¬ ∃ data, (getCallerDetails (answered "ec == 'yes'" ⟨[]⟩ []) (.success [unquoted])).2 =
      some data ∧
      Directory "ec == 'yes'" ⟨[]⟩ [unquoted] data := by
  have listed : (getCallerDetails (answered "ec == 'yes'" ⟨[]⟩ []) (.success [unquoted])).2 =
      some [⟨"", ""⟩] := rfl
  refine ⟨listed, ?_⟩
  rintro ⟨data, result, directory⟩
  obtain rfl := Option.some.inj (listed.symm.trans result)
  cases directory with
  | listed _ contributes _ =>
    obtain ⟨callerId, present, leftmost⟩ := contributes
    obtain rfl :=
      Option.some.inj
        (present.symm.trans (show unquoted.get? "endpoint/callerid" = some "Ann <100>" from rfl))
    exact absurd (search_iff.mpr leftmost) (by decide)
  | passed _ rest => cases rest

def quoted : Document := ⟨[("ec", "yes"), ("endpoint/callerid", "\"Ann\" <100>")]⟩

theorem directory_exact_quoted :
    (∃ data, (getCallerDetails (answered "ec == 'yes'" ⟨[]⟩ []) (.success [quoted])).2 = some data ∧
      Directory "ec == 'yes'" ⟨[]⟩ [quoted] data) ∧
    (getCallerDetails (answered "ec == 'yes'" ⟨[]⟩ []) (.success [quoted])).2 =
      some [⟨"Ann", "100"⟩] := by
  have valid : (⟨"Ann", "100"⟩ : CallerIDDetails).Valid := ⟨by decide, by decide⟩
  have result := directory_exact "ec == 'yes'" ⟨[]⟩ [] [quoted]
  refine ⟨result.1.mpr ?_, result.2 quoted ⟨"Ann", "100"⟩ rfl valid rfl⟩
  intro record member _ callerId present _
  obtain rfl := List.mem_singleton.mp member
  obtain rfl :=
    Option.some.inj
      (present.symm.trans (show quoted.get? "endpoint/callerid" = some "\"Ann\" <100>" from rfl))
  exact ⟨[], ⟨"Ann", "100"⟩, [], valid, rfl⟩

end Unquoted
end LampMonitor.Phonebook
