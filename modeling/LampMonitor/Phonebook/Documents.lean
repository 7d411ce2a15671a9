import LampMonitor.Phonebook.Phonebook
import LampMonitor.Xml.Encoding

/-! What a phone reads in the bytes of a directory. Both renderers hand out the
UTF-8 text of pugixml; the Yealink one declares it as ISO-8859-1. -/
namespace LampMonitor.Phonebook
open Bridge Xml

namespace PhonebookType

/-! The entries of a directory, as its format names them. -/

def text (content : List Xml) : String :=
  String.join (content.map fun
    | .pcdata text => text
    | .element _ _ _ => "")

def field? (name : String) (fields : List Xml) : Option String :=
  fields.findSome? fun
    | .element tag _ content => if tag = name then some (text content) else none
    | .pcdata _ => none

def readEntry (item name number : String) : Xml → Option CallerIDDetails
  | .element tag _ fields =>
    if tag = item then (field? name fields).bind fun name =>
      (field? number fields).map fun number => ⟨name, number⟩
    else none
  | .pcdata _ => none

def readEntries (type : PhonebookType) (root : Xml) : Option (List CallerIDDetails) :=
  match type, root with
  | .yealink, .element "YealinkIPPhoneDirectory" _ items =>
    items.mapM (readEntry "DirectoryEntry" "Name" "Telephone")
  | .snom, .element "settings" _ [.element "tbook" _ items] =>
    items.mapM (readEntry "item" "first_name" "number")
  | _, _ => none

/-- The entries of a document in the encoding that it declares. -/
def decodeEntries (type : PhonebookType) (bytes : List UInt8) : Option (List CallerIDDetails) :=
  (decode bytes).bind fun document => type.readEntries document.root

/-- The virtual `getPhonebook` for what the source lists. -/
def getPhonebook [LibraryInterface] (type : PhonebookType)
    (details : List CallerIDDetails) : String :=
  LibraryInterface.save (type.document details)

/-- The text of a field whose text node the reader leaves out when it is empty. -/
theorem text_tidied (content : String) :
    text (if content = "" then [] else [.pcdata content]) = content := by
  by_cases empty : content = ""
  · simp [text, empty]
  · simp [text, empty]

theorem mapM_entries {read : Xml → Option CallerIDDetails} {item : CallerIDDetails → Xml}
    (each : ∀ detail, read (item detail) = some detail) (details : List CallerIDDetails) :
    (details.map item).mapM read = some details := by
  induction details with
  | nil => rfl
  | cons detail details ih => simp [List.mapM_cons, each, ih]

/-- An item of text fields. -/
theorem plain_item (named : Reader.Name item) (fields : List (String × String))
    (each : ∀ field ∈ fields, Reader.Name field.1) :
    Reader.Plain (.element item [] (fields.map fun field => textNode field.1 field.2)) := by
  refine .elements named (List.forall_mem_nil _) (List.forall_mem_map.mpr fun field member => ?_)
  exact .text (each field member) (List.forall_mem_nil _)

theorem plain_yealink (details : List CallerIDDetails) :
    ∀ item ∈ details.map (fun detail => Xml.element "DirectoryEntry" []
      [textNode "Name" detail.name, textNode "Telephone" detail.number]), Reader.Plain item :=
  List.forall_mem_map.mpr fun detail _ =>
    plain_item (by decide) [("Name", detail.name), ("Telephone", detail.number)] (by simp; decide)

theorem plain_snom (details : List CallerIDDetails) :
    ∀ item ∈ details.map (fun detail => Xml.element "item" []
      [textNode "first_name" detail.name, textNode "number" detail.number,
        textNode "number_type" "work"]),
    Reader.Plain item :=
  List.forall_mem_map.mpr fun detail _ =>
    plain_item (by decide)
      [("first_name", detail.name), ("number", detail.number), ("number_type", "work")]
      (by simp; decide)

theorem plain_document (type : PhonebookType) (details : List CallerIDDetails) :
    Reader.Plain (type.document details).root := by
  cases type with
  | yealink => exact .elements (by decide) (List.forall_mem_nil _) (plain_yealink details)
  | snom =>
    refine .elements (by decide) (List.forall_mem_nil _) (List.forall_mem_singleton.mpr ?_)
    exact .elements (by decide) (List.forall_mem_nil _) (plain_snom details)

theorem readEntries_document (type : PhonebookType) (details : List CallerIDDetails) :
    type.readEntries (Reader.tidy (type.document details).root) = some details := by
  cases type with
  | yealink =>
    rw [document, Reader.tidy, Reader.tidyAll_elements (plain_yealink details), List.map_map]
    refine mapM_entries (fun detail => ?_) details
    simp [Reader.tidy, Reader.tidyAll, Reader.isEmptyText, textNode, readEntry, field?, text_tidied]
  | snom =>
    rw [document, Reader.tidy, Reader.tidyAll_element, Reader.tidyAll_elements (plain_snom details),
      Reader.tidyAll, List.map_map]
    refine mapM_entries (fun detail => ?_) details
    simp [Reader.tidy, Reader.tidyAll, Reader.isEmptyText, textNode, readEntry, field?, text_tidied]

/-- Names as a caller ID has them, and numbers. -/
structure Sayable (detail : CallerIDDetails) : Prop where
  name : ∀ c ∈ detail.name.toList, 32 ≤ c.toNat
  number : ∀ c ∈ detail.number.toList, c.isDigit = true

theorem printable_textNode (printable : ∀ c ∈ content.toList, 32 ≤ c.toNat) (name : String) :
    Xml.Printable (textNode name content) :=
  .element (List.forall_mem_nil _) (List.forall_mem_singleton.mpr (.pcdata printable))

theorem ascii_of_isDigit {c : Char} (digit : c.isDigit = true) : 32 ≤ c.toNat ∧ c.toNat < 128 := by
  simp only [Char.isDigit, Bool.and_eq_true, decide_eq_true_eq, UInt32.le_iff_toNat_le] at digit
  exact ⟨Nat.le_trans (by decide) digit.1, Nat.lt_of_le_of_lt digit.2 (by decide)⟩

theorem declaration_document (type : PhonebookType) (details : List CallerIDDetails) :
    (type.document details).declaration = (type.document []).declaration := by
  cases type <;> rfl

theorem printable_declaration (type : PhonebookType) :
    ∀ a ∈ (type.document []).declaration, ∀ c ∈ a.2.toList, 32 ≤ c.toNat := by
  cases type <;> decide

theorem declares_document (type : PhonebookType) (details : List CallerIDDetails) :
    Declares (type.document details).declaration := by
  rw [declaration_document]
  cases type with
  | yealink => exact ⟨by decide, by decide, by decide⟩
  | snom => exact ⟨by decide, by decide, by decide⟩

theorem printable_document (type : PhonebookType) (sayable : ∀ detail ∈ details, Sayable detail) :
    (type.document details).Printable := by
  have number : ∀ detail ∈ details, ∀ c ∈ detail.number.toList, 32 ≤ c.toNat :=
    fun detail member c digit =>
    (ascii_of_isDigit ((sayable detail member).number c digit)).1
  cases type with
  | yealink =>
    refine ⟨printable_declaration .yealink,
      .element (List.forall_mem_nil _) (List.forall_mem_map.mpr fun detail member => ?_)⟩
    refine .element (List.forall_mem_nil _)
      (List.forall_mem_cons.mpr ⟨printable_textNode (sayable detail member).name _, ?_⟩)
    exact List.forall_mem_singleton.mpr (printable_textNode (number detail member) _)
  | snom =>
    refine ⟨printable_declaration .snom,
      .element (List.forall_mem_nil _) (List.forall_mem_singleton.mpr ?_)⟩
    refine .element (List.forall_mem_nil _) (List.forall_mem_map.mpr fun detail member => ?_)
    refine .element (List.forall_mem_nil _)
      (List.forall_mem_cons.mpr ⟨printable_textNode (sayable detail member).name _, ?_⟩)
    refine List.forall_mem_cons.mpr ⟨printable_textNode (number detail member) _, ?_⟩
    exact List.forall_mem_singleton.mpr (printable_textNode (by decide) _)

theorem read_document (type : PhonebookType) (details : List CallerIDDetails) :
    ((Reader.read (type.document details).raw.toList).bind fun document =>
      type.readEntries document.root) = some details := by
  obtain ⟨declared, named, _⟩ := declares_document type details
  rw [Reader.read_raw _ declared named (plain_document type details), Option.bind_some,
    readEntries_document]

def misreadDetails (detail : CallerIDDetails) : CallerIDDetails :=
  ⟨misread detail.name, misread detail.number⟩

theorem mapText_yealink (details : List CallerIDDetails) :
    mapText misread (PhonebookType.yealink.document details).root =
      (PhonebookType.yealink.document (details.map misreadDetails)).root := by
  simp [document, mapText, mapTextAll_eq, mapTextAll, textNode, misreadDetails, Function.comp_def]

theorem asciiNames_yealink (details : List CallerIDDetails) :
    AsciiNames (PhonebookType.yealink.document details).root := by
  have field : ∀ {name content : String}, Ascii name → AsciiNames (textNode name content) :=
    fun ascii =>
    .element ascii (List.forall_mem_nil _) (List.forall_mem_singleton.mpr .pcdata)
  refine .element (by decide) (List.forall_mem_nil _) (List.forall_mem_map.mpr fun detail _ => ?_)
  refine .element (by decide) (List.forall_mem_nil _)
    (List.forall_mem_cons.mpr ⟨field (by decide), ?_⟩)
  exact List.forall_mem_singleton.mpr (field (by decide))

theorem decodeEntries_snom (details : List CallerIDDetails) :
    PhonebookType.snom.decodeEntries (utf8 (PhonebookType.snom.document details).raw) =
      some details := by
  have encoding : encodingOf (PhonebookType.snom.document details).declaration = some .utf8 := by
    rw [declaration_document]
    decide
  rw [decodeEntries, decode_of_utf8 _ (declares_document .snom details) encoding, read_document]

theorem decodeEntries_yealink (details : List CallerIDDetails) :
    PhonebookType.yealink.decodeEntries (utf8 (PhonebookType.yealink.document details).raw) =
      some (details.map misreadDetails) := by
  have encoding : encodingOf (PhonebookType.yealink.document details).declaration =
      some .latin1 := by
    rw [declaration_document]
    decide
  rw [decodeEntries,
    decode_of_latin1 _ (declares_document .yealink details) encoding (asciiNames_yealink details),
    mapText_yealink]
  exact read_document .yealink (details.map misreadDetails)

theorem misreadDetails_eq_self (sayable : Sayable detail) : misreadDetails detail = detail ↔
    Ascii detail.name := by
  have number : misread detail.number = detail.number :=
    misread_eq_self.mpr fun c member => (ascii_of_isDigit (sayable.number c member)).2
  rw [misreadDetails, number, ← misread_eq_self]
  constructor
  · exact congrArg CallerIDDetails.name
  · intro same
    rw [same]

theorem map_misreadDetails {details : List CallerIDDetails}
    (sayable : ∀ detail ∈ details, Sayable detail) :
    details.map misreadDetails = details ↔ ∀ detail ∈ details, Ascii detail.name := by
  have each := List.map_inj_left (f := misreadDetails) (g := id) (l := details)
  rw [List.map_id] at each
  exact each.trans
    (forall₂_congr fun detail member => misreadDetails_eq_self (sayable detail member))

/-- The bytes of a directory decode to what was put in exactly for Snom phones
and for names in ASCII. -/
theorem decodeEntries_exact [LibraryInterface] (saved : SavesRaw)
    (type : PhonebookType) (details : List CallerIDDetails)
    (sayable : ∀ detail ∈ details, Sayable detail) :
    type.decodeEntries (utf8 (type.getPhonebook details)) = some details ↔
      type = .snom ∨ ∀ detail ∈ details, Ascii detail.name := by
  rw [getPhonebook, saved _ (printable_document type sayable)]
  cases type with
  | snom => simp only [decodeEntries_snom, true_or]
  | yealink =>
    rw [decodeEntries_yealink, Option.some.injEq, map_misreadDetails sayable]
    simp

end PhonebookType

section Umlaut

local instance rawPhonebooks : LibraryInterface := sequentialInterface

/-- One entry with a name outside ASCII. -/
def jorg : List CallerIDDetails := [⟨"Jörg", "100"⟩]

theorem jorg_sayable : ∀ detail ∈ jorg, PhonebookType.Sayable detail :=
  List.forall_mem_singleton.mpr ⟨by decide, by decide⟩

theorem yealink_misreads_name :
    PhonebookType.yealink.decodeEntries (utf8 (PhonebookType.yealink.getPhonebook jorg)) =
      some [⟨"JÃ¶rg", "100"⟩] ∧
    PhonebookType.yealink.decodeEntries
      (utf8 (PhonebookType.yealink.getPhonebook jorg)) ≠ some jorg := by
  have read : PhonebookType.yealink.decodeEntries (utf8 (PhonebookType.yealink.getPhonebook jorg)) =
      some (jorg.map PhonebookType.misreadDetails) := PhonebookType.decodeEntries_yealink jorg
  rw [read]
  exact ⟨by decide, by decide⟩

theorem decodeEntries_exact_jorg :
    PhonebookType.snom.decodeEntries (utf8 (PhonebookType.snom.getPhonebook jorg)) = some jorg :=
  (PhonebookType.decodeEntries_exact (fun _ _ => rfl) .snom jorg jorg_sayable).mpr (.inl rfl)

end Umlaut
end LampMonitor.Phonebook
