import LampMonitor.Spans
import LampMonitor.Xml.Reader

/-! The bytes of a document and the encoding that its declaration names. The
writer hands out UTF-8 whatever the declaration says; a reader that is told
ISO-8859-1 takes every byte for a character. -/
namespace LampMonitor.Xml
open Spans Transition

def Ascii (text : String) : Prop := ∀ c ∈ text.toList, c.toNat < 128

instance (text : String) : Decidable (Ascii text) :=
  inferInstanceAs (Decidable (∀ c ∈ text.toList, c.toNat < 128))

/-- A text as the bytes of a `std::string`. -/
def utf8 (text : String) : List UInt8 := text.toList.flatMap String.utf8EncodeChar

theorem utf8_toByteArray (text : String) : (utf8 text).toByteArray = text.toUTF8 := by
  rw [String.toUTF8_eq_toByteArray, ← String.utf8Encode_toList]
  rfl

def latin1Char (byte : UInt8) : Char := .ofNat byte.toNat

inductive Encoding where
  | utf8
  | latin1
  deriving DecidableEq, Repr

namespace Encoding

def ofName (name : String) : Option Encoding :=
  match String.ofList (name.toList.map Char.toLower) with
  | "utf-8" => some .utf8
  | "iso-8859-1" => some .latin1
  | _ => none

def decode (encoding : Encoding) (bytes : List UInt8) : Option String :=
  match encoding with
  | .utf8 => String.fromUTF8? bytes.toByteArray
  | .latin1 => some (String.ofList (bytes.map latin1Char))

theorem decode_utf8 (text : String) : Encoding.utf8.decode (Xml.utf8 text) = some text := by
  simp only [decode, utf8_toByteArray, String.fromUTF8?, String.toUTF8_eq_toByteArray,
    dif_pos text.isValidUTF8]
  rfl

end Encoding

def encodingOf (declaration : Reader.Attributes) : Option Encoding :=
  match declaration.find? fun a => a.1 = "encoding" with
  | some (_, name) => Encoding.ofName name
  | none => some .utf8

/-- The declaration is ASCII in either encoding and ends with the first `>`. -/
def declaredEncoding (bytes : List UInt8) : Option Encoding :=
  (Reader.machine.run Reader.start ((bytes.takeWhile (· ≠ 62)).map latin1Char ++ ['>'])).bind
    fun s => encodingOf s.declaration

def decode (bytes : List UInt8) : Option Document :=
  (declaredEncoding bytes).bind fun encoding =>
    (encoding.decode bytes).bind fun text => Reader.read text.toList

theorem utf8EncodeChar_ascii {c : Char} (ascii : c.toNat < 128) :
    String.utf8EncodeChar c = [UInt8.ofNat c.toNat] := by
  have small : c.val.toNat ≤ 127 := Nat.le_of_lt_succ ascii
  unfold String.utf8EncodeChar
  exact if_pos small

theorem latin1Char_toNat (byte : UInt8) : (latin1Char byte).toNat = byte.toNat := by
  have valid : byte.toNat.isValidChar := .inl (byte.toNat_lt.trans (by decide))
  rw [latin1Char, Char.ofNat, dif_pos valid]
  rfl

theorem latin1Char_ascii {c : Char} (ascii : c.toNat < 128) :
    latin1Char (UInt8.ofNat c.toNat) = c := by
  have small : c.toNat % 256 = c.toNat := Nat.mod_eq_of_lt (by omega)
  rw [latin1Char, UInt8.toNat_ofNat', small, Char.ofNat_toNat]

/-- Outside ASCII every byte is above it, and there is more than one. -/
theorem utf8EncodeChar_high {c : Char} (high : ¬ c.toNat < 128) :
    (∀ byte ∈ String.utf8EncodeChar c, 128 ≤ byte.toNat) ∧
    2 ≤ (String.utf8EncodeChar c).length := by
  have large : ¬ c.val.toNat ≤ 127 := fun small => high (Nat.lt_succ_of_le small)
  unfold String.utf8EncodeChar
  simp only [if_neg large]
  split
  · simp
    omega
  · split
    · simp
      omega
    · simp
      omega

/-! What a text reads as where its bytes are taken for characters. -/

def misreadChar (c : Char) : List Char := (String.utf8EncodeChar c).map latin1Char

def misread (text : String) : String := String.ofList (text.toList.flatMap misreadChar)

theorem decode_latin1 (text : String) :
    Encoding.latin1.decode (utf8 text) = some (misread text) := by
  simp only [Encoding.decode, utf8, misread, List.map_flatMap]
  rfl

theorem misreadChar_ascii {c : Char} (ascii : c.toNat < 128) : misreadChar c = [c] := by
  rw [misreadChar, utf8EncodeChar_ascii ascii, List.map_singleton, latin1Char_ascii ascii]

theorem misreadChar_high {c : Char} (high : ¬ c.toNat < 128) :
    (∀ d ∈ misreadChar c, ¬ d.toNat < 128) ∧ 2 ≤ (misreadChar c).length := by
  obtain ⟨bytes, length⟩ := utf8EncodeChar_high high
  refine ⟨fun d member => ?_, by rwa [misreadChar, List.length_map]⟩
  obtain ⟨byte, encoded, rfl⟩ := List.mem_map.mp member
  have above := bytes byte encoded
  rw [latin1Char_toNat]
  exact Nat.not_lt.mpr (bytes byte encoded)

theorem flatMap_misreadChar {text : List Char} (ascii : ∀ c ∈ text, c.toNat < 128) :
    text.flatMap misreadChar = text := by
  induction text with
  | nil => rfl
  | cons c text ih =>
    obtain ⟨here, later⟩ := List.forall_mem_cons.mp ascii
    rw [List.flatMap_cons, misreadChar_ascii here, ih later, List.singleton_append]

theorem length_flatMap_misreadChar (text : List Char) :
    text.length ≤ (text.flatMap misreadChar).length := by
  induction text with
  | nil => simp
  | cons c text ih =>
    rw [List.flatMap_cons, List.length_append, List.length_cons]
    by_cases ascii : c.toNat < 128
    · rw [misreadChar_ascii ascii, List.length_singleton]
      omega
    · have long := (misreadChar_high ascii).2
      omega

theorem flatMap_misreadChar_eq_self {text : List Char} :
    text.flatMap misreadChar = text ↔ ∀ c ∈ text, c.toNat < 128 := by
  refine ⟨fun same => ?_, flatMap_misreadChar⟩
  induction text with
  | nil => exact List.forall_mem_nil _
  | cons c text ih =>
    rw [List.flatMap_cons] at same
    by_cases ascii : c.toNat < 128
    · rw [misreadChar_ascii ascii] at same
      exact List.forall_mem_cons.mpr ⟨ascii, ih (List.cons.inj same).2⟩
    · have long := (misreadChar_high ascii).2
      have rest := length_flatMap_misreadChar text
      have total := congrArg List.length same
      rw [List.length_append, List.length_cons] at total
      omega

theorem misread_eq_self : misread text = text ↔ Ascii text := by
  rw [Ascii, ← flatMap_misreadChar_eq_self, misread, ← String.toList_inj, String.toList_ofList]

theorem misread_append (first second : String) :
    misread (first ++ second) = misread first ++ misread second := by
  simp [misread]

/-- References are ASCII, and stand for ASCII: a misread character of another kind
is no markup. -/
theorem flatMap_reference {reference : Char → List Char}
    (ascii : ∀ c : Char, c.toNat < 128 → ∀ d ∈ reference c, d.toNat < 128)
    (high : ∀ c : Char, ¬ c.toNat < 128 → reference c = [c]) (text : List Char) :
    (text.flatMap reference).flatMap misreadChar =
      (text.flatMap misreadChar).flatMap reference := by
  rw [List.flatMap_assoc, List.flatMap_assoc]
  refine congrArg (List.flatMap · text) (funext fun c => ?_)
  by_cases small : c.toNat < 128
  · rw [misreadChar_ascii small, List.flatMap_singleton, flatMap_misreadChar (ascii c small)]
  · have kept : (misreadChar c).flatMap reference = (misreadChar c).flatMap fun d => [d] :=
      List.flatMap_congr fun d member => high d ((misreadChar_high small).1 d member)
    rw [high c small, List.flatMap_singleton, kept, List.flatMap_singleton']

theorem ne_of_high {c d : Char} (high : ¬ c.toNat < 128) (ascii : d.toNat < 128) : c ≠ d := by
  rintro rfl
  exact high ascii

theorem misread_escapeText (text : String) :
    misread (escapeText text) = escapeText (misread text) := by
  rw [← String.toList_inj, Reader.escapeText_toList, misread, misread, String.toList_ofList,
    String.toList_ofList, Reader.escapeText_toList]
  refine flatMap_reference (fun c ascii => ?_) (fun c high => ?_) text.toList
  · unfold Reader.textReference
    repeat' split
    · decide
    · decide
    · decide
    · simpa using ascii
  · have amp := ne_of_high (d := '&') high (by decide)
    have lt := ne_of_high (d := '<') high (by decide)
    have gt := ne_of_high (d := '>') high (by decide)
    simp [Reader.textReference, amp, lt, gt]

theorem misread_escapeAttribute (text : String) :
    misread (escapeAttribute text) = escapeAttribute (misread text) := by
  rw [← String.toList_inj, Reader.escapeAttribute_toList, misread, misread, String.toList_ofList,
    String.toList_ofList, Reader.escapeAttribute_toList]
  refine flatMap_reference (fun c ascii => ?_) (fun c high => ?_) text.toList
  · unfold Reader.valueReference
    repeat' split
    · decide
    · decide
    · decide
    · simpa using ascii
  · have amp := ne_of_high (d := '&') high (by decide)
    have lt := ne_of_high (d := '<') high (by decide)
    have quot := ne_of_high (d := '"') high (by decide)
    simp [Reader.valueReference, amp, lt, quot]

/-! A document whose names are ASCII is misread in its texts and values alone. -/

mutual
def mapText (f : String → String) : Xml → Xml
  | .pcdata text => .pcdata (f text)
  | .element name attributes children =>
    .element name (attributes.map fun a => (a.1, f a.2)) (mapTextAll f children)

def mapTextAll (f : String → String) : List Xml → List Xml
  | [] => []
  | child :: children => mapText f child :: mapTextAll f children
end

theorem mapTextAll_eq (f : String → String) (children : List Xml) :
    mapTextAll f children = children.map (mapText f) := by
  induction children with
  | nil => simp [mapTextAll]
  | cons child children ih => simp [mapTextAll, ih]

inductive AsciiNames : Xml → Prop where
  | pcdata : AsciiNames (.pcdata text)
  | element : Ascii name → (∀ a ∈ attributes, Ascii a.1) → (∀ child ∈ children, AsciiNames child) →
      AsciiNames (.element name attributes children)

theorem misread_rawAttributes {attributes : Reader.Attributes}
    (ascii : ∀ a ∈ attributes, Ascii a.1) :
    misread (rawAttributes attributes) =
      rawAttributes (attributes.map fun a => (a.1, misread a.2)) := by
  induction attributes with
  | nil => rfl
  | cons a attributes ih =>
    obtain ⟨here, later⟩ := List.forall_mem_cons.mp ascii
    simp only [List.map_cons, Reader.rawAttributes_cons a.1 a.2, Reader.rawAttributes_cons,
      misread_append, misread_eq_self.mpr here, misread_escapeAttribute, ih later]
    rfl

theorem rawAll_map {f : Xml → Xml}
    (each : ∀ child ∈ children, misread (raw child) = raw (f child)) :
    misread (rawAll children) = rawAll (children.map f) := by
  induction children with
  | nil => rfl
  | cons child children ih =>
    obtain ⟨here, later⟩ := List.forall_mem_cons.mp each
    rw [rawAll, misread_append, here, ih later, List.map_cons, rawAll]

theorem misread_raw (ascii : AsciiNames x) : misread (raw x) = raw (mapText misread x) := by
  induction ascii with
  | pcdata => rw [mapText, raw, raw, misread_escapeText]
  | @element name attributes children named attributed _ ih =>
    rw [mapText, mapTextAll_eq]
    by_cases none : children = []
    · subst none
      rw [List.map_nil, raw, raw, misread_append, misread_append, misread_append,
        misread_eq_self.mpr named, misread_rawAttributes attributed]
      rfl
    · rw [Reader.raw_element name attributes none, Reader.raw_element name _ (by simpa using none)]
      simp only [misread_append, misread_eq_self.mpr named, misread_rawAttributes attributed,
        rawAll_map ih]
      rfl

/-! The declaration is read in the same way, whatever it says. -/

/-- A declaration without markup in its values. -/
def Declares (declaration : Reader.Attributes) : Prop :=
  declaration ≠ [] ∧ (∀ a ∈ declaration, Reader.Name a.1) ∧
    ∀ c ∈ (rawAttributes declaration).toList, c.toNat < 128 ∧ c ≠ '>'

theorem utf8_ascii {text : String} (ascii : Ascii text) :
    utf8 text = text.toList.map fun c => UInt8.ofNat c.toNat := by
  rw [utf8, ← List.flatMap_pure_eq_map]
  exact List.flatMap_congr fun c member => utf8EncodeChar_ascii (ascii c member)

theorem declaredEncoding_raw (document : Document) (declares : Declares document.declaration) :
    declaredEncoding (utf8 document.raw) = encodingOf document.declaration := by
  obtain ⟨declared, named, plain⟩ := declares
  let head := "<?xml" ++ rawAttributes document.declaration ++ "?"
  have ascii : ∀ c ∈ head.toList, c.toNat < 128 ∧ c ≠ '>' := by
    intro c member
    simp only [head, String.toList_append, List.mem_append] at member
    rcases member with (opened | attribute_) | closed
    · revert c
      decide
    · exact plain c attribute_
    · revert c
      decide
  have whole : utf8 document.raw = head.toList.map (fun c => UInt8.ofNat c.toNat) ++
      62 :: utf8 document.root.raw := by
    rw [← utf8_ascii fun c member => (ascii c member).1]
    simp [Document.raw, head, utf8, String.toList_append]
    rfl
  have before : ∀ byte ∈ head.toList.map (fun c => UInt8.ofNat c.toNat),
      decide (byte ≠ 62) = true := by
    refine List.forall_mem_map.mpr fun c member => decide_eq_true fun last => (ascii c member).2 ?_
    rw [← latin1Char_ascii (ascii c member).1, last]
    rfl
  have kept : (head.toList.map fun c => UInt8.ofNat c.toNat).map latin1Char = head.toList := by
    rw [List.map_map]
    refine (List.map_congr_left fun c member => ?_).trans (List.map_id head.toList)
    exact latin1Char_ascii (ascii c member).1
  have closed : head.toList ++ ['>'] =
      ("<?xml" ++ rawAttributes document.declaration ++ "?>").toList := by
    simp [head, String.toList_append]
  rw [declaredEncoding, whole, takeWhile_stop before (c := 62) rfl, kept, closed,
    Reader.run_declaration declared named, Option.bind_some]

/-- Under a declaration of UTF-8 the reader sees the text that was written. -/
theorem decode_of_utf8 (document : Document) (declares : Declares document.declaration)
    (encoding : encodingOf document.declaration = some .utf8) :
    decode (utf8 document.raw) = Reader.read document.raw.toList := by
  rw [decode, declaredEncoding_raw document declares, encoding, Option.bind_some,
    Encoding.decode_utf8, Option.bind_some]

/-- Under one of ISO-8859-1 it sees the document with its texts misread. -/
theorem decode_of_latin1 (document : Document) (declares : Declares document.declaration)
    (encoding : encodingOf document.declaration = some .latin1) (ascii : AsciiNames document.root) :
    decode (utf8 document.raw) =
      Reader.read (Document.raw ⟨document.declaration, mapText misread document.root⟩).toList := by
  have declaration : Ascii (rawAttributes document.declaration) :=
    fun c member => (declares.2.2 c member).1
  have text : misread document.raw =
      Document.raw ⟨document.declaration, mapText misread document.root⟩ := by
    rw [Document.raw, misread_append, misread_append, misread_append,
      misread_eq_self.mpr declaration, misread_raw ascii]
    rfl
  rw [decode, declaredEncoding_raw document declares, encoding, Option.bind_some, decode_latin1,
    Option.bind_some, text]

end LampMonitor.Xml
