import LampMonitor.Bridge.Deskphone
import LampMonitor.Bridge.ParkMenu
import LampMonitor.Phonebook.Documents

/-! A phone at the park button: it reads the menu, asks for the details of a line
with the selection that it read, and shows them. Both pages are written in UTF-8
under a declaration of ISO-8859-1. -/
namespace LampMonitor.Bridge.ParkMenu
open Ami Xml
open Phonebook.PhonebookType (field? text_tidied plain_item)

section Writing

/-- Text without control characters other than line breaks. -/
def Lines (text : String) : Prop := ∀ c ∈ text.toList, 32 ≤ c.toNat ∨ c.toNat = 10

instance (text : String) : Decidable (Lines text) :=
  Spans.decidableText (fun c => 32 ≤ c.toNat ∨ c.toNat = 10) text.toList

theorem lines_append {a b : String} : Lines (a ++ b) ↔ Lines a ∧ Lines b := by
  simp only [Lines, String.toList_append, List.forall_mem_append]

/-- Like `Xml.Printable`, with line breaks in the texts. -/
inductive Lined : Xml → Prop where
  | pcdata : Lines content → Lined (.pcdata content)
  | element : (∀ a ∈ attributes, ∀ c ∈ a.2.toList, 32 ≤ c.toNat) → (∀ child ∈ content, Lined child) →
      Lined (.element name attributes content)

/-- What is assumed of `save`: pugixml also writes the line breaks of a text as they are. -/
def SavesLines [LibraryInterface] : Prop :=
  ∀ document : Document, (∀ a ∈ document.declaration, ∀ c ∈ a.2.toList, 32 ≤ c.toNat) →
    Lined document.root → LibraryInterface.save document = document.raw

end Writing

section Reading

structure MenuLine where
  prompt : String
  uri : String
  dial : String
  selection : String

def readLine : Xml → Option MenuLine
  | .element "MenuItem" _ fields =>
    (field? "Prompt" fields).bind fun prompt => (field? "URI" fields).bind fun uri =>
      (field? "Dial" fields).bind fun dial => (field? "Selection" fields).map fun selection =>
        ⟨prompt, uri, dial, selection⟩
  | _ => none

/-- The lines of a menu; a message has none. -/
def readMenu (bytes : List UInt8) : Option (List MenuLine) :=
  (decode bytes).bind fun screen =>
    match screen.root with
    | .element "YealinkIPPhoneTextMenu" _ (_ :: items) => items.mapM readLine
    | .element "YealinkIPPhoneTextScreen" _ _ => some []
    | _ => none

def readMessage (bytes : List UInt8) : Option String :=
  (decode bytes).bind fun screen =>
    match screen.root with
    | .element "YealinkIPPhoneTextScreen" _ content => field? "Text" content
    | _ => none

/-- What a phone shows of the menu, and then for each of its lines. -/
def dialogue [LibraryInterface] (button : ParkButton) (before after : KeyValDict → List KeyValDict) :
    Option (List (MenuLine × String)) :=
  (readMenu (utf8 (LibraryInterface.save (button.pushButton before)))).bind fun lines =>
    lines.mapM fun line =>
      (readMessage (utf8 (LibraryInterface.save (button.pushButtonExten after line.selection)))).map (line, ·)

end Reading

section Pages

def MenuLine.item (line : MenuLine) : Xml :=
  .element "MenuItem" [] [.element "Prompt" [] [.pcdata line.prompt], .element "URI" [] [.pcdata line.uri],
    .element "Dial" [] [.pcdata line.dial], .element "Selection" [] [.pcdata line.selection]]

/-- The line of a call. -/
def menuLine (button : ParkButton) (call : KeyValDict) : MenuLine where
  prompt := call.get "ParkeeCallerIDName" ++ "\n" ++ call.get "ParkeeCallerIDNum"
  uri := button.parkedCallInfoUri
  dial := call.get "ParkingSpace"
  selection := call.get "ParkingSpace"

def MenuLine.misread (line : MenuLine) : MenuLine :=
  ⟨Xml.misread line.prompt, Xml.misread line.uri, Xml.misread line.dial, Xml.misread line.selection⟩

theorem MenuLine.misread_eq_self {line : MenuLine} : line.misread = line ↔
    Ascii line.prompt ∧ Ascii line.uri ∧ Ascii line.dial ∧ Ascii line.selection := by
  cases line
  simp only [MenuLine.misread, MenuLine.mk.injEq, Xml.misread_eq_self]

/-- The message for a selection. -/
def message (button : ParkButton) (invoke : KeyValDict → List KeyValDict) (parkExten : String) : String :=
  ((lotCalls invoke button).find? fun call => call.get "ParkingSpace" = parkExten).elim
    ("No parked call at extension " ++ parkExten ++ ".") details

theorem declares_declaration : Declares declaration := ⟨by decide, by decide, by decide⟩

theorem printable_declaration : ∀ a ∈ declaration, ∀ c ∈ a.2.toList, 32 ≤ c.toNat := by decide

/-- What the phone makes of a page: its texts misread, but for empty ones. -/
theorem decode_page (ascii : AsciiNames root) (plain : Reader.Plain (mapText misread root)) :
    decode (utf8 (Document.raw ⟨declaration, root⟩)) =
      some ⟨declaration, Reader.tidy (mapText misread root)⟩ := by
  obtain ⟨declared, named, _⟩ := declares_declaration
  have encoding : encodingOf declaration = some .latin1 := by decide
  rw [decode_of_latin1 _ declares_declaration encoding ascii,
    Reader.read_raw _ declared named plain]

theorem asciiNames_text {name content : String} (ascii : Ascii name)
    (attributed : ∀ a ∈ attributes, Ascii a.1) :
    AsciiNames (.element name attributes [.pcdata content]) :=
  .element ascii attributed (List.forall_mem_singleton.mpr .pcdata)

theorem asciiNames_item (line : MenuLine) : AsciiNames line.item := by
  refine .element (by decide) (List.forall_mem_nil _) ?_
  simp only [List.forall_mem_cons]
  exact ⟨asciiNames_text (by decide) (List.forall_mem_nil _),
    asciiNames_text (by decide) (List.forall_mem_nil _),
    asciiNames_text (by decide) (List.forall_mem_nil _),
    asciiNames_text (by decide) (List.forall_mem_nil _), List.forall_mem_nil _⟩

theorem plain_lineItem (line : MenuLine) : Reader.Plain line.item :=
  plain_item (by decide) [("Prompt", line.prompt), ("URI", line.uri), ("Dial", line.dial),
    ("Selection", line.selection)] (by simp; decide)

theorem readLine_item (line : MenuLine) : readLine (Reader.tidy line.item) = some line := by
  simp [MenuLine.item, Reader.tidy, Reader.tidyAll, Reader.isEmptyText, readLine, field?,
    text_tidied]

theorem mapText_item (line : MenuLine) : mapText misread line.item = line.misread.item := by
  simp [MenuLine.item, MenuLine.misread, mapText, mapTextAll]

def menu (title : String) (lines : List MenuLine) : Xml :=
  .element "YealinkIPPhoneTextMenu" [("style", "none"), ("Beep", "no"), ("Timeout", "10")]
    (.element "Title" [("wrap", "no")] [.pcdata title] :: lines.map MenuLine.item)

theorem mapText_menu (title : String) (lines : List MenuLine) :
    mapText misread (menu title lines) = menu (misread title) (lines.map MenuLine.misread) := by
  have values : misread "none" = "none" ∧ misread "no" = "no" ∧ misread "10" = "10" :=
    ⟨misread_eq_self.mpr (by decide), misread_eq_self.mpr (by decide),
      misread_eq_self.mpr (by decide)⟩
  obtain ⟨style, no, timeout⟩ := values
  simp [menu, mapText, mapTextAll, mapTextAll_eq, Function.comp_def, mapText_item, style, no,
    timeout]

theorem plain_menu (title : String) (lines : List MenuLine) : Reader.Plain (menu title lines) := by
  refine .elements (by decide) (by decide)
    (List.forall_mem_cons.mpr ⟨.text (by decide) (by decide), ?_⟩)
  exact List.forall_mem_map.mpr fun line _ => plain_lineItem line

theorem readMenu_raw (title : String) (lines : List MenuLine) :
    readMenu (utf8 (Document.raw ⟨declaration, menu title lines⟩)) =
      some (lines.map MenuLine.misread) := by
  have ascii : AsciiNames (menu title lines) := by
    refine .element (by decide) (by decide)
      (List.forall_mem_cons.mpr ⟨asciiNames_text (by decide) (by decide), ?_⟩)
    exact List.forall_mem_map.mpr fun line _ => asciiNames_item line
  have plain := plain_menu (misread title) (lines.map MenuLine.misread)
  have items : ∀ item ∈ (lines.map MenuLine.misread).map MenuLine.item, Reader.Plain item :=
    List.forall_mem_map.mpr fun line _ => plain_lineItem line
  rw [readMenu, decode_page ascii (mapText_menu title lines ▸ plain), mapText_menu,
    Option.bind_some, menu, Reader.tidy, Reader.tidyAll_element, Reader.tidyAll_elements items]
  have each : (readLine ∘ Reader.tidy) ∘ MenuLine.item = fun line => pure line :=
    funext readLine_item
  change (((lines.map MenuLine.misread).map MenuLine.item).map Reader.tidy).mapM readLine = _
  rw [List.mapM_map, List.mapM_map, each, List.mapM_pure]
  rw [List.map_id']
  rfl

/-- A message page has the text that was meant, misread. -/
theorem decode_message (beep : Bool) (timeout : UInt8) (title text : String) :
    ∃ attributes content, decode (utf8 (createMessageXML beep timeout title text).raw) =
      some ⟨declaration, .element "YealinkIPPhoneTextScreen" attributes content⟩ ∧
      field? "Text" content = some (misread text) := by
  have page : ∀ (attributes : List (String × String)) (title text : String),
      (∀ a ∈ attributes, Reader.Name a.1) →
      Reader.Plain (.element "YealinkIPPhoneTextScreen" attributes
        [.element "Title" [("wrap", "no")] [.pcdata title],
          .element "Text" [] [.pcdata text]]) := by
    intro attributes title text named
    refine .elements (by decide) named
      (List.forall_mem_cons.mpr ⟨.text (by decide) (by decide), ?_⟩)
    exact List.forall_mem_singleton.mpr (.text (by decide) (List.forall_mem_nil _))
  have ascii : AsciiNames (createMessageXML beep timeout title text).root := by
    refine .element (by decide) (by simp; decide)
      (List.forall_mem_cons.mpr ⟨asciiNames_text (by decide) (by decide), ?_⟩)
    exact List.forall_mem_singleton.mpr (asciiNames_text (by decide) (List.forall_mem_nil _))
  have plain : Reader.Plain (mapText misread (createMessageXML beep timeout title text).root) := by
    simp only [createMessageXML, mapText, mapTextAll, List.map_cons, List.map_nil]
    exact page _ _ _ (by simp; decide)
  have written : createMessageXML beep timeout title text =
      ⟨declaration, (createMessageXML beep timeout title text).root⟩ := rfl
  have shape : Reader.tidy (mapText misread (createMessageXML beep timeout title text).root) =
      .element "YealinkIPPhoneTextScreen"
        [("Beep", misread (if beep then "yes" else "no")),
          ("Timeout", misread (toString timeout.toNat))]
        (Reader.tidyAll (mapTextAll misread
          [.element "Title" [("wrap", "no")] [.pcdata title],
            .element "Text" [] [.pcdata text]])) := by
    simp only [createMessageXML, mapText, Reader.tidy, List.map_cons, List.map_nil]
  rw [written, decode_page ascii plain, shape]
  refine ⟨_, _, rfl, ?_⟩
  simp [mapTextAll, mapText, Reader.tidy, Reader.tidyAll, Reader.isEmptyText, field?, text_tidied]

end Pages

section Dialogue
variable [LibraryInterface] {button : ParkButton} {invoke : KeyValDict → List KeyValDict}

/-- What Asterisk says of a call has no control characters. -/
def Printed (call : KeyValDict) : Prop :=
  ∀ key ∈ ["ParkeeCallerIDName", "ParkeeCallerIDNum", "ParkingSpace", "ParkingDuration"],
    ∀ c ∈ (call.get key).toList, 32 ≤ c.toNat

omit [LibraryInterface] in
theorem Printed.lines (printed : Printed call)
    (listed : key ∈
      ["ParkeeCallerIDName", "ParkeeCallerIDNum", "ParkingSpace", "ParkingDuration"]) :
    Lines (call.get key) :=
  fun c member => .inl (printed key listed c member)

omit [LibraryInterface] in
theorem lined_text {name : String} {content : String}
    (attributed : ∀ a ∈ attributes, ∀ c ∈ a.2.toList, 32 ≤ c.toNat) (lines : Lines content) :
    Lined (.element name attributes [.pcdata content]) :=
  .element attributed (List.forall_mem_singleton.mpr (.pcdata lines))

omit [LibraryInterface] in
theorem lines_toString (n : Nat) : Lines (toString n) :=
  fun c member => .inl (clean_toString n c member).1

omit [LibraryInterface] in
theorem lined_message (beep : Bool) (timeout : UInt8) {title text : String}
    (titled : Lines title) (texted : Lines text) :
    Lined (createMessageXML beep timeout title text).root := by
  have attributes :
      ∀ a ∈ [("Beep", if beep then "yes" else "no"), ("Timeout", toString timeout.toNat)],
      ∀ c ∈ a.2.toList, 32 ≤ c.toNat := by
    simp only [List.forall_mem_cons]
    refine ⟨?_, fun c member => (clean_toString _ c member).1, List.forall_mem_nil _⟩
    cases beep <;> decide
  refine .element attributes (List.forall_mem_cons.mpr ⟨lined_text (by decide) titled, ?_⟩)
  exact List.forall_mem_singleton.mpr (lined_text (List.forall_mem_nil _) texted)

omit [LibraryInterface] in
theorem lined_menu {title : String} {calls : List KeyValDict}
    (titled : Lines title) (uri : Lines button.parkedCallInfoUri)
    (printed : ∀ call ∈ calls, Printed call) :
    Lined (menu title (calls.map (menuLine button))) := by
  refine .element (by decide) (List.forall_mem_cons.mpr ⟨lined_text (by decide) titled, ?_⟩)
  simp only [List.forall_mem_map]
  intro call member
  have here := printed call member
  have prompt : Lines (menuLine button call).prompt :=
    lines_append.mpr ⟨lines_append.mpr ⟨here.lines (by simp), by decide⟩, here.lines (by simp)⟩
  refine .element (List.forall_mem_nil _) ?_
  simp only [List.forall_mem_cons]
  exact ⟨lined_text (List.forall_mem_nil _) prompt, lined_text (List.forall_mem_nil _) uri,
    lined_text (List.forall_mem_nil _) (here.lines (by simp)),
    lined_text (List.forall_mem_nil _) (here.lines (by simp)), List.forall_mem_nil _⟩

theorem readMenu_pushButton (saves : SavesLines) (uri : Lines button.parkedCallInfoUri)
    (printed : ∀ call ∈ lotCalls invoke button, Printed call) :
    readMenu (utf8 (LibraryInterface.save (button.pushButton invoke))) =
      some ((lotCalls invoke button).map fun call => (menuLine button call).misread) := by
  rw [ParkButton.pushButton_eq]
  split
  · rename_i none_parked
    rw [List.eq_nil_of_length_eq_zero none_parked, createNoParkedCallMessage,
      saves _ printable_declaration (lined_message false 5 (by decide) (by decide))]
    obtain ⟨_, _, decoded, _⟩ := decode_message false 5 "Parked Calls: 0" "No parked calls."
    rw [readMenu, decoded]
    rfl
  · have page : button.createParkedCallMenu (lotCalls invoke button) = ⟨declaration,
        menu ("Parked Calls: " ++ toString (eventCount (lotCalls invoke button)))
          ((lotCalls invoke button).map (menuLine button))⟩ := by
      have content := ParkButton.children_createParkedCallMenu button (lotCalls invoke button)
      simp only [ParkButton.createParkedCallMenu, children] at content
      rw [ParkButton.createParkedCallMenu, content, menu, List.map_map]
      rfl
    have titled : Lines ("Parked Calls: " ++ toString (eventCount (lotCalls invoke button))) :=
      lines_append.mpr ⟨by decide, lines_toString _⟩
    rw [page, saves _ printable_declaration (lined_menu titled uri printed), readMenu_raw,
      List.map_map]
    rfl

omit [LibraryInterface] in
/-- The words of the details, as they stand around the values of the call. -/
theorem lines_words : (Lines "Caller: " ∧ Lines "\n" ∧ Lines "Number: " ∧ Lines "Parking Space: " ∧
    Lines "Duration: " ∧ Lines "s") ∧ Lines "No parked call at extension " ∧ Lines "." := by
  decide +kernel

omit [LibraryInterface] in
theorem lines_details (printed : Printed call) : Lines (details call) := by
  obtain ⟨⟨caller, line, number, space, duration, seconds⟩, _⟩ := lines_words
  have name : Lines (call.get "ParkeeCallerIDName") := printed.lines (by simp)
  have num : Lines (call.get "ParkeeCallerIDNum") := printed.lines (by simp)
  have exten : Lines (call.get "ParkingSpace") := printed.lines (by simp)
  have parked : Lines (call.get "ParkingDuration") := printed.lines (by simp)
  unfold details
  simp only [lines_append, caller, line, number, space, duration, seconds, name, num, exten, parked,
    and_self]

omit [LibraryInterface] in
theorem lines_message (exten : Lines parkExten)
    (printed : ∀ call ∈ lotCalls invoke button, Printed call) :
    Lines (message button invoke parkExten) := by
  rw [message]
  generalize lotCalls invoke button = calls at printed
  cases found : calls.find? fun call => call.get "ParkingSpace" = parkExten with
  | none =>
    obtain ⟨_, before, after⟩ := lines_words
    exact lines_append.mpr ⟨lines_append.mpr ⟨before, exten⟩, after⟩
  | some call => exact lines_details (printed call (List.mem_of_find?_eq_some found))

omit [LibraryInterface] in
theorem pushButtonExten_message : button.pushButtonExten invoke parkExten =
    createMessageXML false 10 "Parked Call Detail" (message button invoke parkExten) := by
  rw [ParkButton.pushButtonExten_eq, message]
  cases found :
      (lotCalls invoke button).find? fun call => call.get "ParkingSpace" = parkExten with
  | none => rfl
  | some call =>
    have space : call.get "ParkingSpace" = parkExten := by simpa using List.find?_some found
    rw [Option.elim_some, Option.elim_some, ParkButton.callDetail_eq space]

theorem readMessage_pushButton (saves : SavesLines) (exten : Lines parkExten)
    (printed : ∀ call ∈ lotCalls invoke button, Printed call) :
    readMessage (utf8 (LibraryInterface.save (button.pushButtonExten invoke parkExten))) =
      some (misread (message button invoke parkExten)) := by
  have text := lines_message exten printed
  rw [pushButtonExten_message,
    saves _ printable_declaration (lined_message false 10 (by decide) text)]
  obtain ⟨_, _, decoded, said⟩ :=
    decode_message false 10 "Parked Call Detail" (message button invoke parkExten)
  rw [readMessage, decoded]
  exact said

omit [LibraryInterface] in
theorem lines_misread (lines : Lines text) : Lines (misread text) := by
  intro c member
  rw [misread, String.toList_ofList] at member
  obtain ⟨d, inside, here⟩ := List.mem_flatMap.mp member
  by_cases ascii : d.toNat < 128
  · rw [misreadChar_ascii ascii] at here
    rw [List.mem_singleton.mp here]
    exact lines d inside
  · have high := (misreadChar_high ascii).1 c here
    omega

/-- What the phone shows, misread where it is not ASCII. -/
theorem dialogue_misread (saves : SavesLines) (uri : Lines button.parkedCallInfoUri)
    (printed : ∀ call ∈ lotCalls before button, Printed call)
    (printed' : ∀ call ∈ lotCalls after button, Printed call) :
    dialogue button before after = some ((lotCalls before button).map fun call =>
      ((menuLine button call).misread,
        misread (message button after (misread (call.get "ParkingSpace"))))) := by
  rw [dialogue, readMenu_pushButton saves uri printed, Option.bind_some, List.mapM_map]
  have each : ∀ call ∈ lotCalls before button,
      (readMessage (utf8 (LibraryInterface.save (button.pushButtonExten after
        (menuLine button call).misread.selection)))).map ((menuLine button call).misread, ·) =
      some ((menuLine button call).misread,
        misread (message button after (misread (call.get "ParkingSpace")))) := by
    intro call member
    have space : Lines (call.get "ParkingSpace") := (printed call member).lines (by simp)
    have said := readMessage_pushButton saves (lines_misread space) printed'
    exact congrArg (Option.map _) said
  generalize lotCalls before button = calls at each
  induction calls with
  | nil => rfl
  | cons call calls ih =>
    obtain ⟨here, later⟩ := List.forall_mem_cons.mp each
    rw [List.mapM_cons, Function.comp_apply, here, ih later]
    rfl

/-- What is meant to be shown. -/
def meant (button : ParkButton) (before after : KeyValDict → List KeyValDict) : List (MenuLine × String) :=
  (lotCalls before button).map fun call =>
    (menuLine button call, message button after (call.get "ParkingSpace"))

omit [LibraryInterface] in
/-- A call that still is parked is the one that its line says. -/
theorem message_parked
    (distinct : ((lotCalls invoke button).map fun call => call.get "ParkingSpace").Nodup)
    (parked : call ∈ lotCalls invoke button) :
    message button invoke (call.get "ParkingSpace") = details call := by
  rw [message, ParkButton.find?_selected distinct parked, Option.elim_some]

/-- A press, and a press for each of the lines after it: the phone shows what was meant
exactly if everything that it reads is ASCII, and that is the line's call if it is still there. -/
theorem dialogue_exact (saves : SavesLines) (uri : Lines button.parkedCallInfoUri)
    (printed : ∀ call ∈ lotCalls before button, Printed call)
    (printed' : ∀ call ∈ lotCalls after button, Printed call) :
    (dialogue button before after = some (meant button before after) ↔
      ∀ call ∈ lotCalls before button, Ascii (menuLine button call).prompt ∧
        Ascii button.parkedCallInfoUri ∧ Ascii (call.get "ParkingSpace") ∧
        Ascii (message button after (call.get "ParkingSpace"))) ∧
    (((lotCalls after button).map fun call => call.get "ParkingSpace").Nodup →
      ∀ call ∈ lotCalls before button, call ∈ lotCalls after button →
        (menuLine button call, details call) ∈ meant button before after) := by
  refine ⟨?_, fun distinct call shown parked => ?_⟩
  · rw [dialogue_misread saves uri printed printed', Option.some.injEq, meant, List.map_inj_left]
    refine forall₂_congr fun call _ => ?_
    rw [Prod.mk.injEq, MenuLine.misread_eq_self]
    constructor
    · intro ⟨⟨prompt, uri, (space : Ascii (call.get "ParkingSpace")), _⟩, same⟩
      rw [misread_eq_self.mpr space] at same
      exact ⟨prompt, uri, space, misread_eq_self.mp same⟩
    · intro ⟨prompt, uri, space, said⟩
      rw [misread_eq_self.mpr space]
      exact ⟨⟨prompt, uri, space, space⟩, misread_eq_self.mpr said⟩
  · exact List.mem_map.mpr ⟨call, shown, by rw [message_parked distinct parked]⟩

end Dialogue

section Lots

local instance rawScreens : LibraryInterface := sequentialInterface

def lotButton : ParkButton := ⟨"default", "http://lamps/parked"⟩

/-- The first call has been picked up between the two presses. -/
theorem dialogue_exact_two :
    dialogue lotButton (fun _ => twoCalls) (fun _ => twoCalls.tail) =
      some (meant lotButton (fun _ => twoCalls) fun _ => twoCalls.tail) := by
  have printed : ∀ call ∈ lotCalls (fun _ => twoCalls) lotButton, Printed call := by
    simp only [lotCalls, twoCalls, List.forall_mem_cons, Printed]
    decide
  have printed' : ∀ call ∈ lotCalls (fun _ => twoCalls.tail) lotButton, Printed call :=
    fun call member => printed call (List.mem_of_mem_tail member)
  have ascii : ∀ call ∈ lotCalls (fun _ => twoCalls) lotButton,
      Ascii (menuLine lotButton call).prompt ∧
      Ascii lotButton.parkedCallInfoUri ∧ Ascii (call.get "ParkingSpace") ∧
      Ascii (message lotButton (fun _ => twoCalls.tail) (call.get "ParkingSpace")) := by
    simp only [lotCalls, twoCalls, List.forall_mem_cons]
    decide +kernel
  exact (dialogue_exact (fun _ _ _ => rfl) (by decide) printed printed').1.mpr ascii

end Lots
end LampMonitor.Bridge.ParkMenu
