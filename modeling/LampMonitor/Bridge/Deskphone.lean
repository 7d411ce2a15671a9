import LampMonitor.Bridge.LedCommands
import LampMonitor.Xml.Encoding

/-! A deskphone on the other side of the notifications. Asterisk hands it the
`Content` of a notification as bytes; it decodes the document in the encoding that
the document declares and executes its LED commands on the lamps it has. -/
namespace LampMonitor.Bridge
open Ami ButtonState Xml

/-- What is lit on each line key. -/
abbrev Lamps := Nat → Option (String × String)

def Lamps.led (lamps : Lamps) (led : Led) : Lamps :=
  Function.update lamps led.line (some (led.color, led.state))

/-- What a command says of a line. -/
def Led.stateOn (line : Nat) (led : Led) : Option (String × String) :=
  if led.line = line then some (led.color, led.state) else none

/-- The first variable of that name, without its name. -/
def variableValue (name : String) (values : List String) : Option String :=
  values.findSome? fun value =>
    if (name ++ "=").toList <+: value.toList then
      some (String.ofList (value.toList.drop (name ++ "=").length))
    else none

/-- The commands of a notification; `unescape` is Asterisk's reading of a value. -/
def readNotification (unescape : String → String) (message : PJSIPNotify) : Option Execution :=
  (variableValue "Content" message.values).bind fun content =>
    (Xml.decode (utf8 (unescape content))).bind readExecution

def receive (unescape : String → String) (lamps : Lamps) (message : PJSIPNotify) : Lamps :=
  ((readNotification unescape message).elim [] Execution.leds).foldl Lamps.led lamps

/-- What a notification sets a line to, if it mentions the line. -/
def mark (unescape : String → String) (line : Nat) (message : PJSIPNotify) : Option (String × String) :=
  (((readNotification unescape message).elim [] Execution.leds).filterMap (Led.stateOn line)).getLast?

section Lines
variable {unescape : String → String}

theorem foldl_led (leds : List Led) (lamps : Lamps) (line : Nat) :
    leds.foldl Lamps.led lamps line =
      (leds.filterMap (Led.stateOn line)).getLast?.or (lamps line) := by
  induction leds using List.reverseRecOn with
  | nil => rfl
  | append_singleton leds last ih =>
    rw [List.foldl_append, List.filterMap_append, List.foldl_cons, List.foldl_nil, Lamps.led]
    by_cases here : last.line = line
    · have said : last.stateOn line = some (last.color, last.state) := if_pos here
      simp [here, said]
    · have silent : last.stateOn line = none := if_neg here
      rw [Function.update_of_ne (Ne.symm here), ih, List.filterMap_cons_none silent,
        List.filterMap_nil, List.append_nil]

theorem receive_line (lamps : Lamps) (message : PJSIPNotify) (line : Nat) :
    receive unescape lamps message line = (mark unescape line message).or (lamps line) :=
  foldl_led _ lamps line

/-- A line shows what the last notification that mentions it says. -/
theorem foldl_receive_line (messages : List PJSIPNotify) (lamps : Lamps) (line : Nat) :
    messages.foldl (receive unescape) lamps line =
      (messages.filterMap (mark unescape line)).getLast?.or (lamps line) := by
  induction messages using List.reverseRecOn with
  | nil => rfl
  | append_singleton messages last ih =>
    rw [List.foldl_append, List.foldl_cons, List.foldl_nil, receive_line, ih,
      List.filterMap_append]
    cases said : mark unescape line last <;> simp [said]

end Lines

section Renderings

/-- The characters of a lamp document: they print, in ASCII. -/
def Clean (text : String) : Prop := ∀ c ∈ text.toList, 32 ≤ c.toNat ∧ c.toNat < 128

instance (text : String) : Decidable (Clean text) :=
  Spans.decidableText (fun c => 32 ≤ c.toNat ∧ c.toNat < 128) text.toList

theorem Clean.append (first : Clean a) (second : Clean b) : Clean (a ++ b) := by
  intro c member
  rw [String.toList_append, List.mem_append] at member
  rcases member with before | after
  · exact first c before
  · exact second c after

theorem clean_toString (n : Nat) : Clean (toString n) := by
  intro c member
  rw [Nat.toString_eq_repr, Nat.toList_repr] at member
  have digit := Nat.isDigit_of_mem_toDigits (by decide) (by decide) member
  simp only [Char.isDigit, Bool.and_eq_true, decide_eq_true_eq, UInt32.le_iff_toNat_le] at digit
  exact ⟨Nat.le_trans (by decide) digit.1, Nat.lt_of_le_of_lt digit.2 (by decide)⟩

theorem clean_uri (button : PhoneButton) :
    Clean ("Led:LINE" ++ toString button.buttonId.toNat ++ "_" ++ toColorString button.color ++
      "=" ++ toButtonStateString button.flashMode button.isOn) := by
  have color : Clean (toColorString button.color) := by cases button.color <;> decide
  have state : Clean (toButtonStateString button.flashMode button.isOn) := by
    cases button.isOn <;> cases button.flashMode <;> decide
  have line : Clean ("Led:LINE" ++ toString button.buttonId.toNat) :=
    Clean.append (by decide) (clean_toString _)
  exact (((line.append (by decide)).append color).append (by decide)).append state

theorem clean_attributes (critical : Bool) :
    ∀ a ∈ [("refresh", "1"), ("Beep", if critical then "yes" else "no")],
      Clean a.1 ∧ Clean a.2 := by
  cases critical <;> decide

theorem printable_executeDocument (buttons : List PhoneButton) (critical : Bool) :
    (executeDocument (buttons.map executeItem) critical).Printable := by
  have declaration : ∀ a ∈ [("version", "1.0"), ("encoding", "ISO-8859-1")],
      ∀ c ∈ a.2.toList, 32 ≤ c.toNat := by decide
  refine ⟨declaration, .element ?_ (List.forall_mem_map.mpr fun button _ => ?_)⟩
  · exact fun a member c inside => ((clean_attributes critical a member).2 c inside).1
  · refine .element (List.forall_mem_singleton.mpr fun c inside => ?_) (List.forall_mem_nil _)
    exact (clean_uri button c inside).1

/-- The document declares ISO-8859-1 and is written as UTF-8, which does not matter. -/
theorem decode_executeDocument (buttons : List PhoneButton) (critical : Bool) :
    Xml.decode (utf8 (executeDocument (buttons.map executeItem) critical).raw) =
      some (executeDocument (buttons.map executeItem) critical) := by
  have declares : Declares [("version", "1.0"), ("encoding", "ISO-8859-1")] :=
    ⟨by decide, by decide, by decide⟩
  have encoding : encodingOf [("version", "1.0"), ("encoding", "ISO-8859-1")] = some .latin1 := by
    decide
  have items : ∀ item ∈ buttons.map executeItem, AsciiNames item :=
    List.forall_mem_map.mpr fun button _ =>
      .element (by decide) (List.forall_mem_singleton.mpr (show Ascii "URI" by decide))
        (List.forall_mem_nil _)
  have names : AsciiNames (executeDocument (buttons.map executeItem) critical).root := by
    refine .element (by decide) (fun a member c inside => ?_) items
    exact ((clean_attributes critical a member).1 c inside).2
  have same : mapText misread (executeDocument (buttons.map executeItem) critical).root =
      (executeDocument (buttons.map executeItem) critical).root := by
    have beep : misread (if critical then "yes" else "no") = if critical then "yes" else "no" := by
      cases critical <;> exact misread_eq_self.mpr (by decide)
    have one : misread "1" = "1" := misread_eq_self.mpr (by decide)
    simp only [executeDocument, mapText, List.map_cons, List.map_nil, beep, one, mapTextAll_eq,
      List.map_map]
    refine congrArg _ (List.map_congr_left fun button _ => ?_)
    have uri := misread_eq_self.mpr fun c inside => (clean_uri button c inside).2
    simp only [Function.comp_apply, executeItem, mapText, List.map_cons, List.map_nil, uri,
      mapTextAll_eq]
  rw [decode_of_latin1 _ declares encoding names, same]
  exact read_executeDocument buttons critical

theorem variableValue_content (content : String) :
    variableValue "Content"
      ["Event=Yealink-xml", "Content-Type=application/xml", "Content=" ++ content] =
      some content := by
  have event : ¬ ("Content" ++ "=").toList <+: "Event=Yealink-xml".toList := by decide
  have type : ¬ ("Content" ++ "=").toList <+: "Content-Type=application/xml".toList := by decide
  have named : ("Content" ++ "=").toList <+: ("Content=" ++ content).toList := by
    rw [String.toList_append (s := "Content=")]
    exact List.prefix_append _ _
  have rest : ("Content=" ++ content).toList.drop ("Content" ++ "=").length = content.toList := by
    rw [String.toList_append]
    rfl
  simp only [variableValue, List.findSome?_cons, if_neg event, if_neg type, if_pos named, rest,
    String.ofList_toList]

variable [LibraryInterface] {unescape : String → String}

theorem readNotification_render (saves : SavesRaw)
    (inverse : ∀ text, unescape (LibraryInterface.escape text) = text)
    (buttons : List PhoneButton) (aor : String) :
    readNotification unescape ⟨aor, (render buttons).values⟩ =
      some ⟨buttons.map ledOf, buttons.any PhoneButton.isCritical⟩ := by
  have content : variableValue "Content" (render buttons).values =
      some (LibraryInterface.escape (render buttons).toString) :=
    variableValue_content _
  have text : (render buttons).toString =
      (executeDocument (buttons.map executeItem) (buttons.any PhoneButton.isCritical)).raw := by
    rw [render_eq, PhoneUIState.toString]
    exact saves _ (printable_executeDocument _ _)
  rw [readNotification, content, Option.bind_some, inverse, text, decode_executeDocument,
    Option.bind_some, readExecution_executeDocument]

/-- A rendering mentions the lines of its buttons, each once. -/
theorem mark_render (saves : SavesRaw)
    (inverse : ∀ text, unescape (LibraryInterface.escape text) = text) {buttons : List PhoneButton}
    (unique : (buttons.map PhoneButton.buttonId).Nodup) (id : UInt16) (aor : String) :
    mark unescape id.toNat ⟨aor, (render buttons).values⟩ =
      (buttons.find? fun button => button.buttonId = id).map shown := by
  rw [mark, readNotification_render saves inverse, Option.elim_some, List.filterMap_map]
  induction buttons with
  | nil => rfl
  | cons button buttons ih =>
    obtain ⟨absent, unique⟩ := List.nodup_cons.mp unique
    by_cases here : button.buttonId = id
    · have others : buttons.filterMap (Led.stateOn id.toNat ∘ ledOf) = [] := by
        refine List.filterMap_eq_nil_iff.mpr fun other member => if_neg fun same => absent ?_
        rw [here, ← UInt16.toNat_inj.mp same]
        exact List.mem_map_of_mem member
      have line : (Led.stateOn id.toNat ∘ ledOf) button = some (shown button) := by
        rw [shown_eq]
        exact if_pos (congrArg UInt16.toNat here)
      rw [List.filterMap_cons_some line, others, List.find?_cons_of_pos (by simpa using here)]
      rfl
    · have line : (Led.stateOn id.toNat ∘ ledOf) button = none :=
        if_neg fun same => here (UInt16.toNat_inj.mp same)
      rw [List.filterMap_cons_none line, ih unique,
        List.find?_cons_of_neg (by simpa using here)]

end Renderings
end LampMonitor.Bridge
