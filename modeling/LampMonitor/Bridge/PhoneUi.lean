import LampMonitor.Ami
import LampMonitor.Xml
import LampMonitor.ButtonState.PhoneButton

/-! The Yealink renderer and the cached state of a phone UI. Serialisation, the
escaping of AMI values and the order in which a parallel loop interleaves the
messages of several UIs belong to libraries and are left to an interface. -/
namespace LampMonitor.Bridge
open Ami ButtonState

class LibraryInterface where
  /-- pugixml's `xml_document::save` with `format_raw`. -/
  save : Xml.Document → String
  /-- `cpp_ami::util::KeyValDict::escape`. -/
  escape : String → String
  /-- What `std::execution::par` makes of the messages of each iteration. -/
  interleave : List (List PJSIPNotify) → List PJSIPNotify
  interleave_perm : ∀ messages, (interleave messages).Perm messages.flatten

/-- Raw serialisation, text without AMI specials, and the loop run in order. -/
abbrev sequentialInterface : LibraryInterface where
  save := Xml.Document.raw
  escape := id
  interleave := List.flatten
  interleave_perm _ := .refl _

/-- What is assumed of `save`: it escapes markup, writes text as the UTF-8 it was
given and leaves the declaration as set. -/
def SavesRaw [LibraryInterface] : Prop :=
  ∀ document : Xml.Document, document.Printable → LibraryInterface.save document = document.raw

structure PhoneUIState where
  xml : Xml.Document
  isCritical : Bool

def toColorString : Color → String
  | .red => "RED"
  | .green => "GREEN"
  | .blue => "BLUE"

/-- `toButtonStateString` for the value that its single load of the flag gave. -/
def toButtonStateString (flashMode : FlashMode) (on : Bool) : String :=
  if on then
    match flashMode with
    | .off => "on"
    | .fast => "fastflash"
    | .slow => "slowflash"
  else "off"

/-- The item of one button, with the flag as loaded by `toButtonStateString`. -/
def executeItem (button : PhoneButton) : Xml :=
  .element "ExecuteItem"
    [("URI", "Led:LINE" ++ toString button.buttonId.toNat ++ "_" ++ toColorString button.color ++ "=" ++
      toButtonStateString button.flashMode button.isOn)] []

def executeDocument (items : List Xml) (critical : Bool) : Xml.Document where
  declaration := [("version", "1.0"), ("encoding", "ISO-8859-1")]
  root := .element "YealinkIPPhoneExecute" [("refresh", "1"), ("Beep", if critical then "yes" else "no")] items

/-- The loop of `createYealinkXML` over the buttons still to come. -/
def renderFrom : List PhoneButton → List Xml → Bool → Xml.Document × Bool
  | [], items, critical => (executeDocument items critical, critical)
  | button :: rest, items, critical =>
    renderFrom rest (items ++ [executeItem button]) (critical || button.isCritical)

def createYealinkXML (buttons : List PhoneButton) (critical : Bool) : Xml.Document × Bool :=
  renderFrom buttons [] critical

theorem renderFrom_eq (buttons : List PhoneButton) (items : List Xml) (critical : Bool) :
    renderFrom buttons items critical =
      let final := critical || buttons.any PhoneButton.isCritical
      (executeDocument (items ++ buttons.map executeItem) final, final) := by
  induction buttons generalizing items critical with
  | nil => simp [renderFrom]
  | cons button rest ih => simp [renderFrom, ih, Bool.or_assoc]

/-- The state that `PhoneUI::update` caches for these buttons. -/
def render (buttons : List PhoneButton) : PhoneUIState :=
  let (xml, critical) := createYealinkXML buttons false
  ⟨xml, critical⟩

theorem render_eq (buttons : List PhoneButton) :
    render buttons =
      ⟨executeDocument (buttons.map executeItem) (buttons.any PhoneButton.isCritical),
      buttons.any PhoneButton.isCritical⟩ := by
  simp [render, createYealinkXML, renderFrom_eq]

/-- The AoRs are a set: no AoR is listed twice. -/
structure PhoneUI where
  name : String
  compatibleAors : List String
  distinct : compatibleAors.Nodup
  cachedButtonState : PhoneUIState

namespace PhoneUI

def hasAoR (ui : PhoneUI) (aor : String) : Bool := ui.compatibleAors.contains aor

def getAoRs (ui : PhoneUI) : List String := ui.compatibleAors

def setPhoneState (ui : PhoneUI) (state : PhoneUIState) : PhoneUI := { ui with cachedButtonState := state }

def isCritical (ui : PhoneUI) : Bool := ui.cachedButtonState.isCritical

def update (ui : PhoneUI) (buttons : List PhoneButton) : PhoneUI := ui.setPhoneState (render buttons)

end PhoneUI

section Notification
variable [LibraryInterface]

def PhoneUIState.toString (state : PhoneUIState) : String := LibraryInterface.save state.xml

/-- The `Variable` values that `initialize` sets from a cached state. -/
def PhoneUIState.values (state : PhoneUIState) : List String :=
  ["Event=Yealink-xml", "Content-Type=application/xml", "Content=" ++ LibraryInterface.escape state.toString]

def PhoneUI.initializeAction (ui : PhoneUI) : List String := ui.cachedButtonState.values

/-- The notification that carries the cached state of a UI to one AoR. -/
def PhoneUI.notify (ui : PhoneUI) (aor : String) : PJSIPNotify := ⟨aor, ui.initializeAction⟩

/-- The notification that shows a state to one AoR, word for word. -/
def PhoneUIState.notification (state : PhoneUIState) (aor : String) : PJSIPNotify :=
  ⟨aor, ["Event=Yealink-xml", "Content-Type=application/xml",
    "Content=" ++ LibraryInterface.escape (LibraryInterface.save state.xml)]⟩

theorem PhoneUI.notify_eq (ui : PhoneUI) (aor : String) :
    ui.notify aor = ui.cachedButtonState.notification aor := rfl

end Notification
end LampMonitor.Bridge
