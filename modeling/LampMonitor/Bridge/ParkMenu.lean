import LampMonitor.Ami
import LampMonitor.Xml
import Mathlib.Data.List.Nodup

/-! The screens of a park button: the menu of the parked calls of its lot, and the
details of the call that a phone selects. Every press asks Asterisk anew. -/
namespace LampMonitor.Bridge.ParkMenu
open Ami Xml

/-- `eventCount` of an event list. -/
def eventCount (events : List KeyValDict) : Nat := events.length

def declaration : List (String × String) := [("version", "1.0"), ("encoding", "ISO-8859-1")]

def createMessageXML (beep : Bool) (timeout : UInt8) (title text : String) : Document where
  declaration := declaration
  root := .element "YealinkIPPhoneTextScreen"
    [("Beep", if beep then "yes" else "no"), ("Timeout", toString timeout.toNat)]
    [.element "Title" [("wrap", "no")] [.pcdata title], .element "Text" [] [.pcdata text]]

def createNoParkedCallMessage : Document :=
  createMessageXML false 5 "Parked Calls: 0" "No parked calls."

def createParkedCallNode (parkedCallInfoUri : String) (event : KeyValDict) : Xml :=
  .element "MenuItem" []
    [.element "Prompt" []
      [.pcdata (event.get "ParkeeCallerIDName" ++ "\n" ++ event.get "ParkeeCallerIDNum")],
      .element "URI" [] [.pcdata parkedCallInfoUri],
      .element "Dial" [] [.pcdata (event.get "ParkingSpace")],
      .element "Selection" [] [.pcdata (event.get "ParkingSpace")]]

structure ParkButton where
  parkingLot : String
  parkedCallInfoUri : String

namespace ParkButton

/-- The action of both presses. -/
def parkedCalls (button : ParkButton) : KeyValDict :=
  ⟨[("Action", "ParkedCalls"), ("ParkingLot", button.parkingLot)]⟩

def createParkedCallMenu (button : ParkButton) (events : List KeyValDict) : Document where
  declaration := declaration
  root := .element "YealinkIPPhoneTextMenu" [("style", "none"), ("Beep", "no"), ("Timeout", "10")]
    (forEach (m := Id) (fun children event =>
      pure (false, children ++ [createParkedCallNode button.parkedCallInfoUri event]))
      events [.element "Title" [("wrap", "no")]
        [.pcdata ("Parked Calls: " ++ toString (eventCount events))]])

/-- What `pushButton(park_exten)` says about the call of an event. -/
def callDetail (parkExten : String) (event : KeyValDict) : String :=
  "Caller: " ++ event.get "ParkeeCallerIDName" ++ "\n" ++ "Number: " ++
    event.get "ParkeeCallerIDNum" ++ "\n" ++
    "Parking Space: " ++ parkExten ++ "\n" ++ "Duration: " ++ event.get "ParkingDuration" ++ "s"

def noCallDetail (parkExten : String) : String := "No parked call at extension " ++ parkExten ++ "."

section Presses
variable (invoke : KeyValDict → List KeyValDict)

def pushButton (button : ParkButton) : Document :=
  let events := invoke button.parkedCalls
  if eventCount events = 0 then createNoParkedCallMessage else button.createParkedCallMenu events

def pushButtonExten (button : ParkButton) (parkExten : String) : Document :=
  createMessageXML false 10 "Parked Call Detail"
    (forEach (m := Id)
      (fun message event => pure (if event.get "ParkingSpace" ≠ parkExten then (false, message)
        else (true, callDetail parkExten event)))
      (invoke button.parkedCalls) (noCallDetail parkExten))

end Presses
end ParkButton

section Screens

def isNamed (name : String) : Xml → Bool
  | .element name' _ _ => name' = name
  | .pcdata _ => false

def children : Xml → List Xml
  | .element _ _ children => children
  | .pcdata _ => []

/-- The text of the first child with this name. -/
def childText (name : String) (node : Xml) : Option String :=
  ((children node).find? (isNamed name)).bind fun child =>
    match children child with
    | [.pcdata text] => some text
    | _ => none

def menuItems (screen : Document) : List Xml := (children screen.root).filter (isNamed "MenuItem")

end Screens

/-- The calls that Asterisk lists for the lot of the button. -/
def lotCalls (invoke : KeyValDict → List KeyValDict) (button : ParkButton) : List KeyValDict :=
  invoke ⟨[("Action", "ParkedCalls"), ("ParkingLot", button.parkingLot)]⟩

/-- The name, the number, the space and the duration of a call, line by line. -/
def details (call : KeyValDict) : String :=
  "Caller: " ++ call.get "ParkeeCallerIDName" ++ "\n" ++
    "Number: " ++ call.get "ParkeeCallerIDNum" ++ "\n" ++
    "Parking Space: " ++ call.get "ParkingSpace" ++ "\n" ++
    "Duration: " ++ call.get "ParkingDuration" ++ "s"

/-- The detail screen with this text. -/
def ShowsDetail (screen : Document) (text : String) : Prop :=
  childText "Title" screen.root = some "Parked Call Detail" ∧
    childText "Text" screen.root = some text

/-- What a phone is shown, and what it is shown for each of the selections. -/
structure Agrees (invoke : KeyValDict → List KeyValDict) (button : ParkButton) : Prop where
  empty : childText "Text" (button.pushButton invoke).root = some "No parked calls." ↔
    lotCalls invoke button = []
  count : childText "Title" (button.pushButton invoke).root =
    some ("Parked Calls: " ++ toString (menuItems (button.pushButton invoke)).length)
  items : (menuItems (button.pushButton invoke)).map
    (fun item => (childText "Prompt" item, childText "Selection" item)) =
    (lotCalls invoke button).map fun call =>
      (some (call.get "ParkeeCallerIDName" ++ "\n" ++ call.get "ParkeeCallerIDNum"),
        some (call.get "ParkingSpace"))
  selected : ∀ (k : Nat) (item : Xml) (call : KeyValDict) (selection : String),
    (menuItems (button.pushButton invoke))[k]? = some item →
    (lotCalls invoke button)[k]? = some call →
    childText "Selection" item = some selection →
    ShowsDetail (button.pushButtonExten invoke selection) (details call)
  gone : ∀ parkExten : String,
    (∀ call ∈ lotCalls invoke button, call.get "ParkingSpace" ≠ parkExten) →
    ShowsDetail (button.pushButtonExten invoke parkExten)
      ("No parked call at extension " ++ parkExten ++ ".")

namespace ParkButton
variable {button : ParkButton} {invoke : KeyValDict → List KeyValDict}

theorem pushButton_eq : button.pushButton invoke =
    if eventCount (lotCalls invoke button) = 0 then createNoParkedCallMessage
    else button.createParkedCallMenu (lotCalls invoke button) := rfl

/-- The first walk never stops early. -/
theorem children_createParkedCallMenu (button : ParkButton) (events : List KeyValDict) :
    children (button.createParkedCallMenu events).root =
      .element "Title" [("wrap", "no")]
      [.pcdata ("Parked Calls: " ++ toString (eventCount events))] ::
        events.map (createParkedCallNode button.parkedCallInfoUri) := by
  simp only [createParkedCallMenu, children, forEach_all]
  rw [List.foldl_append_eq_append, ← List.flatMap_def, ← List.map_eq_flatMap]
  rfl

theorem menuItems_createParkedCallMenu (button : ParkButton) (events : List KeyValDict) :
    menuItems (button.createParkedCallMenu events) =
      events.map (createParkedCallNode button.parkedCallInfoUri) := by
  have others : isNamed "MenuItem"
      (.element "Title" [("wrap", "no")]
        [.pcdata ("Parked Calls: " ++ toString (eventCount events))]) ≠ true :=
    Bool.false_ne_true
  rw [menuItems, children_createParkedCallMenu, List.filter_cons_of_neg others]
  exact List.filter_eq_self.mpr (List.forall_mem_map.mpr fun _ _ => rfl)

theorem menuItems_pushButton :
    menuItems (button.pushButton invoke) =
      (lotCalls invoke button).map (createParkedCallNode button.parkedCallInfoUri) := by
  rw [pushButton_eq]
  split
  · rename_i none_parked
    rw [List.eq_nil_of_length_eq_zero none_parked]
    rfl
  · exact menuItems_createParkedCallMenu _ _

/-- The second walk stops at the first call in the selected space. -/
theorem pushButtonExten_eq (parkExten : String) : button.pushButtonExten invoke parkExten =
    createMessageXML false 10 "Parked Call Detail"
      (((lotCalls invoke button).find? fun call => call.get "ParkingSpace" = parkExten).elim
        (noCallDetail parkExten)
        (callDetail parkExten)) := by
  rw [pushButtonExten, ← forEach_first]
  congr 2
  funext message event
  split <;> simp_all

theorem childText_title :
    childText "Title" (button.pushButton invoke).root =
      some ("Parked Calls: " ++ toString (eventCount (lotCalls invoke button))) := by
  rw [pushButton_eq]
  split
  · rename_i none_parked
    rw [none_parked]
    rfl
  · rw [childText, children_createParkedCallMenu]
    rfl

/-- Only the screen without calls has a text. -/
theorem childText_createParkedCallMenu (button : ParkButton) (events : List KeyValDict) :
    childText "Text" (button.createParkedCallMenu events).root = none := by
  have others : ∀ child ∈ children (button.createParkedCallMenu events).root,
      ¬ isNamed "Text" child = true := by
    rw [children_createParkedCallMenu, List.forall_mem_cons, List.forall_mem_map]
    exact ⟨Bool.false_ne_true, fun _ _ => Bool.false_ne_true⟩
  rw [childText, List.find?_eq_none.mpr others, Option.bind_none]

theorem pushButton_empty :
    childText "Text" (button.pushButton invoke).root = some "No parked calls." ↔
      lotCalls invoke button = [] := by
  rw [pushButton_eq]
  constructor
  · intro text
    split at text
    · rename_i none_parked
      exact List.eq_nil_of_length_eq_zero none_parked
    · rw [childText_createParkedCallMenu] at text
      contradiction
  · intro none_parked
    rw [none_parked]
    rfl

theorem callDetail_eq {call : KeyValDict} (space : call.get "ParkingSpace" = parkExten) :
    callDetail parkExten call = details call := by
  unfold callDetail details
  rw [space]

/-- With a space for each call, the second walk stops at the call that was selected. -/
theorem find?_selected {calls : List KeyValDict}
    (distinct : (calls.map fun call => call.get "ParkingSpace").Nodup) (parked : call ∈ calls) :
    calls.find? (fun other => other.get "ParkingSpace" = call.get "ParkingSpace") = some call := by
  cases found : calls.find? fun other => other.get "ParkingSpace" = call.get "ParkingSpace" with
  | none =>
    exact absurd rfl
      (of_decide_eq_false (Bool.eq_false_iff.mpr (List.find?_eq_none.mp found call parked)))
  | some other =>
    have space : other.get "ParkingSpace" = call.get "ParkingSpace" := by
      simpa using List.find?_some found
    rw [List.inj_on_of_nodup_map distinct (List.mem_of_find?_eq_some found) parked space]

end ParkButton

/-- While the list is unchanged, the menu and the details agree. -/
theorem pushButton_agrees (invoke : KeyValDict → List KeyValDict) (button : ParkButton)
    (distinct : ((lotCalls invoke button).map fun call => call.get "ParkingSpace").Nodup) :
    Agrees invoke button where
  empty := ParkButton.pushButton_empty
  count := by
    rw [ParkButton.childText_title, ParkButton.menuItems_pushButton, List.length_map, eventCount]
  items := by
    rw [ParkButton.menuItems_pushButton, List.map_map]
    rfl
  selected := by
    intro k item call selection shown parked selects
    rw [ParkButton.menuItems_pushButton, List.getElem?_map, parked, Option.map_some] at shown
    cases Option.some.inj shown
    cases Option.some.inj selects
    rw [ParkButton.pushButtonExten_eq,
      ParkButton.find?_selected distinct (List.mem_of_getElem? parked), Option.elim_some,
      ParkButton.callDetail_eq rfl]
    exact ⟨rfl, rfl⟩
  gone := by
    intro parkExten absent
    have none_found : (lotCalls invoke button).find?
        (fun call => call.get "ParkingSpace" = parkExten) = none :=
      List.find?_eq_none.mpr fun call parked => by simpa using absent call parked
    rw [ParkButton.pushButtonExten_eq, none_found, Option.elim_none]
    exact ⟨rfl, rfl⟩

section Lots

def twoCalls : List KeyValDict :=
  [⟨[("ParkingSpace", "701"), ("ParkeeCallerIDName", "Ann & Bob"),
    ("ParkeeCallerIDNum", "100"), ("ParkingDuration", "5")]⟩,
    ⟨[("ParkingSpace", "702"), ("ParkeeCallerIDNum", "100"), ("ParkingDuration", "7")]⟩]

/-- Two calls of one lot, one of them without a name. -/
theorem pushButton_agrees_two : Agrees (fun _ => twoCalls) ⟨"default", "http://lamps/parked"⟩ :=
  pushButton_agrees (fun _ => twoCalls) ⟨"default", "http://lamps/parked"⟩ (by decide)

end Lots
end LampMonitor.Bridge.ParkMenu
