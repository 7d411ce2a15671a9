import LampMonitor.Bridge.PhoneUi
import LampMonitor.Spans
import LampMonitor.Xml.Reader
import Mathlib.Logic.Function.Basic

/-! What a phone makes of a rendered document: its items are read back as LED
commands and executed in document order, each on one line key. -/
namespace LampMonitor.Bridge
open ButtonState Spans Xml

/-- `Led:LINE<line>_<color>=<state>` -/
structure Led where
  line : Nat
  color : String
  state : String
  deriving DecidableEq, Repr

namespace Led

def parse (uri : String) : Option Led :=
  if "Led:LINE".toList <+: uri.toList then
    match (uri.toList.drop 8).dropWhile Char.isDigit with
    | '_' :: rest =>
      match rest.dropWhile (· ≠ '=') with
      | '=' :: state =>
        some ⟨Nat.ofDigitChars 10 ((uri.toList.drop 8).takeWhile Char.isDigit) 0,
          String.ofList (rest.takeWhile (· ≠ '=')), String.ofList state⟩
      | _ => none
    | _ => none
  else none

/-- Line keys are numbered in decimal, and no color has an equals sign. -/
theorem parse_written (line : Nat) {color : String} (plain : '=' ∉ color.toList) (state : String) :
    parse ("Led:LINE" ++ toString line ++ "_" ++ color ++ "=" ++ state) =
      some ⟨line, color, state⟩ := by
  have text : ("Led:LINE" ++ toString line ++ "_" ++ color ++ "=" ++ state).toList =
      "Led:LINE".toList ++
        (Nat.toDigits 10 line ++ '_' :: (color.toList ++ '=' :: state.toList)) := by
    simp [Nat.toString_eq_repr, String.toList_append]
  have rest : ("Led:LINE".toList ++
      (Nat.toDigits 10 line ++ '_' :: (color.toList ++ '=' :: state.toList))).drop 8 =
      Nat.toDigits 10 line ++ '_' :: (color.toList ++ '=' :: state.toList) := rfl
  have digits : ∀ c ∈ Nat.toDigits 10 line, c.isDigit = true := fun _ member =>
    Nat.isDigit_of_mem_toDigits (by decide) (by decide) member
  have inside : ∀ c ∈ color.toList, decide (c ≠ '=') = true := by
    intro c member
    exact decide_eq_true fun equals => plain (equals ▸ member)
  rw [parse, text, if_pos (List.prefix_append _ _), rest]
  simp only [dropWhile_stop digits (c := '_') rfl, takeWhile_stop digits (c := '_') rfl,
    dropWhile_stop inside (c := '=') rfl, takeWhile_stop inside (c := '=') rfl,
    Nat.ofDigitChars_ten_toDigits, String.ofList_toList]

end Led

/-- What a button looks like: its color, and how its lamp burns. -/
def shown (button : PhoneButton) : String × String :=
  let color :=
    match button.color with
    | .red => "RED"
    | .green => "GREEN"
    | .blue => "BLUE"
  let lit :=
    match button.flashMode with
    | .off => "on"
    | .slow => "slowflash"
    | .fast => "fastflash"
  (color, if button.buttonOn then lit else "off")

theorem shown_eq (button : PhoneButton) :
    shown button =
      (toColorString button.color, toButtonStateString button.flashMode button.isOn) := by
  obtain ⟨_, color, flashMode, _, _, on⟩ := button
  cases color <;> cases flashMode <;> cases on <;> rfl

/-- The LED that a button stands for. -/
def ledOf (button : PhoneButton) : Led :=
  ⟨button.buttonId.toNat, toColorString button.color,
    toButtonStateString button.flashMode button.isOn⟩

def readItem : Xml → Option Led
  | .element "ExecuteItem" attributes _ =>
    (attributes.find? fun a => a.1 = "URI").bind fun a => Led.parse a.2
  | _ => none

/-- The commands of a document, and whether the phone beeps. -/
structure Execution where
  leds : List Led
  beep : Bool
  deriving DecidableEq, Repr

def readExecution (document : Document) : Option Execution :=
  match document.root with
  | .element "YealinkIPPhoneExecute" attributes items =>
    (items.mapM readItem).map fun leds => ⟨leds, attributes.any fun a => a = ("Beep", "yes")⟩
  | _ => none

theorem readItem_executeItem (button : PhoneButton) :
    readItem (executeItem button) = some (ledOf button) := by
  have plain : '=' ∉ (toColorString button.color).toList := by
    cases button.color <;> decide
  simp only [readItem, executeItem, List.find?_cons, decide_true, Option.bind_some]
  exact Led.parse_written button.buttonId.toNat plain
    (toButtonStateString button.flashMode button.isOn)

theorem mapM_readItem (buttons : List PhoneButton) :
    (buttons.map executeItem).mapM readItem = some (buttons.map ledOf) := by
  induction buttons with
  | nil => rfl
  | cons button buttons ih => simp [List.mapM_cons, readItem_executeItem, ih]

theorem readExecution_executeDocument (buttons : List PhoneButton) (critical : Bool) :
    readExecution (executeDocument (buttons.map executeItem) critical) =
      some ⟨buttons.map ledOf, critical⟩ := by
  rw [readExecution, executeDocument]
  simp only [mapM_readItem, Option.map_some, Option.some.injEq, Execution.mk.injEq, true_and]
  cases critical <;> decide

/-- The document that the text of a rendering is read back as. -/
theorem read_executeDocument (buttons : List PhoneButton) (critical : Bool) :
    Reader.read (executeDocument (buttons.map executeItem) critical).raw.toList =
      some (executeDocument (buttons.map executeItem) critical) := by
  have items : ∀ item ∈ buttons.map executeItem, Reader.Plain item :=
    List.forall_mem_map.mpr fun button _ =>
      .elements (by decide) (List.forall_mem_singleton.mpr (show Reader.Name "URI" by decide))
        (List.forall_mem_nil _)
  have declared : ∀ a ∈ [("version", "1.0"), ("encoding", "ISO-8859-1")], Reader.Name a.1 := by
    exact List.forall_mem_cons.mpr
      ⟨by decide, List.forall_mem_singleton.mpr (show Reader.Name "encoding" by decide)⟩
  have named : ∀ a ∈ [("refresh", "1"), ("Beep", if critical then "yes" else "no")],
      Reader.Name a.1 := by
    exact List.forall_mem_cons.mpr
      ⟨by decide, List.forall_mem_singleton.mpr (show Reader.Name "Beep" by decide)⟩
  have same : (buttons.map executeItem).map Reader.tidy = buttons.map executeItem := by
    rw [List.map_map]
    refine List.map_congr_left fun button _ => ?_
    simp [executeItem, Reader.tidy, Reader.tidyAll]
  rw [Reader.read_raw _ (List.cons_ne_nil _ _) declared (.elements (by decide) named items)]
  simp only [executeDocument, Reader.tidy, Reader.tidyAll_elements items, same]

/-- The LEDs after the commands, line by line. -/
def execute (leds : List Led) : Nat → Option (String × String) :=
  leds.foldl (fun lamps led =>
    Function.update lamps led.line (some (led.color, led.state))) fun _ => none

/-- With one command for each line the order does not matter. -/
theorem execute_mem {leds : List Led} (distinct : (leds.map Led.line).Nodup) :
    (∀ led ∈ leds, execute leds led.line = some (led.color, led.state)) ∧
    ∀ line, line ∉ leds.map Led.line → execute leds line = none := by
  induction leds using List.reverseRecOn with
  | nil => exact ⟨List.forall_mem_nil _, fun _ _ => rfl⟩
  | append_singleton leds last ih =>
    rw [List.map_append, List.nodup_append] at distinct
    obtain ⟨before, _, apart⟩ := distinct
    obtain ⟨set, unset⟩ := ih before
    have stepped : execute (leds ++ [last]) =
        Function.update (execute leds) last.line (some (last.color, last.state)) := by
      rw [execute, List.foldl_append]
      rfl
    constructor
    · intro led member
      rw [stepped]
      rcases List.mem_append.mp member with earlier | here
      · have other : led.line ≠ last.line := apart _ (List.mem_map_of_mem earlier) _ (by simp)
        rw [Function.update_of_ne other, set led earlier]
      · obtain rfl := List.mem_singleton.mp here
        rw [Function.update_self]
    · intro line missing
      simp only [List.map_append, List.map_singleton, List.mem_append, List.mem_singleton,
        not_or] at missing
      rw [stepped, Function.update_of_ne missing.2, unset line missing.1]

/-- The LEDs of a phone that shows these buttons. -/
structure Shows (buttons : List PhoneButton) (lamps : Nat → Option (String × String)) : Prop where
  each : ∀ button ∈ buttons, lamps button.buttonId.toNat = some (shown button)
  others : ∀ line, (∀ button ∈ buttons, button.buttonId.toNat ≠ line) → lamps line = none

theorem shows_execute {order : List PhoneButton}
    (distinct : ((order.map ledOf).map Led.line).Nodup) :
    Shows order (execute (order.map ledOf)) := by
  obtain ⟨set, unset⟩ := execute_mem distinct
  refine ⟨fun button member => ?_, fun line other => unset line ?_⟩
  · rw [shown_eq]
    exact set (ledOf button) (List.mem_map_of_mem member)
  · simp only [List.map_map, List.mem_map, not_exists, not_and]
    exact other

theorem Shows.perm {buttons order : List PhoneButton} (shows : Shows order lamps)
    (listed : order.Perm buttons) :
    Shows buttons lamps :=
  ⟨fun button member => shows.each button (listed.mem_iff.mpr member),
    fun line other => shows.others line fun button member =>
      other button (listed.mem_iff.mp member)⟩

theorem Shows.unique (shows : Shows buttons lamps) (shows' : Shows buttons lamps') :
    lamps = lamps' := by
  funext line
  by_cases known : ∃ button ∈ buttons, button.buttonId.toNat = line
  · obtain ⟨button, member, rfl⟩ := known
    rw [shows.each button member, shows'.each button member]
  · simp only [not_exists, not_and] at known
    rw [shows.others line known, shows'.others line known]

/-- What a phone reads in the text of a rendering. -/
def readRendering (document : Document) : Option Execution :=
  (Reader.read document.raw.toList).bind readExecution

theorem readRendering_createYealinkXML (order : List PhoneButton) (critical : Bool) :
    readRendering (createYealinkXML order critical).1 =
      some ⟨order.map ledOf, critical || order.any PhoneButton.isCritical⟩ := by
  rw [createYealinkXML, renderFrom_eq, List.nil_append, readRendering, read_executeDocument,
    Option.bind_some, readExecution_executeDocument]

end LampMonitor.Bridge
