import LampMonitor.Config.StartUp

/-! The button plans of the phones: the last and largest part of the start-up. A
path of a phone names a button by its id, a phone its plan by its name. -/
namespace LampMonitor.Config
open ButtonState

section Plans
variable [ScalarInterface]

def toColor (colorType : String) : StartUp Color :=
  if colorType = "red" then pure .red
  else if colorType = "green" then pure .green
  else if colorType = "blue" then pure .blue
  else do
    warning ("Unknown button color type: " ++ colorType)
    return .red

def toFlashMode (flashMode : String) : StartUp FlashMode :=
  if flashMode = "off" then pure .off
  else if flashMode = "slow" then pure .slow
  else if flashMode = "fast" then pure .fast
  else do
    warning ("Unknown flash mode: " ++ flashMode)
    return .off

/-- `PhoneButton::create` -/
def createPhoneButton (config : Node) : StartUp PhoneButton := do
  let id ← read Node.asUInt16 (.valid config) "id"
  let color ← toColor (← read Node.asString (.valid config) "color")
  let flash ← toFlashMode (← read Node.asString (.valid config) "flash")
  let criticalOn ← read Node.asBool (.valid config) "critical_on"
  let criticalOff ← read Node.asBool (.valid config) "critical_off"
  return ⟨id, color, flash, criticalOn, criticalOff, false⟩

structure Plan where
  name : String
  buttons : KeyedTable UInt16 PhoneButton
  eventHandlers : KeyedTable UInt16 EventHandler

namespace Plan

def getButton (plan : Plan) (buttonId : UInt16) : Option PhoneButton := plan.buttons.find? buttonId

def getEventHandler (plan : Plan) (id : UInt16) : Option EventHandler := plan.eventHandlers.find? id

/-- A button whose id is taken is dropped with a warning; its id is printed with `%ud`. -/
def addButton (plan : Plan) (button : PhoneButton) : StartUp Plan :=
  if (plan.getButton button.buttonId).isSome then do
    warning ("Unable to add button " ++ toString button.buttonId ++ "d to plan '" ++ plan.name ++ "'")
    return plan
  else return { plan with buttons := plan.buttons.emplace button.buttonId button }

def addEventHandler (plan : Plan) (id : UInt16) (handler : EventHandler) : Plan :=
  { plan with eventHandlers := plan.eventHandlers.emplace id handler }

def addEventHandlers (plan : Plan) (handlers : List (UInt16 × EventHandler)) : Plan :=
  handlers.foldl (fun plan handler => plan.addEventHandler handler.1 handler.2) plan

end Plan

def addConfiguredButton (plan : Plan) (buttonCfg : Node) : StartUp Plan := do
  let button ← createPhoneButton buttonCfg
  plan.addButton button

/-- `ButtonPlan::create` -/
def createPlan (config : Node) : StartUp Plan := do
  let name ← read Node.asString (.valid config) "name"
  let buttons ← index (.valid config) "buttons"
  buttons.items.foldlM addConfiguredButton ⟨name, .empty, .empty⟩

def createEventHandler (plan : Plan) (handlers : List (UInt16 × EventHandler)) (buttonCfg : Node) :
    StartUp (List (UInt16 × EventHandler)) := do
  let buttonId ← read Node.asUInt16 (.valid buttonCfg) "id"
  let type ← read Node.asString (.valid buttonCfg) "type"
  if type = "night_button" then do
    let hint ← read Node.asString (.valid buttonCfg) "hint"
    return handlers ++ [(buttonId, .night (plan.getButton buttonId) hint)]
  else if type = "park_button" then do
    let lot ← read Node.asString (.valid buttonCfg) "parking_lot"
    request (.parkingHints lot)
    return handlers ++ [(buttonId, .park (plan.getButton buttonId) lot)]
  else do
    warning ("Unknown button type " ++ type ++ " in button plan " ++ plan.name)
    return handlers

def createEventHandlers (plan : Plan) (config : Node) : StartUp (List (UInt16 × EventHandler)) := do
  let buttons ← index (.valid config) "buttons"
  buttons.items.foldlM (createEventHandler plan) []

/-- The plan of one configuration entry with its event handlers. -/
def createFullPlan (planCfg : Node) : StartUp Plan := do
  let plan ← createPlan planCfg
  let handlers ← createEventHandlers plan planCfg
  return plan.addEventHandlers handlers

/-- The lambda of `createPhonePlans`: only the first plan of the name counts. -/
def createButtonPlan (name : String) : List Node → StartUp (Option Plan)
  | [] => pure none
  | planCfg :: rest => do
    let found ← read Node.asString (.valid planCfg) "name"
    if found ≠ name then createButtonPlan name rest
    else return some (← createFullPlan planCfg)

end Plans

section Phones
variable [ScalarInterface]

structure UI where
  name : String
  /-- Whether it is an `HTTPStateProvider`. -/
  httpState : Bool

/-- `PhoneUI::create`; the constructor asks the provider for its AoRs. -/
def createUI (config : Node) : StartUp (Option UI) := do
  let name ← read Node.asString (.valid config) "name"
  let provider ← createProvider (← index (.valid config) "provider")
  let type ← read Node.asString (.valid config) "type"
  if type = "yealink" then do
    let provider ← deref provider
    request (.compatibleAoRs provider.match_ provider.symbolMap)
    return some ⟨name, true⟩
  else return none

def createNightButton (type : String) (button : Option PhoneButton) (device : String) : Option NightButton :=
  if type = "yealink" then some ⟨button, device⟩ else none

def createParkButton (type : String) (parkingLot parkedCallInfoUri : String) : Option ParkButton :=
  if type = "yealink" then some ⟨parkingLot, parkedCallInfoUri⟩ else none

def configureHTTPStateButton (config : Node) (ui : UI) : StartUp Unit := do
  let uri ← read Node.asString (.valid config) "path"
  if ui.httpState then attach uri (.state ui.name)
  else warning ("Unable to configure phone state URI " ++ uri)

/-- The result of `getEventHandler` is used unchecked. -/
def configureHTTPNightButton (phoneType : String) (config : Node) (plan : Plan) : StartUp Unit := do
  let buttonId ← read Node.asUInt16 (.valid config) "button_id"
  let uri ← read Node.asString (.valid config) "path"
  let astButton ← deref (plan.getEventHandler buttonId)
  if astButton.getType ≠ .night then warning ("Unable to configure night button URI " ++ uri)
  else do
    let hint ← deref astButton.getHint?
    attach uri (.night (createNightButton phoneType (plan.getButton buttonId) hint))

def configureHTTPParkButton (phoneType : String) (config : Node) (httpUrl : String) (plan : Plan) : StartUp Unit := do
  let buttonId ← read Node.asUInt16 (.valid config) "button_id"
  let parkListUri ← read Node.asString (.valid config) "park_list_path"
  let parkInfoUri ← read Node.asString (.valid config) "park_info_path"
  let astButton ← deref (plan.getEventHandler buttonId)
  if astButton.getType ≠ .park then warning ("Unable to configure park button URI " ++ parkListUri)
  else do
    let lot ← deref astButton.getParkingLot?
    let httpButton := createParkButton phoneType lot (httpUrl ++ parkInfoUri)
    attach parkListUri (.parkList httpButton)
    attach parkInfoUri (.parkInfo httpButton)

def configureHTTPButton (phoneType httpUrl : String) (plan : Plan) (ui : UI) (config : Node) : StartUp Unit := do
  let type ← read Node.asString (.valid config) "type"
  if type = "http_state" then configureHTTPStateButton config ui
  else if type = "http_night" then configureHTTPNightButton phoneType config plan
  else if type = "http_park" then configureHTTPParkButton phoneType config httpUrl plan
  else pure ()

/-- The two collections that `createPhonePlans` fills. -/
structure PhonePlans where
  buttonPlans : KeyedTable String Plan
  phoneUis : List String

def createPhone (config : Handle) (httpUrl : String) (s : PhonePlans) (phoneCfg : Node) : StartUp PhonePlans := do
  let planName ← read Node.asString (.valid phoneCfg) "button_plan"
  if (s.buttonPlans.find? planName).isSome then failure ("Button plan " ++ planName ++ " already exists")
  else do
    let plans ← index config "button_plans"
    let created ← createButtonPlan planName plans.items
    match created with
    | none => failure ("Unable to find configuration for button plan " ++ planName)
    | some plan => do
      let ui ← deref (← createUI phoneCfg)
      if ui.name ∈ s.phoneUis then failure ("Found duplicate phone name " ++ ui.name)
      else do
        let phoneType ← read Node.asString (.valid phoneCfg) "type"
        let paths ← index (.valid phoneCfg) "http_paths"
        paths.items.foldlM (fun _ config => configureHTTPButton phoneType httpUrl plan ui config) ()
        return ⟨s.buttonPlans.emplace planName plan, ui.name :: s.phoneUis⟩

def createPhonePlans (config : Handle) : StartUp PhonePlans := do
  let httpUrl ← read Node.asString (← index config "http") "url"
  let phones ← index config "phones"
  phones.items.foldlM (createPhone config httpUrl) ⟨.empty, []⟩

/-- The part of `main` that reads the configuration. -/
def startUp (config : Handle) (isDaemon : Bool) : StartUp PhonePlans := do
  let _ ← configureSyslog (← index config "syslog") isDaemon
  let _ ← createHTTPServer (← index config "http")
  createAMIConnection (← index config "ami")
  createPhonebooks (← index config "phonebooks")
  createDeskphoneCache (← index config "database")
  createPhonePlans config

end Phones
end LampMonitor.Config
