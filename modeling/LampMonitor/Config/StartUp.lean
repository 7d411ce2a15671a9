import LampMonitor.ButtonState.PhoneButton
import LampMonitor.Config.Privileges
import LampMonitor.Config.Yaml
import LampMonitor.Script
import LampMonitor.KeyedTable
import LampMonitor.Match.JsonExpressionMatcher
import LampMonitor.Phonebook.Phonebook
import Mathlib.Init

/-! What `main` builds from the configuration, up to the HTTP server. Pointers that
may be null are options; a null that is used as an object stops the program. Calls
that leave the program may throw, or fail as the login does, and are requests.
Assertions are disabled, and debug messages are left out. -/
namespace LampMonitor.Config
open ButtonState Match Phonebook

inductive LogLevel where
  | emerg
  | alert
  | crit
  | err
  | warning
  | notice
  | info
  | debug
  deriving DecidableEq, Repr

inductive Stop where
  | exception (thrown : YamlException)
  | exit (status : Nat)
  | nullDereference
  deriving DecidableEq, Repr

/-- What is asked of the AMI library, Asterisk, the database and the HTTP server. -/
inductive Request where
  | connect (hostname : String) (port : UInt16)
  | login (username secret authType events : String)
  | openDatabase (filename : String) (expiry : UInt32)
  | parkingHints (parkingLot : String)
  | compatibleAoRs (match_ : String) (symbolMap : SymbolMap)
  | route (uri : String)

inductive EventType where
  | night
  | park
  | register
  deriving DecidableEq, Repr

inductive EventHandler where
  | night (phoneButton : Option PhoneButton) (hint : String)
  | park (phoneButton : Option PhoneButton) (parkingLot : String)
  deriving DecidableEq, Repr

namespace EventHandler

def getType : EventHandler → EventType
  | night _ _ => .night
  | park _ _ => .park

/-- The hint, after the `dynamic_pointer_cast` to a night handler. -/
def getHint? : EventHandler → Option String
  | night _ hint => some hint
  | park _ _ => none

def getParkingLot? : EventHandler → Option String
  | night _ _ => none
  | park _ lot => some lot

def phoneButton : EventHandler → Option PhoneButton
  | night button _ => button
  | park button _ => button

end EventHandler

structure Provider where
  match_ : String
  symbolMap : SymbolMap

structure HTTPPhonebook where
  provider : Provider
  type : PhonebookType
  /-- In minutes. -/
  expiry : UInt32

structure NightButton where
  button : Option PhoneButton
  device : String
  deriving DecidableEq, Repr

structure ParkButton where
  parkingLot : String
  parkedCallInfoUri : String
  deriving DecidableEq, Repr

/-- What a path of the HTTP server is served by. -/
inductive Target where
  | phonebook (phonebook : HTTPPhonebook)
  | expire
  | state (phone : String)
  | night (button : Option NightButton)
  | parkList (button : Option ParkButton)
  | parkInfo (button : Option ParkButton)

inductive Event where
  | syslog (level : LogLevel) (message : String)
  | attach (uri : String) (target : Target)

abbrev StartUp := Script Event Request Stop

section Steps

def attempt (x : Except YamlException α) : StartUp α :=
  match x with
  | .ok a => .done a
  | .error thrown => .stop (.exception thrown)

def index (config : Handle) (key : String) : StartUp Handle := attempt (config.index key)

def read (convert : Node → Option α) (config : Handle) (key : String) : StartUp α := attempt (config.read convert key)

def warning (message : String) : StartUp Unit := .emit (.syslog .warning message) (.done ())

def failure (message : String) : StartUp α := .emit (.syslog .err message) (.stop (.exit Privileges.exitFailure))

def request (r : Request) : StartUp Unit := .ask r (.done ())

def deref : Option α → StartUp α
  | some a => .done a
  | none => .stop .nullDereference

/-- `http_server.Get(uri, ...)` -/
def attach (uri : String) (target : Target) : StartUp Unit := .ask (.route uri) (.emit (.attach uri target) (.done ()))

end Steps

section Connections
variable [ScalarInterface]

def toLogLevel (level : String) : LogLevel :=
  if level = "DEBUG" then .debug
  else if level = "INFO" then .info
  else if level = "NOTICE" then .notice
  else if level = "WARNING" then .warning
  else if level = "ERR" then .err
  else if level = "CRIT" then .crit
  else if level = "ALERT" then .alert
  else .emerg

structure SyslogOptions where
  console : Bool
  upTo : LogLevel

/-- A daemon does not look at `console`. -/
def configureSyslog (config : Handle) (isDaemon : Bool) : StartUp SyslogOptions := do
  let console ← if isDaemon then pure false else read Node.asBool config "console"
  let logLevel ← read Node.asString config "level"
  return ⟨console, toLogLevel logLevel⟩

def createHTTPServer (config : Handle) : StartUp (String × UInt16) := do
  let host ← read Node.asString config "addr"
  let port ← read Node.asUInt16 config "port"
  return (host, port)

def createAMIConnection (config : Handle) : StartUp Unit := do
  let hostname ← read Node.asString config "host"
  let port ← read Node.asUInt16 config "port"
  request (.connect hostname port)
  let username ← read Node.asString config "username"
  let secret ← read Node.asString config "secret"
  request (.login username secret "plain" "on")

/-- `DeskphoneCache::create` -/
def createCache (config : Handle) : StartUp Unit := do
  let filename ← read Node.asString config "filename"
  let expiry ← read Node.asUInt32 config "expiry"
  request (.openDatabase filename (max 60 expiry))

def createDeskphoneCache (config : Handle) : StartUp Unit := do
  createCache config
  let httpConfig ← index config "http_paths"
  let expirePath ← read Node.asString httpConfig "expire_path"
  if expirePath = "" then pure () else attach expirePath .expire

end Connections

section Phonebooks
variable [ScalarInterface]

def addSymbol (map : SymbolMap) (entry : Node) : StartUp SymbolMap := do
  let symbol ← read Node.asString (.valid entry) "symbol"
  let key ← read Node.asString (.valid entry) "key"
  if map.symbolMap.any (·.1 = symbol) then do
    warning ("Duplicate symbol " ++ symbol ++ " found")
    return map
  else return ⟨map.symbolMap ++ [(symbol, key)]⟩

/-- `SymbolMap::create` -/
def createSymbolMap (config : Handle) : StartUp SymbolMap := config.items.foldlM addSymbol ⟨[]⟩

/-- `PJSIPWizardProvider::create`, the same text for phonebooks and for phones. -/
def createPJSIPWizardProvider (config : Handle) : StartUp Provider := do
  let match_ ← read Node.asString config "match"
  let symbolMap ← createSymbolMap (← index config "symbol_maps")
  return ⟨match_, symbolMap⟩

/-- `PhonebookProvider::create` and `AoRProvider::create` -/
def createProvider (config : Handle) : StartUp (Option Provider) := do
  let type ← read Node.asString config "type"
  if type = "pjsip_wizard_cfg" then return some (← createPJSIPWizardProvider config) else return none

abbrev Adapters := KeyedTable String (Option Provider)

def findAdapter (adapters : Adapters) (name : String) : List Node → StartUp (Adapters × Option Provider)
  | [] => pure (adapters, none)
  | adapterYaml :: rest => do
    let found ← read Node.asString (.valid adapterYaml) "name"
    if found = name then do
      let adapter ← createProvider (.valid adapterYaml)
      return (adapters.emplace name adapter, adapter)
    else findAdapter adapters name rest

/-- The lambda of `createPhonebooks`; each provider is created once. -/
def createAdapter (config : Handle) (adapters : Adapters) (name : String) : StartUp (Adapters × Option Provider) :=
  match adapters.find? name with
  | some adapter => pure (adapters, adapter)
  | none => do
    let providers ← index config "providers"
    findAdapter adapters name providers.items

/-- `Phonebook::create` -/
def createHTTPPhonebook (config : Handle) (source : Provider) : StartUp (Option HTTPPhonebook) := do
  let ttl ← read Node.asUInt32 config "ttl"
  let type ← read Node.asString config "type"
  return (PhonebookType.ofString type).map fun type => ⟨source, type, max ttl 120⟩

def createPhonebook (config : Handle) (adapters : Adapters) (phonebookConfig : Node) : StartUp Adapters := do
  let adapterId ← read Node.asString (.valid phonebookConfig) "provider"
  let created ← createAdapter config adapters adapterId
  match created.2 with
  | none => failure ("Missing phonebook source adapter: " ++ adapterId)
  | some adapter => do
    let phonebookUri ← read Node.asString (.valid phonebookConfig) "path"
    let phonebook ← createHTTPPhonebook (.valid phonebookConfig) adapter
    match phonebook with
    | none => failure ("Failed creating HTTP phonebook for: " ++ phonebookUri)
    | some phonebook => do
      attach phonebookUri (.phonebook phonebook)
      return created.1

def createPhonebooks (config : Handle) : StartUp Unit := do
  let paths ← index config "http_paths"
  let _ ← paths.items.foldlM (createPhonebook config) KeyedTable.empty
  return ()

end Phonebooks
end LampMonitor.Config
