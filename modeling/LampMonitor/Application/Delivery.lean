import LampMonitor.Asterisk.NotificationTrace
import LampMonitor.Asterisk.RegistrationPolicy
import LampMonitor.Bridge.Deskphone
import LampMonitor.Cache.KnownPhones
import LampMonitor.Transition.Sampling

/-! The application between Asterisk and the phones, from the first handler that its
start-up constructs. AMI events reach the callbacks that are there, one event after
the other. The start-up, the batch writer, the threads of the HTTP server and the
phones, each executing what it is sent in order, take their steps between two events
at any time, and any SQL statement may fail. -/
namespace LampMonitor.Asterisk.EventHandler

/-- The handler as its callback is added: the hints of a parking lot come later. -/
def fresh : EventHandler → EventHandler
  | night handler => night handler
  | park handler => park { handler with parkingHints := [] }

/-- `parking_hints_` is assigned in the handler of that button. -/
def store (configured : ParkEventHandler) : EventHandler → EventHandler
  | night handler => night handler
  | park handler =>
    if handler.phoneButton = configured.phoneButton then
      park { handler with parkingHints := configured.parkingHints }
    else park handler

end LampMonitor.Asterisk.EventHandler

namespace LampMonitor.Application
open Ami Asterisk Bridge ButtonState DeskphoneCache RegisterEventHandler Transition

/-- How far the constructor of a handler has come. -/
inductive Stage where
  | created
  | installed
  | armed
  | requested
  deriving DecidableEq, Repr

/-- The requests of the AMI thread are those of `none`. -/
structure State (κ : Type) where
  plans : List ButtonPlan
  handlers : List EventHandler
  stage : PhoneButtonRef → Stage
  /-- The plans whose UI is registered. -/
  withUI : List Nat
  /-- The callback of `RegisterEventHandler` is installed. -/
  listening : Bool
  registered : List Nat
  cache : WriteThread.State (Option κ)
  expiry : Int
  sent : List PJSIPNotify
  /-- How many of its notifications the phone at an AoR has executed. -/
  received : String → Nat

inductive Label (κ : Type) where
  | install (button : PhoneButtonRef)
  | store (button : PhoneButtonRef)
  | request (button : PhoneButtonRef)
  | registerUI (p : Nat)
  | listen
  | registerButtonPlan (p : Nat)
  | event (event : KeyValDict) (now : Nat)
  | expire (k : κ) (params : List (String × String))
  | cache (l : WriteThread.Label (Option κ))
  | receive (aor : String)

/-- The notifications to one AoR, in the order in which they were sent. -/
def addressed (aor : String) (sent : List PJSIPNotify) : List PJSIPNotify :=
  sent.filter fun message => message.endpoint = aor

/-- The plans that `publishPhoneState` goes through. -/
def published (plans : List ButtonPlan) (registered : List Nat) : List ButtonPlan :=
  registered.filterMap fun p => plans[p]?

section Steps
variable {κ : Type} (config : Configuration)

def handlerOf (button : PhoneButtonRef) : Option EventHandler :=
  config.handlers.find? fun handler => handler.phoneButton = button

namespace State
variable (s : State κ)

/-- The first part of a constructor. A night handler has its hint from the start. -/
def install (button : PhoneButtonRef) : Option (State κ) :=
  match handlerOf config button with
  | none => none
  | some handler =>
    if s.stage button ≠ .created then none
    else
      let next := match handler with
        | .night _ => .armed
        | .park _ => .installed
      some { s with handlers := s.handlers ++ [handler.fresh], stage := Function.update s.stage button next }

def store (button : PhoneButtonRef) : Option (State κ) :=
  match handlerOf config button with
  | some (.park handler) =>
    if s.stage button ≠ .installed then none
    else some { s with
      handlers := s.handlers.map (EventHandler.store handler)
      stage := Function.update s.stage button .armed }
  | _ => none

/-- The last part: the list of all statuses is requested. -/
def request (button : PhoneButtonRef) : Option (State κ) :=
  if s.stage button ≠ .armed then none
  else some { s with stage := Function.update s.stage button .requested }

def registerUI (p : Nat) : Option (State κ) :=
  match config.plans[p]?, s.plans[p]? with
  | some plan, some here =>
    if p ∈ s.withUI then none
    else some { s with
      plans := s.plans.set p { here with phoneUis := plan.phoneUis.map (·.update here.getButtons) }
      withUI := p :: s.withUI }
  | _, _ => none

def registerButtonPlan (p : Nat) : Option (State κ) :=
  if s.listening = true ∧ p ∈ s.withUI ∧ p ∉ s.registered then
    some { s with registered := s.registered ++ [p] }
  else none

variable [DecidableEq κ]

def event [LibraryInterface] (event : KeyValDict) (now : Nat) : Option (State κ) :=
  if s.cache.requests none ≠ [] then none
  else
    let (plans, handlers, messages) := deliver event s.plans s.handlers
    let (answer, data) :=
      if s.listening then
        amiEventHandler (published plans s.registered) s.cache.committed s.expiry now event
      else ([], none)
    some { s with
      plans := plans
      handlers := handlers
      cache := WriteThread.ask s.cache none data
      sent := s.sent ++ (messages ++ answer) }

def expire (k : κ) (params : List (String × String)) : Option (State κ) :=
  if s.cache.requests (some k) ≠ [] then none
  else some { s with cache := WriteThread.ask s.cache (some k) (Policy.expirePath params).2 }

def receive (aor : String) : Option (State κ) :=
  if s.received aor < (addressed aor s.sent).length then
    some { s with received := Function.update s.received aor (s.received aor + 1) }
  else none

end State

variable [LibraryInterface] [DecidableEq κ]

/-- The start-up takes its steps in one order; here they may come in any order that
keeps a constructor together and has a plan rendered before it is registered. -/
def machine : Machine (State κ) (Label κ) where
  step s
    | .install button => s.install config button
    | .store button => s.store config button
    | .request button => s.request button
    | .registerUI p => s.registerUI config p
    | .listen => if s.listening then none else some { s with listening := true }
    | .registerButtonPlan p => s.registerButtonPlan p
    | .event event now => s.event event now
    | .expire k params => s.expire k params
    | .cache l => (WriteThread.machine.step s.cache l).map fun cache => { s with cache := cache }
    | .receive aor => s.receive aor

omit [LibraryInterface] [DecidableEq κ] in
/-- The plans as `ButtonPlan::create` leaves them, without a UI. -/
def start (table : Endpoints) (expiry : UInt32) : State κ where
  plans := config.plans.map fun plan => { plan with phoneUis := [] }
  handlers := []
  stage _ := .created
  withUI := []
  listening := false
  registered := []
  cache := WriteThread.start (initializeDatabase table) fun _ => []
  expiry := create expiry
  sent := []
  received _ := 0

end Steps

section History
variable {κ : Type}

def Label.events : Label κ → List KeyValDict
  | .event happened _ => [happened]
  | _ => []

def events (ls : List (Label κ)) : List KeyValDict := ls.flatMap Label.events

/-- The label after which a handler takes part. -/
def arms (handler : EventHandler) : Label κ → Bool
  | .install button =>
    match handler with
    | .night _ => decide (button = handler.phoneButton)
    | .park _ => false
  | .store button =>
    match handler with
    | .night _ => false
    | .park _ => decide (button = handler.phoneButton)
  | _ => false

/-- The events that a handler has seen. -/
def seen (handler : EventHandler) (ls : List (Label κ)) : List KeyValDict :=
  events (since (arms handler) ls)

def listens : Label κ → Bool
  | .listen => true
  | _ => false

/-- A phone at this AoR has registered, and the application has heard of it. -/
def Registered (ls : List (Label κ)) (aor : String) : Prop :=
  ∃ event ∈ events (since listens ls), ∃ endpoint, monitored event = some ⟨aor, endpoint⟩

theorem events_snoc (ls : List (Label κ)) (l : Label κ) :
    events (ls ++ [l]) = events ls ++ l.events := by
  rw [events, List.flatMap_append, List.flatMap_singleton]
  rfl

theorem seen_snoc (handler : EventHandler) (ls : List (Label κ)) (l : Label κ) :
    seen handler (ls ++ [l]) = if ls.any (arms handler) then seen handler ls ++ l.events else [] := by
  rw [seen, since_snoc]
  split
  · exact events_snoc _ l
  · rfl

theorem seen_unarmed {ls : List (Label κ)} (unarmed : ls.any (arms handler) = false) :
    seen handler ls = [] := by
  rw [seen, since_none unarmed]
  rfl

theorem registered_snoc {ls : List (Label κ)} {l : Label κ} :
    Registered (ls ++ [l]) aor ↔ Registered ls aor ∨ ls.any listens = true ∧
      ∃ event now endpoint, l = .event event now ∧ monitored event = some ⟨aor, endpoint⟩ := by
  have before : ls.any listens = false → ¬ Registered ls aor := by
    rintro deaf ⟨event, member, _⟩
    rw [since_none deaf] at member
    contradiction
  rw [Registered, since_snoc]
  cases heard : ls.any listens with
  | false => simp [events, before heard]
  | true =>
    rw [if_pos rfl, events_snoc]
    simp only [true_and]
    constructor
    · rintro ⟨event, member, endpoint, found⟩
      rcases List.mem_append.mp member with earlier | here
      · exact .inl ⟨event, earlier, endpoint, found⟩
      · cases l with
        | event other now =>
          obtain rfl := List.mem_singleton.mp here
          exact .inr ⟨event, now, endpoint, rfl, found⟩
        | _ => contradiction
    · rintro (⟨event, earlier, endpoint, found⟩ | ⟨event, now, endpoint, rfl, found⟩)
      · exact ⟨event, List.mem_append_left _ earlier, endpoint, found⟩
      · exact ⟨event, List.mem_append_right _ List.mem_cons_self, endpoint, found⟩

theorem Registered.later {ls : List (Label κ)} (before : Registered ls aor) (l : Label κ) :
    Registered (ls ++ [l]) aor := registered_snoc.mpr (.inl before)

end History
end LampMonitor.Application
