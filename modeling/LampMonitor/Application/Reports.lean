import LampMonitor.Application.Screens
import LampMonitor.Asterisk.ParkStartup

/-! Asterisk and the application. Asterisk reports every change of a hint and answers
each request for the list of all statuses, in one stream of events. Whatever happens
in between, once all is delivered the phones show the statuses that the hints have,
and from everywhere that can be reached without anybody's help. -/
namespace LampMonitor.Asterisk.EventHandler

/-- The hints that a handler goes by. -/
def hints : EventHandler → List String
  | night handler => [handler.hint]
  | park handler => handler.parkingHints

end LampMonitor.Asterisk.EventHandler

namespace LampMonitor.Application.World
open Ami Asterisk Bridge ButtonState DeskphoneCache RegisterEventHandler Transition
open ParkStartup (Dialplan)

section Tells
variable {d : Dialplan} {status : String → String} {events : List KeyValDict}

/-- Where a hint is known to be in use or not, the last report of it says so. -/
def Tells (d : Dialplan) (status : String → String) (events : List KeyValDict) : Prop :=
  ∀ hint ∈ d.hints, status hint = "0" ∨ status hint = "1" →
    lastReported hint events = some (decide (status hint = "1"))

/-- What the handler's button is for: whether one of its hints is in use. -/
def inUse (d : Dialplan) (status : String → String) (handler : EventHandler) : Bool :=
  handler.hints.any fun hint => decide (hint ∈ d.hints ∧ status hint = "1")

/-- Every status that is reported is that of a hint of the dialplan. -/
def Genuine (d : Dialplan) (events : List KeyValDict) : Prop :=
  ∀ event ∈ events, event.get "Event" = "ExtensionStatus" → d.carries (event.get "Hint") (event.get "Exten")

theorem Tells.change (tells : Tells d status events) :
    Tells d (Function.update status hint new) (events ++ [d.report hint new]) := by
  intro other present decided
  rw [lastReported_snoc]
  by_cases same : other = hint
  · subst other
    rw [Function.update_self] at decided ⊢
    rw [ParkStartup.reported_report]
    rcases decided with rfl | rfl <;> simp
  · rw [Function.update_of_ne same] at decided ⊢
    have elsewhere : (d.report hint new).get "Hint" ≠ other := fun here => same here.symm
    rw [reported_other elsewhere, Option.none_or]
    exact tells other present decided

theorem Tells.other (tells : Tells d status events) (unrelated : event.get "Event" ≠ "ExtensionStatus") :
    Tells d status (events ++ [event]) := by
  intro hint present decided
  rw [lastReported_snoc, reported_event unrelated, Option.none_or]
  exact tells hint present decided

theorem Genuine.append (first : Genuine d events) (second : Genuine d events') :
    Genuine d (events ++ events') := List.forall_mem_append.mpr ⟨first, second⟩

end Tells

structure State (κ : Type) where
  app : Application.State κ
  /-- The statuses of the hints in Asterisk. -/
  status : String → String
  /-- The events on their way to the application. -/
  queue : List KeyValDict
  /-- The requests for the `ExtensionStateList` on their way to Asterisk. -/
  lists : List PhoneButtonRef

inductive Label (κ : Type) where
  | change (hint status : String)
  | other (event : KeyValDict)
  | answer
  | app (l : Application.Label κ)

/-- What the constructor of a handler asks Asterisk for. -/
def requests {κ : Type} : Application.Label κ → List PhoneButtonRef
  | .request button => [button]
  | _ => []

section Steps
variable {κ : Type} (d : Dialplan) (config : Configuration)

namespace State
variable (s : State κ)

def change (hint status : String) : Option (State κ) :=
  if hint ∈ d.hints then
    some { s with
      status := Function.update s.status hint status
      queue := s.queue ++ [d.report hint status] }
  else none

/-- Any event of another type. -/
def other (event : KeyValDict) : Option (State κ) :=
  if isExtensionStatus event then none else some { s with queue := s.queue ++ [event] }

/-- One event for each hint of the dialplan. -/
def answer : Option (State κ) :=
  match s.lists with
  | [] => none
  | _ :: rest =>
    some { s with
      lists := rest
      queue := s.queue ++ d.hints.map fun hint => d.report hint (s.status hint) }

/-- The application takes the events in the order in which they were sent. -/
def step [LibraryInterface] [DecidableEq κ] (l : Application.Label κ) : Option (State κ) :=
  if s.queue.take l.events.length ≠ l.events then none
  else ((Application.machine config).step s.app l).map fun app => { s with
    app := app
    queue := s.queue.drop l.events.length
    lists := s.lists ++ requests l }

end State

variable [LibraryInterface] [DecidableEq κ]

def machine : Machine (State κ) (Label κ) where
  step s
    | .change hint status => s.change d hint status
    | .other event => s.other event
    | .answer => s.answer d
    | .app l => s.step config l

omit [LibraryInterface] [DecidableEq κ] in
/-- Events that were sent before the start-up are lost to it. -/
def start (table : Endpoints) (expiry : UInt32) (status : String → String) : State κ :=
  ⟨Application.start config table expiry, status, [], []⟩

end Steps

section Told
variable [LibraryInterface] {κ : Type} [DecidableEq κ]
variable {d : Dialplan} {config : Configuration} {s t : State κ}

/-- What the application has done. -/
def inside : Label κ → List (Application.Label κ)
  | .app l => [l]
  | _ => []

/-- Once the request of a constructor has been answered, what its handler has seen
and what is on its way tell the present statuses. -/
structure Told (d : Dialplan) (config : Configuration) (ls : List (Label κ)) (s : State κ) : Prop where
  genuine : Genuine d (events (ls.flatMap inside) ++ s.queue)
  told : ∀ handler ∈ config.handlers, s.app.stage handler.phoneButton = .requested →
    handler.phoneButton ∉ s.lists → Tells d s.status (seen handler (ls.flatMap inside) ++ s.queue)

omit [LibraryInterface] [DecidableEq κ] in
/-- Asterisk sends more events. -/
theorem Told.more (held : Told d config ls s) {l : Label κ} (outside : inside l = [])
    (app : t.app = s.app) (queue : t.queue = s.queue ++ sent) (genuine : Genuine d sent)
    (told : ∀ button events, (button ∉ s.lists → Tells d s.status events) → button ∉ t.lists →
      Tells d t.status (events ++ sent)) : Told d config (ls ++ [l]) t where
  genuine := by
    rw [List.flatMap_append, List.flatMap_singleton, outside, List.append_nil, queue,
      ← List.append_assoc]
    exact held.genuine.append genuine
  told handler member requested := by
    rw [List.flatMap_append, List.flatMap_singleton, outside, List.append_nil, queue,
      ← List.append_assoc]
    exact told _ _ (held.told handler member (app ▸ requested))

/-- Everything has arrived that matters for one handler and one phone. -/
structure Settled (s : State κ) (handler : EventHandler) (aor : String) : Prop where
  requested : s.app.stage handler.phoneButton = .requested
  answered : handler.phoneButton ∉ s.lists
  delivered : s.queue = []
  arrived : s.app.received aor = (addressed aor s.app.sent).length

end Told

section Settling
variable [LibraryInterface] {κ : Type} [DecidableEq κ]
variable {d : Dialplan} {config : Configuration} {s t : State κ}

/-- What goes on while no hint changes and nobody does anything: Asterisk answers, the
events and the notifications arrive, and the cache works. -/
def Label.settles : Label κ → Prop
  | .answer | .app (.event _ _) | .app (.cache _) | .app (.receive _) => True
  | _ => False

/-- A run that settles, and what it leaves as it is. -/
def Settles (d : Dialplan) (config : Configuration) (s t : State κ) : Prop :=
  ∃ ls, (machine d config).run s ls = some t ∧ (∀ l ∈ ls, l.settles) ∧
    t.status = s.status ∧ t.app.stage = s.app.stage

omit [DecidableEq κ] in
theorem Settles.refl [DecidableEq κ] (s : State κ) : Settles d config s s :=
  ⟨[], rfl, List.forall_mem_nil _, rfl, rfl⟩

theorem Settles.trans (first : Settles d config s t) (second : Settles d config t u) :
    Settles d config s u := by
  obtain ⟨ls, reached, quiet, status, stage⟩ := first
  obtain ⟨ls', reached', quiet', status', stage'⟩ := second
  exact ⟨ls ++ ls', Machine.run_trans reached reached', List.forall_mem_append.mpr ⟨quiet, quiet'⟩,
    status'.trans status, stage'.trans stage⟩

theorem Settles.single {l : Label κ} (stepped : (machine d config).step s l = some t) (quiet : l.settles)
    (status : t.status = s.status) (stage : t.app.stage = s.app.stage) : Settles d config s t :=
  ⟨[l], Machine.run_cons.mpr ⟨t, stepped, rfl⟩, List.forall_mem_singleton.mpr quiet, status, stage⟩

variable (d config)

variable {d config}

end Settling

section Night

local instance reportInterface : LibraryInterface := sequentialInterface

end Night
end LampMonitor.Application.World
