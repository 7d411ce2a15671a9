import LampMonitor.Asterisk.RegisterEventHandler
import LampMonitor.Transition.BatchLog

/-! Start-up of the register event handler. Its constructor installs the AMI
callback; the plans are registered afterwards, one at a time. Any number of
events may meanwhile be handled on other threads, and the cache writes behind. -/
namespace LampMonitor.RegisterEventHandler.Startup
open Ami Bridge ButtonState DeskphoneCache Transition

/-- An invocation of the callback that has passed the filter: inside
`addEndpoint`, or about to run `publishPhoneState`. -/
inductive Handler where
  | addEndpoint (key : EndpointKey)
  | check (key : EndpointKey) (now : Int)
  | enqueue (key : EndpointKey) (now : Int) (foundRec : Bool)
  | publish (key : EndpointKey) (newAor : Bool)

structure State where
  cache : BatchLog.State Database HandsetData
  now : Int
  /-- The constructor has run. -/
  installed : Bool
  buttonPlans : List ButtonPlan
  /-- The plans that `createRegisterEventHandler` has still to register. -/
  unregistered : List ButtonPlan
  inFlight : List Handler
  /-- What `addEndpoint` has returned so far. -/
  answers : List (EndpointKey × Bool)
  sent : List PJSIPNotify

inductive Label where
  | construct
  | registerButtonPlan
  | deliver (event : KeyValDict)
  | handle (k : Nat)
  | swap
  | commit
  | tick (duration : Nat)

def cacheLog : Machine (BatchLog.State Database HandsetData) (BatchLog.Label HandsetData) :=
  BatchLog.machine execute

section Runs
variable [LibraryInterface]

namespace State

/-- The thread at position `k` goes on to `next`. -/
def advance (s : State) (k : Nat) (next : Handler) : State := { s with inFlight := s.inFlight.set k next }

/-- One step of a handler. `publishPhoneState` is one step, since it holds
`button_plans_mut_` throughout. -/
def handle (s : State) (expiry : Int) (k : Nat) : Option State := do
  match ← s.inFlight[k]? with
  | .addEndpoint key => return s.advance k (.check key s.now)
  | .check key now =>
    return s.advance k (.enqueue key now (unexpired s.cache.published.endpoints key.aor key.endpoint now))
  | .enqueue key now foundRec =>
    let cache ← cacheLog.step s.cache (.enqueue ⟨.aorInsert, key.aor, key.endpoint, expiresAt expiry now⟩)
    return { s.advance k (.publish key !foundRec) with cache := cache, answers := s.answers ++ [(key, !foundRec)] }
  | .publish key newAor =>
    return { s with
      inFlight := s.inFlight.eraseIdx k
      sent := s.sent ++ publishPhoneState s.buttonPlans newAor key.aor }

end State

def machine (expiry : Int) : Machine State Label where
  step s
    | .construct => if s.installed then none else some { s with installed := true }
    | .registerButtonPlan =>
      match s.unregistered with
      | [] => none
      | plan :: rest =>
        if s.installed then some { s with buttonPlans := s.buttonPlans ++ [plan], unregistered := rest } else none
    | .deliver event =>
      if s.installed then
        match monitored event with
        | none => some s
        | some key => some { s with inFlight := s.inFlight ++ [.addEndpoint key] }
      else none
    | .handle k => s.handle expiry k
    | .swap => (cacheLog.step s.cache .cut).map fun cache => { s with cache := cache }
    | .commit => (cacheLog.step s.cache .publish).map fun cache => { s with cache := cache }
    | .tick duration => some { s with now := s.now + duration }

def start (endpoints : Endpoints) (now : Int) (plans : List ButtonPlan) : State where
  cache := BatchLog.start ⟨initializeDatabase endpoints, Bindings.unbound⟩
  now := now
  installed := false
  buttonPlans := []
  unregistered := plans
  inFlight := []
  answers := []
  sent := []

/-- Start-up is complete and every delivered event has been handled. -/
def Quiescent (s : State) : Prop := s.installed = true ∧ s.unregistered = [] ∧ s.inFlight = []

/-- Every phone that was recorded as new has been sent the state of every
compatible UI of the configured plans. -/
def Lit (plans : List ButtonPlan) (s : State) : Prop :=
  ∀ key, (key, true) ∈ s.answers →
    (notifications plans key.aor fun _ => true).Sublist s.sent

/-- A new phone is published to when no plan still to be registered has a UI for it. -/
def Registered (s : State) : Label → Prop
  | .handle k =>
    match s.inFlight[k]? with
    | some (.publish key true) =>
      ∀ plan ∈ s.unregistered, ∀ ui ∈ plan.phoneUis, key.aor ∉ ui.compatibleAors
    | _ => True
  | _ => True

section Invariant
variable {expiry : Int} {plans : List ButtonPlan}

/-- A new phone is either still waiting for its publication or has been served. -/
structure Serves (plans : List ButtonPlan) (s : State) : Prop where
  configured : s.buttonPlans ++ s.unregistered = plans
  served : ∀ key, (key, true) ∈ s.answers →
    .publish key true ∈ s.inFlight ∨ (publishPhoneState plans true key.aor).Sublist s.sent

omit [LibraryInterface] in
theorem mem_set_of_ne {handlers : List Handler} (member : waiting ∈ handlers)
    (found : handlers[k]? = some old) (different : old ≠ waiting) :
    waiting ∈ handlers.set k next := by
  obtain ⟨j, bound, here⟩ := List.mem_iff_getElem.mp member
  have other : k ≠ j := by
    rintro rfl
    rw [List.getElem?_eq_getElem bound, here] at found
    exact different (Option.some.inj found).symm
  rw [← here, ← List.getElem_set_ne other (by simpa using bound)]
  exact List.getElem_mem _

omit [LibraryInterface] in
theorem mem_eraseIdx_or_eq {handlers : List Handler} (member : waiting ∈ handlers)
    (found : handlers[k]? = some old) : old = waiting ∨ waiting ∈ handlers.eraseIdx k := by
  by_cases same : old = waiting
  · exact .inl same
  · obtain ⟨j, bound, here⟩ := List.mem_iff_getElem.mp member
    refine .inr (List.mem_eraseIdx_iff_getElem.mpr ⟨j, bound, ?_, here⟩)
    rintro rfl
    rw [List.getElem?_eq_getElem bound, here] at found
    exact same (Option.some.inj found).symm

theorem serves_handle (held : Serves plans s) (registered : Registered s (.handle k))
    (stepped : s.handle expiry k = some t) : Serves plans t := by
  obtain ⟨configured, served⟩ := held
  simp only [State.handle, Option.bind_eq_bind, Option.bind_eq_some_iff] at stepped
  obtain ⟨handler, found, stepped⟩ := stepped
  cases handler with
  | addEndpoint key =>
    cases Option.some.inj stepped
    refine ⟨configured, fun other answered => (served other answered).imp_left fun waiting => ?_⟩
    exact mem_set_of_ne waiting found (by simp)
  | check key now =>
    cases Option.some.inj stepped
    refine ⟨configured, fun other answered => (served other answered).imp_left fun waiting => ?_⟩
    exact mem_set_of_ne waiting found (by simp)
  | enqueue key now foundRec =>
    obtain ⟨cache, _, equal⟩ := Option.bind_eq_some_iff.mp stepped
    cases Option.some.inj equal
    refine ⟨configured, fun other answered => ?_⟩
    rcases List.mem_append.mp answered with earlier | latest
    · exact (served other earlier).imp_left fun waiting => mem_set_of_ne waiting found (by simp)
    · simp only [List.mem_singleton, Prod.mk.injEq] at latest
      obtain ⟨rfl, fresh⟩ := latest
      apply Or.inl
      rw [State.advance, ← fresh]
      exact List.mem_set (List.getElem?_eq_some_iff.mp found).1 _
  | publish key newAor =>
    cases Option.some.inj stepped
    refine ⟨configured, fun other answered => ?_⟩
    rcases served other answered with waiting | served
    · rcases mem_eraseIdx_or_eq waiting found with equal | waiting
      · cases equal
        simp only [Registered, found] at registered
        apply Or.inr
        rw [← configured, publishPhoneState_append, publishPhoneState_none registered,
          List.append_nil]
        exact List.sublist_append_right _ _
      · exact .inl waiting
    · exact .inr (served.trans (List.sublist_append_left _ _))

theorem serves_step (held : Serves plans s) (registered : Registered s l)
    (stepped : (machine expiry).step s l = some t) : Serves plans t := by
  obtain ⟨configured, served⟩ := held
  cases l with
  | handle k => exact serves_handle ⟨configured, served⟩ registered stepped
  | construct =>
    simp only [machine] at stepped
    split at stepped
    · contradiction
    · cases Option.some.inj stepped
      exact ⟨configured, served⟩
  | registerButtonPlan =>
    simp only [machine] at stepped
    split at stepped
    · contradiction
    · rename_i plan rest remaining
      split at stepped
      · cases Option.some.inj stepped
        refine ⟨?_, served⟩
        rw [← configured, remaining, List.append_assoc, List.singleton_append]
      · contradiction
  | deliver event =>
    simp only [machine] at stepped
    split at stepped
    · split at stepped
      · cases Option.some.inj stepped
        exact ⟨configured, served⟩
      · cases Option.some.inj stepped
        exact ⟨configured,
          fun key answered => (served key answered).imp_left (List.mem_append_left _)⟩
    · contradiction
  | swap | commit =>
    simp only [machine, Option.map_eq_some_iff] at stepped
    obtain ⟨cache, _, rfl⟩ := stepped
    exact ⟨configured, served⟩
  | tick duration =>
    cases Option.some.inj stepped
    exact ⟨configured, served⟩

end Invariant

/-- A new phone whose publication finds every plan for it registered is lit. -/
theorem lit_of_registered (endpoints : Endpoints) (expiry now : Int) (plans : List ButtonPlan)
    (registered : (machine expiry).Meets Registered (start endpoints now plans) ls)
    (reached : (machine expiry).run (start endpoints now plans) ls = some t) (quiescent : Quiescent t) :
    Lit plans t := by
  have held : Serves plans t := by
    refine Machine.run_invariant_meets (P := Serves plans) serves_step registered reached ⟨rfl, ?_⟩
    simp [start]
  intro key answered
  rcases held.served key answered with waiting | served
  · rw [quiescent.2.2] at waiting
    contradiction
  · rwa [publishPhoneState_eq] at served

end Runs

section EarlyEvent

local instance : LibraryInterface := sequentialInterface

def handled : List Label := [.deliver registration, .handle 0, .handle 0, .handle 0, .handle 0]

/-- The event arrives between the constructor and the registration of the plan. -/
theorem early_event_unlit : ∃ t, (machine 0).run (start KeyedTable.empty 1 [officePlan])
    (.construct :: handled ++ [.registerButtonPlan]) = some t ∧ Quiescent t ∧ ¬ Lit [officePlan] t := by
  refine ⟨_, rfl, ⟨rfl, rfl, rfl⟩, fun lit => ?_⟩
  have served := lit ⟨"1001", "IPV4/UDP/10.0.0.7/5060"⟩ List.mem_cons_self
  have none := served.length_le
  contradiction

/-- The same event once the plan is registered. -/
theorem lit_of_registered_late : ∃ t, (machine 0).run (start KeyedTable.empty 1 [officePlan])
    (.construct :: .registerButtonPlan :: handled) = some t ∧ Lit [officePlan] t := by
  have complete : ∀ plan ∈ ([] : List ButtonPlan), ∀ ui ∈ plan.phoneUis, "1001" ∉ ui.compatibleAors :=
    nofun
  have registered : (machine 0).Meets Registered (start KeyedTable.empty 1 [officePlan])
      (.construct :: .registerButtonPlan :: handled) :=
    .cons trivial rfl (.cons trivial rfl (.cons trivial rfl (.cons trivial rfl (.cons trivial rfl
      (.cons trivial rfl (.cons complete rfl trivial))))))
  exact ⟨_, rfl, lit_of_registered KeyedTable.empty 0 1 [officePlan] registered rfl ⟨rfl, rfl, rfl⟩⟩

end EarlyEvent

end LampMonitor.RegisterEventHandler.Startup
