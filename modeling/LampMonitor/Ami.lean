/-! The part of the AMI vocabulary that the application reads and writes: events
as dictionaries of strings, and the notification of one endpoint. -/
namespace LampMonitor.Ami

structure KeyValDict where
  entries : List (String × String)
  deriving DecidableEq, Repr

namespace KeyValDict

def getValue (event : KeyValDict) (key : String) : Option String :=
  (event.entries.find? (fun entry => entry.1 = key)).map Prod.snd

/-- `operator[]`: a missing key reads as the empty string. -/
def get (event : KeyValDict) (key : String) : String := (event.getValue key).getD ""

end KeyValDict

section ForEach

/-- The events of a reaction in order, until the callback returns true. -/
def forEach [Monad m] (callback : σ → KeyValDict → m (Bool × σ)) : List KeyValDict → σ → m σ
  | [], state => pure state
  | event :: rest, state => do
    let (stop, state) ← callback state event
    if stop then pure state else forEach callback rest state

variable {σ : Type}

/-- A callback that never returns true sees every event. -/
theorem forEach_all (visit : σ → KeyValDict → σ) (events : List KeyValDict) (state : σ) :
    forEach (m := Id) (fun state event => pure (false, visit state event)) events state =
      events.foldl visit state := by
  induction events generalizing state with
  | nil => rfl
  | cons event rest ih => exact ih (visit state event)

/-- A callback that stops at the first event it looks for sees no other. -/
theorem forEach_first (wanted : KeyValDict → Bool) (found : KeyValDict → σ)
    (events : List KeyValDict) (state : σ) :
    forEach (m := Id) (fun state event =>
      pure (if wanted event then (true, found event) else (false, state))) events
      state = (events.find? wanted).elim state found := by
  induction events with
  | nil => rfl
  | cons event rest ih =>
    cases here : wanted event with
    | true =>
      simp only [forEach, here, if_true, pure_bind, List.find?_cons]
      rfl
    | false =>
      simp only [forEach, here, Bool.false_eq_true, if_false, pure_bind, List.find?_cons]
      exact ih

end ForEach

structure PJSIPNotify where
  endpoint : String
  values : List String
  deriving DecidableEq, Repr

end LampMonitor.Ami
