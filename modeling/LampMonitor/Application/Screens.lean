import LampMonitor.Application.Progress

/-! What the phones show. Whatever the order of the steps, a line that one plan
alone writes goes through states that its button had, in their order; and once a
phone has registered with a plan that was there, it ends in the last one. -/
namespace LampMonitor.Application
open Ami Asterisk Bridge ButtonState DeskphoneCache RegisterEventHandler Transition

section Runs
variable [LibraryInterface] {κ : Type} [DecidableEq κ]

/-- What a button looks like after these events. -/
def look (handler : EventHandler) (button : PhoneButton) (events : List KeyValDict) : String × String :=
  shown (button.exchange (handler.lamp events))

/-- When the phone registered for the first time, the plan had been registered. -/
def Greeted (ls : List (Label κ)) (aor : String) (p : Nat) : Prop :=
  ∃ before event now after, ls = before ++ .event event now :: after ∧ before.any (registers p) = true ∧
    ¬ Registered before aor ∧ ∃ endpoint, monitored event = some ⟨aor, endpoint⟩

omit [LibraryInterface] [DecidableEq κ] in
theorem Greeted.ready {ls : List (Label κ)} (greeted : Greeted ls aor p) : ls.any (registers p) = true := by
  obtain ⟨before, event, now, after, rfl, ready, _⟩ := greeted
  rw [List.any_append, ready]
  rfl

omit [LibraryInterface] [DecidableEq κ] in
theorem Greeted.later {ls : List (Label κ)} (greeted : Greeted ls aor p) (more : List (Label κ)) :
    Greeted (ls ++ more) aor p := by
  obtain ⟨before, event, now, after, rfl, met⟩ := greeted
  exact ⟨before, event, now, after ++ more, by simp, met⟩

omit [LibraryInterface] [DecidableEq κ] in
theorem greeted_snoc {ls : List (Label κ)} {l : Label κ} (greeted : Greeted (ls ++ [l]) aor p) :
    Greeted ls aor p ∨ ls.any (registers p) = true ∧ ¬ Registered ls aor ∧
      ∃ event now endpoint, l = .event event now ∧ monitored event = some ⟨aor, endpoint⟩ := by
  obtain ⟨before, event, now, after, split, ready, unknown, endpoint, found⟩ := greeted
  rcases List.eq_nil_or_concat after with rfl | ⟨after, last, rfl⟩
  · obtain ⟨rfl, last⟩ := List.append_inj' split rfl
    exact .inr ⟨ready, unknown, event, now, endpoint, List.singleton_inj.mp last, found⟩
  · rw [List.concat_eq_append, ← List.cons_append, ← List.append_assoc] at split
    obtain ⟨rfl, _⟩ := List.append_inj' split rfl
    exact .inl ⟨before, event, now, after, rfl, ready, unknown, endpoint, found⟩

omit [LibraryInterface] [DecidableEq κ] in
theorem greeted_silent {ls : List (Label κ)} {l : Label κ} (silent : l.silent)
    (greeted : Greeted (ls ++ [l]) aor p) : Greeted ls aor p := by
  rcases greeted_snoc greeted with before | ⟨_, _, event, now, endpoint, rfl, _⟩
  · exact before
  · exact silent.elim

omit [LibraryInterface] [DecidableEq κ] in
theorem inits_last (events : List KeyValDict) : ∃ earlier, events.inits = earlier ++ [events] := by
  induction events using List.reverseRecOn with
  | nil => exact ⟨[], rfl⟩
  | append_singleton events event ih => exact ⟨events.inits, by simp [List.inits_append]⟩

omit [LibraryInterface] [DecidableEq κ] in
theorem getLast?_append_replicate {first : List α} (last : n = 0 → first.getLast? = some x) :
    (first ++ List.replicate n x).getLast? = some x := by
  cases n with
  | zero => simpa using last rfl
  | succ n => simp [List.getLast?_append, List.getLast?_replicate]

omit [LibraryInterface] [DecidableEq κ] in
/-- A phone that is taken for known has registered before. -/
theorem new_of_cache (cache : WriteThread.CacheKnown (Registered ls) (s : WriteThread.State (Option κ)))
    (now : Nat) (unknown : ¬ Registered ls aor) :
    (addEndpoint s.committed expiry now aor endpoint).1 = true := by
  by_contra old
  have live : unexpired s.committed aor endpoint now = true := by simpa [addEndpoint] using old
  obtain ⟨row, e, found, expiry, later⟩ := unexpired_iff.mp live
  rcases cache.committed _ row found with registered | stale
  · exact unknown registered
  · have := stale e expiry
    omega

omit [DecidableEq κ] in
/-- The answer to an event shows the button as the event left it, and shows it to
a phone that registers for the first time. -/
theorem marks_answer (expiry : Int) (saves : SavesRaw)
    (inverse : ∀ text, unescape (LibraryInterface.escape text) = text)
    (cache : WriteThread.CacheKnown (Registered ls) (s : WriteThread.State (Option κ)))
    (rendered : Rendered plans) (alone : Alone plans aor ref)
    (here : buttonAt plans ref = some button) (registered : List Nat) (event : KeyValDict) (now : Nat) :
    ∃ k, marks unescape aor ref.2.toNat
        (amiEventHandler (published plans registered) s.committed expiry now event).1 =
      List.replicate k (shown button) ∧
      ((∃ endpoint, monitored event = some ⟨aor, endpoint⟩) → ¬ Registered ls aor →
        ref.1 ∈ registered → ServedBy plans aor ref.1 → 0 < k) := by
  cases key : monitored event with
  | none => exact ⟨0, by simp [amiEventHandler, key, marks, addressed], by simp⟩
  | some key' =>
    obtain ⟨shows, reaches⟩ := renders_publish rendered registered
      (addEndpoint s.committed expiry now key'.aor key'.endpoint).1 key'.aor
    obtain ⟨k, said, reached⟩ := marks_renders saves inverse alone here shows
    refine ⟨k, by simpa only [amiEventHandler, key] using said, ?_⟩
    rintro ⟨endpoint, same⟩ unknown listed served
    cases Option.some.inj same
    exact reached (reaches _ listed served (new_of_cache cache now unknown))

/-- What one step adds to what is said of a button: how it was, then how it is. -/
structure Says (handler : EventHandler) (button : PhoneButton) (aor : String) (ls : List (Label κ))
    (l : Label κ) (before after : List (String × String)) : Prop where
  said : ∃ n m, after = before ++ (List.replicate n (look handler button (seen handler ls)) ++
      List.replicate m (look handler button (seen handler (ls ++ [l])))) ∧
    (m = 0 → ls.any (registers handler.phoneButton.1) = true →
      look handler button (seen handler (ls ++ [l])) = look handler button (seen handler ls)) ∧
    (m = 0 → Greeted (ls ++ [l]) aor handler.phoneButton.1 → Greeted ls aor handler.phoneButton.1)

omit [LibraryInterface] [DecidableEq κ] in
theorem Says.silent {l : Label κ} (silent : l.silent) : Says handler button aor ls l before before :=
  ⟨0, 0, by simp, fun _ _ => by rw [seen_silent silent], fun _ => greeted_silent silent⟩

/-- What a step does to the notifications: a phone executes one, an event may add
some, and every other step leaves them as they are. -/
inductive Outward (s t : State κ) : Label κ → Prop where
  | receive (pending : s.received aor < (addressed aor s.sent).length)
      (received : t.received = Function.update s.received aor (s.received aor + 1))
      (sent : t.sent = s.sent) : Outward s t (.receive aor)
  | other (received : t.received = s.received) (sent : t.sent = s.sent ++ more)
      (silent : l.silent → more = []) : Outward s t l

theorem step_outward {config : Configuration} {s t : State κ} {l : Label κ}
    (stepped : (machine config).step s l = some t) : Outward s t l := by
  have idle : t.received = s.received → t.sent = s.sent → Outward s t l := by
    intro received sent
    exact .other received (sent.trans (List.append_nil _).symm) fun _ => rfl
  cases l with
  | receive aor =>
    obtain ⟨pending, rfl⟩ := receive_frame stepped
    exact .receive pending rfl rfl
  | event event now =>
    cases event_step stepped
    exact .other rfl rfl fun silent => silent.elim
  | install button =>
    obtain ⟨_, _, rfl⟩ := install_frame stepped
    exact idle rfl rfl
  | store button =>
    obtain ⟨_, _, rfl⟩ := store_frame stepped
    exact idle rfl rfl
  | request button =>
    obtain ⟨_, rfl⟩ := request_frame stepped
    exact idle rfl rfl
  | registerUI p =>
    obtain ⟨_, _, rfl⟩ := registerUI_frame stepped
    exact idle rfl rfl
  | listen =>
    obtain rfl := listen_frame stepped
    exact idle rfl rfl
  | registerButtonPlan p =>
    obtain ⟨_, rfl⟩ := registerButtonPlan_frame stepped
    exact idle rfl rfl
  | expire k params =>
    obtain rfl := expire_frame stepped
    exact idle rfl rfl
  | cache l =>
    obtain ⟨_, _, rfl⟩ := Option.map_eq_some_iff.mp stepped
    exact idle rfl rfl

theorem sent_silent {config : Configuration} {s t : State κ} {l : Label κ} (silent : l.silent)
    (stepped : (machine config).step s l = some t) : t.sent = s.sent := by
  cases step_outward stepped with
  | receive _ _ sent => exact sent
  | other _ sent none => rw [sent, none silent, List.append_nil]

theorem says_event (saves : SavesRaw)
    (inverse : ∀ text, unescape (LibraryInterface.escape text) = text)
    {s t : State κ} (held : Inv config ls s) (member : handler ∈ config.handlers)
    (owns : Owns config.plans aor handler.phoneButton)
    (configured : buttonAt config.plans handler.phoneButton = some button)
    {event : KeyValDict} {now : Nat} (stepped : s.event event now = some t) :
    Says handler button aor ls (.event event now) (marks unescape aor handler.phoneButton.2.toNat s.sent)
      (marks unescape aor handler.phoneButton.2.toNat t.sent) := by
  have next := inv_event held stepped
  have rendered := next.rendered
  have shaped := next.shaped
  have before := held.shaped.buttonAt configured (held.constructed.lamps handler member)
  have after := shaped.buttonAt configured (next.constructed.lamps handler member)
  have served : ls.any (registers handler.phoneButton.1) = true →
      handler.phoneButton.1 ∈ s.registered ∧ handler.phoneButton.1 ∈ s.withUI := by
    intro ready
    have listed := (held.registered _).mpr ready
    exact ⟨listed, held.withUI _ listed⟩
  cases event_step stepped
  obtain ⟨flips, inside, rounds⟩ := deliver_rounds event s.plans s.handlers held.constructed.present
  obtain ⟨n, m, button', final, said, flipped, kept⟩ := marks_rounds saves inverse rounds
    (held.constructed.distinct.sublist inside) (held.shaped.alone owns.alone) before
  cases Option.some.inj (after.symm.trans final)
  obtain ⟨k, answered, first⟩ := marks_answer s.expiry saves inverse held.cache
    rendered (shaped.alone owns.alone) after s.registered event now
  have unmoved : m = 0 → ls.any (registers handler.phoneButton.1) = true →
      look handler button (seen handler (ls ++ [.event event now])) =
        look handler button (seen handler ls) := by
    intro none ready
    have untouched : handler.phoneButton ∉ flips := by
      intro inside
      have := flipped inside (held.shaped.served owns.serves (served ready).2)
      omega
    exact congrArg shown (kept untouched)
  cases listening : s.listening with
  | false =>
    refine ⟨n, m, ?_, unmoved, fun _ greeted => ?_⟩
    · rw [if_neg Bool.false_ne_true, List.append_nil, marks_append, said]
      rfl
    · rcases greeted_snoc greeted with before | ⟨ready, _⟩
      · exact before
      · have heard := held.heard _ (served ready).1
        rw [← held.listening, listening] at heard
        contradiction
  | true =>
    refine ⟨n, m + k, ?_, fun none => unmoved (by omega), fun none greeted => ?_⟩
    · rw [if_pos rfl, marks_append, marks_append, said, answered, List.append_assoc, ← List.replicate_add]
      rfl
    · rcases greeted_snoc greeted with before | ⟨ready, unknown, event', _, endpoint, same, found⟩
      · exact before
      · cases same
        have := first ⟨endpoint, found⟩ unknown (served ready).1 (shaped.served owns.serves (served ready).2)
        omega

theorem says_step (saves : SavesRaw)
    (inverse : ∀ text, unescape (LibraryInterface.escape text) = text)
    {s t : State κ} (held : Inv config ls s) (member : handler ∈ config.handlers)
    (owns : Owns config.plans aor handler.phoneButton)
    (configured : buttonAt config.plans handler.phoneButton = some button)
    (stepped : (machine config).step s l = some t) :
    Says handler button aor ls l (marks unescape aor handler.phoneButton.2.toNat s.sent)
      (marks unescape aor handler.phoneButton.2.toNat t.sent) := by
  by_cases silent : l.silent
  · rw [sent_silent silent stepped]
    exact .silent silent
  · cases l with
    | event event now => exact says_event saves inverse held member owns configured stepped
    | _ => exact (silent trivial).elim

/-- The lamps of the phone at an AoR, which were lit in some way at the start. -/
def screen (unescape : String → String) (screens : String → Lamps) (s : State κ) (aor : String) : Lamps :=
  ((addressed aor s.sent).take (s.received aor)).foldl (receive unescape) (screens aor)

/-- A phone that was greeted has been sent the present state of each of its buttons. -/
theorem last_said (saves : SavesRaw)
    (inverse : ∀ text, unescape (LibraryInterface.escape text) = text) {config : Configuration}
    (reached : (machine config).run (start config table expiry : State κ) ls = some s)
    (member : handler ∈ config.handlers) (owns : Owns config.plans aor handler.phoneButton)
    (configured : buttonAt config.plans handler.phoneButton = some button)
    (greeted : Greeted ls aor handler.phoneButton.1) :
    (marks unescape aor handler.phoneButton.2.toNat s.sent).getLast? =
      some (look handler button (seen handler ls)) := by
  induction ls using List.reverseRecOn generalizing s with
  | nil =>
    obtain ⟨before, event, now, after, split, _⟩ := greeted
    simp at split
  | append_singleton ls l ih =>
    obtain ⟨t, before, stepped⟩ := Machine.run_snoc.mp reached
    obtain ⟨n, m, said, kept, known⟩ :=
      (says_step saves inverse (run_inv before) member owns configured stepped).said
    rw [said, ← List.append_assoc]
    refine getLast?_append_replicate fun none => ?_
    have earlier := known none greeted
    rw [kept none earlier.ready]
    exact getLast?_append_replicate fun _ => ih before earlier

omit [LibraryInterface] [DecidableEq κ] in
theorem screen_arrived {s : State κ} {line : Nat} {last : String × String}
    (said : (marks unescape aor line s.sent).getLast? = some last)
    (arrived : s.received aor = (addressed aor s.sent).length) (screens : String → Lamps) :
    screen unescape screens s aor line = some last := by
  rw [screen, foldl_receive_line, arrived, List.take_length]
  exact congrArg (Option.or · _) said

/-- Once the notifications to a phone have arrived that had its plan before it first
registered, a line that one plan alone writes shows what all events that the handler
has seen make of its button. -/
theorem lamps_arrive (saves : SavesRaw)
    (inverse : ∀ text, unescape (LibraryInterface.escape text) = text)
    (screens : String → Lamps) {config : Configuration}
    (reached : (machine config).run (start config table expiry : State κ) ls = some s)
    (member : handler ∈ config.handlers) (owns : Owns config.plans aor handler.phoneButton)
    (configured : buttonAt config.plans handler.phoneButton = some button)
    (greeted : Greeted ls aor handler.phoneButton.1)
    (arrived : s.received aor = (addressed aor s.sent).length) :
    screen unescape screens s aor handler.phoneButton.2.toNat =
      some (look handler button (seen handler ls)) :=
  screen_arrived (last_said saves inverse reached member owns configured greeted) arrived screens

/-- What a line could show: what was lit at the start, and then its button as it was
after each of the events. -/
def moments (lit : Option (String × String)) (handler : EventHandler) (button : PhoneButton)
    (events : List KeyValDict) : List (Option (String × String)) :=
  lit :: events.inits.map fun before => some (look handler button before)

/-- What has been seen of a line and what is on its way to it, in this order. -/
structure Watched (unescape : String → String) (screens : String → Lamps) (handler : EventHandler)
    (button : PhoneButton) (aor : String) (ls : List (Label κ)) (s : State κ)
    (views : List (Option (String × String))) : Prop where
  within : s.received aor ≤ (addressed aor s.sent).length
  now : views.getLast? = some (screen unescape screens s aor handler.phoneButton.2.toNat)
  samples : Samples (moments (screens aor handler.phoneButton.2.toNat) handler button (seen handler ls))
    (views ++ (((addressed aor s.sent).drop (s.received aor)).filterMap
      (mark unescape handler.phoneButton.2.toNat)).map some)

omit [LibraryInterface] [DecidableEq κ] in
theorem moments_step {views : List (Option (String × String))} (l : Label κ)
    (looked : Samples (moments lit handler button (seen handler ls)) views) (n m : Nat) :
    Samples (moments lit handler button (seen handler (ls ++ [l])))
      (views ++ (List.replicate n (some (look handler button (seen handler ls))) ++
        List.replicate m (some (look handler button (seen handler (ls ++ [l])))))) := by
  obtain ⟨earlier, last⟩ := inits_last (seen handler ls)
  have split : moments lit handler button (seen handler ls) =
      (lit :: earlier.map fun before => some (look handler button before)) ++
        [some (look handler button (seen handler ls))] := by
    rw [moments, last, List.map_append]
    rfl
  rw [split] at looked
  have stays : seen handler (ls ++ [l]) = seen handler ls →
      Samples (moments lit handler button (seen handler (ls ++ [l])))
        (views ++ (List.replicate n (some (look handler button (seen handler ls))) ++
          List.replicate m (some (look handler button (seen handler (ls ++ [l])))))) := by
    intro same
    rw [same, split, ← List.replicate_add]
    exact looked.again (n + m)
  by_cases silent : l.silent
  · exact stays (seen_silent silent handler)
  · cases l with
    | event event now =>
      cases armed : ls.any (arms handler) with
      | false => exact stays (by rw [seen_event, armed, seen_unarmed armed]; rfl)
      | true =>
        have more : seen handler (ls ++ [.event event now]) = seen handler ls ++ [event] := by
          rw [seen_event, if_pos armed]
        have next : moments lit handler button (seen handler ls ++ [event]) =
            moments lit handler button (seen handler ls) ++
              [some (look handler button (seen handler ls ++ [event]))] := by
          simp [moments, List.inits_append]
        rw [more, next, split]
        exact looked.step n m _
    | _ => exact (silent trivial).elim

omit [LibraryInterface] [DecidableEq κ] in
/-- A step of somebody else: the phone is looked at once more. -/
theorem Watched.again {s t : State κ} (watched : Watched unescape screens handler button aor ls s views)
    (received : t.received aor = s.received aor) (sent : t.sent = s.sent ++ more)
    (adds : Says handler button aor ls l (marks unescape aor handler.phoneButton.2.toNat s.sent)
      (marks unescape aor handler.phoneButton.2.toNat t.sent)) :
    Watched unescape screens handler button aor (ls ++ [l]) t
      (views ++ [screen unescape screens t aor handler.phoneButton.2.toNat]) := by
  have arrivals : addressed aor t.sent = addressed aor s.sent ++ addressed aor more := by
    rw [addressed, sent, List.filter_append]
    rfl
  have same : screen unescape screens t aor = screen unescape screens s aor := by
    rw [screen, received, arrivals, List.take_append_of_le_length watched.within]
    rfl
  refine ⟨?_, by simp, ?_⟩
  · rw [received, arrivals, List.length_append]
    exact Nat.le_add_right_of_le watched.within
  · obtain ⟨n, m, said, _⟩ := adds.said
    have new : (addressed aor more).filterMap (mark unescape handler.phoneButton.2.toNat) =
        List.replicate n (look handler button (seen handler ls)) ++
          List.replicate m (look handler button (seen handler (ls ++ [l]))) := by
      rw [sent, marks_append] at said
      exact List.append_cancel_left said
    have looked := watched.samples.double watched.now
    rw [same, received, arrivals, List.drop_append_of_le_length watched.within,
      List.filterMap_append, List.map_append, new, List.map_append, List.map_replicate,
      List.map_replicate, ← List.append_assoc]
    exact moments_step l looked n m

omit [LibraryInterface] [DecidableEq κ] in
/-- The phone executes the next notification. -/
theorem Watched.receive {s t : State κ} (watched : Watched unescape screens handler button aor ls s views)
    (pending : s.received aor < (addressed aor s.sent).length)
    (received : t.received aor = s.received aor + 1) (sent : t.sent = s.sent) :
    Watched unescape screens handler button aor (ls ++ [.receive aor]) t
      (views ++ [screen unescape screens t aor handler.phoneButton.2.toNat]) := by
  let message := (addressed aor s.sent)[s.received aor]
  have split : (addressed aor s.sent).drop (s.received aor) =
      message :: (addressed aor s.sent).drop (s.received aor + 1) :=
    List.drop_eq_getElem_cons pending
  have executed : screen unescape screens t aor handler.phoneButton.2.toNat =
      (mark unescape handler.phoneButton.2.toNat message).or
        (screen unescape screens s aor handler.phoneButton.2.toNat) := by
    rw [screen, received, sent, List.take_succ_eq_append_getElem pending, List.foldl_append,
      List.foldl_cons, List.foldl_nil, receive_line]
    rfl
  have samples := watched.samples
  rw [split] at samples
  have silent : (Label.receive aor : Label κ).silent := trivial
  refine ⟨by rw [received, sent]; exact pending, by simp, ?_⟩
  rw [received, sent, executed, seen_silent silent]
  cases said : mark unescape handler.phoneButton.2.toNat message with
  | none =>
    rw [List.filterMap_cons_none said] at samples
    exact samples.double watched.now
  | some look =>
    rw [List.filterMap_cons_some said] at samples
    simpa using samples

theorem watched_step (saves : SavesRaw)
    (inverse : ∀ text, unescape (LibraryInterface.escape text) = text)
    {s t : State κ} (held : Inv config ls s) (member : handler ∈ config.handlers)
    (owns : Owns config.plans aor handler.phoneButton)
    (configured : buttonAt config.plans handler.phoneButton = some button)
    (watched : Watched unescape screens handler button aor ls s views)
    (stepped : (machine config).step s l = some t) :
    Watched unescape screens handler button aor (ls ++ [l]) t
      (views ++ [screen unescape screens t aor handler.phoneButton.2.toNat]) := by
  have adds := says_step saves inverse held member owns configured stepped
  cases step_outward stepped with
  | other received sent _ => exact watched.again (congrFun received aor) sent adds
  | @receive aor' pending received sent =>
    by_cases own : aor = aor'
    · subst own
      exact watched.receive pending (by rw [received, Function.update_self]) sent
    · have elsewhere : t.received aor = s.received aor := by
        rw [received, Function.update_of_ne own]
      exact watched.again elsewhere (sent.trans (List.append_nil _).symm) adds

/-- Whoever watches a line that one plan alone writes sees, after what was lit at
the start, states of its button in the order in which the events brought them
about: never one that the button did not have, and never an earlier one again. -/
theorem lamps_follow (saves : SavesRaw)
    (inverse : ∀ text, unescape (LibraryInterface.escape text) = text)
    (screens : String → Lamps) {config : Configuration}
    (reached : (machine config).run (start config table expiry : State κ) ls = some s)
    (member : handler ∈ config.handlers) (owns : Owns config.plans aor handler.phoneButton)
    (configured : buttonAt config.plans handler.phoneButton = some button) :
    Samples (moments (screens aor handler.phoneButton.2.toNat) handler button (seen handler ls))
      (((machine config).visited (start config table expiry) ls).map fun s =>
        screen unescape screens s aor handler.phoneButton.2.toNat) := by
  have watched : Watched unescape screens handler button aor ls s
      (((machine config).visited (start config table expiry) ls).map fun s =>
        screen unescape screens s aor handler.phoneButton.2.toNat) := by
    induction ls using List.reverseRecOn generalizing s with
    | nil =>
      cases Option.some.inj reached
      exact ⟨Nat.le_refl 0, rfl, .look (.nil _)⟩
    | append_singleton ls l ih =>
      obtain ⟨t, before, stepped⟩ := Machine.run_snoc.mp reached
      rw [Machine.visited_snoc before stepped, List.map_append, List.map_singleton]
      exact watched_step saves inverse (run_inv before) member owns configured (ih before) stepped
  exact watched.samples.earlier

end Runs

section Night

local instance nightInterface : LibraryInterface := sequentialInterface

/-- The start-up, a phone that registers, and then the night button is switched on. -/
def nightRun : List (Label Unit) :=
  [.install (0, 1), .request (0, 1), .registerUI 0, .listen, .registerButtonPlan 0,
    .event registration 1,
    .cache (.enqueue none (addEndpoint KeyedTable.empty (create 60) 1 "1001" "IPV4/UDP/10.0.0.7/5060").2),
    .event (extensionStatus "night" "internal" "Custom:night" "1") 2, .receive "1001", .receive "1001"]

theorem owns_office : Owns officeConfiguration.plans "1001" (0, 1) where
  serves := ⟨officePlan, rfl, _, List.mem_cons_self, List.mem_cons_self⟩
  alone q plan found _ apart := by
    obtain ⟨bound, _⟩ := List.getElem?_eq_some_iff.mp found
    exact absurd (Nat.lt_one_iff.mp bound) apart

theorem button_office :
    buttonAt officeConfiguration.plans (0, 1) = some ⟨1, .red, .off, true, false, false⟩ := rfl

theorem greeted_nightRun : Greeted nightRun "1001" 0 := by
  have unknown : ¬ Registered (nightRun.take 5) "1001" := by
    rintro ⟨_, member, _⟩
    contradiction
  exact ⟨nightRun.take 5, registration, 1, nightRun.drop 6, rfl, rfl, unknown, "IPV4/UDP/10.0.0.7/5060", rfl⟩

theorem lamps_arrive_night : ∃ s,
    (machine officeConfiguration).run (start officeConfiguration KeyedTable.empty 60) nightRun = some s ∧
    screen id (fun _ _ => none) s "1001" 1 = some ("RED", "on") := by
  have reached : (machine officeConfiguration).run (start officeConfiguration KeyedTable.empty 60)
      nightRun = some _ := rfl
  refine ⟨_, reached, ?_⟩
  have inverse : ∀ text, id (LibraryInterface.escape text) = text := fun _ => rfl
  have member : EventHandler.night ⟨(0, 1), "Custom:night"⟩ ∈ officeConfiguration.handlers :=
    List.mem_singleton_self _
  have shows := lamps_arrive (fun _ _ => rfl) inverse (fun _ _ => none) reached member owns_office
    button_office greeted_nightRun rfl
  exact shows.trans (by decide)

theorem lamps_follow_night : ∃ s,
    (machine officeConfiguration).run (start officeConfiguration KeyedTable.empty 60) nightRun = some s ∧
    Samples [none, some ("RED", "off"), some ("RED", "off"), some ("RED", "on")]
      (((machine officeConfiguration).visited (start officeConfiguration KeyedTable.empty 60)
        nightRun).map fun s => screen id (fun _ _ => none) s "1001" 1) := by
  have reached : (machine officeConfiguration).run (start officeConfiguration KeyedTable.empty 60)
      nightRun = some _ := rfl
  refine ⟨_, reached, ?_⟩
  have inverse : ∀ text, id (LibraryInterface.escape text) = text := fun _ => rfl
  have states : moments none (.night ⟨(0, 1), "Custom:night"⟩) ⟨1, .red, .off, true, false, false⟩
      (seen (.night ⟨(0, 1), "Custom:night"⟩) nightRun) =
        [none, some ("RED", "off"), some ("RED", "off"), some ("RED", "on")] := by
    decide
  have member : EventHandler.night ⟨(0, 1), "Custom:night"⟩ ∈ officeConfiguration.handlers :=
    List.mem_singleton_self _
  have follows := lamps_follow (fun _ _ => rfl) inverse (fun _ _ => none) reached member owns_office
    button_office
  exact states ▸ follows

end Night
end LampMonitor.Application
