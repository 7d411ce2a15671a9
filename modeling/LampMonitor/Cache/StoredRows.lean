import LampMonitor.Cache.WriteThread
import Mathlib.Data.List.TakeWhile

/-! What a row owes to its own endpoint string. The insert statement lives as
long as the write thread and keeps its parameters over a reset, so the row also
depends on the endpoints bound before it. This module says exactly when it does not. -/
namespace LampMonitor.DeskphoneCache

section Numerals

def decimal (digits : List Char) : Int :=
  digits.foldl (fun value c => 10 * value + (c.toNat - '0'.toNat : Int)) 0

/-- The whole of `field` is the decimal text of `value`. -/
inductive Writes : List Char → Int → Prop where
  | plain (some_digit : digits ≠ []) (numeric : ∀ c ∈ digits, c.isDigit) : Writes digits (decimal digits)
  | minus (some_digit : digits ≠ []) (numeric : ∀ c ∈ digits, c.isDigit) :
      Writes ('-' :: digits) (-decimal digits)

def WritesInt32 (field : List Char) (value : Int) : Prop :=
  Writes field value ∧ -(2 ^ 31) ≤ value ∧ value < 2 ^ 31

theorem fromChars_minus (rest : List Char) :
    fromChars ('-' :: rest) =
      let digits := rest.takeWhile Char.isDigit
      if digits = [] then none
      else if -(2 ^ 31) ≤ -decimal digits ∧ -decimal digits < 2 ^ 31 then some (-decimal digits)
        else none := rfl

theorem fromChars_plain (unsigned : field.head? ≠ some '-') :
    fromChars field =
      let digits := field.takeWhile Char.isDigit
      if digits = [] then none
      else if -(2 ^ 31) ≤ decimal digits ∧ decimal digits < 2 ^ 31 then some (decimal digits)
        else none := by
  simp only [fromChars, unsigned, if_false]
  rfl

/-- A numeral that fills the field is what `from_chars` reads. -/
theorem WritesInt32.fromChars (written : WritesInt32 field value) :
    fromChars field = some value := by
  obtain ⟨text, range⟩ := written
  cases text with
  | plain some_digit numeric =>
    have unsigned : field.head? ≠ some '-' := by
      intro sign
      obtain ⟨rest, rfl⟩ := List.head?_eq_some_iff.mp sign
      exact absurd (numeric '-' List.mem_cons_self) (by decide)
    have all : field.takeWhile Char.isDigit = field := List.takeWhile_eq_self_iff.mpr numeric
    simp only [fromChars_plain unsigned, all, if_neg some_digit, if_pos range]
  | minus some_digit numeric =>
    simp only [fromChars_minus, List.takeWhile_eq_self_iff.mpr numeric, if_neg some_digit,
      if_pos range]

/-- What `from_chars` reads is a numeral at the front of the field. -/
theorem fromChars_prefix (read : fromChars field = some value) :
    ∃ front, front <+: field ∧ WritesInt32 front value := by
  by_cases signed : field.head? = some '-'
  · obtain ⟨rest, rfl⟩ := List.head?_eq_some_iff.mp signed
    simp only [fromChars_minus] at read
    split at read
    · contradiction
    · rename_i some_digit
      split at read
      · rename_i range
        cases Option.some.inj read
        refine ⟨'-' :: rest.takeWhile Char.isDigit, ?_, .minus some_digit ?_, range⟩
        · exact List.cons_prefix_cons.mpr ⟨rfl, List.takeWhile_prefix _⟩
        · intro c member
          exact List.mem_takeWhile_imp member
      · contradiction
  · simp only [fromChars_plain signed] at read
    split at read
    · contradiction
    · rename_i some_digit
      split at read
      · rename_i range
        cases Option.some.inj read
        refine ⟨field.takeWhile Char.isDigit, List.takeWhile_prefix _, .plain some_digit ?_, range⟩
        intro c member
        exact List.mem_takeWhile_imp member
      · contradiction

theorem fromChars_range (read : fromChars field = some value) :
    -(2 ^ 31) ≤ value ∧ value < 2 ^ 31 := by
  obtain ⟨_, _, _, range⟩ := fromChars_prefix read
  exact range

end Numerals

section Binding

/-- The insert statement's parameters after the endpoints bound so far. -/
def bound (earlier : List String) : Bindings :=
  earlier.foldl (fun b endpoint => bindFields 4 endpoint b) Bindings.unbound

theorem bound_snoc (earlier : List String) (endpoint : String) :
    bound (earlier ++ [endpoint]) = bindFields 4 endpoint (bound earlier) := by
  simp only [bound, List.foldl_append, List.foldl_cons, List.foldl_nil]

theorem bound_ip : (bound earlier).ip = none ↔ ∀ e ∈ earlier, (fields e).length < 3 := by
  induction earlier using List.reverseRecOn with
  | nil => exact iff_of_true rfl (fun _ member => absurd member List.not_mem_nil)
  | append_singleton earlier e ih =>
    simp only [bound_snoc, bindFields_eq, Option.or_eq_none_iff, Option.map_eq_none_iff, ih,
      List.getElem?_eq_none_iff, List.forall_mem_append, List.forall_mem_singleton]
    exact ⟨fun h => ⟨h.2, by omega⟩, fun h => ⟨by omega, h.1⟩⟩

/-- `value` is the port of the last endpoint with a fourth field. -/
def LeftPort (earlier : List String) (value : Int) : Prop :=
  ∃ before e after port, earlier = before ++ e :: after ∧ (fields e)[3]? = some port ∧
    fromChars port = some value ∧ ∀ e' ∈ after, (fields e').length < 4

theorem leftPort_snoc : LeftPort (earlier ++ [e]) value ↔
    (∃ port, (fields e)[3]? = some port ∧ fromChars port = some value) ∨
      (fields e).length < 4 ∧ LeftPort earlier value := by
  constructor
  · rintro ⟨before, e', after, port, split, fourth, read, short⟩
    cases after using List.reverseRecOn with
    | nil =>
      obtain ⟨_, last⟩ := List.append_inj' split rfl
      cases last
      exact .inl ⟨port, fourth, read⟩
    | append_singleton after last =>
      rw [← List.cons_append, ← List.append_assoc] at split
      obtain ⟨front, same⟩ := List.append_inj' split rfl
      cases same
      refine .inr ⟨short e (List.mem_append_right _ List.mem_cons_self),
        before, e', after, port, front, fourth, read, ?_⟩
      exact fun e'' member => short e'' (List.mem_append_left _ member)
  · rintro (⟨port, fourth, read⟩ | ⟨missing, before, e', after, port, rfl, fourth, read, short⟩)
    · exact ⟨earlier, e, [], port, rfl, fourth, read,
        fun _ member => absurd member List.not_mem_nil⟩
    · refine ⟨before, e', after ++ [e], port, by simp, fourth, read, ?_⟩
      simpa only [List.forall_mem_append, List.forall_mem_singleton] using ⟨short, missing⟩

theorem bound_port : (bound earlier).port = some value ↔ LeftPort earlier value := by
  induction earlier using List.reverseRecOn with
  | nil =>
    refine iff_of_false (by simp [bound, Bindings.unbound]) ?_
    rintro ⟨before, e, after, port, split, _⟩
    simp at split
  | append_singleton earlier e ih =>
    rw [leftPort_snoc, bound_snoc, bindFields_eq]
    cases fourth : (fields e)[3]? with
    | none =>
      have missing := List.getElem?_eq_none_iff.mp fourth
      simp only [Option.map_none, Option.getD_none, ih, reduceCtorEq, false_and, exists_false,
        false_or]
      exact ⟨fun left => ⟨by omega, left⟩, fun h => h.2⟩
    | some port =>
      have present := (List.getElem?_eq_some_iff.mp fourth).1
      simp only [Option.map_some, Option.getD_some, Option.some.injEq, exists_eq_left']
      exact ⟨.inl, fun h => h.elim (fun read => read) (fun short => absurd short.1 (by omega))⟩

end Binding

section Rows

/-- The endpoint strings of the inserts among `ops`. -/
def inserted (ops : List HandsetData) : List String :=
  (ops.filter (fun data => data.action = .aorInsert)).map HandsetData.endpoint

theorem execute_bindings (db : Database) (data : HandsetData) :
    (execute db data).bindings =
      if data.action = .aorInsert then bindFields 4 data.endpoint db.bindings else db.bindings := by
  cases action : data.action with
  | aorInsert =>
    simp only [execute, action, addAor, if_true]
    split <;> rfl
  | aorRemove => simp only [execute, action, delAor, reduceCtorEq, if_false]

theorem bound_inserted_snoc (ops : List HandsetData) (data : HandsetData) :
    bound (inserted (ops ++ [data])) =
      if data.action = .aorInsert then bindFields 4 data.endpoint (bound (inserted ops))
      else bound (inserted ops) := by
  by_cases insert : data.action = .aorInsert
  · simp [inserted, insert, bound_snoc]
  · simp [inserted, insert]

theorem replay_bindings (rows : Endpoints) (ops : List HandsetData) :
    (replay rows ops).bindings = bound (inserted ops) := by
  induction ops using List.reverseRecOn with
  | nil => rfl
  | append_singleton ops data ih =>
    rw [bound_inserted_snoc, ← ih, ← execute_bindings]
    simp only [replay, List.foldl_append, List.foldl_cons, List.foldl_nil]

/-- The row says what its endpoint string says and nothing else. -/
structure OwnRow (endpoint : String) (row : EndpointRow) : Prop where
  ipVer : row.ipVer = (fields endpoint)[0]?.map String.ofList
  trans : row.trans = (fields endpoint)[1]?.map String.ofList
  ip : some row.ip = (fields endpoint)[2]?.map String.ofList
  port : ∀ value, row.port = some value ↔ ∃ field, (fields endpoint)[3]? = some field ∧ WritesInt32 field value

/-- By the number of fields: a fourth field holds no number or is one as a
whole, three fields find no port left bound, and fewer find no `ip`. -/
def OwnFields (earlier : List String) (endpoint : String) : Prop :=
  match fields endpoint with
  | _ :: _ :: _ :: port :: _ => ∀ value, fromChars port = some value → Writes port value
  | [_, _, _] => ∀ value, ¬ LeftPort earlier value
  | _ => ∀ e ∈ earlier, (fields e).length < 3

theorem writesInt32_iff (whole : ∀ value, fromChars port = some value → Writes port value) :
    fromChars port = some value ↔ WritesInt32 port value :=
  ⟨fun read => ⟨whole value read, fromChars_range read⟩, WritesInt32.fromChars⟩

/-- What an accepted insert stores, for any parameters left by its predecessors. -/
theorem written_row {P : EndpointRow → Prop} (rows : Endpoints)
    (b : Bindings) (aor endpoint : String) (expiry : Int) :
    (∀ row, accepts ⟨rows, b⟩ ⟨.aorInsert, aor, endpoint, expiry⟩ = true →
      (execute ⟨rows, b⟩ ⟨.aorInsert, aor, endpoint, expiry⟩).endpoints.find? ⟨aor, endpoint⟩ =
        some row → P row) ↔
    ∀ ip, (bindFields 4 endpoint b).ip = some ip →
      P ⟨(bindFields 4 endpoint b).ipVer, (bindFields 4 endpoint b).trans,
        ip, (bindFields 4 endpoint b).port,
        some expiry⟩ := by
  have written {ip : String} (present : (bindFields 4 endpoint b).ip = some ip) :
      (execute ⟨rows, b⟩ ⟨.aorInsert, aor, endpoint, expiry⟩).endpoints.find? ⟨aor, endpoint⟩ =
        some ⟨(bindFields 4 endpoint b).ipVer, (bindFields 4 endpoint b).trans,
          ip, (bindFields 4 endpoint b).port,
          some expiry⟩ := by
    simp only [execute, addAor, present, KeyedTable.find?_upsert, if_true]
  constructor
  · intro stored ip present
    exact stored _ (Option.isSome_iff_exists.mpr ⟨ip, present⟩) (written present)
  · intro stored row accepted found
    obtain ⟨ip, present⟩ := Option.isSome_iff_exists.mp accepted
    cases Option.some.inj ((written present).symm.trans found)
    exact stored ip present

theorem own_three (three : fields endpoint = [version, transport, ip]) :
    OwnRow endpoint ⟨some (String.ofList version), some (String.ofList transport),
      String.ofList ip, port, expiry⟩ ↔
      ∀ value, port ≠ some value := by
  have missing : (fields endpoint)[3]? = none := by rw [three]; rfl
  constructor
  · intro own value held
    obtain ⟨field, present, _⟩ := (own.port value).mp held
    rw [missing] at present
    contradiction
  · intro unheld
    refine ⟨by rw [three]; rfl, by rw [three]; rfl, by rw [three]; rfl, fun value => iff_of_false (unheld value) ?_⟩
    rintro ⟨field, present, _⟩
    rw [missing] at present
    contradiction

theorem own_four (four : fields endpoint = version :: transport :: ip :: port :: rest) :
    OwnRow endpoint
        ⟨some (String.ofList version), some (String.ofList transport),
          String.ofList ip, fromChars port, expiry⟩ ↔
      ∀ value, fromChars port = some value → Writes port value := by
  have fourth : ∀ field, (fields endpoint)[3]? = some field ↔ port = field := by
    intro field
    rw [four]
    exact Option.some_inj
  constructor
  · intro own value read
    obtain ⟨field, present, written⟩ := (own.port value).mp read
    cases (fourth field).mp present
    exact written.1
  · intro whole
    refine ⟨by rw [four]; rfl, by rw [four]; rfl, by rw [four]; rfl, fun value => ?_⟩
    simp only [fourth, exists_eq_left']
    exact writesInt32_iff whole

theorem own_fewer (fewer : (fields endpoint)[2]? = none) {row : String → EndpointRow} :
    (∀ text, left = some text → OwnRow endpoint (row text)) ↔ left = none := by
  constructor
  · intro own
    apply Option.eq_none_iff_forall_ne_some.mpr
    intro text present
    have own_ip := (own text present).ip
    rw [fewer] at own_ip
    contradiction
  · rintro rfl text present
    contradiction

theorem row_own_iff (rows : Endpoints) (earlier : List String)
    (aor endpoint : String) (expiry : Int) :
    (∀ row, accepts ⟨rows, bound earlier⟩ ⟨.aorInsert, aor, endpoint, expiry⟩ = true →
      (execute ⟨rows, bound earlier⟩ ⟨.aorInsert, aor, endpoint, expiry⟩).endpoints.find?
      ⟨aor, endpoint⟩ = some row →
      OwnRow endpoint row) ↔ OwnFields earlier endpoint := by
  rw [written_row rows (bound earlier), bindFields_eq]
  unfold OwnFields
  -- Fewer than three own fields leave no row to claim, so `ip` must be unbound.
  match split : fields endpoint with
  | [] => exact (own_fewer (by rw [split]; rfl)).trans bound_ip
  | [_] => exact (own_fewer (by rw [split]; rfl)).trans bound_ip
  | [_, _] => exact (own_fewer (by rw [split]; rfl)).trans bound_ip
  | [_, _, _] =>
    simp only [← bound_port]
    constructor
    · intro own
      exact (own_three split).mp (own _ rfl)
    · rintro unheld ip present
      cases Option.some.inj present
      exact (own_three split).mpr unheld
  | _ :: _ :: _ :: _ :: _ =>
    constructor
    · intro own
      exact (own_four split).mp (own _ rfl)
    · intro whole ip present
      cases Option.some.inj present
      exact (own_four split).mpr whole

/-- Every insert after every sequence of operations, on every table: the row it
writes is its own exactly under the condition on the number of fields. -/
theorem stored_row_own_iff (rows : Endpoints) (ops : List HandsetData) (aor endpoint : String) (expiry : Int) :
    (∀ row, accepts (replay rows ops) ⟨.aorInsert, aor, endpoint, expiry⟩ = true →
      (execute (replay rows ops) ⟨.aorInsert, aor, endpoint, expiry⟩).endpoints.find? ⟨aor, endpoint⟩ = some row →
      OwnRow endpoint row) ↔ OwnFields (inserted ops) endpoint := by
  have left : replay rows ops = ⟨(replay rows ops).endpoints, bound (inserted ops)⟩ := by
    rw [← replay_bindings rows ops]
  rw [left]
  exact row_own_iff _ _ aor endpoint expiry

/-- The port of a phone on UDP is stored for one whose contact names no port. -/
theorem stale_port_stored :
    ¬ ∀ row, accepts (replay ⟨[], List.nodup_nil⟩ [⟨.aorInsert, "1001", "IPV4/UDP/10.0.0.7/5060", 0⟩])
          ⟨.aorInsert, "1002", "IPV4/TCP/10.0.0.8", 0⟩ = true →
        (execute (replay ⟨[], List.nodup_nil⟩ [⟨.aorInsert, "1001", "IPV4/UDP/10.0.0.7/5060", 0⟩])
          ⟨.aorInsert, "1002", "IPV4/TCP/10.0.0.8", 0⟩).endpoints.find? ⟨"1002", "IPV4/TCP/10.0.0.8"⟩ = some row →
        OwnRow "IPV4/TCP/10.0.0.8" row := by
  intro own
  have row := own ⟨some "IPV4", some "TCP", "10.0.0.8", some 5060, some 0⟩ (by decide) (by decide)
  obtain ⟨field, present, _⟩ := (row.port 5060).mp rfl
  have missing : (fields "IPV4/TCP/10.0.0.8")[3]? = none := by decide
  rw [missing] at present
  contradiction

end Rows
end LampMonitor.DeskphoneCache

namespace LampMonitor.WriteThread
open DeskphoneCache Transition
variable {ι : Type} [DecidableEq ι]

/-- The operations whose statements were tried, with whatever result. -/
def attempted (ls : List (Label ι)) : List HandsetData :=
  ls.filterMap fun
    | .execute data _ => some data
    | _ => none

omit [DecidableEq ι] in
theorem attempted_snoc (ls : List (Label ι)) (l : Label ι) :
    attempted (ls ++ [l]) = attempted ls ++ attempted [l] :=
  List.filterMap_append

/-- In every run the statement remembers all the inserts tried so far, whether
they succeeded and whether their transaction was committed. -/
theorem run_bindings {rows : Endpoints} {requests : ι → List HandsetData}
    (reached : machine.run (start rows requests) ls = some s) :
    s.bindings = bound (inserted (attempted ls)) := by
  refine machine.trace_invariant (C := fun _ _ => True)
    (P := fun ls s => s.bindings = bound (inserted (attempted ls)))
    rfl ?_ (Machine.Meets.of_labels (fun _ _ => trivial)) reached
  intro ls s l t held _ stepped
  have tried {data : HandsetData} : (DeskphoneCache.execute s.view data).bindings =
      bound (inserted (attempted ls ++ [data])) := by
    rw [execute_bindings, bound_inserted_snoc, ← held]
    rfl
  rw [attempted_snoc]
  cases step_effect stepped with
  | execute pc accepted => exact (congrArg Database.bindings (s.write_view _)).trans tried
  | executeFails pc fails => exact tried
  | _ => simpa only [attempted, List.filterMap_cons, List.filterMap_nil, List.append_nil] using held

/-- The same law for a statement that succeeds in any run of the write thread. -/
theorem inserted_row_own_iff {rows : Endpoints} {requests : ι → List HandsetData}
    (reached : machine.run (start rows requests) ls = some s)
    (stepped : machine.step s (.execute ⟨.aorInsert, aor, endpoint, expiry⟩ .done) = some t) :
    (∀ row, t.view.endpoints.find? ⟨aor, endpoint⟩ = some row → OwnRow endpoint row) ↔
      OwnFields (inserted (attempted ls)) endpoint := by
  obtain ⟨accepted, after⟩ : accepts s.view ⟨.aorInsert, aor, endpoint, expiry⟩ = true ∧
      t.view = DeskphoneCache.execute s.view ⟨.aorInsert, aor, endpoint, expiry⟩ := by
    cases step_effect stepped with
    | execute pc accepted => exact ⟨accepted, s.write_view _⟩
    | executeFails pc fails => exact absurd rfl fails
  rw [← row_own_iff (s.transaction.getD s.committed) _ aor endpoint expiry, ← run_bindings reached,
    after]
  constructor
  · intro own row _ found
    exact own row found
  · intro own row found
    exact own row accepted found

end LampMonitor.WriteThread
