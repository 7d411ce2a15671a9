import LampMonitor.Ami
import LampMonitor.Config.Yaml
import LampMonitor.Fallible
import LampMonitor.Spans
import Mathlib.Data.List.Perm.Basic
import Mathlib.Data.List.Nodup

/-! The hints of a parking lot, as `getParkingHints` expands them from the range of
parking positions in `res_parking.conf`. The loop counts with an `int` up to a
bound that is itself an `int`. -/
namespace LampMonitor.Asterisk.ParkingHints
open Ami Config Fallible Spans

/-- What ends the function without a set of hints. -/
inductive Stop where
  | badFile
  | yaml (thrown : YamlException)
  | invalidArgument
  | outOfRange
  /-- Not an exception: the counter is increased beyond the largest `int`. -/
  | overflow
  deriving DecidableEq, Repr

abbrev intMin : Int := -2147483648

abbrev intMax : Int := 2147483647

def isSpace (c : Char) : Bool := [' ', '\t', '\n', '\x0b', '\x0c', '\r'].contains c

/-- Whether a text has a minus sign, and what comes after its sign. -/
def sign : List Char → Bool × List Char
  | '-' :: rest => (true, rest)
  | '+' :: rest => (false, rest)
  | rest => (false, rest)

/-- `std::stoi`: blanks, a sign and decimal digits. What follows is not looked at. -/
def stoi (text : List Char) : Except Stop Int :=
  let (negative, digits) := sign (text.dropWhile isSpace)
  if digits.takeWhile Char.isDigit = [] then .error .invalidArgument
  else
    let n := Nat.ofDigitChars 10 (digits.takeWhile Char.isDigit) 0
    let value : Int := if negative then -n else n
    if intMin ≤ value ∧ value ≤ intMax then .ok value else .error .outOfRange

def parkingHint (pos : Int) (context : String) : String := "park:" ++ toString pos ++ "@" ++ context

/-- The loop from `pos` on; `List.insert` is `emplace` on the set. -/
def addHints (context : String) (endPos pos : Int) (hints : List String) :
    Except Stop (List String) :=
  if pos ≤ endPos then
    if pos = intMax then .error .overflow
    else addHints context endPos (pos + 1) (hints.insert (parkingHint pos context))
  else .ok hints
termination_by (endPos + 1 - pos).toNat

/-- The end of the range: the number after the first dash, if there is a dash. -/
def endPosition (parkPos : List Char) (startPos : Int) : Except Stop Int :=
  match parkPos.dropWhile (· ≠ '-') with
  | [] => .ok startPos
  | _ :: rest => stoi rest

section Response
variable [ScalarInterface] (load : String → Option Node)

/-- The callback of `forEach`. -/
def addLot (parkingLot : String) (hints : List String) (event : KeyValDict) :
    Except Stop (Bool × List String) := do
  let some cfg := load (event.get "JSON") | .error .badFile
  match ← (Handle.valid cfg).index parkingLot |>.mapError .yaml with
  | .zombie _ => return (true, hints)
  | parking =>
    let context ← (parking.read Node.asString "context").mapError .yaml
    let parkPos ← (parking.read Node.asString "parkpos").mapError .yaml
    let startPos ← stoi parkPos.toList
    let endPos ← endPosition parkPos.toList startPos
    return (true, ← addHints context endPos startPos hints)

/-- `none` is an unsuccessful response. -/
def getParkingHints (response : Option (List KeyValDict)) (parkingLot : String) :
    Except Stop (List String) :=
  match response with
  | none => .ok []
  | some events => forEach (addLot load parkingLot) events []

end Response

/-- A number of a range, in decimal. -/
structure Decimal (digits : List Char) (n : Nat) : Prop where
  nonempty : digits ≠ []
  decimal : ∀ c ∈ digits, c.isDigit = true
  value : Nat.ofDigitChars 10 digits 0 = n

/-- Positions as an administrator writes them: `a` or `a-b`. -/
inductive Written : List Char → Nat → Nat → Prop where
  | single : Decimal digits a → Written digits a a
  | range : Decimal first a → Decimal last b → Written (first ++ '-' :: last) a b

section Positions

theorem digit_plain {c : Char} (digit : c.isDigit = true) :
    isSpace c = false ∧ c ≠ '-' ∧ c ≠ '+' := by
  have other : ∀ d : Char, d.isDigit = false → c ≠ d := by
    rintro d plain rfl
    exact Bool.false_ne_true (plain.symm.trans digit)
  have blanks : ∀ d ∈ [' ', '\t', '\n', '\x0b', '\x0c', '\r'], d.isDigit = false := by decide
  refine ⟨Bool.eq_false_iff.mpr fun space => ?_, other '-' rfl, other '+' rfl⟩
  exact other c (blanks c (List.contains_iff_mem.mp space)) rfl

/-- The number at the beginning of a text that ends there or goes on with a dash. -/
theorem stoi_decimal (written : Decimal digits n) (fits : n ≤ 2147483647)
    (stops : rest = [] ∨ ∃ more, rest = '-' :: more) : stoi (digits ++ rest) = .ok n := by
  have number : (digits ++ rest).takeWhile Char.isDigit = digits := by
    rcases stops with rfl | ⟨more, rfl⟩
    · rw [List.append_nil]
      exact List.takeWhile_eq_self_iff.mpr written.decimal
    · exact takeWhile_stop written.decimal rfl more
  obtain ⟨c, digits, rfl⟩ := List.exists_cons_of_ne_nil written.nonempty
  obtain ⟨unblank, unsigned, unsigned'⟩ := digit_plain (written.decimal c List.mem_cons_self)
  have start : (c :: digits ++ rest).dropWhile isSpace = c :: digits ++ rest := by
    rw [List.cons_append, List.dropWhile_cons_of_neg (by simp [unblank])]
  have inside : intMin ≤ (n : Int) ∧ (n : Int) ≤ intMax := by
    unfold intMin intMax
    omega
  have positive : sign (c :: digits ++ rest) = (false, c :: digits ++ rest) := by
    rw [List.cons_append, sign]
    · rintro rest' ⟨⟩
      exact unsigned rfl
    · rintro rest' ⟨⟩
      exact unsigned' rfl
  simp only [stoi, start, positive, number, reduceCtorEq, if_false, written.value,
    Bool.false_eq_true, if_pos inside]

end Positions

section Loop

/-- Below the largest `int` the loop adds every hint of the range and ends. -/
theorem addHints_below (below : endPos < intMax) (context : String)
    (pos : Int) (unique : hints.Nodup) :
    ∃ added, addHints context endPos pos hints = .ok added ∧ added.Nodup ∧
      ∀ hint, hint ∈ added ↔ hint ∈ hints ∨
      ∃ n, pos ≤ n ∧ n ≤ endPos ∧ hint = parkingHint n context := by
  fun_induction addHints context endPos pos hints with
  | case1 => omega
  | case2 pos hints inside other ih =>
    obtain ⟨added, result, nodup, all⟩ := ih unique.insert
    refine ⟨added, result, nodup, fun hint => (all hint).trans ?_⟩
    rw [List.mem_insert_iff]
    constructor
    · rintro ((rfl | old) | ⟨n, lower, upper, rfl⟩)
      · exact .inr ⟨pos, Int.le_refl pos, inside, rfl⟩
      · exact .inl old
      · exact .inr ⟨n, by omega, upper, rfl⟩
    · rintro (old | ⟨n, lower, upper, rfl⟩)
      · exact .inl (.inr old)
      · by_cases first : n = pos
        · exact .inl (.inl (first ▸ rfl))
        · exact .inr ⟨n, by omega, upper, rfl⟩
  | case3 pos hints outside =>
    refine ⟨hints, rfl, unique, fun hint => ⟨.inl, ?_⟩⟩
    rintro (old | ⟨n, lower, upper, -⟩)
    · exact old
    · omega

theorem addHints_overflow (context : String) (reachable : pos ≤ intMax) (hints : List String) :
    addHints context intMax pos hints = .error .overflow := by
  fun_induction addHints context intMax pos hints with
  | case1 => rfl
  | case2 pos hints inside other ih => exact ih (by omega)
  | case3 pos hints outside => omega

end Loop

/-- For every context, each position has a hint of its own. -/
theorem parkingHint_injective (context : String) :
    Function.Injective fun n : Nat => parkingHint n context := by
  intro n m same
  have numbers : toString (n : Int) = toString (m : Int) :=
    (String.append_right_inj _).mp
      ((String.append_left_inj _).mp ((String.append_left_inj _).mp same))
  have digits : Nat.toDigits 10 n = Nat.toDigits 10 m := by
    rw [← Nat.toList_repr, ← Nat.toList_repr]
    exact congrArg String.toList numbers
  rw [← Nat.ofDigitChars_ten_toDigits (n := n), digits, Nat.ofDigitChars_ten_toDigits]

section Expansion

theorem endPosition_single (written : Decimal digits n) (start : Int) :
    endPosition digits start = .ok start := by
  have none_dash : digits.dropWhile (· ≠ '-') = [] :=
    List.dropWhile_eq_nil_iff.mpr fun c member =>
      decide_eq_true (digit_plain (written.decimal c member)).2.1
  rw [endPosition, none_dash]

theorem endPosition_range (written : Decimal first n) (last : List Char) (start : Int) :
    endPosition (first ++ '-' :: last) start = stoi last := by
  have dash : (first ++ '-' :: last).dropWhile (· ≠ '-') = '-' :: last :=
    dropWhile_stop
      (fun c member => decide_eq_true (digit_plain (written.decimal c member)).2.1) (by decide) last
  rw [endPosition, dash]

/-- The two parses of the text give the bounds of its range. -/
theorem positions_written (written : Written parkPos a b) (ordered : a ≤ b)
    (fits : b ≤ 2147483647) :
    stoi parkPos = .ok a ∧ endPosition parkPos a = .ok b := by
  cases written with
  | single digits =>
    refine ⟨?_, endPosition_single digits a⟩
    simpa using stoi_decimal digits fits (.inl rfl)
  | range first last =>
    refine ⟨stoi_decimal first (ordered.trans fits) (.inr ⟨_, rfl⟩), ?_⟩
    rw [endPosition_range first]
    simpa using stoi_decimal last fits (.inl rfl)

/-- Exactly the hints of the range, each once. -/
structure Expands (context : String) (a b : Nat) (hints : List String) : Prop where
  members : ∀ hint, hint ∈ hints ↔ ∃ n : Nat, a ≤ n ∧ n ≤ b ∧ hint = parkingHint n context
  unique : hints.Nodup
  length : hints.length = b - a + 1

theorem expands_below {a b : Nat} (below : b < 2147483647) (ordered : a ≤ b) (context : String) :
    ∃ hints, addHints context b a [] = .ok hints ∧ Expands context a b hints := by
  have small : (b : Int) < intMax := by
    unfold intMax
    omega
  obtain ⟨hints, result, unique, all⟩ := addHints_below small context a List.nodup_nil
  have members : ∀ hint, hint ∈ hints ↔
      ∃ n : Nat, a ≤ n ∧ n ≤ b ∧ hint = parkingHint n context := by
    intro hint
    rw [all hint]
    constructor
    · rintro (⟨⟨⟩⟩ | ⟨n, lower, upper, rfl⟩)
      obtain ⟨k, rfl⟩ := Int.eq_ofNat_of_zero_le (by omega : 0 ≤ n)
      exact ⟨k, by omega, by omega, rfl⟩
    · rintro ⟨n, lower, upper, rfl⟩
      exact .inr ⟨n, by omega, by omega, rfl⟩
  have listed : hints.Perm
      ((List.range' a (b - a + 1)).map fun n : Nat => parkingHint n context) := by
    refine (List.perm_ext_iff_of_nodup unique
      ((List.nodup_range' _).map (parkingHint_injective context))).mpr fun hint => ?_
    rw [members, List.mem_map]
    constructor
    · rintro ⟨n, lower, upper, rfl⟩
      exact ⟨n, List.mem_range'_1.mpr ⟨lower, by omega⟩, rfl⟩
    · rintro ⟨n, member, rfl⟩
      have bounds := List.mem_range'_1.mp member
      exact ⟨n, bounds.1, by omega, rfl⟩
  have length := listed.length_eq
  rw [List.length_map, List.length_range'] at length
  exact ⟨hints, result, members, unique, length⟩

end Expansion

section Configured
variable [ScalarInterface] {load : String → Option Node}

/-- The first event of the response has a lot with this context and these positions. -/
structure Configured (load : String → Option Node) (response : Option (List KeyValDict))
    (parkingLot : String) (context : String) (parkPos : String) : Prop where
  lot : ∃ event rest cfg parking, response = some (event :: rest) ∧
    load (event.get "JSON") = some cfg ∧
    cfg.find? parkingLot = some parking ∧ parking.get Node.asString "context" = some context ∧
    parking.get Node.asString "parkpos" = some parkPos

/-- The loop decides the result. -/
theorem getParkingHints_configured
    (configured : Configured load response parkingLot context parkPos)
    (start : stoi parkPos.toList = .ok a) (last : endPosition parkPos.toList a = .ok b) :
    getParkingHints load response parkingLot = addHints context b a [] := by
  obtain ⟨event, rest, cfg, parking, rfl, loaded, found, context_eq, parkPos_eq⟩ := configured.lot
  have lookup : (Handle.valid cfg).index parkingLot = .ok (.valid parking) := by
    cases cfg with
    | scalar text => cases found
    | null | sequence elements | map entries => simp only [Handle.index, found, Option.elim_some]
  rw [getParkingHints, forEach, addLot]
  simp only [loaded, lookup, read_eq_ok.mpr context_eq, read_eq_ok.mpr parkPos_eq, Except.mapError,
    start, last, ok_bind]
  cases addHints context b a [] <;> rfl

end Configured

/-- The range is expanded exactly, and without leaving the range of `int`,
exactly if it ends below the largest `int`. -/
theorem getParkingHints_exact [ScalarInterface] {load : String → Option Node} {a b : Nat}
    (configured : Configured load response parkingLot context parkPos)
    (written : Written parkPos.toList a b) (ordered : a ≤ b) (fits : b ≤ 2147483647) :
    (∃ hints, getParkingHints load response parkingLot = .ok hints ∧ Expands context a b hints) ↔
      b < 2147483647 := by
  obtain ⟨start, last⟩ := positions_written written ordered fits
  rw [getParkingHints_configured configured start last]
  constructor
  · rintro ⟨hints, result, -⟩
    by_contra top
    obtain rfl : b = 2147483647 := by omega
    have reachable : (a : Int) ≤ intMax := by
      unfold intMax
      omega
    cases result.symm.trans (addHints_overflow context reachable [])
  · exact fun below => expands_below below ordered context

section Lots

local instance parkingScalars : ScalarInterface := decimalScalars

/-- The configuration of one lot, and its text. -/
def lotJson (parkPos : String) : String :=
  "\x7b\"default\":\x7b\"context\":\"parkedcalls\",\"parkpos\":\"" ++ parkPos ++ "\"\x7d\x7d"

def loadLot (parkPos : String) (json : String) : Option Node :=
  if json = lotJson parkPos then
    some (.map [("default",
      .map [("context", .scalar "parkedcalls"), ("parkpos", .scalar parkPos)])])
  else none

def lotResponse (parkPos : String) : Option (List KeyValDict) :=
  some [⟨[("JSON", lotJson parkPos)]⟩]

theorem configured_lot (parkPos : String) :
    Configured (loadLot parkPos) (lotResponse parkPos) "default" "parkedcalls" parkPos :=
  ⟨_, _, _, _, rfl, if_pos rfl, rfl, rfl, rfl⟩

/-- A range of one position that is the largest `int`. -/
theorem largest_position_overflows :
    Written "2147483647".toList 2147483647 2147483647 ∧
    ¬ ∃ hints, getParkingHints (loadLot "2147483647") (lotResponse "2147483647")
      "default" = .ok hints ∧
      Expands "parkedcalls" 2147483647 2147483647 hints := by
  have written : Written "2147483647".toList 2147483647 2147483647 :=
    .single ⟨by decide, by decide, by decide⟩
  obtain ⟨start, last⟩ := positions_written written (by decide) (by decide)
  refine ⟨written, ?_⟩
  rintro ⟨hints, result, -⟩
  have loop := (getParkingHints_configured (configured_lot _) start last).symm.trans result
  cases (addHints_overflow "parkedcalls" (Int.le_refl intMax) []).symm.trans loop

/-- The usual twenty positions. -/
theorem getParkingHints_exact_usual :
    (∃ hints, getParkingHints (loadLot "701-720") (lotResponse "701-720") "default" = .ok hints ∧
      Expands "parkedcalls" 701 720 hints) ↔ 720 < 2147483647 :=
  getParkingHints_exact (configured_lot "701-720")
    (show Written ("701".toList ++ '-' :: "720".toList) 701 720 from
      .range ⟨by decide, by decide, by decide⟩ ⟨by decide, by decide, by decide⟩)
      (by decide) (by decide)

end Lots
end LampMonitor.Asterisk.ParkingHints
