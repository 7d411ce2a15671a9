import LampMonitor.KeyedTable
import Mathlib.Algebra.Group.Int.Defs
import Mathlib.Algebra.Group.Nat.Defs

/-! The endpoints table of the deskphone cache and the two write statements of
its batch thread. SQLite is modelled at the level of single statements: an
upsert on the primary key, an update with a filter, parameters that stay bound
after a reset, and the NOT NULL constraint on `ip`. -/
namespace LampMonitor.DeskphoneCache

/-- Two's-complement reading of a signed 64-bit count. -/
def int64 (x : Int) : Int := x.bmod (2 ^ 64)

theorem int64_eq {x : Int} (lower : 0 ≤ x) (upper : x < 2 ^ 63) : int64 x = x :=
  Int.bmod_eq_of_le (by omega) (by omega)

structure EndpointKey where
  aor : String
  endpoint : String
  deriving DecidableEq, Repr

/-- The columns outside the primary key. `none` is SQL NULL. -/
structure EndpointRow where
  ipVer : Option String
  trans : Option String
  ip : String
  port : Option Int
  expiry : Option Int
  deriving DecidableEq, Repr

abbrev Endpoints := KeyedTable EndpointKey EndpointRow

inductive SQLAction where
  | aorRemove
  | aorInsert
  deriving DecidableEq, Repr

/-- For a removal `endpoint` holds the IP address and `expiry` is unused. -/
structure HandsetData where
  action : SQLAction
  aor : String
  endpoint : String
  expiry : Int
  deriving DecidableEq, Repr

/-- Parameters 4 to 7 of the long-lived insert statement. The first three are
bound before every execution and need no memory. -/
structure Bindings where
  ipVer : Option String
  trans : Option String
  ip : Option String
  port : Option Int
  deriving DecidableEq, Repr

def Bindings.unbound : Bindings := ⟨none, none, none, none⟩

/-- `std::from_chars` into an `int`: the longest decimal prefix, no sign but
minus, and an error on no digits or a value outside the range. -/
def fromChars (field : List Char) : Option Int :=
  let negative := field.head? = some '-'
  let digits := (if negative then field.tail else field).takeWhile Char.isDigit
  let magnitude : Int := digits.foldl (fun value c => 10 * value + (c.toNat - '0'.toNat : Int)) 0
  let value := if negative then -magnitude else magnitude
  if digits = [] then none
  else if -(2 ^ 31) ≤ value ∧ value < 2 ^ 31 then some value else none

/-- `std::views::split` on `/`; an empty endpoint has no fields at all. -/
def fields (endpoint : String) : List (List Char) :=
  if endpoint.toList = [] then [] else endpoint.toList.splitOn '/'

/-- One iteration of `bind_fields`. An index past the last parameter is
rejected by SQLite and changes nothing. -/
def bindField (b : Bindings) (idx : Nat) (field : List Char) : Bindings :=
  match idx with
  | 4 => { b with ipVer := some (String.ofList field) }
  | 5 => { b with trans := some (String.ofList field) }
  | 6 => { b with ip := some (String.ofList field) }
  | 7 => { b with port := fromChars field }
  | _ => b

def bindFieldsFrom : Nat → List (List Char) → Bindings → Bindings
  | _, [], b => b
  | idx, field :: rest, b => bindFieldsFrom (idx + 1) rest (bindField b idx field)

def bindFields (idx : Nat) (endpoint : String) (b : Bindings) : Bindings :=
  bindFieldsFrom idx (fields endpoint) b

/-- What one execution of a write statement reads and writes. -/
structure Database where
  endpoints : Endpoints
  bindings : Bindings

def delAor (db : Database) (data : HandsetData) : Database :=
  let named (key : EndpointKey) (row : EndpointRow) : Bool := key.aor = data.aor ∧ row.ip = data.endpoint
  { db with endpoints := db.endpoints.update named (fun row => { row with expiry := some 0 }) }

/-- Binding happens before execution, so it survives a rejected insert. -/
def addAor (db : Database) (data : HandsetData) : Database :=
  let b := bindFields 4 data.endpoint db.bindings
  match b.ip with
  | none => { db with bindings := b }
  | some ip =>
    ⟨db.endpoints.upsert ⟨data.aor, data.endpoint⟩ ⟨b.ipVer, b.trans, ip, b.port, some data.expiry⟩, b⟩

def execute (db : Database) (data : HandsetData) : Database :=
  match data.action with
  | .aorInsert => addAor db data
  | .aorRemove => delAor db data

/-- The statement can succeed: an insert needs a value for the NOT NULL `ip`. -/
def accepts (db : Database) (data : HandsetData) : Bool :=
  match data.action with
  | .aorInsert => (bindFields 4 data.endpoint db.bindings).ip.isSome
  | .aorRemove => true

/-- The queue of operations applied one at a time to a freshly opened cache. -/
def replay (endpoints : Endpoints) (ops : List HandsetData) : Database :=
  ops.foldl execute ⟨endpoints, Bindings.unbound⟩

/-- `UPDATE endpoints SET expiry = 0` on start-up. -/
def initializeDatabase (endpoints : Endpoints) : Endpoints :=
  endpoints.update (fun _ _ => true) (fun row => { row with expiry := some 0 })

/-- The `EXISTS` query of `addEndpoint`; a NULL expiry never compares greater. -/
def unexpired (endpoints : Endpoints) (aor endpoint : String) (now : Int) : Bool :=
  match endpoints.find? ⟨aor, endpoint⟩ with
  | some ⟨_, _, _, _, some expiry⟩ => now < expiry
  | _ => false

/-- `DeskphoneCache::create`: minutes, at least sixty, as milliseconds. -/
def create (expiry : UInt32) : Int := int64 (60000 * max 60 expiry.toNat)

/-- `(now + expiry_).time_since_epoch().count()` with `expiry_` in milliseconds. -/
def expiresAt (expiry now : Int) : Int := int64 (now + int64 (expiry * 1000000))

/-- The result of `addEndpoint` and the operation it enqueues. -/
def addEndpoint (endpoints : Endpoints) (expiry now : Int) (aor endpoint : String) : Bool × HandsetData :=
  (!unexpired endpoints aor endpoint now, ⟨.aorInsert, aor, endpoint, expiresAt expiry now⟩)

def deleteEndpoint (aor ip : String) : HandsetData := ⟨.aorRemove, aor, ip, 0⟩

/-- The purge in the destructor, after the write thread has been joined. -/
def expunge (endpoints : Endpoints) (now : Int) : Endpoints :=
  endpoints.delete (fun _ row => row.expiry.any (· < now))

section Lemmas

theorem bindFieldsFrom_past (past : 8 ≤ idx) : bindFieldsFrom idx fs b = b := by
  induction fs generalizing idx b with
  | nil => rfl
  | cons field rest ih =>
    have ignored : bindField b idx field = b := by
      unfold bindField
      split <;> first | omega | rfl
    simp only [bindFieldsFrom, ignored]
    exact ih (by omega)

/-- A field that is present is bound anew and one that is missing keeps the
value of an earlier endpoint. -/
theorem bindFields_eq (endpoint : String) (b : Bindings) :
    bindFields 4 endpoint b =
      { ipVer := ((fields endpoint)[0]?.map String.ofList).or b.ipVer
        trans := ((fields endpoint)[1]?.map String.ofList).or b.trans
        ip := ((fields endpoint)[2]?.map String.ofList).or b.ip
        port := ((fields endpoint)[3]?.map fromChars).getD b.port } := by
  unfold bindFields
  match fields endpoint with
  | [] => rfl
  | [_] => rfl
  | [_, _] => rfl
  | [_, _, _] => rfl
  | _ :: _ :: _ :: _ :: _ => exact bindFieldsFrom_past (Nat.le_refl 8)

theorem find?_delAor (db : Database) (data : HandsetData) (key : EndpointKey) :
    (delAor db data).endpoints.find? key = (db.endpoints.find? key).map (fun row =>
      if key.aor = data.aor ∧ row.ip = data.endpoint then { row with expiry := some 0 } else row) := by
  simp only [delAor, KeyedTable.find?_update, decide_eq_true_eq]

theorem addAor_bound {db : Database} {data : HandsetData}
    (bound : (bindFields 4 data.endpoint db.bindings).ip = some ip) :
    addAor db data =
      let b := bindFields 4 data.endpoint db.bindings
      ⟨db.endpoints.upsert ⟨data.aor, data.endpoint⟩
        ⟨b.ipVer, b.trans, ip, b.port, some data.expiry⟩, b⟩ := by
  simp only [addAor, bound]

theorem unexpired_iff {endpoints : Endpoints} :
    unexpired endpoints aor endpoint now = true ↔
      ∃ row e, endpoints.find? ⟨aor, endpoint⟩ = some row ∧ row.expiry = some e ∧ now < e := by
  unfold unexpired
  constructor
  · intro found
    split at found
    · rename_i present
      exact ⟨_, _, present, rfl, by simpa using found⟩
    · contradiction
  · rintro ⟨⟨_, _, _, _, _⟩, e, present, rfl, later⟩
    simpa only [present, decide_eq_true_eq] using later

/-- The purge takes no phone that is still live, then or later. -/
theorem unexpired_expunge {endpoints : Endpoints} (ordered : now ≤ later) :
    unexpired (expunge endpoints now) aor endpoint later =
      unexpired endpoints aor endpoint later := by
  rw [Bool.eq_iff_iff, unexpired_iff, unexpired_iff, expunge, KeyedTable.find?_delete]
  constructor
  · rintro ⟨row, e, present, expiry, ahead⟩
    exact ⟨row, e, (Option.filter_eq_some_iff.mp present).1, expiry, ahead⟩
  · rintro ⟨row, e, present, expiry, ahead⟩
    refine ⟨row, e, Option.filter_eq_some_iff.mpr ⟨present, ?_⟩, expiry, ahead⟩
    simp only [expiry, Option.any_some, Bool.not_eq_true', decide_eq_false_iff_not]
    omega

end Lemmas
end LampMonitor.DeskphoneCache
