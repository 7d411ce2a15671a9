import LampMonitor.Fallible
import LampMonitor.Transition

/-! `setUserGroup` over every user and group database and every outcome of the
system calls. The names come from the command line. A process holds three user
ids and three group ids; one that keeps an old id in the saved place may take it
back. -/
namespace LampMonitor.Config.Privileges
open Fallible Transition

/-- `(uid_t)-1` and `(gid_t)-1`, for an id that `setresuid` or `setresgid` leaves as it is. -/
def unchanged : UInt32 := 0xFFFFFFFF

/-- An id a process can have. -/
abbrev HeldId := {id : UInt32 // id ≠ unchanged}

def HeldId.set (old : HeldId) (new : UInt32) : HeldId := if h : new = unchanged then old else ⟨new, h⟩

structure Ids where
  real : HeldId
  effective : HeldId
  saved : HeldId
  deriving DecidableEq

namespace Ids

def set (ids : Ids) (real effective saved : UInt32) : Ids :=
  ⟨ids.real.set real, ids.effective.set effective, ids.saved.set saved⟩

def All (ids : Ids) (id : UInt32) : Prop :=
  ids.real.val = id ∧ ids.effective.val = id ∧ ids.saved.val = id

instance (ids : Ids) (id : UInt32) : Decidable (ids.All id) := inferInstanceAs (Decidable (_ ∧ _))

end Ids

theorem HeldId.set_val (old : HeldId) (new : UInt32) :
    (old.set new).val = if new = unchanged then old.val else new := by
  unfold HeldId.set
  split <;> rfl

/-- The three arguments are the same in every call but one. -/
theorem Ids.set_same (ids : Ids) (id : UInt32) : (ids.set id id id).All id ↔ id ≠ unchanged := by
  simp only [Ids.All, Ids.set, HeldId.set_val]
  by_cases h : id = unchanged
  · simp only [h, ne_eq, not_true_eq_false, iff_false]
    exact fun all => ids.real.property all.1
  · simp [h]

theorem Ids.set_saved (ids : Ids) (id saved : UInt32) :
    (ids.set id id saved).All id ↔
      id ≠ unchanged ∧ (saved = id ∨ saved = unchanged ∧ ids.saved.val = id) := by
  simp only [Ids.All, Ids.set, HeldId.set_val]
  by_cases h : id = unchanged
  · simp only [h, ne_eq, not_true_eq_false, false_and, iff_false]
    exact fun all => ids.real.property all.1
  · by_cases hs : saved = unchanged
    · simp [h, hs, Ne.symm h]
    · simp [h, hs]

structure Credentials where
  user : Ids
  group : Ids
  supplementary : List UInt32
  deriving DecidableEq

structure Passwd where
  pwName : String
  pwUid : UInt32
  pwGid : UInt32
  deriving DecidableEq, Repr

structure Group where
  grName : String
  grGid : UInt32
  grMem : List String
  deriving DecidableEq, Repr

inductive Call where
  | getpwnam
  | initgroups
  | getgrnam
  | setresgid
  | setresuid
  deriving DecidableEq, Repr

/-- The databases and the outcome of each call; a failed lookup gives null. -/
structure System where
  users : List Passwd
  groups : List Group
  succeeds : Call → Bool
  strerror : Call → String

def exitFailure : Nat := 1

inductive Stop where
  | exit (status : Nat) (cerr : String)
  | nullDereference
  deriving DecidableEq, Repr

namespace System
variable (sys : System)

def userNamed (name : String) : Option Passwd := sys.users.find? (·.pwName = name)

def groupNamed (name : String) : Option Group := sys.groups.find? (·.grName = name)

/-- The groups of a user in the group database, and the given one. -/
def groupList (name : String) (gid : UInt32) : List UInt32 :=
  gid :: (sys.groups.filter (name ∈ ·.grMem)).map (·.grGid)

def getpwnam (name : String) : Option Passwd := if sys.succeeds .getpwnam then sys.userNamed name else none

def getgrnam (name : String) : Option Group := if sys.succeeds .getgrnam then sys.groupNamed name else none

def initgroups (name : String) (gid : UInt32) (process : Credentials) : Option Credentials :=
  if sys.succeeds .initgroups then some { process with supplementary := sys.groupList name gid } else none

def setresgid (real effective saved : UInt32) (process : Credentials) : Option Credentials :=
  if sys.succeeds .setresgid then some { process with group := process.group.set real effective saved } else none

def setresuid (real effective saved : UInt32) (process : Credentials) : Option Credentials :=
  if sys.succeeds .setresuid then some { process with user := process.user.set real effective saved } else none

/-- The exit with the text of the call and `strerror(errno)`. -/
def orExit (call : Call) (text : String) : Option α → Except Stop α
  | some a => .ok a
  | none => .error (.exit exitFailure (text ++ " error: " ++ sys.strerror call))

/-- Initialize groups for the user; `uid_info` stays null where no user is given. -/
def initializeGroups (user : String) (process : Credentials) : Except Stop (Option Passwd × Credentials) :=
  if user = "" then .ok (none, process)
  else do
    let uidInfo ← sys.orExit .getpwnam "petpwnam" (sys.getpwnam user)
    let process ← sys.orExit .initgroups "initgroups" (sys.initgroups user uidInfo.pwGid process)
    return (some uidInfo, process)

/-- Set the active group for the application. The result of `getgrnam` is used unchecked. -/
def setActiveGroup (group : String) (uidInfo : Option Passwd) (process : Credentials) : Except Stop Credentials :=
  if group ≠ "" then
    match sys.getgrnam group with
    | none => .error .nullDereference
    | some gidInfo =>
      sys.orExit .setresgid "setresgid" (sys.setresgid gidInfo.grGid gidInfo.grGid gidInfo.grGid process)
  else
    match uidInfo with
    | none => .ok process
    | some uidInfo =>
      sys.orExit .setresgid "setresgid" (sys.setresgid uidInfo.pwGid uidInfo.pwGid uidInfo.pwGid process)

/-- Set the active user for the application. The third argument is the group id, as in the source. -/
def setActiveUser (uidInfo : Option Passwd) (process : Credentials) : Except Stop Credentials :=
  match uidInfo with
  | none => .ok process
  | some uidInfo =>
    sys.orExit .setresuid "setresuid" (sys.setresuid uidInfo.pwUid uidInfo.pwUid uidInfo.pwGid process)

def setUserGroup (user group : String) (process : Credentials) : Except Stop Credentials := do
  let initialized ← sys.initializeGroups user process
  let process ← sys.setActiveGroup group initialized.1 initialized.2
  sys.setActiveUser initialized.1 process

@[simp] theorem orExit_eq_ok {sys : System} {call : Call} {text : String}
    {result : Option α} {a : α} :
    sys.orExit call text result = .ok a ↔ result = some a := by
  cases result <;> simp [orExit]

@[simp] theorem orExit_ne_null {sys : System} {call : Call} {text : String} {result : Option α} :
    sys.orExit call text result ≠ .error .nullDereference := by
  cases result <;> simp [orExit]

theorem orExit_error {sys : System} {call : Call} {text : String} {result : Option α}
    (stopped : sys.orExit call text result = .error stop) :
    ∃ cerr, stop = .exit exitFailure cerr := by
  cases result with
  | some a => cases stopped
  | none => exact ⟨_, (Except.error.inj stopped).symm⟩

section Stages
variable {sys : System} {user group : String} {uidInfo : Option Passwd} {process after : Credentials}

@[simp] theorem initgroups_eq_some : sys.initgroups user gid process = some after ↔
    sys.succeeds .initgroups = true ∧ after = { process with supplementary := sys.groupList user gid } := by
  unfold initgroups
  split <;> simp [*, @eq_comm _ after]

@[simp] theorem setresgid_eq_some : sys.setresgid real effective saved process = some after ↔
    sys.succeeds .setresgid = true ∧ after = { process with group := process.group.set real effective saved } := by
  unfold setresgid
  split <;> simp [*, @eq_comm _ after]

@[simp] theorem setresuid_eq_some : sys.setresuid real effective saved process = some after ↔
    sys.succeeds .setresuid = true ∧ after = { process with user := process.user.set real effective saved } := by
  unfold setresuid
  split <;> simp [*, @eq_comm _ after]

/-- The record with which the function goes on to the group: null exactly where no user is named. -/
def Initializes (sys : System) (user : String) : Option Passwd → Prop
  | none => user = ""
  | some info => user ≠ "" ∧ sys.getpwnam user = some info ∧ sys.succeeds .initgroups = true

def supplementaryOf (sys : System) (user : String) (uidInfo : Option Passwd) (process : Credentials) : List UInt32 :=
  uidInfo.elim process.supplementary (fun info => sys.groupList user info.pwGid)

theorem initializeGroups_eq_ok : sys.initializeGroups user process = .ok (uidInfo, after) ↔
    sys.Initializes user uidInfo ∧
      after = { process with supplementary := sys.supplementaryOf user uidInfo process } := by
  by_cases h : user = ""
  · cases uidInfo <;> simp [initializeGroups, Initializes, supplementaryOf, h, @eq_comm _ after]
  · simp only [initializeGroups, h, if_false, bind_eq_ok, orExit_eq_ok, initgroups_eq_some,
      pure_eq_ok, Prod.mk.injEq]
    constructor
    · rintro ⟨info, known, c, ⟨done, rfl⟩, rfl, rfl⟩
      exact ⟨⟨h, known, done⟩, rfl⟩
    · rintro ⟨initializes, rfl⟩
      cases uidInfo with
      | none => exact absurd initializes h
      | some info => exact ⟨info, initializes.2.1, _, ⟨initializes.2.2, rfl⟩, rfl, rfl⟩

theorem initializeGroups_error (stopped : sys.initializeGroups user process = .error stop) :
    ∃ cerr, stop = .exit exitFailure cerr := by
  by_cases h : user = ""
  · simp [initializeGroups, h] at stopped
  · simp only [initializeGroups, h, if_false, bind_eq_error, pure_eq_error, and_false, exists_false,
      or_false] at stopped
    rcases stopped with stopped | ⟨info, -, stopped⟩
    · exact orExit_error stopped
    · exact orExit_error stopped

/-- Where the initialization does not go through, the process exits there. -/
theorem exits_of_not_initializes (group : String) (process : Credentials)
    (fails : ∀ uidInfo, ¬ sys.Initializes user uidInfo) :
    ∃ cerr, sys.setUserGroup user group process = .error (.exit exitFailure cerr) := by
  cases initialized : sys.initializeGroups user process with
  | ok r => exact absurd (initializeGroups_eq_ok.mp initialized).1 (fails r.1)
  | error stop =>
    obtain ⟨cerr, rfl⟩ := initializeGroups_error initialized
    exact ⟨cerr, bind_eq_error.mpr (Or.inl initialized)⟩

/-- The group that becomes active: the named one, else the primary group of the user. -/
def activeGid (sys : System) (group : String) (uidInfo : Option Passwd) : Option UInt32 :=
  if group ≠ "" then (sys.getgrnam group).map (·.grGid) else uidInfo.map (·.pwGid)

theorem setActiveGroup_eq_ok : sys.setActiveGroup group uidInfo process = .ok after ↔
    (group ≠ "" → (sys.getgrnam group).isSome) ∧
      ((sys.activeGid group uidInfo).isSome → sys.succeeds .setresgid = true) ∧
        after = { process with
          group := (sys.activeGid group uidInfo).elim process.group
            (fun gid => process.group.set gid gid gid) } := by
  by_cases h : group = ""
  · cases uidInfo <;> simp [setActiveGroup, activeGid, h, @eq_comm _ after]
  · cases found : sys.getgrnam group <;> simp [setActiveGroup, activeGid, h, found]

theorem setActiveGroup_null : sys.setActiveGroup group uidInfo process = .error .nullDereference ↔
    group ≠ "" ∧ sys.getgrnam group = none := by
  by_cases h : group = ""
  · cases uidInfo <;> simp [setActiveGroup, h]
  · cases found : sys.getgrnam group <;> simp [setActiveGroup, h, found]

theorem setActiveUser_eq_ok : sys.setActiveUser uidInfo process = .ok after ↔
    (uidInfo.isSome → sys.succeeds .setresuid = true) ∧
      after = { process with
        user := uidInfo.elim process.user
          (fun info => process.user.set info.pwUid info.pwUid info.pwGid) } := by
  cases uidInfo <;> simp [setActiveUser, @eq_comm _ after]

theorem setActiveUser_ne_null : sys.setActiveUser uidInfo process ≠ .error .nullDereference := by
  cases uidInfo <;> simp [setActiveUser]

/-- The one lookup whose result is used without a check. -/
theorem setUserGroup_null : sys.setUserGroup user group process = .error .nullDereference ↔
    (∃ uidInfo, sys.Initializes user uidInfo) ∧ group ≠ "" ∧ sys.getgrnam group = none := by
  have initialized : sys.initializeGroups user process ≠ .error .nullDereference := fun h => by
    obtain ⟨cerr, hc⟩ := initializeGroups_error h
    cases hc
  simp [setUserGroup, initialized, setActiveGroup_null, setActiveUser_ne_null,
    initializeGroups_eq_ok]

/-- The outcomes with which nothing after the initialization stops the process. -/
structure Completes (sys : System) (user group : String) (uidInfo : Option Passwd) : Prop where
  initializes : sys.Initializes user uidInfo
  found : group ≠ "" → (sys.getgrnam group).isSome
  gids : (sys.activeGid group uidInfo).isSome → sys.succeeds .setresgid = true
  uids : uidInfo.isSome → sys.succeeds .setresuid = true

def credentialsOf (sys : System) (user group : String) (uidInfo : Option Passwd) (process : Credentials) : Credentials where
  user := uidInfo.elim process.user (fun info => process.user.set info.pwUid info.pwUid info.pwGid)
  group := (sys.activeGid group uidInfo).elim process.group (fun gid => process.group.set gid gid gid)
  supplementary := sys.supplementaryOf user uidInfo process

theorem setUserGroup_eq_ok : sys.setUserGroup user group process = .ok after ↔
    ∃ uidInfo, sys.Completes user group uidInfo ∧
    after = sys.credentialsOf user group uidInfo process := by
  simp only [setUserGroup, bind_eq_ok, Prod.exists, initializeGroups_eq_ok, setActiveGroup_eq_ok,
    setActiveUser_eq_ok]
  constructor
  · rintro ⟨uidInfo, _, ⟨initializes, rfl⟩, _, ⟨found, gids, rfl⟩, uids, rfl⟩
    exact ⟨uidInfo, ⟨initializes, found, gids, uids⟩, rfl⟩
  · rintro ⟨uidInfo, completes, rfl⟩
    exact ⟨uidInfo, _, ⟨completes.initializes, rfl⟩, _, ⟨completes.found, completes.gids, rfl⟩,
      completes.uids, rfl⟩

end Stages
end System

section Property
variable (sys : System) (user group : String)

/-- What the two options promise of the process that goes on. -/
structure Dropped (before after : Credentials) : Prop where
  account : user ≠ "" → ∃ info, sys.userNamed user = some info ∧ after.user.All info.pwUid ∧
    ∀ gid, gid ∈ after.supplementary ↔ gid = info.pwGid ∨ ∃ g ∈ sys.groups, user ∈ g.grMem ∧ g.grGid = gid
  named : group ≠ "" → ∃ g, sys.groupNamed group = some g ∧ after.group.All g.grGid
  primary : user ≠ "" → group = "" → ∃ info, sys.userNamed user = some info ∧ after.group.All info.pwGid
  kept : user = "" → after.user = before.user
  untouched : user = "" → group = "" → after = before

structure PrivilegesDropped (process : Credentials) : Prop where
  returned : ∀ after, sys.setUserGroup user group process = .ok after → Dropped sys user group process after
  noUser : user ≠ "" → sys.userNamed user = none →
    ∃ cerr, sys.setUserGroup user group process = .error (.exit exitFailure cerr)
  noGroup : group ≠ "" → sys.groupNamed group = none →
    ∃ cerr, sys.setUserGroup user group process = .error (.exit exitFailure cerr)
  noNull : sys.setUserGroup user group process ≠ .error .nullDereference

/-- The group step finds the group it is given, and where no call stops the
process the ids are ids and the saved user id, which is set from the primary
group, is nevertheless that of the user. -/
structure SafeToDrop (process : Credentials) : Prop where
  found : (∃ uidInfo, sys.Initializes user uidInfo) → group ≠ "" → (sys.getgrnam group).isSome
  gid : ∀ uidInfo, sys.Completes user group uidInfo →
    ∀ gid, sys.activeGid group uidInfo = some gid → gid ≠ unchanged
  uid : ∀ info, sys.Completes user group (some info) → info.pwUid ≠ unchanged ∧
    (info.pwGid = info.pwUid ∨ info.pwGid = unchanged ∧ process.user.saved.val = info.pwUid)

end Property

section Exact
variable {sys : System} {user group : String} {process : Credentials}

theorem System.getpwnam_known (found : sys.getpwnam user = some info) :
    sys.userNamed user = some info := by
  unfold System.getpwnam at found
  split at found
  · exact found
  · cases found

theorem System.getgrnam_known (found : sys.getgrnam group = some g) :
    sys.groupNamed group = some g := by
  unfold System.getgrnam at found
  split at found
  · exact found
  · cases found

theorem System.mem_groupList {gid primary : UInt32} : gid ∈ sys.groupList user primary ↔
    gid = primary ∨ ∃ g ∈ sys.groups, user ∈ g.grMem ∧ g.grGid = gid := by
  simp [System.groupList, and_assoc]

/-- With a user named, the completed calls used the record of that user. -/
theorem System.Completes.account (completes : sys.Completes user group uidInfo)
    (named : user ≠ "") :
    ∃ info, uidInfo = some info ∧ sys.userNamed user = some info := by
  cases uidInfo with
  | none => exact absurd completes.initializes named
  | some info => exact ⟨info, rfl, System.getpwnam_known completes.initializes.2.1⟩

theorem System.Completes.noAccount (completes : sys.Completes "" group uidInfo) :
    uidInfo = none := by
  cases uidInfo with
  | none => rfl
  | some info => exact absurd rfl completes.initializes.1

theorem dropped_of_safe (safe : SafeToDrop sys user group process)
    (completes : sys.Completes user group uidInfo) :
    Dropped sys user group process (sys.credentialsOf user group uidInfo process) := by
  have gids : ∀ gid, sys.activeGid group uidInfo = some gid →
      (sys.credentialsOf user group uidInfo process).group.All gid := fun gid active => by
    simp only [System.credentialsOf, active, Option.elim_some]
    exact (Ids.set_same _ _).mpr (safe.gid uidInfo completes gid active)
  refine ⟨fun named => ?_, fun given => ?_, fun named none => ?_, ?_, ?_⟩
  · obtain ⟨info, rfl, known⟩ := completes.account named
    exact ⟨info, known, (Ids.set_saved _ _ _).mpr (safe.uid info completes),
      fun gid => System.mem_groupList⟩
  · obtain ⟨g, found⟩ := Option.isSome_iff_exists.mp (completes.found given)
    exact ⟨g, System.getgrnam_known found, gids g.grGid (by simp [System.activeGid, given, found])⟩
  · obtain ⟨info, rfl, known⟩ := completes.account named
    exact ⟨info, known, gids info.pwGid (by simp [System.activeGid, none])⟩
  · rintro rfl
    rw [completes.noAccount]
    rfl
  · rintro rfl rfl
    rw [completes.noAccount]
    rfl

/-- The group promised is the active one. -/
theorem Dropped.activeGid (dropped : Dropped sys user group process after)
    (completes : sys.Completes user group uidInfo)
    (active : sys.activeGid group uidInfo = some gid) : after.group.All gid := by
  by_cases h : group = ""
  · cases uidInfo with
    | none => simp [System.activeGid, h] at active
    | some info =>
      obtain ⟨info', known, all⟩ := dropped.primary completes.initializes.1 h
      cases (System.getpwnam_known completes.initializes.2.1).symm.trans known
      have primary : info.pwGid = gid := by simpa [System.activeGid, h] using active
      exact primary ▸ all
  · obtain ⟨g, found, primary⟩ : ∃ g, sys.getgrnam group = some g ∧ g.grGid = gid := by
      simpa [System.activeGid, h] using active
    obtain ⟨g', known, all⟩ := dropped.named h
    cases (System.getgrnam_known found).symm.trans known
    exact primary ▸ all

/-- The privileges are dropped as promised exactly where the group lookup
succeeds and the saved user id comes out right. -/
theorem privileges_dropped_iff : PrivilegesDropped sys user group process ↔ SafeToDrop sys user group process := by
  constructor
  · intro dropped
    refine ⟨fun initializes given => ?_, fun uidInfo completes gid active => ?_,
      fun info completes => ?_⟩
    · by_contra missing
      exact dropped.noNull
        (System.setUserGroup_null.mpr ⟨initializes, given, by simpa using missing⟩)
    · have promised := dropped.returned _ (System.setUserGroup_eq_ok.mpr ⟨uidInfo, completes, rfl⟩)
      have all := promised.activeGid completes active
      simp only [System.credentialsOf, active, Option.elim_some] at all
      exact (Ids.set_same _ _).mp all
    · have promised :=
        dropped.returned _ (System.setUserGroup_eq_ok.mpr ⟨some info, completes, rfl⟩)
      obtain ⟨info', known, all, -⟩ := promised.account completes.initializes.1
      cases (System.getpwnam_known completes.initializes.2.1).symm.trans known
      exact (Ids.set_saved _ _ _).mp all
  · intro safe
    refine ⟨fun after returned => ?_, fun named absent => ?_,
      fun given absent => ?_, fun null => ?_⟩
    · obtain ⟨uidInfo, completes, rfl⟩ := System.setUserGroup_eq_ok.mp returned
      exact dropped_of_safe safe completes
    · refine System.exits_of_not_initializes group process fun uidInfo initializes => ?_
      cases uidInfo with
      | none => exact named initializes
      | some info => simp [System.getpwnam_known initializes.2.1] at absent
    · refine System.exits_of_not_initializes group process fun uidInfo initializes => ?_
      obtain ⟨g, found⟩ := Option.isSome_iff_exists.mp (safe.found ⟨uidInfo, initializes⟩ given)
      simp [System.getgrnam_known found] at absent
    · obtain ⟨initializes, given, missing⟩ := System.setUserGroup_null.mp null
      simpa [missing] using safe.found initializes given

/-- Root starts the process; the one account has another primary group id, and
no group is called `lamps`. -/
def desk : System := ⟨[⟨"lamp", 1000, 100⟩], [⟨"users", 100, []⟩], fun _ => true, fun _ => "Success"⟩

def root : Credentials :=
  let ids : Ids := ⟨⟨0, by decide⟩, ⟨0, by decide⟩, ⟨0, by decide⟩⟩
  ⟨ids, ids, [0]⟩

theorem group_id_saved :
    ¬ PrivilegesDropped desk "lamp" "" root ∧ ¬ PrivilegesDropped desk "" "lamps" root := by
  constructor
  · intro dropped
    obtain ⟨info, known, all, -⟩ := (dropped.returned _ rfl).account (by decide)
    obtain rfl : ⟨"lamp", 1000, 100⟩ = info := Option.some.inj known
    exact absurd all (by decide)
  · intro dropped
    exact dropped.noNull rfl

end Exact

section Later
variable {ids ids' : Ids} {id new : UInt32}

/-- What an unprivileged process may pass to `setresuid`. -/
def Ids.mayPass (ids : Ids) (id : UInt32) : Prop :=
  id = unchanged ∨ id = ids.real.val ∨ id = ids.effective.val ∨ id = ids.saved.val

instance (ids : Ids) (id : UInt32) : Decidable (ids.mayPass id) := inferInstanceAs (Decidable (_ ∨ _))

def unprivileged : Machine Ids (UInt32 × UInt32 × UInt32) where
  step ids call :=
    if ids.mayPass call.1 ∧ ids.mayPass call.2.1 ∧ ids.mayPass call.2.2 then some (ids.set call.1 call.2.1 call.2.2)
    else none

theorem Ids.All.set_val {old : HeldId} (all : ids.All id) (held : old.val = id)
    (may : ids.mayPass new) :
    (old.set new).val = id := by
  obtain ⟨real, effective, saved⟩ := all
  rw [HeldId.set_val]
  split
  · exact held
  · rcases may with h | h | h | h
    · contradiction
    · exact h.trans real
    · exact h.trans effective
    · exact h.trans saved

theorem Ids.All.step (all : ids.All id)
    (stepped : unprivileged.step ids call = some ids') : ids'.All id := by
  simp only [unprivileged, Option.ite_none_right_eq_some, Option.some.injEq] at stepped
  obtain ⟨⟨real, effective, saved⟩, rfl⟩ := stepped
  exact ⟨all.set_val all.1 real, all.set_val all.2.1 effective, all.set_val all.2.2 saved⟩

/-- Once dropped, the ids stay dropped through every later sequence of calls. -/
theorem Ids.All.run (all : ids.All id)
    (later : unprivileged.run ids calls = some ids') : ids'.All id :=
  Machine.run_invariant (P := (·.All id)) (fun held stepped => held.step stepped) later all

theorem user_ids_stay {user group : String} (safe : SafeToDrop sys user group process)
    (named : user ≠ "") (returned : sys.setUserGroup user group process = .ok after)
    (later : unprivileged.run after.user calls = some ids) :
    ∃ info, sys.userNamed user = some info ∧ ids.All info.pwUid := by
  obtain ⟨uidInfo, completes, rfl⟩ := System.setUserGroup_eq_ok.mp returned
  obtain ⟨info, known, all, -⟩ := (dropped_of_safe safe completes).account named
  exact ⟨info, known, all.run later⟩

/-- An id left in the saved place can be taken back with one call. -/
theorem saved_taken_back (ids : Ids) :
    ∃ calls ids', unprivileged.run ids calls = some ids' ∧ ids'.effective = ids.saved := by
  have may : ids.mayPass unchanged ∧ ids.mayPass ids.saved.val :=
    ⟨Or.inl rfl, Or.inr (Or.inr (Or.inr rfl))⟩
  refine ⟨[(unchanged, ids.saved.val, unchanged)],
    ids.set unchanged ids.saved.val unchanged, ?_, ?_⟩
  · simp [Machine.run, unprivileged, may]
  · simp [Ids.set, HeldId.set, ids.saved.property]

end Later
end LampMonitor.Config.Privileges
