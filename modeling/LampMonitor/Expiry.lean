import LampMonitor.Phonebook.Phonebook

/-! The instants at which phones and phonebooks expire. A setting in minutes is
raised to its least value and never bounded from above; the sum with the clock is
a count of nanoseconds in 64 bits. -/
namespace LampMonitor.Expiry
open Bridge DeskphoneCache Match Transition

/-- This many minutes after an instant, and not before the least of them. -/
def instant (least : Nat) (setting : UInt32) (now : Int) : Int :=
  now + 60000000000 * max least setting.toNat

/-- The stored instants are those that the settings name, at this clock reading
for all settings up to this one. -/
structure Faithful (stored : UInt32 → Int) (least : Nat) (setting : UInt32) (now : Int) : Prop where
  asNamed : stored setting = instant least setting now
  later : now < stored setting
  increasing : ∀ smaller : UInt32, smaller ≤ setting → stored smaller ≤ stored setting
  strictly : ∀ smaller : UInt32, max least smaller.toNat < max least setting.toNat →
    stored smaller < stored setting

def Fits (least : Nat) (setting : UInt32) (now : Int) : Prop := instant least setting now < 2 ^ 63

instance (least : Nat) (setting : UInt32) (now : Int) : Decidable (Fits least setting now) :=
  inferInstanceAs (Decidable (_ < _))

theorem int64_lt (x : Int) : int64 x < 2 ^ 63 := by
  have upper := Int.bmod_lt (x := x) (m := 2 ^ 64) (by decide)
  rw [int64]
  omega

section Stored
variable {stored : UInt32 → Int} {least : Nat} {now : Int}

theorem Fits.mono {smaller setting : UInt32} (fits : Fits least setting now)
    (below : max least smaller.toNat ≤ max least setting.toNat) : Fits least smaller now := by
  simp only [Fits, instant] at fits ⊢
  omega

/-- An instant that fits is stored as it is. -/
theorem int64_instant (uptime : 0 ≤ now) (fits : Fits least setting now) :
    int64 (instant least setting now) = instant least setting now :=
  int64_eq (by simp only [instant]; omega) fits

theorem int64_instant_iff (uptime : 0 ≤ now) :
    int64 (instant least setting now) = instant least setting now ↔ Fits least setting now := by
  refine ⟨fun same => ?_, int64_instant uptime⟩
  rw [Fits, ← same]
  exact int64_lt _

/-- Wrapped sums are faithful exactly where the exact one fits. -/
theorem faithful_iff (positive : 0 < least) (uptime : 0 ≤ now)
    (wrapped : ∀ setting, stored setting = int64 (instant least setting now)) (setting : UInt32) :
    Faithful stored least setting now ↔ Fits least setting now := by
  constructor
  · intro faithful
    rw [← int64_instant_iff uptime, ← wrapped]
    exact faithful.asNamed
  · intro fits
    have below : ∀ smaller : UInt32, max least smaller.toNat ≤ max least setting.toNat →
        stored smaller = instant least smaller now := fun smaller le =>
      (wrapped smaller).trans (int64_instant uptime (fits.mono le))
    have here := below setting le_rfl
    refine ⟨here, ?_, fun smaller le => ?_, fun smaller lt => ?_⟩
    · rw [here, instant]
      omega
    · have minutes : smaller.toNat ≤ setting.toNat := UInt32.le_iff_toNat_le.mp le
      rw [here, below smaller (by omega), instant, instant]
      omega
    · rw [here, below smaller (by omega), instant, instant]
      omega

end Stored

/-- Only the total has to fit, not the sums on the way. -/
theorem int64_add (now x : Int) : int64 (now + int64 x) = int64 (now + x) := by
  simp only [int64, Int.add_bmod_bmod]

/-- Minutes, milliseconds and nanoseconds: the milliseconds always fit. -/
theorem expiresAt_create (setting : UInt32) (now : Int) :
    expiresAt (DeskphoneCache.create setting) now = int64 (instant 60 setting now) := by
  have bound : setting.toNat < 2 ^ 32 := setting.toNat_lt
  have milliseconds : DeskphoneCache.create setting = 60000 * max 60 setting.toNat := by
    rw [DeskphoneCache.create, int64_eq (by omega) (by omega)]
  have nanoseconds : (60000 * max 60 setting.toNat : Int) * 1000000 =
      60000000000 * max 60 setting.toNat := by omega
  rw [expiresAt, milliseconds, nanoseconds, int64_add, instant]

theorem validUntil_create (type : Phonebook.PhonebookType) (ttl : UInt32)
    (match_ : String) (map : SymbolMap) (now : Int) :
    Phonebook.validUntil (Phonebook.create type ttl match_ map).expiry now =
      int64 (instant 120 ttl now) := by
  have nanoseconds : ((max ttl.toNat 120 : Nat) * 60000000000 : Int) =
      60000000000 * max 120 ttl.toNat := by omega
  rw [Phonebook.validUntil, Phonebook.create, nanoseconds, int64_add, instant]

section Phonebooks
variable [LibraryInterface] [ExpressionInterface]

theorem expiry_getPhonebook (s : Phonebook.State) (request : Phonebook.Request) :
    (Phonebook.getPhonebook s request).1.expiry = s.expiry := by
  unfold Phonebook.getPhonebook
  split
  · cases query : request.query <;> rfl
  · rfl

theorem expiry_run (reached : Phonebook.machine.run s requests = some t) : t.expiry = s.expiry := by
  refine Machine.run_invariant (P := fun t => t.expiry = s.expiry) ?_ reached rfl
  intro t request u held stepped
  cases Option.some.inj stepped
  rw [expiry_getPhonebook, held]

/-- A query that does not throw sets the timestamp. -/
theorem timestamp_getPhonebook {s : Phonebook.State} {request : Phonebook.Request}
    (expired : s.timestamp < request.now) (returns : ∀ records, request.query ≠ .throws records) :
    (Phonebook.getPhonebook s request).1.timestamp =
      Phonebook.validUntil s.expiry request.later := by
  cases query : request.query with
  | success records =>
    simp only [Phonebook.getPhonebook, if_pos expired, query, Phonebook.getCallerDetails]
  | failure => simp only [Phonebook.getPhonebook, if_pos expired, query, Phonebook.getCallerDetails]
  | throws records => exact absurd query (returns records)

/-- The expiry of a phone and the timestamp that any request of a phonebook sets
are those of the settings exactly where the sum fits into 64 bits. -/
theorem faithful_exact (type : Phonebook.PhonebookType) (match_ : String)
    (map : SymbolMap) (setting : UInt32) (now : Int) (uptime : 0 ≤ now) :
    (∀ endpoints aor endpoint,
      Faithful (fun expiry =>
        (addEndpoint endpoints (DeskphoneCache.create expiry) now aor endpoint).2.expiry)
        60 setting now ↔
        Fits 60 setting now) ∧
    (Faithful (fun ttl =>
      Phonebook.validUntil (Phonebook.create type ttl match_ map).expiry now) 120 setting now ↔
      Fits 120 setting now) ∧
    ∀ requests s request,
    Phonebook.machine.run (Phonebook.create type setting match_ map) requests = some s →
      s.timestamp < request.now → (∀ records, request.query ≠ .throws records) →
      request.later = now →
      (Phonebook.getPhonebook s request).1.timestamp =
        Phonebook.validUntil (Phonebook.create type setting match_ map).expiry now := by
  refine ⟨fun endpoints aor endpoint => ?_, ?_, ?_⟩
  · exact faithful_iff (by decide) uptime (fun expiry => expiresAt_create expiry now) setting
  · exact faithful_iff (by decide) uptime
      (fun ttl => validUntil_create type ttl match_ map now) setting
  · rintro requests s request reached expired returns rfl
    rw [timestamp_getPhonebook expired returns, expiry_run reached]

end Phonebooks

section Never

local instance expiringPhonebooks : LibraryInterface := sequentialInterface
local instance expiringExpressions : ExpressionInterface := singleExpression

/-- The largest setting stores an instant that has already passed. -/
theorem largest_expires_at_once :
    (addEndpoint .empty (DeskphoneCache.create 4294967295) 0 "100" "4/UDP/1.2.3.4").2.expiry < 0 ∧
    ¬ Faithful (fun expiry =>
      (addEndpoint .empty (DeskphoneCache.create expiry) 0 "100" "4/UDP/1.2.3.4").2.expiry)
      60 4294967295 0 := by
  have passed : (addEndpoint .empty (DeskphoneCache.create 4294967295)
      0 "100" "4/UDP/1.2.3.4").2.expiry < 0 := by decide
  exact ⟨passed, fun faithful => absurd faithful.later (by omega)⟩

/-- A day, at the end of a century. -/
theorem faithful_exact_day :
    Faithful (fun expiry =>
      (addEndpoint .empty (DeskphoneCache.create expiry) 3155760000000000000
        "100" "4/UDP/1.2.3.4").2.expiry)
      60 1440 3155760000000000000 ∧
    Faithful (fun ttl => Phonebook.validUntil (Phonebook.create .snom ttl "ec == 'yes'" ⟨[]⟩).expiry
      3155760000000000000)
      120 1440 3155760000000000000 := by
  obtain ⟨phone, phonebook, _⟩ :=
    faithful_exact .snom "ec == 'yes'" ⟨[]⟩ 1440 3155760000000000000 (by decide)
  exact ⟨(phone .empty "100" "4/UDP/1.2.3.4").mpr (by decide), phonebook.mpr (by decide)⟩

end Never
end LampMonitor.Expiry
