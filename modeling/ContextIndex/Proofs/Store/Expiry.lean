import ContextIndex.Proofs.Store.Exclusion
import ContextIndex.Proofs.Store.Readings

/-!
# The two tests of expiry

Whether a lease has expired is asked in two ways.  Whoever reads the lease compares two instants
(`Lease.isExpired`), and whoever wants to take it has the store compare two texts
(`Lease.givesWay`).  The store keeps a lease as a row of texts, and reading the row can fail
(`LeaseRow.lease`).

The two tests agree, and the row can be read, as long as all the instants are in years that are
written without a sign, and only then (`expiryTests_agree_iff`).  A lease whose end has a sign gives
way at once, though it may last for thousands of years (`live_lease_taken_over`).
-/

namespace ContextIndex

/-! ## Rows of leases -/

/-- A lease as the store keeps it. -/
structure LeaseRow where
  /-- The repository. -/
  key : String
  /-- Who holds the lease. -/
  holder : String
  /-- The stamp of its beginning. -/
  acquiredAt : String
  /-- The stamp of its end. -/
  expiresAt : String
deriving DecidableEq, Repr

/-- The row of a lease. -/
def Lease.row (l : Lease) : LeaseRow where
  key := l.key
  holder := l.holder
  acquiredAt := l.acquiredAt.stamp
  expiresAt := l.expiresAt.stamp

/-- The lease that a row tells, if both of its times can be read.  They stand in the columns 2
and 3. -/
def LeaseRow.lease (r : LeaseRow) : Except Error Lease :=
  match Instant.ofStamp? r.acquiredAt, Instant.ofStamp? r.expiresAt with
  | none, _ => .error (.storage (.unreadableTime 2))
  | some _, none => .error (.storage (.unreadableTime 3))
  | some acquiredAt, some expiresAt => .ok ⟨r.key, r.holder, acquiredAt, expiresAt⟩

theorem Lease.lease_row (l : Lease) : l.row.lease =
    if !l.acquiredAt.isReadable then .error (.storage (.unreadableTime 2))
    else if !l.expiresAt.isReadable then .error (.storage (.unreadableTime 3))
    else .ok l := by
  unfold LeaseRow.lease Lease.row
  rw [Instant.ofStamp?_stamp, Instant.ofStamp?_stamp]
  cases l.acquiredAt.isReadable <;> cases l.expiresAt.isReadable <;> rfl

/-- A row is read as its lease exactly if neither of its years has a sign. -/
theorem Lease.lease_row_eq_ok_iff (l : Lease) : l.row.lease = .ok l ↔
    l.acquiredAt.isReadable = true ∧ l.expiresAt.isReadable = true := by
  rw [l.lease_row]
  cases l.acquiredAt.isReadable <;> cases l.expiresAt.isReadable <;> simp

namespace Store

variable {s s' : Store} {key holder : String} {now expiresAt later : Instant}

/-- The answer to a question for a lease is what its row tells. -/
theorem getLease_eq (s : Store) (key : String) : s.getLease key =
    match s.lease? key with
    | none => .ok none
    | some l => l.row.lease.map some := by
  unfold getLease
  cases s.lease? key with
  | none => rfl
  | some l =>
    simp only [l.lease_row]
    cases l.acquiredAt.isReadable <;> cases l.expiresAt.isReadable <;> rfl

theorem lease?_of_granted (h : s.acquireLease key holder now expiresAt = (true, s')) :
    s'.lease? key = some ⟨key, holder, now, expiresAt⟩ := by
  rcases acquireLease_cases h with ⟨hfalse, -⟩ | ⟨-, -, hleases, -⟩
  · cases hfalse
  · rw [hleases, if_pos rfl]

/-- A stored lease is taken over exactly if it gives way. -/
theorem acquireLease_granted {l : Lease} (hl : s.lease? key = some l) (other : String)
    (now expiresAt : Instant) :
    (s.acquireLease key other now expiresAt).1 = l.givesWay now := by
  unfold acquireLease
  rw [hl]
  simp only
  split
  · next hway => exact hway.symm
  · next hway => exact (Bool.eq_false_iff.mpr hway).symm

end Store

/-! ## Agreement -/

section Agreement

variable {l : Lease} {now : Instant}

theorem Lease.givesWay_eq_isExpired (hend : l.expiresAt.isReadable = true)
    (hnow : now.isReadable = true) : l.givesWay now = l.isExpired now :=
  decide_eq_decide.mpr (Instant.stamp_le_iff hend hnow)

/-- A lease whose end has a sign gives way in every year without one. -/
theorem Lease.givesWay_of_unreadable (hend : l.expiresAt.isReadable = false)
    (hnow : now.isReadable = true) : l.givesWay now = true :=
  decide_eq_true (le_of_lt (Instant.stamp_lt_of_unreadable hend hnow))

/-- In a year with a sign no lease gives way whose end has none. -/
theorem Lease.not_givesWay_of_unreadable (hend : l.expiresAt.isReadable = true)
    (hnow : now.isReadable = false) : l.givesWay now = false :=
  decide_eq_false (not_le.mpr (Instant.stamp_lt_of_unreadable hnow hend))

end Agreement

namespace Store

variable {s s' : Store} {key holder : String} {now expiresAt later : Instant}

/-- After a lease was taken, what its row tells is the answer to a question for it.  That is the
lease itself, and another one is taken exactly if it has expired, as long as the lease begins and
ends in years without a sign and the other attempt is made in one, and only then.  A lease whose end
has a sign is always taken over in a year without one.  In a year with a sign no lease is taken over
whose end has none. -/
theorem expiryTests_agree_iff (h : s.acquireLease key holder now expiresAt = (true, s'))
    (hlater : now.millis ≤ later.millis) (other : String) (expiresAt' : Instant) :
    let l : Lease := ⟨key, holder, now, expiresAt⟩
    let granted := (s'.acquireLease key other later expiresAt').1
    s'.getLease key = l.row.lease.map some ∧
    ((s'.getLease key = .ok (some l) ∧ (granted = true ↔ l.isExpired later = true)) ↔
      now.isReadable = true ∧ expiresAt.isReadable = true ∧ later.isReadable = true) ∧
    (expiresAt.isReadable = false → later.isReadable = true → granted = true) ∧
    (expiresAt.isReadable = true → later.isReadable = false → granted = false) := by
  intro l granted
  have hl : s'.lease? key = some l := lease?_of_granted h
  have hgranted : granted = l.givesWay later := acquireLease_granted hl other later expiresAt'
  have hget : s'.getLease key = l.row.lease.map some := by rw [getLease_eq, hl]
  refine ⟨hget, ?_, fun hend hnow => hgranted.trans (l.givesWay_of_unreadable hend hnow),
    fun hend hnow => hgranted.trans (l.not_givesWay_of_unreadable hend hnow)⟩
  have hread : s'.getLease key = .ok (some l) ↔
      now.isReadable = true ∧ expiresAt.isReadable = true := by
    rw [hget, ← l.lease_row_eq_ok_iff]
    cases l.row.lease <;> simp [Except.map]
  rw [hread, hgranted]
  constructor
  · rintro ⟨⟨hnow, hend⟩, hagree⟩
    refine ⟨hnow, hend, ?_⟩
    by_contra hunreadable
    have hunreadable : later.isReadable = false := Bool.eq_false_iff.mpr hunreadable
    -- The lease has expired by then, for its end is in a year without a sign, but it does not give
    -- way.
    have hexpired : l.isExpired later = true :=
      decide_eq_true (le_of_lt (Instant.lt_of_unreadable hnow hend hunreadable hlater))
    have hway := hagree.mpr hexpired
    rw [l.not_givesWay_of_unreadable hend hunreadable] at hway
    cases hway
  · rintro ⟨hnow, hend, hreadable⟩
    exact ⟨⟨hnow, hend⟩, by rw [l.givesWay_eq_isExpired hend hreadable]⟩

/-- A store with a lease from before 1970. -/
def withOldLease : Store where
  leases := [⟨"octo/widgets", "a", ⟨-60000⟩, ⟨-1⟩⟩]

theorem expiryTests_agree_iff_oldLease :
    withOldLease.acquireLease "octo/widgets" "b" ⟨0⟩ ⟨60000⟩ =
      (true, { leases := [⟨"octo/widgets", "b", ⟨0⟩, ⟨60000⟩⟩] }) ∧
    (⟨0⟩ : Instant).millis ≤ (⟨60000⟩ : Instant).millis ∧
    (getLease { leases := [⟨"octo/widgets", "b", ⟨0⟩, ⟨60000⟩⟩] } "octo/widgets" =
        .ok (some ⟨"octo/widgets", "b", ⟨0⟩, ⟨60000⟩⟩) ∧
      ((acquireLease { leases := [⟨"octo/widgets", "b", ⟨0⟩, ⟨60000⟩⟩] } "octo/widgets" "c" ⟨60000⟩
          ⟨120000⟩).1 = true ↔
        Lease.isExpired ⟨"octo/widgets", "b", ⟨0⟩, ⟨60000⟩⟩ ⟨60000⟩ = true)) := by
  have htaken : withOldLease.acquireLease "octo/widgets" "b" ⟨0⟩ ⟨60000⟩ =
      (true, { leases := [⟨"octo/widgets", "b", ⟨0⟩, ⟨60000⟩⟩] }) := rfl
  have hlater : (⟨0⟩ : Instant).millis ≤ (⟨60000⟩ : Instant).millis := by decide
  exact ⟨htaken, hlater, (expiryTests_agree_iff htaken hlater "c" ⟨120000⟩).2.1.mpr
    ⟨by decide +kernel, by decide +kernel, by decide +kernel⟩⟩

/-- The lease of `a` lasts until the year 10000.  It cannot be read, and `b` takes it over a
millisecond after its beginning. -/
theorem live_lease_taken_over :
    let l : Lease := ⟨"octo/widgets", "a", ⟨0⟩, ⟨253402300800000⟩⟩
    let s : Store := { leases := [l] }
    acquireLease {} "octo/widgets" "a" ⟨0⟩ ⟨253402300800000⟩ = (true, s) ∧
    s.getLease "octo/widgets" = .error (.storage (.unreadableTime 3)) ∧
    l.isExpired ⟨1⟩ = false ∧
    (s.acquireLease "octo/widgets" "b" ⟨1⟩ ⟨60001⟩).1 = true :=
  ⟨rfl, rfl, by decide, rfl⟩

end Store

end ContextIndex
