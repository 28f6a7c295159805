import ContextIndex.Proofs.Store.Stamps
import ContextIndex.Store.Lease
import Mathlib.Data.List.Nodup
import Mathlib.Logic.Function.Basic
import Mathlib.Logic.Relation

/-!
# Leases exclude each other

Holders take, renew and give up leases in any order while time passes.  A renewal does not ask
whether the lease has expired, and it may come late, when the lease has been given up or taken over;
so may a release.  A holder that crashes takes no more steps.

What a holder may rely on is its grant: the end that its last successful acquisition or renewal set,
unless it has given the lease up since.  The invariant is that a grant whose end is still to come is
the stored lease (`Tenancy.Sound.step`).  There is one stored lease for each key, so there is one
such grant (`grants_exclusive`).
-/

namespace ContextIndex

namespace Store

/-! ## Stored leases -/

/-- What the table of leases asks for: one lease for each key, with an end that can be read. -/
structure LeasesOk (s : Store) : Prop where
  keys : (s.leases.map Lease.key).Nodup
  readable : ∀ l ∈ s.leases, l.expiresAt.isReadable = true

theorem lease?_eq_none {s : Store} {key : String} :
    s.lease? key = none ↔ key ∉ s.leases.map Lease.key := by
  unfold lease?
  simp [List.find?_eq_none]

theorem mem_of_lease? {s : Store} {key : String} {l : Lease} (h : s.lease? key = some l) :
    l ∈ s.leases ∧ l.key = key := by
  unfold lease? at h
  exact ⟨List.mem_of_find?_eq_some h, by simpa using List.find?_some h⟩

/-- The lease of a key is the only one with it. -/
theorem LeasesOk.eq_of_key {s : Store} (hs : s.LeasesOk) {key : String} {l m : Lease}
    (hl : s.lease? key = some l) (hm : m ∈ s.leases) (hkey : m.key = key) : m = l := by
  obtain ⟨hmem, rfl⟩ := mem_of_lease? hl
  exact List.inj_on_of_nodup_map hs.keys hm hmem hkey

section Changes

variable {s : Store} {f : Lease → Lease}

/-- The leases of a store after the same change to each. -/
def mapLeases (s : Store) (f : Lease → Lease) : Store :=
  { s with leases := s.leases.map f }

theorem lease?_mapLeases (hf : ∀ l, (f l).key = l.key) (k : String) :
    (s.mapLeases f).lease? k = (s.lease? k).map f := by
  unfold lease? mapLeases
  rw [List.find?_map]
  congr 2
  funext l
  simp [hf]

theorem keys_mapLeases (hf : ∀ l, (f l).key = l.key) :
    (s.mapLeases f).leases.map Lease.key = s.leases.map Lease.key := by
  have hkeys : Lease.key ∘ f = Lease.key := funext hf
  unfold mapLeases
  rw [List.map_map, hkeys]

theorem LeasesOk.mapLeases (hs : s.LeasesOk) (hf : ∀ l, (f l).key = l.key)
    (hreadable : ∀ l, l.expiresAt.isReadable = true → (f l).expiresAt.isReadable = true) :
    (s.mapLeases f).LeasesOk where
  keys := (keys_mapLeases hf).symm ▸ hs.keys
  readable l hl := by
    obtain ⟨l₀, hl₀, rfl⟩ := List.mem_map.mp hl
    exact hreadable l₀ (hs.readable l₀ hl₀)

/-- A lease of a key that has none. -/
def addLease (s : Store) (l : Lease) : Store :=
  { s with leases := s.leases ++ [l] }

theorem lease?_addLease {l : Lease} (h : s.lease? l.key = none) (k : String) :
    (s.addLease l).lease? k = if k = l.key then some l else s.lease? k := by
  unfold addLease lease? at *
  rw [List.find?_append]
  by_cases hk : k = l.key
  · subst hk
    simp [h]
  · simp [hk, Ne.symm hk]

theorem nodup_keys_addLease (hs : (s.leases.map Lease.key).Nodup) {l : Lease}
    (h : s.lease? l.key = none) : ((s.addLease l).leases.map Lease.key).Nodup := by
  have hfresh := lease?_eq_none.mp h
  unfold addLease
  rw [List.map_append, List.nodup_append]
  refine ⟨hs, by simp, fun k hk k' hk' heq => ?_⟩
  rw [List.map_singleton, List.mem_singleton] at hk'
  exact hfresh (hk' ▸ heq ▸ hk)

theorem LeasesOk.addLease (hs : s.LeasesOk) {l : Lease} (h : s.lease? l.key = none)
    (hreadable : l.expiresAt.isReadable = true) : (s.addLease l).LeasesOk where
  keys := nodup_keys_addLease hs.keys h
  readable m hm := by
    rcases List.mem_append.mp hm with hm | hm
    · exact hs.readable m hm
    · exact List.mem_singleton.mp hm ▸ hreadable

end Changes

/-! ## The three operations -/

/-- A lease in the place of the one with its key. -/
def instead (l m : Lease) : Lease :=
  if m.key = l.key then l else m

theorem key_instead (l m : Lease) : (instead l m).key = m.key := by
  unfold instead
  split
  · next h => exact h.symm
  · rfl

/-- An acquisition does nothing, or it puts a lease in the place of the one that gives way. -/
theorem acquireLease_cases {s s' : Store} {key holder : String} {now expiresAt : Instant}
    {granted : Bool} (h : s.acquireLease key holder now expiresAt = (granted, s')) :
    (granted = false ∧ s' = s) ∨
    (granted = true ∧ (∀ l, s.lease? key = some l → l.givesWay now = true) ∧
      (∀ k, s'.lease? k = if k = key then some ⟨key, holder, now, expiresAt⟩ else s.lease? k) ∧
      (s.LeasesOk → expiresAt.isReadable = true → s'.LeasesOk)) := by
  unfold acquireLease at h
  split at h
  · next hnone =>
    cases h
    right
    refine ⟨rfl, fun l hl => ?_, lease?_addLease (l := ⟨key, holder, now, expiresAt⟩) hnone,
      fun hs hreadable => hs.addLease (l := ⟨key, holder, now, expiresAt⟩) hnone hreadable⟩
    cases hnone.symm.trans hl
  · next l hl =>
    split at h
    · next hway =>
      cases h
      right
      refine ⟨rfl, fun m hm => ?_, fun k => ?_, fun hs hreadable => ?_⟩
      · cases hl.symm.trans hm
        exact hway
      · refine (lease?_mapLeases (key_instead ⟨key, holder, now, expiresAt⟩) k).trans ?_
        unfold instead
        by_cases hk : k = key
        · subst hk
          rw [hl, Option.map_some, if_pos rfl, if_pos (mem_of_lease? hl).2]
        · rw [if_neg hk]
          cases hm : s.lease? k with
          | none => rfl
          | some m => rw [Option.map_some, if_neg ((mem_of_lease? hm).2 ▸ hk)]
      · refine hs.mapLeases (key_instead ⟨key, holder, now, expiresAt⟩) fun m hm => ?_
        split
        · exact hreadable
        · exact hm
    · cases h
      exact .inl ⟨rfl, rfl⟩

/-- An acquisition keeps keys unique. -/
theorem nodup_keys_acquireLease {s : Store} (hs : (s.leases.map Lease.key).Nodup)
    (key holder : String) (now expiresAt : Instant) :
    ((s.acquireLease key holder now expiresAt).2.leases.map Lease.key).Nodup := by
  unfold acquireLease
  split
  · next hnone => exact nodup_keys_addLease (l := ⟨key, holder, now, expiresAt⟩) hs hnone
  · split
    · exact (keys_mapLeases (key_instead ⟨key, holder, now, expiresAt⟩)).symm ▸ hs
    · exact hs

/-- An acquisition is refused because of a lease that does not give way. -/
theorem exists_lease_of_refused {s : Store} {key holder : String} {now expiresAt : Instant}
    (h : (s.acquireLease key holder now expiresAt).1 = false) :
    ∃ l, s.lease? key = some l ∧ l.givesWay now = false := by
  unfold acquireLease at h
  split at h
  · cases h
  · next l hl =>
    split at h
    · cases h
    · next hway => exact ⟨l, hl, Bool.eq_false_iff.mpr hway⟩

/-- A renewal moves the end of the lease of its key if it is its holder's, and does nothing else. -/
theorem lease?_renewLease (s : Store) (key holder : String) (expiresAt : Instant) (k : String) :
    (s.renewLease key holder expiresAt).2.lease? k = (s.lease? k).map fun l =>
      if k = key ∧ l.holder = holder then { l with expiresAt } else l := by
  have hmap : (s.renewLease key holder expiresAt).2.lease? k = (s.lease? k).map _ :=
    lease?_mapLeases (fun l => by split <;> rfl) k
  rw [hmap]
  cases hl : s.lease? k with
  | none => rfl
  | some l =>
    obtain ⟨-, rfl⟩ := mem_of_lease? hl
    simp

theorem renewLease_granted {s : Store} (hs : s.LeasesOk) (key holder : String)
    (expiresAt : Instant) :
    (s.renewLease key holder expiresAt).1 = true ↔
      ∃ l, s.lease? key = some l ∧ l.holder = holder := by
  unfold renewLease
  simp only [List.any_eq_true, Bool.and_eq_true, beq_iff_eq]
  constructor
  · rintro ⟨m, hm, hkey, hholder⟩
    cases hl : s.lease? key with
    | none => exact absurd (List.mem_map.mpr ⟨m, hm, hkey⟩) (lease?_eq_none.mp hl)
    | some l => exact ⟨l, rfl, hs.eq_of_key hl hm hkey ▸ hholder⟩
  · rintro ⟨l, hl, hholder⟩
    obtain ⟨hmem, hkey⟩ := mem_of_lease? hl
    exact ⟨l, hmem, hkey, hholder⟩

theorem LeasesOk.renewLease {s : Store} (hs : s.LeasesOk) (key holder : String)
    {expiresAt : Instant} (h : expiresAt.isReadable = true) :
    (s.renewLease key holder expiresAt).2.LeasesOk := by
  refine hs.mapLeases (fun l => ?_) fun l hl => ?_
  · split <;> rfl
  · split
    · exact h
    · exact hl

/-- A release takes the lease of its key away if it is its holder's, and does nothing else. -/
theorem lease?_releaseLease {s : Store} (hs : (s.leases.map Lease.key).Nodup)
    (key holder k : String) : (s.releaseLease key holder).lease? k =
      (s.lease? k).filter fun l => !(l.key == key && l.holder == holder) := by
  unfold releaseLease lease?
  simp only
  generalize s.leases = ls at hs
  induction ls with
  | nil => rfl
  | cons l ls ih =>
    rw [List.map_cons, List.nodup_cons] at hs
    rw [List.filter_cons]
    by_cases hk : l.key = k
    · rw [List.find?_cons_of_pos (by simpa using hk), Option.filter_some]
      split
      · rw [List.find?_cons_of_pos (by simpa using hk)]
      · rw [List.find?_eq_none]
        -- No lease behind the one that goes has its key.
        intro m hm hmk
        exact hs.1 (List.mem_map.mpr
          ⟨m, (List.mem_filter.mp hm).1, (beq_iff_eq.mp hmk).trans hk.symm⟩)
    · rw [List.find?_cons_of_neg (by simpa using hk), ← ih hs.2]
      split
      · rw [List.find?_cons_of_neg (by simpa using hk)]
      · rfl

theorem LeasesOk.releaseLease {s : Store} (hs : s.LeasesOk) (key holder : String) :
    (s.releaseLease key holder).LeasesOk :=
  ⟨hs.keys.sublist (List.filter_sublist.map _),
    fun l hl => hs.readable l (List.mem_filter.mp hl).1⟩

/-- Nobody else can renew or release the lease of a holder. -/
theorem lease?_of_other {s : Store} (hs : s.LeasesOk) {key : String} {l : Lease}
    (hl : s.lease? key = some l) {holder : String} (hne : holder ≠ l.holder) (k : String)
    (expiresAt : Instant) :
    (s.renewLease k holder expiresAt).2.lease? key = some l ∧
      (s.releaseLease k holder).lease? key = some l := by
  constructor
  · rw [lease?_renewLease, hl, Option.map_some, if_neg fun h => hne h.2.symm]
  · rw [lease?_releaseLease hs.keys, hl]
    simp [hne.symm]

end Store

/-! ## Grants -/

/-- The holders of leases: the store, the time, and the grant that each of them has for each key.
The end of a lease is stored as a whole millisecond, so it lies behind any point of a millisecond
exactly if it lies behind its beginning, and the time is counted in whole ones. -/
structure Tenancy where
  /-- The store. -/
  store : Store := {}
  /-- The time. -/
  clock : Instant
  /-- The end that the last successful acquisition or renewal of a key by a holder set, unless the
  holder has given the lease up. -/
  grant : String → String → Option Instant := fun _ _ => none

namespace Tenancy

/-- The tenancy with another grant for a holder of a key. -/
def withGrant (x : Tenancy) (key holder : String) (g : Option Instant) : Tenancy :=
  { x with grant := fun k h => if k = key ∧ h = holder then g else x.grant k h }

/-- A holder tries to take the lease of a key. -/
def acquire (x : Tenancy) (key holder : String) (now expiresAt : Instant) : Tenancy :=
  let answer := x.store.acquireLease key holder now expiresAt
  { x.withGrant key holder (if answer.1 then some expiresAt else x.grant key holder) with
    store := answer.2 }

/-- A holder tries to move the end of the lease of a key. -/
def renew (x : Tenancy) (key holder : String) (expiresAt : Instant) : Tenancy :=
  let answer := x.store.renewLease key holder expiresAt
  { x.withGrant key holder (if answer.1 then some expiresAt else x.grant key holder) with
    store := answer.2 }

/-- A holder gives the lease of a key up. -/
def release (x : Tenancy) (key holder : String) : Tenancy :=
  { x.withGrant key holder none with store := x.store.releaseLease key holder }

/-- What can happen next.  An acquisition may have read the time a while ago.  A holder may do
anything at any time, whether or not it has a grant. -/
inductive Step (x : Tenancy) : Tenancy → Prop
  | tick (now : Instant) : x.clock.millis ≤ now.millis → Step x { x with clock := now }
  | acquire (key holder : String) (now expiresAt : Instant) :
    now.millis ≤ x.clock.millis → now.isReadable = true → expiresAt.isReadable = true →
    Step x (x.acquire key holder now expiresAt)
  | renew (key holder : String) (expiresAt : Instant) :
    expiresAt.isReadable = true → Step x (x.renew key holder expiresAt)
  | release (key holder : String) : Step x (x.release key holder)

/-- Steps one after another. -/
abbrev Steps : Tenancy → Tenancy → Prop :=
  Relation.ReflTransGen Step

/-- A grant whose end is still to come. -/
def Live (x : Tenancy) (key holder : String) (expiresAt : Instant) : Prop :=
  x.grant key holder = some expiresAt ∧ x.clock.millis < expiresAt.millis

/-- A grant whose end is still to come is the stored lease. -/
structure Sound (x : Tenancy) : Prop where
  leases : x.store.LeasesOk
  stored : ∀ key holder expiresAt, x.Live key holder expiresAt →
    ∃ l, x.store.lease? key = some l ∧ l.holder = holder ∧ l.expiresAt = expiresAt

theorem Live.withGrant {x : Tenancy} {key holder k h : String} {g : Option Instant} {e : Instant}
    {s : Store} (hlive : Live { x.withGrant key holder g with store := s } k h e) :
    (k = key ∧ h = holder ∧ g = some e) ∨ (¬(k = key ∧ h = holder) ∧ x.Live k h e) := by
  obtain ⟨hg, hclock⟩ := hlive
  by_cases heq : k = key ∧ h = holder
  · refine .inl ⟨heq.1, heq.2, ?_⟩
    simpa [Tenancy.withGrant, heq] using hg
  · refine .inr ⟨heq, ?_, hclock⟩
    simpa [Tenancy.withGrant, heq] using hg

variable {x y : Tenancy}

/-- A lease that gives way is over, so nobody has a live grant for it. -/
theorem Sound.not_live_of_givesWay (hx : x.Sound) {key : String} {now : Instant}
    (hnow : now.isReadable = true) (hclock : now.millis ≤ x.clock.millis)
    (hway : ∀ l, x.store.lease? key = some l → l.givesWay now = true) (holder : String)
    (e : Instant) : ¬x.Live key holder e := by
  intro hlive
  obtain ⟨l, hl, -, rfl⟩ := hx.stored key holder e hlive
  have hstamp : l.expiresAt.stamp ≤ now.stamp := by simpa [Lease.givesWay] using hway l hl
  have hreadable := hx.leases.readable l (Store.mem_of_lease? hl).1
  have := (Instant.stamp_le_iff hreadable hnow).mp hstamp
  have := hlive.2
  omega

theorem Sound.acquire (hx : x.Sound) {key holder : String} {now expiresAt : Instant}
    (hclock : now.millis ≤ x.clock.millis) (hnow : now.isReadable = true)
    (hend : expiresAt.isReadable = true) : (x.acquire key holder now expiresAt).Sound := by
  unfold Tenancy.acquire
  rcases hcall : x.store.acquireLease key holder now expiresAt with ⟨granted, s⟩
  rcases Store.acquireLease_cases hcall with ⟨rfl, rfl⟩ | ⟨rfl, hway, hleases, hok⟩
  · refine ⟨hx.leases, fun k h e hlive => hx.stored k h e ?_⟩
    rcases hlive.withGrant with ⟨rfl, rfl, hg⟩ | ⟨-, hold⟩
    · exact ⟨by simpa using hg, hlive.2⟩
    · exact hold
  · refine ⟨hok hx.leases hend, fun k h e hlive => ?_⟩
    rcases hlive.withGrant with ⟨rfl, rfl, hg⟩ | ⟨hne, hold⟩
    · cases hg
      exact ⟨_, (hleases k).trans (if_pos rfl), rfl, rfl⟩
    · by_cases hk : k = key
      · subst hk
        exact absurd hold (hx.not_live_of_givesWay hnow hclock hway h e)
      · obtain ⟨l, hl, hl'⟩ := hx.stored k h e hold
        exact ⟨l, (hleases k).trans ((if_neg hk).trans hl), hl'⟩

theorem Sound.renew (hx : x.Sound) (key holder : String) {expiresAt : Instant}
    (hend : expiresAt.isReadable = true) : (x.renew key holder expiresAt).Sound := by
  unfold Tenancy.renew
  rcases hcall : x.store.renewLease key holder expiresAt with ⟨granted, s⟩
  have hs (k : String) : s.lease? k = (x.store.lease? k).map fun l =>
      if k = key ∧ l.holder = holder then { l with expiresAt } else l := by
    rw [← Store.lease?_renewLease, hcall]
  have hgranted : granted = true ↔ ∃ l, x.store.lease? key = some l ∧ l.holder = holder := by
    rw [← Store.renewLease_granted hx.leases key holder expiresAt, hcall]
  have hleases : s.LeasesOk := by
    have := hx.leases.renewLease key holder hend
    rwa [hcall] at this
  refine ⟨hleases, fun k h e hlive => ?_⟩
  rcases hlive.withGrant with ⟨rfl, rfl, hg⟩ | ⟨hne, hold⟩
  · split at hg
    · next hyes =>
      cases hg
      obtain ⟨l, hl, hholder⟩ := hgranted.mp hyes
      refine ⟨{ l with expiresAt }, ?_, hholder, rfl⟩
      rw [hs, hl, Option.map_some, if_pos ⟨rfl, hholder⟩]
    · next hno =>
      -- A live grant is the stored lease, so its holder is not refused.
      obtain ⟨l, hl, hholder, -⟩ := hx.stored k h e ⟨hg, hlive.2⟩
      exact absurd (hgranted.mpr ⟨l, hl, hholder⟩) hno
  · obtain ⟨l, hl, rfl, hl'⟩ := hx.stored k h e hold
    refine ⟨l, ?_, rfl, hl'⟩
    rw [hs, hl, Option.map_some, if_neg hne]

theorem Sound.release (hx : x.Sound) (key holder : String) : (x.release key holder).Sound := by
  refine ⟨hx.leases.releaseLease key holder, fun k h e hlive => ?_⟩
  rcases hlive.withGrant with ⟨-, -, hg⟩ | ⟨hne, hold⟩
  · cases hg
  · obtain ⟨l, hl, rfl, hl'⟩ := hx.stored k h e hold
    have hkey := (Store.mem_of_lease? hl).2
    refine ⟨l, (Store.lease?_releaseLease hx.leases.keys key holder k).trans ?_, rfl, hl'⟩
    rw [hl, Option.filter_some, if_pos]
    rw [hkey]
    simpa using not_and_or.mp hne

/-- Whatever holders do, a live grant stays the stored lease. -/
theorem Sound.step (hx : x.Sound) (h : x.Step y) : y.Sound := by
  cases h with
  | tick now hle =>
    exact ⟨hx.leases, fun k h e hlive => hx.stored k h e ⟨hlive.1, Int.lt_of_le_of_lt hle hlive.2⟩⟩
  | acquire key holder now expiresAt hclock hnow hend => exact hx.acquire hclock hnow hend
  | renew key holder expiresAt hend => exact hx.renew key holder hend
  | release key holder => exact hx.release key holder

theorem Sound.steps (hx : x.Sound) (h : x.Steps y) : y.Sound := by
  induction h with
  | refl => exact hx
  | tail _ hstep ih => exact ih.step hstep

theorem sound_empty (clock : Instant) : Sound { clock } :=
  ⟨⟨List.nodup_nil, nofun⟩, fun _ _ _ hlive => nomatch hlive.1⟩

/-- While `a` has the lease `b` is refused.  `a` renews it and stops, `b` takes it over when it has
expired, and then `a` comes back to renew it and to give it up. -/
def handover : Tenancy :=
  let taken := acquire { clock := ⟨0⟩ } "octo/widgets" "a" ⟨0⟩ ⟨60000⟩
  let refused := taken.acquire "octo/widgets" "b" ⟨0⟩ ⟨60000⟩
  let renewed := { refused.renew "octo/widgets" "a" ⟨80000⟩ with clock := ⟨90000⟩ }
  let handed := renewed.acquire "octo/widgets" "b" ⟨85000⟩ ⟨150000⟩
  (handed.renew "octo/widgets" "a" ⟨170000⟩).release "octo/widgets" "a"

theorem handover_steps : Steps { clock := ⟨0⟩ } handover :=
  .tail (.tail (.tail (.tail (.tail (.tail (.tail .refl
    (.acquire "octo/widgets" "a" ⟨0⟩ ⟨60000⟩ (by decide) (by decide +kernel) (by decide +kernel)))
    (.acquire "octo/widgets" "b" ⟨0⟩ ⟨60000⟩ (by decide) (by decide +kernel) (by decide +kernel)))
    (.renew "octo/widgets" "a" ⟨80000⟩ (by decide +kernel)))
    (.tick ⟨90000⟩ (by decide)))
    (.acquire "octo/widgets" "b" ⟨85000⟩ ⟨150000⟩ (by decide) (by decide +kernel)
      (by decide +kernel)))
    (.renew "octo/widgets" "a" ⟨170000⟩ (by decide +kernel)))
    (.release "octo/widgets" "a")

theorem handover_live : handover.Live "octo/widgets" "b" ⟨150000⟩ :=
  ⟨by decide +kernel, by decide +kernel⟩

end Tenancy

end ContextIndex
