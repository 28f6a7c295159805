import ContextIndex.Proofs.Sync.Full
import ContextIndex.Proofs.Sync.Partial

/-!
# A deployment over time

Pushes come to the host, each is handed to a partial sync in order, full syncs are asked for, and
others take and give up leases, all of it in any order.  A partial sync that waits for the lease is
one of the states in between, so everything else may happen while it waits; it may also give up, and
then its push is dropped.

What runs have done is kept in a log.  The log says up to which version each path has been brought
(`reached`), and the invariant of a deployment ties the rows and the marker to it
(`Deployment.Sound.step`).
-/

namespace ContextIndex.Sync

open ContextIndex.Remote (Timeline Service)
open ContextIndex.Store (Names WellFormed)

/-! ## The log -/

/-- What a run has done. -/
inductive Deed
  /-- A full sync has indexed the tree of a version. -/
  | indexed (version : Nat)
  /-- A partial sync has applied a push. -/
  | applied (push : Nat)
  /-- A partial sync has ended without having applied its push. -/
  | dropped (push : Nat)
deriving DecidableEq, Repr

/-- What a partial sync of a push has done. -/
def Deed.ofPush (k : Nat) (result : Except Error Outcome) : Deed :=
  if Outcome.isReport result then .applied k else .dropped k

/-- The version up to which a path has been brought, by the last full sync or by a later partial
sync whose push names it.  The log has the last deed first. -/
def reached (t : Timeline) (path : String) : List Deed → Option Nat
  | [] => none
  | .indexed version :: _ => some version
  | .applied push :: log => if t.Names push path then some (push + 1) else reached t path log
  | .dropped _ :: log => reached t path log

/-- What the end of a full sync adds to the log. -/
inductive Logged (t : Timeline) (log : List Deed) : Except Error Outcome → List Deed → Prop
  | completed (r : Report) (j : Nat) : r.revision = some (t.commit j) →
    Logged t log (.ok (.completed r)) (.indexed j :: log)
  | other (result : Except Error Outcome) : Outcome.isReport result = false →
    Logged t log result log

/-! ## Steps -/

/-- A deployment: the world, how far the pushes have been handed over, and what was done. -/
structure Deployment (σ : Type) where
  /-- The world. -/
  world : World σ
  /-- The number of pushes whose partial sync is over. -/
  handed : Nat := 0
  /-- The partial sync of the next push, if it waits for the lease. -/
  waiting : Option Waiting := none
  /-- What runs have done, the last deed first. -/
  log : List Deed := []

section Steps

variable {σ : Type} (c : Setup σ) (repo : RepoId) (t : Timeline) (Valid : σ → Prop)
  (position : σ → Nat)

/-- A partial sync asks for the lease: the one that waits, or else that of the next push if it has
come to the host. -/
def Deployment.Asks (d : Deployment σ) (answer : Attempt × World σ) : Prop :=
  match d.waiting with
  | none => d.handed < position d.world.host ∧
      startPartial c repo (t.push d.handed) d.world = answer
  | some x => x.resume c d.world = answer

/-- What can happen next. -/
inductive Deployment.Step (d : Deployment σ) : Deployment σ → Prop
  | host (h : σ) : Valid h → position d.world.host ≤ position h →
    Step d { d with world := { d.world with host := h } }
  | time (now : Instant) (clock serial : Nat) (status : Registry) :
    Step d { d with world := { d.world with now, clock, serial, status } }
  | acquire (key holder : String) (now expiresAt : Instant) :
    Step d { d with
      world := { d.world with store := (d.world.store.acquireLease key holder now expiresAt).2 } }
  | renew (key holder : String) (expiresAt : Instant) :
    Step d { d with
      world := { d.world with store := (d.world.store.renewLease key holder expiresAt).2 } }
  | release (key holder : String) :
    Step d { d with world := { d.world with store := d.world.store.releaseLease key holder } }
  | full (order : List Nat) (force : Bool) (result : Except Error Outcome) (w : World σ)
    (log : List Deed) : fullSyncIn c order repo force d.world = some (result, w) →
    Logged t d.log result log → Step d { d with world := w, log }
  | push (order : List Nat) (result : Except Error Outcome) (w : World σ) :
    d.waiting = none → d.handed < position d.world.host →
    partialSyncIn c order repo (t.push d.handed) d.world = some (result, w) →
    Step d { world := w, handed := d.handed + 1, log := .ofPush d.handed result :: d.log }
  | wait (x : Waiting) (w : World σ) : d.Asks c repo t position (.waiting x, w) →
    Step d { d with world := w, waiting := some x }
  | settle (phase : Phase) (w₁ : World σ) (order : List Nat) (result : Except Error Outcome)
    (w : World σ) : d.Asks c repo t position (.settled phase, w₁) →
    completeIn c order phase w₁ = some (result, w) →
    Step d { world := w, handed := d.handed + 1, log := .ofPush d.handed result :: d.log }

/-- Steps one after another. -/
abbrev Deployment.Steps : Deployment σ → Deployment σ → Prop :=
  Relation.ReflTransGen (Deployment.Step c repo t Valid position)

end Steps

/-! ## The invariant -/

section Sound

variable {σ : Type} (c : Setup σ) (repo : RepoId) (t : Timeline) (Valid : σ → Prop)
  (position : σ → Nat) (Genuine : Remote.File → Prop)

/-- What the rows and the marker of a deployment have to do with its log.  A path has the row of its
file if the file has been the same since the version it was brought up to (`rows`); a path that an
applied push removed has no row unless it came back (`removed`); and if the marker is the present
head, then no path of a push still to come is behind it (`marker`). -/
structure Deployment.Sound (d : Deployment σ) : Prop where
  valid : Valid d.world.host
  wellFormed : d.world.store.WellFormed
  derived : Derived c.source Genuine d.world.store
  handed : d.handed ≤ position d.world.host
  waiting : ∀ x ∈ d.waiting, d.handed < position d.world.host ∧ x.changes = t.push d.handed ∧
    d.world.store.Names repo x.repo.id ∧ x.repo.fullName = repo.fullName
  settled : ∀ k, k < d.handed → Deed.applied k ∈ d.log ∨ Deed.dropped k ∈ d.log
  applied : ∀ k, Deed.applied k ∈ d.log → k < d.handed ∧
    ∀ p, t.Names k p → ∃ i, reached t p d.log = some i ∧ k < i
  reached_le : ∀ p i, reached t p d.log = some i → i ≤ position d.world.host
  rows : ∀ p i file, reached t p d.log = some i → Language.isIndexable p = true →
    (∀ v, i ≤ v → v ≤ position d.world.host → t.tree v p = some file) →
    (d.world.store.rowAt repo p).map FileRow.core = some (c.source.rowOf p file)
  stored : ∀ p, d.world.store.rowAt repo p ≠ none →
    ∃ v, v ≤ position d.world.host ∧ t.tree v p ≠ none
  removed : ∀ k p, Deed.applied k ∈ d.log → p ∈ (t.push k).deleted →
    (∀ v, k < v → v ≤ position d.world.host → t.tree v p = none) →
    d.world.store.rowAt repo p = none
  marker : ∀ m, d.world.store.marker repo = some m → ∃ j, j ≤ position d.world.host ∧
    m = t.commit j ∧ (j = position d.world.host → ∀ k p, d.handed ≤ k →
      k < position d.world.host → t.Names k p → ∃ i, reached t p d.log = some i ∧ k < i)

/-- A deployment that begins: nothing of the repository is stored, and no push has come. -/
structure Deployment.Starts (w : World σ) : Prop where
  valid : Valid w.host
  wellFormed : w.store.WellFormed
  derived : Derived c.source Genuine w.store
  rows : ∀ p, w.store.rowAt repo p = none
  marker : w.store.marker repo = none

variable {c repo t Valid position Genuine}

theorem Deployment.Starts.sound {w : World σ} (h : Starts c repo Valid Genuine w) :
    ({ world := w } : Deployment σ).Sound c repo t Valid position Genuine where
  valid := h.valid
  wellFormed := h.wellFormed
  derived := h.derived
  handed := Nat.zero_le _
  waiting := nofun
  settled k hk := absurd hk (Nat.not_lt_zero k)
  applied := nofun
  reached_le := nofun
  rows := nofun
  stored p hp := absurd (h.rows p) hp
  removed := nofun
  marker m hm := by
    have hnone := h.marker
    rw [hm] at hnone
    cases hnone

/-- What leaves rows and marker alone keeps a deployment sound. -/
theorem Deployment.Sound.quiet {d : Deployment σ} {w : World σ}
    (hd : d.Sound c repo t Valid position Genuine) (hquiet : Quiet repo d.world w)
    (hchanges : Changes c.source Genuine d.world.store w.store) (hv : Valid w.host)
    (hle : position d.world.host ≤ position w.host) :
    ({ d with world := w } : Deployment σ).Sound c repo t Valid position Genuine where
  valid := hv
  wellFormed := hchanges.wellFormed hd.wellFormed
  derived := hchanges.derived hd.derived
  handed := Nat.le_trans hd.handed hle
  waiting x hx := by
    obtain ⟨hlt, hpush, hnames, hname⟩ := hd.waiting x hx
    exact ⟨Nat.lt_of_lt_of_le hlt hle, hpush, hchanges.names hnames, hname⟩
  settled := hd.settled
  applied := hd.applied
  reached_le p i hi := Nat.le_trans (hd.reached_le p i hi) hle
  rows p i file hi hindexable hsame := by
    show (w.store.rowAt repo p).map FileRow.core = _
    rw [hquiet.rows]
    exact hd.rows p i file hi hindexable fun v hiv hv => hsame v hiv (Nat.le_trans hv hle)
  stored p hp := by
    obtain ⟨v, hv, hsome⟩ := hd.stored p (hquiet.rows p ▸ hp)
    exact ⟨v, Nat.le_trans hv hle, hsome⟩
  removed k p hk hp hnone := by
    show w.store.rowAt repo p = none
    rw [hquiet.rows]
    exact hd.removed k p hk hp fun v hkv hv => hnone v hkv (Nat.le_trans hv hle)
  marker m hm := by
    obtain ⟨j, hj, rfl, hpending⟩ := hd.marker m (hquiet.marker ▸ hm)
    refine ⟨j, Nat.le_trans hj hle, rfl, fun heq k p hk hkpos hnames => ?_⟩
    -- The marker is the head only if the host has not moved.
    have hsame : position w.host = position d.world.host := Nat.le_antisymm (heq ▸ hj) hle
    exact hpending (heq.trans hsame) k p hk (hsame ▸ hkpos) hnames

/-- A partial sync of the next push waits. -/
theorem Deployment.Sound.wait {d : Deployment σ} {x : Waiting}
    (hd : d.Sound c repo t Valid position Genuine)
    (hx : d.handed < position d.world.host ∧ x.changes = t.push d.handed ∧
      d.world.store.Names repo x.repo.id ∧ x.repo.fullName = repo.fullName) :
    ({ d with waiting := some x } : Deployment σ).Sound c repo t Valid position Genuine :=
  { hd with
    waiting := fun y hy => by
      cases hy
      exact hx }

/-- A push whose partial sync gives up is dropped. -/
theorem Deployment.Sound.drop {d : Deployment σ} (hd : d.Sound c repo t Valid position Genuine)
    (hlt : d.handed < position d.world.host) :
    ({ world := d.world, handed := d.handed + 1, log := .dropped d.handed :: d.log } :
      Deployment σ).Sound c repo t Valid position Genuine where
  valid := hd.valid
  wellFormed := hd.wellFormed
  derived := hd.derived
  handed := hlt
  waiting := nofun
  settled k hk := by
    rcases Nat.lt_succ_iff_lt_or_eq.mp hk with hk | rfl
    · exact (hd.settled k hk).imp (.tail _) (.tail _)
    · exact .inr (.head _)
  applied k hk := by
    obtain ⟨hlt, hnames⟩ := hd.applied k ((List.mem_cons.mp hk).resolve_left nofun)
    exact ⟨Nat.lt_succ_of_lt hlt, hnames⟩
  reached_le := hd.reached_le
  rows := hd.rows
  stored := hd.stored
  removed k p hk := hd.removed k p ((List.mem_cons.mp hk).resolve_left nofun)
  marker m hm := by
    obtain ⟨j, hj, hmj, hpending⟩ := hd.marker m hm
    exact ⟨j, hj, hmj, fun heq k p hk => hpending heq k p (Nat.le_of_succ_le hk)⟩

/-! ## Full syncs -/

/-- A full sync of a version brings every path of the repository up to it. -/
theorem Deployment.Sound.full {d : Deployment σ} {w : World σ} {j : Nat}
    (hd : d.Sound c repo t Valid position Genuine)
    (hchanges : Changes c.source Genuine d.world.store w.store) (hv : Valid w.host)
    (hj : position d.world.host ≤ j) (hj' : j ≤ position w.host)
    (hmarker : w.store.marker repo = some (t.commit j))
    (hpaths : ∀ p, Caught c.source (t.Sees j (position w.host) p) p (d.world.store.rowAt repo p)
        (w.store.rowAt repo p) ∨
      (w.store.rowAt repo p = d.world.store.rowAt repo p ∧
        (Language.isIndexable p = true → t.Sees j (position w.host) p none))) :
    ({ d with world := w, log := .indexed j :: d.log } : Deployment σ).Sound c repo t Valid position
      Genuine where
  valid := hv
  wellFormed := hchanges.wellFormed hd.wellFormed
  derived := hchanges.derived hd.derived
  handed := Nat.le_trans hd.handed (Nat.le_trans hj hj')
  waiting x hx := by
    obtain ⟨hlt, hpush, hnames, hname⟩ := hd.waiting x hx
    exact ⟨Nat.lt_of_lt_of_le hlt (Nat.le_trans hj hj'), hpush, hchanges.names hnames, hname⟩
  settled k hk := (hd.settled k hk).imp (.tail _) (.tail _)
  applied k hk := by
    obtain ⟨hlt, -⟩ := hd.applied k ((List.mem_cons.mp hk).resolve_left nofun)
    have hkj : k < j := Nat.lt_of_lt_of_le hlt (Nat.le_trans hd.handed hj)
    exact ⟨hlt, fun p _ => ⟨j, rfl, hkj⟩⟩
  reached_le p i hi := by
    cases hi
    exact hj'
  rows p i file hi hindexable hsame := by
    cases hi
    rcases hpaths p with hcaught | ⟨-, hnone⟩
    · exact hcaught.core_eq fun f hf => hf.eq_of_same hsame
    · cases (hnone hindexable).eq_of_same hsame
  stored p hp := by
    rcases hpaths p with hcaught | ⟨hsame, -⟩
    · obtain ⟨file, hfile⟩ := hcaught.exists_seen hp
      exact hfile.exists_version
    · obtain ⟨v, hv, hsome⟩ := hd.stored p (hsame ▸ hp)
      exact ⟨v, Nat.le_trans hv (Nat.le_trans hj hj'), hsome⟩
  removed k p hk hp hnone := by
    have hk : Deed.applied k ∈ d.log := (List.mem_cons.mp hk).resolve_left nofun
    have hkj : k < j := Nat.lt_of_lt_of_le (hd.applied k hk).1 (Nat.le_trans hd.handed hj)
    rcases hpaths p with hcaught | ⟨hsame, -⟩
    · refine hcaught.eq_none fun file hfile => ?_
      obtain ⟨v, hjv, hv, hsome⟩ := hfile
      cases hsome.trans (hnone v (Nat.lt_of_lt_of_le hkj hjv) hv)
    · exact hsame.trans <| hd.removed k p hk hp fun v hkv hv =>
        hnone v hkv (Nat.le_trans hv (Nat.le_trans hj hj'))
  marker m hm := by
    cases hmarker.symm.trans hm
    refine ⟨j, hj', rfl, fun heq k p _ hk _ => ⟨j, rfl, ?_⟩⟩
    rw [heq]
    exact hk

/-! ## Partial syncs -/

/-- A partial sync of the next push brings every path that the push names up to it. -/
theorem Deployment.Sound.apply {d : Deployment σ} {w : World σ}
    (hd : d.Sound c repo t Valid position Genuine) (hlawful : t.Lawful)
    (hchanges : Changes c.source Genuine d.world.store w.store) (hv : Valid w.host)
    (hlt : d.handed < position d.world.host) (hle : position d.world.host ≤ position w.host)
    (hmarker : w.store.marker repo = some (t.commit (d.handed + 1)))
    (hpaths : ∀ p,
      let before := if p ∈ (t.push d.handed).deleted then none else d.world.store.rowAt repo p
      if p ∈ (t.push d.handed).changed ∧ Language.isIndexable p = true then
        Caught c.source (t.Sees (d.handed + 1) (position w.host) p) p before
          (w.store.rowAt repo p)
      else w.store.rowAt repo p = before) :
    ({ world := w, handed := d.handed + 1, log := .applied d.handed :: d.log } :
      Deployment σ).Sound c repo t Valid position Genuine where
  valid := hv
  wellFormed := hchanges.wellFormed hd.wellFormed
  derived := hchanges.derived hd.derived
  handed := Nat.le_trans hlt hle
  waiting := nofun
  settled k hk := by
    rcases Nat.lt_succ_iff_lt_or_eq.mp hk with hk | rfl
    · exact (hd.settled k hk).imp (.tail _) (.tail _)
    · exact .inl (.head _)
  applied k hk := by
    rcases List.mem_cons.mp hk with heq | hk
    · cases heq
      refine ⟨Nat.lt_succ_self _, fun p hp => ⟨d.handed + 1, ?_, Nat.lt_succ_self _⟩⟩
      exact if_pos hp
    · obtain ⟨hlt, hnames⟩ := hd.applied k hk
      refine ⟨Nat.lt_succ_of_lt hlt, fun p hp => ?_⟩
      unfold reached
      split
      · exact ⟨d.handed + 1, rfl, Nat.lt_succ_of_lt hlt⟩
      · exact hnames p hp
  reached_le p i hi := by
    unfold reached at hi
    split at hi
    · cases hi
      exact Nat.le_trans hlt hle
    · exact Nat.le_trans (hd.reached_le p i hi) hle
  rows p i file hi hindexable hsame := by
    show (w.store.rowAt repo p).map FileRow.core = _
    have hpath := hpaths p
    unfold reached at hi
    split at hi
    · next hnames =>
      cases hi
      have hnext := hsame _ (Nat.le_refl _) (Nat.le_trans hlt hle)
      have hchanged : p ∈ (t.push d.handed).changed := by
        refine hnames.resolve_right fun hdeleted => ?_
        cases hnext.symm.trans ((hlawful.deleted _ _).mp hdeleted).2
      simp only [hchanged, hindexable, and_self, if_true] at hpath
      exact hpath.core_eq fun f hf => hf.eq_of_same hsame
    · next hnames =>
      rw [Timeline.Names, not_or] at hnames
      simp only [hnames.1, hnames.2, false_and, if_false] at hpath
      rw [hpath]
      exact hd.rows p i file hi hindexable fun v hiv hv => hsame v hiv (Nat.le_trans hv hle)
  stored p hp := by
    have hp : w.store.rowAt repo p ≠ none := hp
    have hpath := hpaths p
    simp only at hpath
    split at hpath
    · obtain ⟨file, hfile⟩ := hpath.exists_seen hp
      exact hfile.exists_version
    · rw [hpath] at hp
      split at hp
      · exact absurd rfl hp
      · obtain ⟨v, hv, hsome⟩ := hd.stored p hp
        exact ⟨v, Nat.le_trans hv hle, hsome⟩
  removed k p hk hp hnone := by
    show w.store.rowAt repo p = none
    have hpath := hpaths p
    -- After the removal the path did not come back, so the push does not list it as changed.
    have hchanged : p ∉ (t.push d.handed).changed := by
      intro hmem
      refine ((hlawful.changed _ _).mp hmem).1 (hnone _ ?_ (Nat.le_trans hlt hle))
      rcases List.mem_cons.mp hk with heq | hk
      · cases heq
        exact Nat.lt_succ_self _
      · exact Nat.lt_succ_of_lt (hd.applied k hk).1
    simp only [hchanged, false_and, if_false] at hpath
    rw [hpath]
    split
    · rfl
    · next hdeleted =>
      rcases List.mem_cons.mp hk with heq | hk
      · cases heq
        exact absurd hp hdeleted
      · exact hd.removed k p hk hp fun v hkv hv => hnone v hkv (Nat.le_trans hv hle)
  marker m hm := by
    cases hmarker.symm.trans hm
    refine ⟨d.handed + 1, Nat.le_trans hlt hle, rfl, fun heq k p hk hkpos _ => ?_⟩
    rw [← heq] at hkpos
    exact absurd hk (Nat.not_le.mpr hkpos)

end Sound

end ContextIndex.Sync
