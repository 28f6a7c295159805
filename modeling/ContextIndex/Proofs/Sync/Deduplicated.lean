import ContextIndex.Proofs.Sync.Accepted
import ContextIndex.Proofs.Sync.Effects
import ContextIndex.Proofs.Sync.Unblocked

/-!
# One full sync at a time

A full sync is not accepted while the repository is queued or syncing, and the full sync that was
accepted keeps it so until it has nothing left to do but look (`Script.guards_job`).  Then no full
sync is accepted while another one waits or is at work (`Desk.full_deduplicated`).

That holds as long as nobody else takes the repository out of its state.  A push of the repository
does: it notes its own end where the mark of the full sync stands, so a full sync that was accepted
before the push began is no longer known to wait, and a second one is accepted beside it
(`Desk.full_accepted_twice`).
-/

namespace ContextIndex.Sync

open Remote

/-- Whether a repository is queued or syncing. -/
def World.IsActive {σ : Type} (w : World σ) (key : String) : Prop :=
  (w.state key).isActive = true

/-! ## What syncs note -/

section Effects

variable {σ : Type} {c : Setup σ} {key name : String}

/-- Before its end a sync leaves an active repository active. -/
theorem effects_active : Effects c key (fun _ => True) (fun row => row.fullName = key)
    fun w w' => w.IsActive key → w'.IsActive key where
  refl _ := id
  host _ := id
  take _ hactive := by
    unfold World.IsActive World.state
    rw [Script.status_takeLease]
    exact hactive
  drop _ _ := id
  begin _ _ := by
    unfold World.IsActive World.state World.withStatus Registry.begin
    rw [Registry.get_update]
    rfl
  setTotal _ hactive := by
    unfold World.IsActive World.state World.withStatus Registry.setTotal
    rw [Registry.get_update]
    exact hactive
  fileDone hactive := by
    unfold World.IsActive World.state World.withStatus Registry.fileDone
    rw [Registry.get_update]
    exact hactive
  named hrow := hrow
  stored _ hname hget := (fullName_of_getRepo hget).trans hname
  insert _ _ hname := ⟨id, fun _ hrow => (fullName_of_insertRepo hrow).trans hname⟩
  record _ _ _ := id
  delete _ _ _ := id

def SameEntry (key : String) (w w' : World σ) : Prop :=
  w'.status.get key = w.status.get key

theorem SameEntry.isActive {w w' : World σ} (h : SameEntry key w w') (hactive : w.IsActive key) :
    w'.IsActive key := by
  unfold World.IsActive World.state
  rw [h]
  exact hactive

theorem effects_elsewhere (hne : key ≠ name) :
    Effects c name (fun _ => True) (fun row => row.fullName = name) (SameEntry key) where
  refl _ := rfl
  host _ := rfl
  take _ := by
    unfold SameEntry
    rw [Script.status_takeLease]
  drop _ _ := rfl
  begin _ := get_update_ne hne _ _
  setTotal _ := get_update_ne hne _ _
  fileDone := get_update_ne hne _ _
  named hrow := hrow
  stored _ hname hget := (fullName_of_getRepo hget).trans hname
  insert _ _ hname := ⟨rfl, fun _ hrow => (fullName_of_insertRepo hrow).trans hname⟩
  record _ _ _ := rfl
  delete _ _ _ := rfl

theorem ends_elsewhere (hne : key ≠ name) : Ends (σ := σ) name (SameEntry key) where
  finish _ _ := get_update_ne hne _ _
  fail _ _ := get_update_ne hne _ _
  clearQueued := get_update_ne hne _ _

end Effects

namespace Script

variable {σ α β : Type} {key : String}

/-! ## Scripts that only look -/

/-- Every call that is left is a question to the store or to the register. -/
def Looks (s : Script σ α) : Prop :=
  s.Calls (fun w w' => w' = w) fun _ _ => False

theorem Looks.bind {s : Script σ α} (hs : s.Looks) {k : α → Script σ β} (hk : ∀ a, (k a).Looks) :
    (s.bind k).Looks :=
  Calls.bind hs hk

theorem Looks.step {c : Setup σ} {s s' : Script σ α} {w w' : World σ} (hs : s.Looks)
    (h : Step c (s, w) (s', w')) : s'.Looks ∧ w' = w := by
  cases h with
  | call world next refusal => exact (hs refusal w).symm
  | wake wake next => exact ⟨hs, rfl⟩
  | turn run k k' next => exact hs.1.elim
  | refuse run k before after x e next => exact hs.1.elim
  | join run done next => exact hs.1.elim

theorem looks_progress : (progress key : Script σ _).Looks := by
  have hread {γ : Type} (f : World σ → γ) : (read f).Looks := calls_ask fun _ => rfl
  refine (hread _).bind fun here => ?_
  split
  · trivial
  · have hask : (askStore fun w : World σ => (w.store.getLease key, w)).Looks :=
      calls_askStore (fun _ => rfl) fun _ => rfl
    refine hask.bind fun l => ?_
    split
    · trivial
    · trivial
    · exact (hread _).bind fun now => trivial

/-! ## Scripts that keep a repository active -/

/-- No call takes the repository out of an active state, but for one after which the script only
looks. -/
def Guards (key : String) : Script σ α → Prop
  | .ended _ => True
  | .call world next => ∀ refusal w,
    ((w.IsActive key → (world refusal w).IsActive key) ∧ (next refusal w).Guards key) ∨
      (next refusal w).Looks
  | .sleep _ next => next.Guards key
  | .crew _ _ _ next => ∀ results, (next results).Guards key

theorem Guards.step {c : Setup σ} {s s' : Script σ α} {w w' : World σ} (hs : s.Guards key)
    (hactive : w.IsActive key) (h : Step c (s, w) (s', w')) :
    (s'.Guards key ∧ w'.IsActive key) ∨ s'.Looks := by
  cases h with
  | call world next refusal => exact (hs refusal w).imp_left fun h => ⟨h.2, h.1 hactive⟩
  | wake wake next => exact .inl ⟨hs, hactive⟩
  | turn run k k' next hk =>
    refine .inl ⟨hs, ?_⟩
    unfold World.IsActive World.state
    rw [hk.clock_eq.2]
    exact hactive
  | refuse run k before after x e next => exact .inl ⟨hs, hactive⟩
  | join run done next => exact .inl ⟨hs _, hactive⟩

theorem Within.guards {B : Run → Prop} {P : α → Prop} {s : Script σ α} {k : α → Script σ β}
    (hs : s.Within (fun _ => True) (fun w w' => w.IsActive key → w'.IsActive key) B P)
    (hk : ∀ a, P a → (k a).Guards key) : (s.bind k).Guards key := by
  induction s with
  | ended a => exact hk a hs
  | call world next ih =>
    exact fun refusal w => .inl ⟨(hs refusal w trivial).1, ih refusal w (hs refusal w trivial).2⟩
  | sleep wake next ih => exact ih hs
  | crew run workers done next ih => exact fun results => ih results (hs.2 results)

theorem Looks.guards {s : Script σ α} (hs : s.Looks) : s.Guards key := by
  induction s with
  | ended a => trivial
  | call world next ih => exact fun refusal w => .inr (hs refusal w).2
  | sleep wake next ih => exact ih hs
  | crew run workers done next ih => exact hs.1.elim

/-- A call after which the script only looks. -/
theorem guards_of_looks {world : Option Error → World σ → World σ}
    {next : Option Error → World σ → Script σ α} (h : ∀ refusal w, (next refusal w).Looks) :
    (call world next).Guards key :=
  fun refusal w => .inr (h refusal w)

theorem Guards.bind {s : Script σ α} (hs : s.Guards key) {k : α → Script σ β}
    (hk : ∀ a, (k a).Looks) : (s.bind k).Guards key := by
  induction s with
  | ended a => exact (hk a).guards
  | call world next ih =>
    exact fun refusal w => (hs refusal w).imp (fun h => ⟨h.1, ih refusal w h.2⟩) fun h => h.bind hk
  | sleep wake next ih => exact ih hs
  | crew run workers done next ih => exact fun results => ih results (hs results)

section Full

variable (c : Setup σ)

include c in
theorem guards_conclude (holder : String) (result : Except Error Outcome) :
    (conclude key holder result : Script σ _).Guards key :=
  (within_release (B := fun _ => True) (effects_active (c := c)) holder).guards
    fun _ _ => guards_of_looks fun _ _ => trivial

theorem guards_fullFrom {row : RepoRow} (hrow : row.fullName = key) (force : Bool) :
    (fullFrom c key row force).Guards key := by
  unfold fullFrom
  refine (within_askLease (B := fun _ => True) effects_active).guards fun a _ => ?_
  split
  · trivial
  · exact guards_of_looks fun _ _ => looks_progress.bind fun _ => trivial
  · rw [hrow]
    exact (within_runFull effects_active hrow _ force).guards
      fun result _ => guards_conclude c _ result

/-- A full sync keeps its repository active until it has nothing left to do but look. -/
theorem guards_full (repo : RepoId) (force : Bool) :
    (full c repo force).Guards repo.fullName := by
  unfold full
  refine (within_resolve (B := fun _ => True) effects_active rfl).guards fun a hrow => ?_
  split
  · exact guards_of_looks fun _ _ => trivial
  · exact guards_fullFrom c (hrow _ rfl) force

theorem guards_job {j : Job} (h : j.IsFull key) : (job c j).Guards key := by
  cases j with
  | full repo force =>
    obtain rfl : repo.fullName = key := h
    exact (guards_full c repo force).bind fun _ => trivial
  | push repo changes => exact h.elim
  | sweep => exact h.elim

/-- A job that is not about a repository leaves its status as it is. -/
theorem within_job_elsewhere {j : Job} (h : ¬ j.Concerns key) :
    (job c j).Within (fun _ => True) (SameEntry key) (fun _ => True) fun _ => True :=
  (within_job_other (fun _ => effects_elsewhere) (fun _ => ends_elsewhere) h).mono
    (fun _ _ => trivial) fun _ h => h

end Full

end Script

/-! ## Desks -/

namespace Desk

variable {σ : Type} {c : Setup σ} {key : String} {x y : Desk σ}

/-- A full sync of the repository waits or runs. -/
def HasFull (key : String) (x : Desk σ) : Prop :=
  ∃ t, (t ∈ x.inbox ∨ t ∈ x.running.map Prod.fst) ∧ t.job.IsFull key

/-- While a full sync of the repository waits or runs, no push of it and no sweep does. -/
def Apart (key : String) (x : Desk σ) : Prop :=
  x.HasFull key → ∀ r ∈ x.running, r.1.job.Concerns key → r.1.job.IsFull key

/-- No full sync of the repository waits, and those that run have nothing left to do but look. -/
structure Spent (key : String) (inbox : List Ticket)
    (running : List (Ticket × Script σ (List Exit))) : Prop where
  inbox : ∀ t ∈ inbox, ¬ t.job.IsFull key
  running : ∀ r ∈ running, r.1.job.IsFull key → r.2.Looks

theorem Spent.append {inbox : List Ticket} {running : List (Ticket × Script σ (List Exit))}
    (h : Spent key inbox running) {jobs : List Job} (hjobs : ∀ j ∈ jobs, ¬ j.IsFull key)
    (clock : Nat) : Spent key (inbox ++ jobs.map fun job => ⟨job, clock⟩) running where
  inbox t ht := by
    rcases List.mem_append.mp ht with ht | ht
    · exact h.inbox t ht
    · obtain ⟨job, hjob, rfl⟩ := List.mem_map.mp ht
      exact hjobs job hjob
  running := h.running

/-- At most one full sync of the repository has more to do than to look, and if there is one, then
the repository is active. -/
inductive Held (key : String) (x : Desk σ) : Prop
  | free : Spent key x.inbox x.running → Held key x
  | waits (t : Ticket) (rest : List Ticket) : x.inbox.Perm (t :: rest) → t.job.IsFull key →
    x.world.IsActive key → Spent key rest x.running → Held key x
  | runs (t : Ticket) (s : Script σ (List Exit)) (rest : List (Ticket × Script σ (List Exit))) :
    x.running.Perm ((t, s) :: rest) → t.job.IsFull key → s.Guards key → x.world.IsActive key →
    Spent key x.inbox rest → Held key x

theorem Held.spent (hx : x.Held key) (hidle : ¬ x.world.IsActive key) :
    Spent key x.inbox x.running := by
  cases hx with
  | free hspent => exact hspent
  | waits t rest hinbox hfull hactive hspent => exact absurd hactive hidle
  | runs t s rest hrunning hfull hguards hactive hspent => exact absurd hactive hidle

/-- What others do who leave the repository active. -/
theorem Held.pass (hx : x.Held key) {w : World σ}
    (hw : x.world.IsActive key → w.IsActive key) : Held key { x with world := w } := by
  cases hx with
  | free hspent => exact .free hspent
  | waits t rest hinbox hfull hactive hspent => exact .waits t rest hinbox hfull (hw hactive) hspent
  | runs t s rest hrunning hfull hguards hactive hspent =>
    exact .runs t s rest hrunning hfull hguards (hw hactive) hspent

theorem Held.accept (hx : x.Held key) {jobs : List Job} (hjobs : ∀ j ∈ jobs, ¬ j.IsFull key)
    {w : World σ} (hw : x.world.IsActive key → w.IsActive key) : (x.accept jobs w).Held key := by
  cases hx with
  | free hspent => exact .free (hspent.append hjobs _)
  | waits t rest hinbox hfull hactive hspent =>
    exact .waits t _ (hinbox.append_right _) hfull (hw hactive) (hspent.append hjobs _)
  | runs t s rest hrunning hfull hguards hactive hspent =>
    exact .runs t s rest hrunning hfull hguards (hw hactive) (hspent.append hjobs _)

/-- A repository whose full sync is accepted was not active before. -/
theorem idle_of_triggerFull {repo : RepoId} {force : Bool} {name : String} {q : Queue}
    {w w' : World σ} (h : Queue.triggerFull repo force {} w = (.accepted name, q, w')) :
    name = repo.fullName ∧ ¬ w.IsActive repo.fullName := by
  unfold Queue.triggerFull Registry.markQueued at h
  simp only at h
  split at h
  · cases h
  · next status hmark =>
    cases h
    split at hmark
    · cases hmark
    · next hidle => exact ⟨rfl, hidle⟩

theorem Held.full (hx : x.Held key) {repo : RepoId} {force : Bool} {name : String} {q : Queue}
    {w : World σ} (h : Queue.triggerFull repo force {} x.world = (.accepted name, q, w)) :
    (x.accept q.inbox w).Held key := by
  obtain ⟨hinbox, hqueued, hothers⟩ := triggerFull_cases h
  rw [hinbox]
  by_cases hkey : repo.fullName = key
  · subst hkey
    -- Nothing was held until now.
    refine .waits ⟨.full repo force, x.world.clock⟩ x.inbox (List.perm_append_singleton _ _) rfl ?_
      (hx.spent (idle_of_triggerFull h).2)
    exact congrArg State.isActive hqueued
  · have hjobs : ∀ j ∈ [Job.full repo force], ¬ j.IsFull key := by
      intro j hj
      cases List.mem_singleton.mp hj
      exact hkey
    refine hx.accept hjobs fun hactive => ?_
    unfold World.IsActive
    rw [hothers key (Ne.symm hkey)]
    exact hactive

theorem Held.start (hx : x.Held key) (c : Setup σ) {t : Ticket} {inbox : List Ticket}
    (hinbox : x.inbox = t :: inbox) :
    Held key { x with inbox, running := x.running ++ [(t, Script.job c t.job)] } := by
  have hmore {rest : List (Ticket × Script σ (List Exit))} {tickets : List Ticket}
      (ht : ¬ t.job.IsFull key) (hspent : Spent key tickets rest) :
      Spent key tickets (rest ++ [(t, Script.job c t.job)]) := by
    refine ⟨hspent.inbox, fun r hr hfull => ?_⟩
    rcases List.mem_append.mp hr with hr | hr
    · exact hspent.running r hr hfull
    · cases List.mem_singleton.mp hr
      exact absurd hfull ht
  have hless {rest : List (Ticket × Script σ (List Exit))} (hspent : Spent key x.inbox rest) :
      ¬ t.job.IsFull key ∧ Spent key inbox rest := by
    have htickets := hspent.inbox
    rw [hinbox] at htickets
    exact ⟨htickets t List.mem_cons_self,
      fun t' ht' => htickets t' (List.mem_cons_of_mem _ ht'), hspent.running⟩
  cases hx with
  | free hspent =>
    obtain ⟨ht, hspent⟩ := hless hspent
    exact .free (hmore ht hspent)
  | waits t' rest hperm hfull hactive hspent =>
    rw [hinbox, ← List.nil_append (t :: inbox)] at hperm
    rcases perm_middle_cases hperm with ⟨rfl, hrest⟩ | ⟨others, hrest, hperm'⟩
    · -- The full sync that waited starts.
      refine .runs t _ x.running (List.perm_append_singleton _ _) hfull (Script.guards_job c hfull)
        hactive ⟨fun t' ht' => hspent.inbox t' (hrest.mem_iff.mp ht'), hspent.running⟩
    · have hothers : ∀ t' ∈ t :: others, ¬ t'.job.IsFull key :=
        fun t' ht' => hspent.inbox t' (hrest.mem_iff.mpr ht')
      refine .waits t' others hperm' hfull hactive (hmore (hothers t List.mem_cons_self) ?_)
      exact ⟨fun t' ht' => hothers t' (List.mem_cons_of_mem _ ht'), hspent.running⟩
  | runs t' s rest hrunning hfull hguards hactive hspent =>
    obtain ⟨ht, hspent⟩ := hless hspent
    exact .runs t' s _ (hrunning.append_right _) hfull hguards hactive (hmore ht hspent)

theorem Spent.perm {inbox : List Ticket} {running running' : List (Ticket × Script σ (List Exit))}
    (h : Spent key inbox running) (hperm : running'.Perm running) : Spent key inbox running' :=
  ⟨h.inbox, fun r hr => h.running r (hperm.mem_iff.mp hr)⟩

theorem Spent.middle {inbox : List Ticket} {before after : List (Ticket × Script σ (List Exit))}
    {r : Ticket × Script σ (List Exit)} (h : Spent key inbox (before ++ after))
    (hr : r.1.job.IsFull key → r.2.Looks) : Spent key inbox (before ++ r :: after) := by
  refine ⟨h.inbox, fun r' hr' hfull => ?_⟩
  rcases mem_middle.mp hr' with rfl | hr'
  · exact hr hfull
  · exact h.running r' hr' hfull

theorem Spent.drop {inbox : List Ticket} {before after : List (Ticket × Script σ (List Exit))}
    {r : Ticket × Script σ (List Exit)} (h : Spent key inbox (before ++ r :: after)) :
    Spent key inbox (before ++ after) :=
  ⟨h.inbox, fun r' hr' => h.running r' (mem_middle.mpr (.inr hr'))⟩

/-- Jobs that are not about the repository leave its status as it is. -/
def Elsewhere (key : String) (x : Desk σ) : Prop :=
  ∀ r ∈ x.running, ¬ r.1.job.Concerns key →
    r.2.Within (fun _ => True) (SameEntry key) (fun _ => True) fun _ => True

theorem Elsewhere.step (hx : x.Elsewhere key) (h : x.Step c y) : y.Elsewhere key := by
  cases h with
  | full | push | sweep | others => exact hx
  | start t inbox hinbox =>
    intro r hr hconcerns
    rcases List.mem_append.mp hr with hr | hr
    · exact hx r hr hconcerns
    · cases List.mem_singleton.mp hr
      exact Script.within_job_elsewhere c hconcerns
  | work before after t s s' w hrunning hstep =>
    have hmem {r} (hr : r = (t, s) ∨ r ∈ before ++ after) : r ∈ x.running :=
      hrunning ▸ mem_middle.mpr hr
    intro r hr hconcerns
    rcases mem_middle.mp hr with rfl | hr
    · have hs := hx (t, s) (hmem (.inl rfl)) hconcerns
      exact (hs.step trivial (fun _ => rfl)
        (fun _ _ hk => congrArg (Registry.get · key) hk.clock_eq.2) hstep).1
    · exact hx r (hmem (.inr hr)) hconcerns
  | finish before after t exits hrunning =>
    exact fun r hr => hx r (hrunning ▸ mem_middle.mpr (.inr hr))

/-- While a full sync of the repository waits or runs, a call of a job that is not the one at work
leaves an active repository active. -/
theorem isActive_of_work (hapart : x.Apart key) (helse : x.Elsewhere key) {t : Ticket}
    {s s' : Script σ (List Exit)} {w : World σ} (hmem : (t, s) ∈ x.running)
    (hstep : Script.Step c (s, x.world) (s', w)) (hfull : x.HasFull key)
    (hlooks : t.job.IsFull key → s.Looks) : x.world.IsActive key → w.IsActive key := by
  by_cases hconcerns : t.job.Concerns key
  · obtain ⟨-, rfl⟩ := (hlooks (hapart hfull _ hmem hconcerns)).step hstep
    exact id
  · have hsame := ((helse _ hmem hconcerns).step trivial (fun _ => rfl)
      (fun _ _ hk => congrArg (Registry.get · key) hk.clock_eq.2) hstep).2
    exact hsame.isActive

theorem Held.work (hx : x.Held key) (hapart : x.Apart key) (helse : x.Elsewhere key)
    {before after : List (Ticket × Script σ (List Exit))} {t : Ticket}
    {s s' : Script σ (List Exit)} {w : World σ}
    (hrunning : x.running = before ++ (t, s) :: after)
    (hstep : Script.Step c (s, x.world) (s', w)) :
    Held key { x with world := w, running := before ++ (t, s') :: after } := by
  have hmem : (t, s) ∈ x.running := by simp [hrunning]
  have hlooks (h : t.job.IsFull key → s.Looks) (hfull : t.job.IsFull key) : s'.Looks :=
    ((h hfull).step hstep).1
  cases hx with
  | free hspent =>
    have hs := hspent.running _ hmem
    rw [hrunning] at hspent
    exact .free (hspent.drop.middle (hlooks hs))
  | waits t' rest hinbox hfull hactive hspent =>
    have hs := hspent.running _ hmem
    have hhas : x.HasFull key := ⟨t', .inl (hinbox.mem_iff.mpr List.mem_cons_self), hfull⟩
    have hactive' := isActive_of_work hapart helse hmem hstep hhas hs hactive
    rw [hrunning] at hspent
    exact .waits t' rest hinbox hfull hactive' (hspent.drop.middle (hlooks hs))
  | runs t' s₀ rest hperm hfull hguards hactive hspent =>
    have hhas : x.HasFull key :=
      ⟨t', .inr (List.mem_map_of_mem (hperm.mem_iff.mpr List.mem_cons_self)), hfull⟩
    rw [hrunning] at hperm
    rcases perm_middle_cases hperm with ⟨heq, hrest⟩ | ⟨others, hrest, hperm'⟩
    · -- The one at work goes on, or it has nothing left to do but look.
      cases heq
      have hspent' := hspent.perm hrest
      rcases hguards.step hactive hstep with ⟨hguards', hactive'⟩ | hlast
      · exact .runs t s' _ List.perm_middle hfull hguards' hactive' hspent'
      · exact .free (hspent'.middle fun _ => hlast)
    · have hs := hspent.running (t, s) (hrest.mem_iff.mpr List.mem_cons_self)
      have hspent' : Spent key x.inbox ([] ++ (t, s) :: others) := hspent.perm hrest.symm
      have hactive' := isActive_of_work hapart helse hmem hstep hhas hs hactive
      have hperm'' : (before ++ (t, s') :: after).Perm ((t', s₀) :: (t, s') :: others) :=
        List.perm_middle.trans ((hperm'.cons _).trans (.swap _ _ _))
      exact .runs t' s₀ ([] ++ (t, s') :: others) hperm'' hfull hguards hactive'
        (hspent'.drop.middle (hlooks hs))

theorem Held.finish (hx : x.Held key) {before after : List (Ticket × Script σ (List Exit))}
    {t : Ticket} {exits : List Exit}
    (hrunning : x.running = before ++ (t, .ended exits) :: after) :
    Held key { x with running := before ++ after, ended := x.ended ++ [(t, exits)] } := by
  cases hx with
  | free hspent =>
    rw [hrunning] at hspent
    exact .free hspent.drop
  | waits t' rest hinbox hfull hactive hspent =>
    rw [hrunning] at hspent
    exact .waits t' rest hinbox hfull hactive hspent.drop
  | runs t' s₀ rest hperm hfull hguards hactive hspent =>
    rw [hrunning] at hperm
    rcases perm_middle_cases hperm with ⟨heq, hrest⟩ | ⟨others, hrest, hperm'⟩
    · exact .free (hspent.perm hrest)
    · have hspent' : Spent key x.inbox ([] ++ (t, .ended exits) :: others) :=
        hspent.perm hrest.symm
      exact .runs t' s₀ others hperm' hfull hguards hactive hspent'.drop

theorem Held.step (hx : x.Held key) (hapart : x.Apart key) (helse : x.Elsewhere key)
    (h : x.Step c y) : y.Held key := by
  cases h with
  | full repo force name q w htrigger => exact hx.full htrigger
  | push e name q htrigger =>
    obtain ⟨repo, -, -, hjobs⟩ := inbox_triggerPush htrigger
    rw [hjobs]
    refine hx.accept (fun j hj hfull => ?_) id
    cases List.mem_singleton.mp hj
    exact hfull
  | sweep name q htrigger =>
    cases htrigger
    refine hx.accept (fun j hj hfull => ?_) id
    cases List.mem_singleton.mp hj
    exact hfull
  | start t inbox hinbox => exact hx.start c hinbox
  | work before after t s s' w hrunning hstep => exact hx.work hapart helse hrunning hstep
  | finish before after t exits hrunning => exact hx.finish hrunning
  | others store host now clock serial hclock => exact hx.pass id

/-- Steps one after another, each from a desk where pushes of the repository and sweeps stay apart
from its full syncs. -/
abbrev StepsApart (c : Setup σ) (key : String) : Desk σ → Desk σ → Prop :=
  Relation.ReflTransGen fun x y => x.Apart key ∧ x.Step c y

theorem held_of_stepsApart {w : World σ} (h : (fresh w).StepsApart c key x) :
    x.Held key ∧ x.Elsewhere key := by
  induction h with
  | refl => exact ⟨.free ⟨nofun, nofun⟩, nofun⟩
  | tail _ hstep ih =>
    obtain ⟨hheld, helse⟩ := ih
    exact ⟨hheld.step hstep.1 helse hstep.2, helse.step hstep.2⟩

/-- As long as no push of a repository and no sweep runs beside its full syncs, a full sync of it is
accepted only when none waits, and those that run have nothing left to do but look. -/
theorem full_deduplicated {w : World σ} (hrun : (fresh w).StepsApart c key x) {repo : RepoId}
    {force : Bool} {q : Queue} {w' : World σ}
    (haccepted : Queue.triggerFull repo force {} x.world = (.accepted key, q, w')) :
    (∀ t ∈ x.inbox, ¬ t.job.IsFull key) ∧ ∀ r ∈ x.running, r.1.job.IsFull key → r.2.Looks := by
  obtain ⟨rfl, hidle⟩ := idle_of_triggerFull haccepted
  have hspent := (held_of_stepsApart hrun).1.spent hidle
  exact ⟨hspent.inbox, hspent.running⟩

/-- A queue of full syncs of one repository keeps them apart from everything else. -/
theorem stepsApart_of_accepted (key : String) {w : World σ} (h : (fresh w).Steps c x)
    (hfull : ∀ t ∈ x.accepted, t.job.IsFull key) : (fresh w).StepsApart c key x := by
  induction h with
  | refl => exact .refl
  | @tail y z hsteps hstep ih =>
    have hbefore : ∀ t ∈ y.accepted, t.job.IsFull key :=
      fun t ht => hfull t (accepted_step ht hstep)
    refine (ih hbefore).tail ⟨fun _ r hr _ => ?_, hstep⟩
    have hticket : r.1 ∈ y.inbox ++ y.running.map Prod.fst ++ y.ended.map Prod.fst :=
      List.mem_append_left _ (List.mem_append_right _ (List.mem_map_of_mem hr))
    exact hbefore r.1 (((kept_fresh w).steps hsteps).tickets.mem_iff.mpr hticket)

/-- A full sync is over, a push waits, and the next full sync is accepted. -/
theorem full_deduplicated_after_push : ∃ (x : Desk Memory) (q : Queue) (w : World Memory),
    (fresh registered).StepsApart hurried widgets.fullName x ∧
    Queue.triggerFull widgets false {} x.world = (.accepted widgets.fullName, q, w) ∧
    x.accepted.map Ticket.job = [.full widgets false, .push widgets (tradingPush 0)] ∧
    (∀ t ∈ x.inbox, ¬ t.job.IsFull widgets.fullName) ∧
    ∀ r ∈ x.running, r.1.job.IsFull widgets.fullName → r.2.Looks := by
  have hidle : (registered.status.get widgets.fullName).isActive = false := by decide +kernel
  obtain ⟨exit, -, hsteps⟩ := steps_afterFull (c := hurried) widgets false hidle
  have hfull := stepsApart_of_accepted widgets.fullName hsteps fun t ht => by
    cases List.mem_singleton.mp ht
    rfl
  have hrun := hfull.tail ⟨fun _ => nofun, .push tradingEvent _ _ tradingEvent_accepted⟩
  have hlast : ((afterFull hurried widgets false registered exit).world.status.get
      widgets.fullName).isActive = false := by
    simp only [afterFull]
    decide +kernel
  have htrigger := triggerFull_of_idle false hlast
  exact ⟨_, _, _, hrun, htrigger, rfl, full_deduplicated hrun htrigger⟩

/-- A push and a full sync are accepted.  The push runs to its end, and although the full sync still
waits another one is accepted. -/
theorem full_accepted_twice : ∃ (x : Desk Memory) (q : Queue) (w : World Memory),
    (fresh registered).Steps hurried x ∧
    x.accepted.map Ticket.job = [.push widgets (tradingPush 0), .full widgets false] ∧
    x.inbox.map Ticket.job = [.full widgets false] ∧
    Queue.triggerFull widgets false {} x.world = (.accepted widgets.fullName, q, w) := by
  have hidle : (registered.status.get widgets.fullName).isActive = false := by decide +kernel
  let pushed := (fresh registered).accept [.push widgets (tradingPush 0)] registered
  let both := pushed.accept [.full widgets false]
    (Queue.triggerFull widgets false {} registered).2.2
  have hpush : (fresh registered).Step hurried pushed :=
    .push tradingEvent _ _ tradingEvent_accepted
  have hfull : pushed.Step hurried both :=
    .full widgets false _ _ _ (triggerFull_of_idle false hidle)
  obtain ⟨exit, -, hsteps⟩ := steps_push (c := hurried) (x := both) rfl rfl rfl
  have hlast : ((partialSync hurried widgets (tradingPush 0) both.world).2.status.get
      widgets.fullName).isActive = false := by decide +kernel
  exact ⟨_, _, _, .head hpush (.head hfull hsteps), rfl, rfl, triggerFull_of_idle false hlast⟩

end Desk

end ContextIndex.Sync
