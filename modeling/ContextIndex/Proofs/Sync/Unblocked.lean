import ContextIndex.Proofs.Remote.InMemory
import ContextIndex.Proofs.Sync.Correspondence
import ContextIndex.Proofs.Sync.Tidy

/-!
# Jobs that are over block nothing

An active repository is answered for: a job waits that is going to take it out of its state, or a
job that runs has still to do so, or a full sync that was accepted has ended at its attempt to take
the lease (`Desk.Answered`).  That stays so whatever happens (`Desk.Tended.step`).

So a repository without jobs is not active, unless a full sync of it ended there
(`Desk.idle_of_finished`).  That is where one exit is missing (`Desk.blocked_by_lease`).
-/

namespace ContextIndex.Sync

open Remote

/-! ## Jobs -/

/-- Whether a job may be about a repository.  A sweep is about all that are stored. -/
def Job.Concerns (key : String) : Job → Prop
  | .full repo _ => repo.fullName = key
  | .push repo _ => repo.fullName = key
  | .sweep => True

/-- A full sync of the repository. -/
def Job.IsFull (key : String) : Job → Prop
  | .full repo _ => repo.fullName = key
  | _ => False

theorem Job.IsFull.concerns {key : String} {j : Job} (h : j.IsFull key) : j.Concerns key := by
  cases j with
  | full => exact h
  | push => exact h.elim
  | sweep => exact h.elim

/-- A sync ended at its attempt to take the lease. -/
def Unleased (exits : List Exit) : Prop :=
  ∃ e, Exit.unleased e ∈ exits

namespace Script

variable {σ : Type} {key : String} (c : Setup σ)

theorem tidy_job (j : Job) :
    (job c j).Tidy key (j.Concerns key) (fun _ _ => False) fun _ => True := by
  cases j with
  | full repo force => exact (tidy_full c repo force).then fun _ _ => trivial
  | push repo changes => exact (tidy_partialSync c repo changes).then fun _ _ => trivial
  | sweep =>
    refine (tidy_store fun _ => rfl).then fun a _ => ?_
    split
    · trivial
    · exact tidy_sweep c _

theorem leaves_job {j : Job} (h : j.IsFull key) : (job c j).Leaves key .queued Unleased := by
  cases j with
  | full repo force =>
    obtain rfl : repo.fullName = key := h
    refine (leaves_full c repo force).bind fun exit ⟨e, hexit⟩ => ⟨e, ?_⟩
    rw [hexit]
    exact List.mem_singleton.mpr rfl
  | push repo changes => exact h.elim
  | sweep => exact h.elim

end Script

/-! ## Desks -/

namespace Desk

variable {σ : Type} {c : Setup σ} {key : String} {x y : Desk σ}

/-- Somebody is going to take the repository out of the state, or ended before that at an attempt to
take the lease for a full sync that was accepted. -/
inductive Answered (key : String) (x : Desk σ) : State → Prop
  | waits (t : Ticket) : t ∈ x.inbox → t.job.IsFull key → Answered key x .queued
  | runs (t : Ticket) (s : Script σ (List Exit)) (st : State) : (t, s) ∈ x.running →
    t.job.Concerns key →
    s.Leaves key st (fun exits => st = .queued ∧ t.job.IsFull key ∧ Unleased exits) →
    Answered key x st
  | failed (t : Ticket) (exits : List Exit) : (t, exits) ∈ x.ended → t.job.IsFull key →
    Unleased exits → Answered key x .queued

/-- Every job leaves what it enters, and an active repository is answered for. -/
structure Tended (key : String) (x : Desk σ) : Prop where
  tidy : ∀ t s, (t, s) ∈ x.running →
    s.Tidy key (t.job.Concerns key) (fun _ _ => False) fun _ => True
  answered : (x.world.state key).isActive = true → Answered key x (x.world.state key)

theorem tended_fresh {w : World σ} (h : (w.state key).isActive = false) :
    (fresh w).Tended key where
  tidy _ _ hmem := nomatch hmem
  answered hactive := absurd (h.symm.trans hactive) Bool.false_ne_true

theorem Answered.mono {st : State} (h : Answered key x st) (hinbox : x.inbox ⊆ y.inbox)
    (hrunning : x.running ⊆ y.running) (hended : x.ended ⊆ y.ended) : Answered key y st := by
  cases h with
  | waits t ht hfull => exact .waits t (hinbox ht) hfull
  | runs t s st ht hconcerns hleaves => exact .runs t s st (hrunning ht) hconcerns hleaves
  | failed t exits ht hfull hunleased => exact .failed t exits (hended ht) hfull hunleased

/-- More jobs change nothing for a repository whose state they leave. -/
theorem Tended.accept (hx : x.Tended key) (jobs : List Job) {w : World σ}
    (hstate : w.state key = x.world.state key) : (x.accept jobs w).Tended key where
  tidy := hx.tidy
  answered hactive := by
    replace hactive : (w.state key).isActive = true := hactive
    show Answered key _ (w.state key)
    rw [hstate] at hactive ⊢
    exact (hx.answered hactive).mono (List.subset_append_left _ _) (List.Subset.refl _)
      (List.Subset.refl _)

/-- A full sync that is accepted puts its own repository into the queue. -/
theorem triggerFull_cases {repo : RepoId} {force : Bool} {name : String} {q : Queue}
    {w w' : World σ} (h : Queue.triggerFull repo force {} w = (.accepted name, q, w')) :
    q.inbox = [.full repo force] ∧ w'.state repo.fullName = .queued ∧
      ∀ k, k ≠ repo.fullName → w'.state k = w.state k := by
  unfold Queue.triggerFull Registry.markQueued at h
  simp only at h
  split at h
  · cases h
  · next status hmark =>
    split at hmark
    · cases hmark
    · cases hmark
      cases h
      exact ⟨rfl, congrArg Progress.state (Registry.get_update _ _ _),
        fun k hk => congrArg Progress.state (get_update_ne hk _ _)⟩

/-- A full sync of a repository that is not active is accepted. -/
theorem triggerFull_of_idle {repo : RepoId} {w : World σ} (force : Bool)
    (h : (w.status.get repo.fullName).isActive = false) :
    Queue.triggerFull repo force {} w = (.accepted repo.fullName, ⟨[.full repo force], [], []⟩,
      (Queue.triggerFull repo force {} w).2.2) := by
  unfold Queue.triggerFull Registry.markQueued
  simp only [h, Bool.false_eq_true, if_false]
  rfl

theorem Tended.full (hx : x.Tended key) {repo : RepoId} {force : Bool} {name : String} {q : Queue}
    {w : World σ} (h : Queue.triggerFull repo force {} x.world = (.accepted name, q, w)) :
    (x.accept q.inbox w).Tended key := by
  obtain ⟨hinbox, hqueued, hothers⟩ := triggerFull_cases h
  by_cases hkey : key = repo.fullName
  · subst hkey
    refine ⟨hx.tidy, fun _ => ?_⟩
    show Answered _ _ (w.state repo.fullName)
    rw [hqueued, hinbox]
    exact .waits ⟨.full repo force, x.world.clock⟩ (by simp [Desk.accept]) rfl
  · exact hx.accept q.inbox (hothers key hkey)

theorem Tended.start (hx : x.Tended key) (c : Setup σ) {t : Ticket} {inbox : List Ticket}
    (hinbox : x.inbox = t :: inbox) :
    Tended key { x with inbox, running := x.running ++ [(t, Script.job c t.job)] } where
  tidy t' s ht' := by
    rcases List.mem_append.mp ht' with hold | hnew
    · exact hx.tidy t' s hold
    · cases List.mem_singleton.mp hnew
      exact Script.tidy_job c t.job
  answered hactive := by
    have hanswered := hx.answered hactive
    generalize x.world.state key = st at hanswered
    cases hanswered with
    | waits t' ht' hfull =>
      rw [hinbox] at ht'
      rcases List.mem_cons.mp ht' with rfl | ht'
      · have hnew : (t', Script.job c t'.job) ∈ x.running ++ [(t', Script.job c t'.job)] :=
          List.mem_append_right _ (List.mem_singleton.mpr rfl)
        exact .runs t' _ .queued hnew hfull.concerns
          ((Script.leaves_job c hfull).mono fun _ hu => ⟨rfl, hfull, hu⟩)
      · exact .waits t' ht' hfull
    | runs t' s st ht' hconcerns hleaves =>
      exact .runs t' s st (List.mem_append_left _ ht') hconcerns hleaves
    | failed t' exits ht' hfull hunleased => exact .failed t' exits ht' hfull hunleased

theorem Tended.work (hx : x.Tended key) {before after : List (Ticket × Script σ (List Exit))}
    {t : Ticket} {s s' : Script σ (List Exit)} {w : World σ}
    (hrunning : x.running = before ++ (t, s) :: after)
    (hstep : Script.Step c (s, x.world) (s', w)) :
    Tended key { x with world := w, running := before ++ (t, s') :: after } := by
  have hmem : (t, s) ∈ x.running := by simp [hrunning]
  have hnew : (t, s') ∈ before ++ (t, s') :: after := by simp
  have hold {r} (hr : r ∈ x.running) : r = (t, s) ∨ r ∈ before ++ (t, s') :: after :=
    (mem_middle.mp (hrunning ▸ hr)).imp_right fun h => mem_middle.mpr (.inr h)
  obtain ⟨htidy, hentered⟩ := (hx.tidy t s hmem).step hstep
  refine ⟨fun t' r hr => ?_, fun hactive => ?_⟩
  · rcases mem_middle.mp hr with heq | hr
    · cases heq
      exact htidy
    · exact hx.tidy t' r (hrunning ▸ mem_middle.mpr (.inr hr))
  · show Answered key _ (w.state key)
    replace hactive : (w.state key).isActive = true := hactive
    -- A state that lasts is answered for by whoever did so before, a new one by this job.
    by_cases hsame : w.state key = x.world.state key
    · have hanswered := hx.answered (hsame ▸ hactive)
      rw [← hsame] at hanswered
      generalize hst : w.state key = st at hanswered
      cases hanswered with
      | waits t' ht' hfull => exact .waits t' ht' hfull
      | runs t' r st ht' hconcerns hleaves =>
        rcases hold ht' with heq | hr
        · cases heq
          exact .runs t s' st hnew hconcerns (hleaves.step hstep hst)
        · exact .runs t' r st hr hconcerns hleaves
      | failed t' exits ht' hfull hunleased => exact .failed t' exits ht' hfull hunleased
    · obtain ⟨hconcerns, hleaves⟩ := hentered hactive hsame
      exact .runs t s' _ hnew hconcerns (hleaves.mono fun _ => False.elim)

theorem Tended.finish (hx : x.Tended key) {before after : List (Ticket × Script σ (List Exit))}
    {t : Ticket} {exits : List Exit}
    (hrunning : x.running = before ++ (t, .ended exits) :: after) :
    Tended key { x with running := before ++ after, ended := x.ended ++ [(t, exits)] } := by
  have hold {r} (hr : r ∈ x.running) : r = (t, .ended exits) ∨ r ∈ before ++ after :=
    mem_middle.mp (hrunning ▸ hr)
  refine ⟨fun t' r hr => ?_, fun hactive => ?_⟩
  · exact hx.tidy t' r (hrunning ▸ mem_middle.mpr (.inr hr))
  · have hanswered := hx.answered hactive
    generalize x.world.state key = st at hanswered
    cases hanswered with
    | waits t' ht' hfull => exact .waits t' ht' hfull
    | runs t' r st ht' hconcerns hleaves =>
      rcases hold ht' with heq | hr
      · cases heq
        obtain ⟨rfl, hfull, hunleased⟩ := hleaves
        exact .failed t exits (by simp) hfull hunleased
      · exact .runs t' r st hr hconcerns hleaves
    | failed t' exits' ht' hfull hunleased =>
      exact .failed t' exits' (List.mem_append_left _ ht') hfull hunleased

/-- Whatever happens next, an active repository is answered for. -/
theorem Tended.step (hx : x.Tended key) (h : x.Step c y) : y.Tended key := by
  cases h with
  | full repo force name q w htrigger => exact hx.full htrigger
  | push e name q htrigger => exact hx.accept q.inbox rfl
  | sweep name q htrigger => exact hx.accept q.inbox rfl
  | start t inbox hinbox => exact hx.start c hinbox
  | work before after t s s' w hrunning hstep => exact hx.work hrunning hstep
  | finish before after t exits hrunning => exact hx.finish hrunning
  | others store host now clock serial hclock =>
    exact ⟨hx.tidy, fun hactive => (hx.answered hactive).mono (List.Subset.refl _)
      (List.Subset.refl _) (List.Subset.refl _)⟩

theorem Tended.steps (hx : x.Tended key) (h : x.Steps c y) : y.Tended key := by
  induction h with
  | refl => exact hx
  | tail _ hstep ih => exact ih.step hstep

/-- A repository that is active although none of its jobs waits or runs is queued, since a full sync
of it ended at its attempt to take the lease. -/
theorem queued_of_finished {w : World σ} (hidle : (w.status.get key).isActive = false)
    (hrun : (fresh w).Steps c x) (hinbox : ∀ t ∈ x.inbox, ¬ t.job.Concerns key)
    (hrunning : ∀ r ∈ x.running, ¬ r.1.job.Concerns key)
    (hactive : (x.world.status.get key).isActive = true) :
    x.world.state key = .queued ∧ ∃ r ∈ x.ended, r.1.job.IsFull key ∧ Unleased r.2 := by
  have hanswered := ((tended_fresh hidle).steps hrun).answered hactive
  generalize x.world.state key = st at hanswered
  cases hanswered with
  | waits t ht hfull => exact absurd hfull.concerns (hinbox t ht)
  | runs t s st ht hconcerns hleaves => exact absurd hconcerns (hrunning (t, s) ht)
  | failed t exits ht hfull hunleased => exact ⟨rfl, (t, exits), ht, hfull, hunleased⟩

/-- A full sync is accepted while nothing waits or runs, and runs to its end. -/
theorem steps_full (repo : RepoId) (force : Bool) (hinbox : x.inbox = [])
    (hrunning : x.running = [])
    (hidle : (x.world.status.get repo.fullName).isActive = false) :
    ∃ exit : Exit,
      exit.result = (fullSync c repo force (Queue.triggerFull repo force {} x.world).2.2).1 ∧
      x.Steps c { x with
        world := (fullSync c repo force (Queue.triggerFull repo force {} x.world).2.2).2
        ended := x.ended ++ [(⟨.full repo force, x.world.clock⟩, [exit])]
        accepted := x.accepted ++ [⟨.full repo force, x.world.clock⟩] } := by
  obtain ⟨world, inbox, running, ended, accepted⟩ := x
  obtain ⟨⟩ : inbox = [] := hinbox
  obtain ⟨⟩ : running = [] := hrunning
  have htrigger := triggerFull_of_idle force hidle
  simp only
  generalize (Queue.triggerFull repo force {} world).2.2 = w₁ at htrigger ⊢
  obtain ⟨order, horder⟩ := fullSync_isOrder c repo force w₁
  obtain ⟨s, hs, hsteps⟩ := (Script.steps_fullSyncIn c horder).of_map
  obtain ⟨exit, rfl, hexit⟩ := Script.eq_ended_of_map hs.symm
  have hjob : Script.Steps c (Script.job c (.full repo force), w₁)
      (.ended [exit], (fullSync c repo force w₁).2) := hsteps.bind fun exit => .ended [exit]
  have haccept : Step c ⟨world, [], [], ended, accepted⟩
      (accept ⟨world, [], [], ended, accepted⟩ [.full repo force] w₁) :=
    .full repo force repo.fullName ⟨[.full repo force], [], []⟩ w₁ htrigger
  refine ⟨exit, hexit, .head haccept (.head (.start _ [] rfl) ?_)⟩
  exact (steps_alone rfl hjob.alone).tail (.finish [] [] _ _ rfl)

/-- A desk that has accepted one full sync, which is over. -/
def afterFull (c : Setup σ) (repo : RepoId) (force : Bool) (w : World σ) (exit : Exit) : Desk σ :=
  { world := (fullSync c repo force (Queue.triggerFull repo force {} w).2.2).2
    ended := [(⟨.full repo force, w.clock⟩, [exit])]
    accepted := [⟨.full repo force, w.clock⟩] }

theorem steps_afterFull (repo : RepoId) (force : Bool) {w : World σ}
    (hidle : (w.status.get repo.fullName).isActive = false) :
    ∃ exit : Exit,
      exit.result = (fullSync c repo force (Queue.triggerFull repo force {} w).2.2).1 ∧
      (fresh w).Steps c (afterFull c repo force w exit) :=
  steps_full (x := fresh w) repo force rfl rfl hidle

theorem isActive_worldOf (r : MemoryRepo) (store : Store) (key : String) :
    ((worldOf r store).status.get key).isActive = false := rfl

/-- A coordinator whose leases would not end before any time that can be written. -/
def endlessSetup : Setup Memory :=
  { memorySetup with options := { leaseTime := maxLeaseTime + 1 } }

end Desk

end ContextIndex.Sync
