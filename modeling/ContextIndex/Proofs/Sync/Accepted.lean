import ContextIndex.Proofs.Store.Exclusion
import ContextIndex.Proofs.Sync.Correspondence
import ContextIndex.Proofs.Sync.UpToDate

/-!
# Accepted pushes

No job gets lost: each one that was accepted waits, runs, or is over (`Desk.Kept.tickets`).  A push
whose job is over was applied, or its sync failed, or the sync waited for the lease as long as it
may and somebody still had it (`Fate`).  In the last case the changes are not applied, and nobody
comes back to them (`Desk.push_given_up`).

What a push may come to is a property of the ends of its script in surroundings where the clock does
not go back (`Script.meets_push`).
-/

namespace ContextIndex.Sync

open Remote

/-! ## Reports -/

/-- The report has this many files: each of them was written, left as it was or deleted, or it
failed. -/
structure Report.Counts (r : Report) (n : Nat) : Prop where
  seen : r.filesSeen = n
  parts : r.filesWritten + r.filesUnchanged + r.filesDeleted + r.filesFailed = n

theorem Report.counts_empty : Report.Counts {} 0 :=
  ⟨rfl, rfl⟩

theorem Report.Counts.record {r : Report} {n : Nat} (h : r.Counts n) (path : String)
    (result : Except Error FileOutcome) : (r.record path result).Counts (n + 1) := by
  obtain ⟨hseen, hparts⟩ := h
  unfold Report.record
  rcases result with e | _ | _ | _ <;> constructor <;> simp only <;> omega

theorem Report.Counts.recordAll {r : Report} {n : Nat} (h : r.Counts n)
    (results : List FileResult) :
    (results.foldl (fun r x => r.record x.1 x.2) r).Counts (n + results.length) := by
  induction results generalizing r n with
  | nil => exact h
  | cons x results ih =>
    rw [List.length_cons, Nat.add_comm results.length, ← Nat.add_assoc]
    exact ih (h.record x.1 x.2)

/-! ## What becomes of a push -/

/-- The files that a push asks for. -/
def ChangeSet.size (changes : ChangeSet) : Nat :=
  changes.deleted.length + (changes.changed.filter Language.isIndexable).length

/-- How the sync of a push may end that was accepted at this time. -/
inductive Fate {σ : Type} (c : Setup σ) (accepted : Nat) (changes : ChangeSet) : Exit → Prop
  /-- Its run is complete, and the report has all its files. -/
  | applied (report : Report) : report.revision = changes.revision → report.Counts changes.size →
    Fate c accepted changes (.ran (.ok (.completed report)))
  /-- It ended in an error. -/
  | failed (e : Error) : Fate c accepted changes (.ran (.error e))
  /-- It ended in an error at an attempt to take the lease. -/
  | unleased (e : Error) : Fate c accepted changes (.unleased e)
  /-- It waited as long as it may, and at its last attempt there was a lease that did not give
  way. -/
  | gaveUp (l : Lease) (now : Instant) (start stop : Nat) (answer : Except Error Progress) :
    l.givesWay now = false → accepted ≤ start → start + c.options.leaseWait ≤ stop →
    Fate c accepted changes (.gaveUp ⟨some l, now⟩ start stop answer)

/-- How the sync of an accepted push has ended.  Nothing is said of other jobs. -/
def Ticket.Settled {σ : Type} (c : Setup σ) (t : Ticket) (exits : List Exit) : Prop :=
  ∀ repo changes, t.job = .push repo changes →
    ∃ exit, exits = [exit] ∧ Fate c t.clock changes exit

namespace Script

variable {σ α : Type}

/-! ## Scripts while time passes -/

/-- The clock does not go back. -/
def timely (σ : Type) : Terms σ where
  rely w w' := w.clock ≤ w'.clock
  crew _ _ _ := True

theorem timely_fair (c : Setup σ) : (timely σ).Fair c where
  refl _ := Nat.le_refl _
  trans := Nat.le_trans
  crew _ _ := trivial
  turn h _ := ⟨Nat.le_of_eq h.clock_eq.1.symm, trivial⟩
  refuse _ := trivial

/-- A script of which only the answer matters, and that only for what holds of all answers. -/
theorem meets_of_forall (s : Script σ α) {P : α → Prop} (h : ∀ a, P a) (w : World σ) :
    s.Meets (timely σ) (fun a _ => P a) w := by
  induction s generalizing w with
  | ended a => exact h a
  | call world next ih => exact fun refusal w' _ => ih refusal w' _
  | sleep wake next ih => exact ih w
  | crew run workers done next ih => exact ⟨trivial, fun results _ w' _ => ih results w'⟩

/-- A script whose answer does not matter, and what comes after it. -/
theorem meets_then (s : Script σ α) {β : Type} {k : α → Script σ β} {P : β → World σ → Prop}
    (hk : ∀ a w, (k a).Meets (timely σ) P w) (w : World σ) :
    (s.bind k).Meets (timely σ) P w :=
  (meets_of_forall s (fun _ => trivial : ∀ _, True) w).bind fun a w _ => hk a w

/-! ## Waits -/

/-- A refusal of the lease names one that does not give way. -/
def Refused (a : Refusal) : Prop :=
  ∃ l, a.lease = some l ∧ l.givesWay a.now = false

variable (c : Setup σ)

theorem lease_of_takeLease {w w' : World σ} {key label : String} {leaseTime : Nat}
    (h : takeLease w key label leaseTime = (.ok none, w')) :
    Refused ⟨w.store.lease? key, w.now⟩ := by
  unfold takeLease at h
  simp only at h
  split at h
  · cases h
  · have htaken := congrArg Prod.fst h
    simp only [Except.ok.injEq, ite_eq_right_iff, reduceCtorEq, imp_false,
      Bool.not_eq_true] at htaken
    exact Store.exists_lease_of_refused htaken

theorem meets_askLease (key : String) (w : World σ) :
    (askLease c key).Meets (timely σ) (fun a _ => ∀ refusal, a = .ok (.error refusal) →
      Refused refusal) w := by
  refine meets_askStore (fun e _ _ refusal h => ?_) fun w' _ refusal h => ?_
  · cases h
  · split at h
    · cases h
    · cases h
    · next htake =>
      cases h
      exact lease_of_takeLease htake

/-- A wait does not end without the lease before its deadline. -/
theorem meets_awaitLease (key : String) (wait : Wait) (since : Nat) (w : World σ) :
    (awaitLease c key wait since).Meets (timely σ) (fun a _ => ∀ refusal stop,
      a = .ok (.error (refusal, stop)) → Refused refusal ∧ wait.deadline ≤ stop) w := by
  induction wait, since using awaitLease.induct generalizing w with
  | case1 wait since ih =>
    rw [awaitLease]
    refine (meets_askLease c key w).bind fun a w ha => ?_
    split
    · intro _ _ h
      cases h
    · intro _ _ h
      cases h
    · next refusal =>
      intro _ w' _
      simp only [ended_bind]
      split
      · next hnone =>
        intro _ _ h
        cases h
        exact ⟨ha refusal rfl, Wait.deadline_le_of_next? hnone⟩
      -- The pauses grow, but the deadline stays.
      · next wake hnext => exact ih w'.clock wake hnext w'

/-! ## Runs -/

/-- A run that has a report has one with this revision and this many files. -/
def Reported (revision : Option String) (n : Nat) (result : Except Error Outcome) : Prop :=
  ∀ outcome, result = .ok outcome →
    ∃ report, outcome = .completed report ∧ report.revision = revision ∧ report.Counts n

theorem meets_record (run : Run) {n : Nat} (hreport : run.report.Counts n)
    (results : List FileResult) (w : World σ) :
    (record run results).Meets (timely σ)
      (fun a _ => Reported run.revision (n + results.length) a) w := by
  refine meets_then _ (fun _ => meets_then _ fun a w => ?_) w
  cases a with
  | error e =>
    intro _ h
    cases h
  | ok u =>
    intro _ h
    cases h
    have hcounts := hreport.recordAll results
    exact ⟨_, rfl, rfl, hcounts.seen, hcounts.parts⟩

theorem meets_index (run : Run) {n : Nat} (hreport : run.report.Counts n) (w : World σ) :
    (index run).Meets (timely σ) (fun a _ => Reported run.revision (n + run.jobs.length) a) w := by
  refine ⟨trivial, fun results hlength w _ => ?_⟩
  have hlength' : results.length = run.jobs.length := by simpa using hlength
  rw [← hlength']
  exact meets_record run hreport results w

theorem meets_deleteAll (repo : RepoRow) (paths : List String) {report : Report} {n : Nat}
    (hreport : report.Counts n) (w : World σ) :
    (deleteAll repo paths report).Meets (timely σ)
      (fun r _ => r.Counts (n + paths.length)) w := by
  induction paths generalizing report n w with
  | nil => exact hreport
  | cons path paths ih =>
    refine meets_then _ (fun result w => ?_) w
    rw [List.length_cons, Nat.add_comm paths.length, ← Nat.add_assoc]
    exact ih (hreport.record path result) w

/-- Every path is in the report then, or there is a job for it. -/
theorem meets_lookUpAll (repo : RepoRow) (reference : String) (paths : List String)
    {report : Report} (jobs : List FileJob) {n : Nat} (hreport : report.Counts n) (w : World σ) :
    (lookUpAll c repo reference paths report jobs).Meets (timely σ)
      (fun a _ => ∃ m, a.1.Counts m ∧ m + a.2.length = n + jobs.length + paths.length) w := by
  induction paths generalizing report jobs n w with
  | nil => exact ⟨n, hreport, rfl⟩
  | cons path paths ih =>
    have hrecord (result : Except Error FileOutcome) (w : World σ) :
        (lookUpAll c repo reference paths (report.record path result) jobs).Meets (timely σ)
          (fun a _ => ∃ m, a.1.Counts m ∧
            m + a.2.length = n + jobs.length + (path :: paths).length) w := by
      have hlength : n + jobs.length + (path :: paths).length =
          n + 1 + jobs.length + paths.length := by
        rw [List.length_cons]
        omega
      rw [hlength]
      exact ih jobs (hreport.record path result) w
    refine meets_then _ (fun a w => ?_) w
    split
    · next id =>
      have hlength : n + jobs.length + (path :: paths).length =
          n + (FileJob.mk path (some id) :: jobs).length + paths.length := by
        simp only [List.length_cons]
        omega
      rw [hlength]
      exact ih _ hreport w
    · split
      · exact meets_then _ (fun result => meets_then _ fun _ => hrecord result) w
      · exact meets_then _ (fun _ => hrecord _) w

theorem meets_runPartial (row : RepoRow) (holder : String) (changes : ChangeSet) (w : World σ) :
    (runPartial c row holder changes).Meets (timely σ)
      (fun a _ => Reported changes.revision changes.size a) w := by
  refine (meets_deleteAll row changes.deleted Report.counts_empty w).bind fun report w hreport => ?_
  refine meets_then _ (fun _ w => ?_) w
  refine (meets_lookUpAll c row _ _ [] hreport w).bind fun a w ⟨m, hcounts, hlength⟩ => ?_
  have hsize : m + a.2.reverse.length = changes.size := by
    rw [List.length_reverse, hlength]
    simp [ChangeSet.size]
  rw [← hsize]
  exact meets_index _ hcounts w

theorem meets_conclude (key holder : String) {result : Except Error Outcome} {P : Exit → Prop}
    (h : P (.ran result)) (w : World σ) :
    (conclude key holder result).Meets (timely σ) (fun exit _ => P exit) w := by
  refine meets_then _ (fun _ w => ?_) w
  refine meets_then _ (fun _ w => ?_) w
  exact h

/-! ## Pushes -/

theorem meets_partialFrom (row : RepoRow) (changes : ChangeSet) {accepted start : Nat}
    (hstart : accepted ≤ start) (w : World σ) :
    (partialFrom c row changes (.start start c.options.leaseWait) start start).Meets (timely σ)
      (fun exit _ => Fate c accepted changes exit) w := by
  refine (meets_awaitLease c row.fullName _ start w).bind fun a w ha => ?_
  split
  · next e => exact .unleased e
  · next last stop =>
    obtain ⟨⟨l, hl, hway⟩, hdeadline⟩ := ha last stop rfl
    refine meets_then _ (fun answer _ => ?_) w
    obtain ⟨_, now⟩ := last
    cases hl
    exact .gaveUp l now start stop answer hway hstart hdeadline
  · next holder =>
    refine meets_then _ (fun _ w => ?_) w
    refine (meets_runPartial c row holder changes w).bind fun result w hresult => ?_
    refine meets_conclude _ _ ?_ w
    cases result with
    | error e => exact .failed e
    | ok outcome =>
      obtain ⟨report, rfl, hrevision, hcounts⟩ := hresult outcome rfl
      exact .applied report hrevision hcounts

/-- How the sync of a push ends, if it ends. -/
theorem meets_push (repo : RepoId) (changes : ChangeSet) {accepted : Nat} {w : World σ}
    (hw : accepted ≤ w.clock) :
    (partialSync c repo changes).Meets (timely σ)
      (fun exit _ => Fate c accepted changes exit) w := by
  have hfound : (askStore fun w : World σ => (storedRepo repo w, w)).Meets (timely σ)
      (fun _ w' => w.clock ≤ w'.clock) w := meets_askStore (fun _ _ h => h) fun _ h => h
  refine hfound.bind fun a w₁ h₁ => ?_
  split
  · next e => exact .failed e
  · next row =>
    have hclock : (read World.clock).Meets (timely σ) (fun start _ => accepted ≤ start) w₁ :=
      meets_ask fun _ h => Nat.le_trans hw (Nat.le_trans h₁ h)
    exact hclock.bind fun start w hstart => meets_partialFrom c row changes hstart w

theorem meets_job {t : Ticket} {w : World σ} (hw : t.clock ≤ w.clock) :
    (job c t.job).Meets (timely σ) (fun exits _ => t.Settled c exits) w := by
  cases hjob : t.job with
  | push repo changes =>
    refine (meets_push c repo changes hw).bind fun exit _ hfate => ?_
    intro repo' changes' h
    cases hjob.symm.trans h
    exact ⟨exit, rfl, hfate⟩
  | full repo force =>
    refine meets_of_forall _ (fun exits repo' changes' h => ?_) w
    cases hjob.symm.trans h
  | sweep =>
    refine meets_of_forall _ (fun exits repo' changes' h => ?_) w
    cases hjob.symm.trans h

end Script

/-! ## Desks -/

namespace Desk

variable {σ : Type} {c : Setup σ} {x y : Desk σ}

/-- No job got lost, and pushes end as they may. -/
structure Kept (c : Setup σ) (x : Desk σ) : Prop where
  tickets : x.accepted.Perm (x.inbox ++ x.running.map Prod.fst ++ x.ended.map Prod.fst)
  clocks : ∀ t ∈ x.inbox, t.clock ≤ x.world.clock
  timeless : x.Timeless
  meets : ∀ t s, (t, s) ∈ x.running →
    s.Meets (Script.timely σ) (fun exits _ => t.Settled c exits) x.world
  settled : ∀ r ∈ x.ended, r.1.Settled c r.2

theorem kept_fresh (w : World σ) : (fresh w).Kept c where
  tickets := .nil
  clocks _ ht := absurd ht List.not_mem_nil
  timeless _ hr := absurd hr List.not_mem_nil
  meets _ _ hs := absurd hs List.not_mem_nil
  settled _ hr := absurd hr List.not_mem_nil

/-- What others do while the clock does not go back. -/
theorem Kept.pass (hx : x.Kept c) {w : World σ} (hle : x.world.clock ≤ w.clock) :
    Kept c { x with world := w } where
  tickets := hx.tickets
  clocks t ht := Nat.le_trans (hx.clocks t ht) hle
  timeless := hx.timeless
  meets t s hs := (hx.meets t s hs).rely (Script.timely_fair c) (fun _ h => h) hle
  settled := hx.settled

theorem Kept.accept (hx : x.Kept c) (jobs : List Job) {w : World σ}
    (hclock : w.clock = x.world.clock) : (x.accept jobs w).Kept c where
  tickets := by
    simp only [Desk.accept]
    refine (hx.tickets.append_right _).trans ?_
    simp only [List.append_assoc]
    refine List.Perm.append_left _ ?_
    rw [← List.append_assoc]
    exact List.perm_append_comm
  clocks t ht := by
    show t.clock ≤ w.clock
    rw [hclock]
    rcases List.mem_append.mp ht with ht | ht
    · exact hx.clocks t ht
    · obtain ⟨job, -, rfl⟩ := List.mem_map.mp ht
      exact Nat.le_refl _
  timeless := hx.timeless
  meets := (hx.pass (Nat.le_of_eq hclock.symm)).meets
  settled := hx.settled

theorem Kept.start (hx : x.Kept c) {t : Ticket} {inbox : List Ticket}
    (hinbox : x.inbox = t :: inbox) :
    Kept c { x with inbox, running := x.running ++ [(t, Script.job c t.job)] } := by
  have htickets := hx.tickets
  have hclocks := hx.clocks
  rw [hinbox] at htickets hclocks
  refine ⟨?_, fun t' ht' => hclocks t' (List.mem_cons_of_mem _ ht'), ?_, fun t' s hs => ?_,
    hx.settled⟩
  · refine htickets.trans ?_
    rw [List.map_append, ← List.append_assoc]
    exact (List.perm_append_singleton t _).symm.append_right _
  · intro r hr
    rcases List.mem_append.mp hr with hr | hr
    · exact hx.timeless r hr
    · cases List.mem_singleton.mp hr
      exact Script.calls_job c c.service.shields_unit t.job
  · rcases List.mem_append.mp hs with hs | hs
    · exact hx.meets t' s hs
    · cases List.mem_singleton.mp hs
      exact Script.meets_job c (hclocks t List.mem_cons_self)

theorem Kept.work (hx : x.Kept c) {before after : List (Ticket × Script σ (List Exit))}
    {t : Ticket} {s s' : Script σ (List Exit)} {w : World σ}
    (hrunning : x.running = before ++ (t, s) :: after)
    (hstep : Script.Step c (s, x.world) (s', w)) :
    Kept c { x with world := w, running := before ++ (t, s') :: after } := by
  have hmem {r} (hr : r = (t, s) ∨ r ∈ before ++ after) : r ∈ x.running :=
    hrunning ▸ mem_middle.mpr hr
  obtain ⟨hscript, hclock⟩ := (hx.timeless (t, s) (hmem (.inl rfl))).step hstep
  -- For the other jobs the step is something that others do while the clock stands.
  have hpassed := hx.pass (Nat.le_of_eq hclock.symm)
  have htickets := hx.tickets
  rw [hrunning, List.map_append, List.map_cons] at htickets
  refine ⟨?_, hpassed.clocks, fun r hr => ?_, fun t' r hr => ?_, hx.settled⟩
  · simpa only [List.map_append, List.map_cons] using htickets
  · rcases mem_middle.mp hr with rfl | hr
    · exact hscript
    · exact hx.timeless r (hmem (.inr hr))
  · rcases mem_middle.mp hr with heq | hr
    · cases heq
      exact (hx.meets t s (hmem (.inl rfl))).step (Script.timely_fair c) hstep
    · exact hpassed.meets t' r (hmem (.inr hr))

theorem Kept.finish (hx : x.Kept c) {before after : List (Ticket × Script σ (List Exit))}
    {t : Ticket} {exits : List Exit}
    (hrunning : x.running = before ++ (t, .ended exits) :: after) :
    Kept c { x with running := before ++ after, ended := x.ended ++ [(t, exits)] } := by
  have hmem {r} (hr : r = (t, .ended exits) ∨ r ∈ before ++ after) : r ∈ x.running :=
    hrunning ▸ mem_middle.mpr hr
  have htickets := hx.tickets
  rw [hrunning] at htickets
  refine ⟨?_, hx.clocks, fun r hr => hx.timeless r (hmem (.inr hr)),
    fun t' s hs => hx.meets t' s (hmem (.inr hs)), fun r hr => ?_⟩
  · refine htickets.trans ?_
    simp only [List.map_append, List.map_cons, List.map_nil, List.append_assoc, List.cons_append]
    refine List.Perm.append_left _ (List.Perm.append_left _ ?_)
    rw [← List.append_assoc]
    exact (List.perm_append_singleton t _).symm
  · rcases List.mem_append.mp hr with hr | hr
    · exact hx.settled r hr
    · cases List.mem_singleton.mp hr
      exact hx.meets t _ (hmem (.inl rfl))

/-- A trigger of a full sync changes nothing but a status. -/
theorem world_triggerFull (repo : RepoId) (force : Bool) (q : Queue) (w : World σ) :
    ∃ status, (Queue.triggerFull repo force q w).2.2 = { w with status } := by
  unfold Queue.triggerFull
  simp only
  split <;> exact ⟨_, rfl⟩

/-- Whatever happens next, no job gets lost. -/
theorem Kept.step (hx : x.Kept c) (h : x.Step c y) : y.Kept c := by
  cases h with
  | full repo force key q w htrigger =>
    obtain ⟨status, hw⟩ := world_triggerFull repo force {} x.world
    rw [htrigger] at hw
    obtain rfl : w = { x.world with status } := hw
    exact hx.accept q.inbox rfl
  | push e key q htrigger => exact hx.accept q.inbox rfl
  | sweep key q htrigger => exact hx.accept q.inbox rfl
  | start t inbox hinbox => exact hx.start hinbox
  | work before after t s s' w hrunning hstep => exact hx.work hrunning hstep
  | finish before after t exits hrunning => exact hx.finish hrunning
  | others store host now clock serial hclock => exact hx.pass hclock

theorem Kept.steps (hx : x.Kept c) (h : x.Steps c y) : y.Kept c := by
  induction h with
  | refl => exact hx
  | tail _ hstep ih => exact ih.step hstep

/-- A job that was accepted stays among the accepted ones. -/
theorem accepted_step {t : Ticket} (ht : t ∈ x.accepted) (h : x.Step c y) : t ∈ y.accepted := by
  cases h with
  | full | push | sweep => exact List.mem_append_left _ ht
  | start | work | finish | others => exact ht

theorem accepted_steps {t : Ticket} (ht : t ∈ x.accepted) (h : x.Steps c y) : t ∈ y.accepted := by
  induction h with
  | refl => exact ht
  | tail _ hstep ih => exact accepted_step ih hstep

/-- What a push that is accepted puts into the queue. -/
theorem inbox_triggerPush {e : PushEvent} {key : String} {q : Queue}
    (h : Queue.triggerPush c e {} = .ok (.accepted key, q)) :
    ∃ repo, e.repoId = .ok repo ∧ key = repo.fullName ∧ q.inbox = [.push repo e.changeSet] := by
  unfold Queue.triggerPush at h
  split at h
  · cases h
  · next repo hrepo =>
    simp only at h
    split at h
    · cases h
    · split at h
      · cases h
      · cases h
        exact ⟨repo, hrepo, rfl, rfl⟩

/-- When the queue has been shut down every accepted job is over, once for each time that it was
accepted.  A push that was accepted on the way was applied with all its files, or it ended in an
error, or its sync waited as long as it may and found a lease that did not give way. -/
theorem pushes_settled {w : World σ} (hbefore : (fresh w).Steps c x) {e : PushEvent} {key : String}
    {q : Queue} (haccepted : Queue.triggerPush c e {} = .ok (.accepted key, q))
    (hafter : (x.accept q.inbox x.world).Steps c y) (hinbox : y.inbox = [])
    (hrunning : y.running = []) :
    y.accepted.Perm (y.ended.map Prod.fst) ∧
    ∃ repo exit, e.repoId = .ok repo ∧
      (⟨.push repo e.changeSet, x.world.clock⟩, [exit]) ∈ y.ended ∧
      Fate c x.world.clock e.changeSet exit := by
  have hx : x.Kept c := (kept_fresh w).steps hbefore
  have hy : y.Kept c := (hx.accept q.inbox rfl).steps hafter
  obtain ⟨repo, hrepo, -, hjobs⟩ := inbox_triggerPush haccepted
  have htickets := hy.tickets
  rw [hinbox, hrunning] at htickets
  refine ⟨htickets, repo, ?_⟩
  have hticket : (⟨.push repo e.changeSet, x.world.clock⟩ : Ticket) ∈ y.accepted := by
    refine accepted_steps (List.mem_append_right _ ?_) hafter
    rw [hjobs]
    exact List.mem_singleton.mpr rfl
  obtain ⟨⟨t, exits⟩, hended, rfl⟩ := List.mem_map.mp (htickets.mem_iff.mp hticket)
  obtain ⟨exit, rfl, hfate⟩ := hy.settled _ hended repo e.changeSet rfl
  exact ⟨exit, hrepo, hended, hfate⟩

/-! ### A push and nothing else -/

/-- A push that waits alone starts, and its sync runs to its end. -/
theorem steps_push (hrunning : x.running = []) {t : Ticket} {inbox : List Ticket}
    (hinbox : x.inbox = t :: inbox) {repo : RepoId} {changes : ChangeSet}
    (hjob : t.job = .push repo changes) :
    ∃ exit : Exit, exit.result = (partialSync c repo changes x.world).1 ∧
      x.Steps c { x with world := (partialSync c repo changes x.world).2, inbox,
                         ended := x.ended ++ [(t, [exit])] } := by
  obtain ⟨world, inbox', running, ended, accepted⟩ := x
  obtain ⟨⟩ : running = [] := hrunning
  obtain ⟨⟩ : inbox' = t :: inbox := hinbox
  obtain ⟨order, horder⟩ := partialSync_isOrder c repo changes world
  obtain ⟨s, hs, hsteps⟩ := (Script.alone_partialSyncIn c horder).of_map
  obtain ⟨exit, rfl, hexit⟩ := Script.eq_ended_of_map hs.symm
  have hscript : Script.Alone c (Script.job c t.job, world)
      (.ended [exit], (partialSync c repo changes world).2) := by
    rw [hjob]
    exact hsteps.bind fun exit => .ended [exit]
  exact ⟨exit, hexit, .head (.start t inbox rfl)
    ((steps_alone rfl hscript).tail (.finish [] [] t [exit] rfl))⟩

/-- A desk that has accepted one push, whose sync is over. -/
def afterPush (c : Setup σ) (repo : RepoId) (changes : ChangeSet) (w : World σ) (exit : Exit) :
    Desk σ :=
  { world := (partialSync c repo changes w).2
    ended := [(⟨.push repo changes, w.clock⟩, [exit])]
    accepted := [⟨.push repo changes, w.clock⟩] }

theorem steps_afterPush (c : Setup σ) (repo : RepoId) (changes : ChangeSet) (w : World σ) :
    ∃ exit : Exit, exit.result = (partialSync c repo changes w).1 ∧
      ((fresh w).accept [.push repo changes] w).Steps c (afterPush c repo changes w exit) :=
  steps_push (x := (fresh w).accept [.push repo changes] w) rfl rfl rfl

/-- The event of the first push to the files that trade their contents. -/
def tradingEvent : PushEvent :=
  { repository := "octo/widgets"
    reference := some "refs/heads/main"
    after := some (trading 1).head
    commits := [{ modified := ["a.py"] }] }

theorem tradingEvent_accepted : Queue.triggerPush hurried tradingEvent {} =
    .ok (.accepted widgets.fullName, ⟨[.push widgets (tradingPush 0)], [], []⟩) := by
  have hrepo : tradingEvent.repoId = .ok widgets := by decide +kernel
  have hbranch : tradingEvent.targetsBranch hurried.options.branch = true := by decide +kernel
  have hchanges : tradingEvent.changeSet = tradingPush 0 := by decide +kernel
  unfold Queue.triggerPush
  rw [hrepo]
  simp only [hbranch, hchanges]
  rfl

/-- The sync of the push is over and its run is complete. -/
theorem pushes_settled_applied : ∃ report : Report,
    ((fresh registered).accept [.push widgets (tradingPush 0)] registered).Steps hurried
      (afterPush hurried widgets (tradingPush 0) registered (.ran (.ok (.completed report)))) ∧
    report.revision = some "cc" ∧ report.Counts 1 := by
  obtain ⟨exit, hexit, hsteps⟩ := steps_afterPush hurried widgets (tradingPush 0) registered
  obtain ⟨-, repo, exit', -, hended, hfate⟩ :=
    pushes_settled (x := fresh registered) .refl tradingEvent_accepted hsteps rfl rfl
  have hreport : Outcome.isReport (partialSync hurried widgets (tradingPush 0) registered).1 =
      true := by decide +kernel
  rw [← hexit] at hreport
  cases List.mem_singleton.mp hended
  cases hfate with
  | applied report hrevision hcounts =>
    have hsize : tradingEvent.changeSet.size = 1 := by decide +kernel
    exact ⟨report, hsteps, hrevision, hsize ▸ hcounts⟩
  | failed e => cases hreport
  | unleased e => cases hreport
  | gaveUp l now start stop answer => cases answer <;> cases hreport

/-- A push that was accepted is not applied when somebody has the lease for the whole wait. -/
theorem push_given_up : ∃ y : Desk Memory,
    Queue.triggerPush hurried tradingEvent {} =
      .ok (.accepted widgets.fullName, ⟨[.push widgets (tradingPush 0)], [], []⟩) ∧
    ((fresh leased).accept [.push widgets (tradingPush 0)] leased).Steps hurried y ∧
    y.inbox = [] ∧ y.running = [] ∧
    (∀ r ∈ y.ended, ∀ exit ∈ r.2, ∃ p, exit.result = .ok (.alreadyRunning p)) ∧
    (y.world.store.rowAt widgets "a.py").map FileRow.content = some "A = 1\n" ∧
    (Memory.fileTree (trading 1) "a.py").map File.content = some "B = 2\n" := by
  obtain ⟨exit, hexit, hsteps⟩ := steps_afterPush hurried widgets (tradingPush 0) leased
  have hanswer : (partialSync hurried widgets (tradingPush 0) leased).1 =
      .ok (.alreadyRunning { state := .syncing, startedAt := some ⟨1700000000000⟩ }) := by
    decide +kernel
  refine ⟨_, tradingEvent_accepted, hsteps, rfl, rfl, fun r hr e he => ?_, ?_, by decide +kernel⟩
  · cases List.mem_singleton.mp hr
    cases List.mem_singleton.mp he
    exact ⟨_, hexit.trans hanswer⟩
  · simp only [afterPush]
    decide +kernel

end Desk

end ContextIndex.Sync
