import ContextIndex.Proofs.Sync.Phases
import ContextIndex.Proofs.Sync.Program
import ContextIndex.Proofs.Sync.Unblocked

/-!
# The effects of a sync on its surroundings

A sync of one repository has few effects on the world: it takes and gives up the lease of the
repository, writes under the number of its row, notes what it does under its name, and asks the
host.  A relation that allows each of them (`Effects`, and `Ends` for the notes at the end) is
therefore kept by every call of the sync (`within_full`, `within_partialSync`), whatever the others
do between two calls.  The number of a row is known from the store alone, so what is said of the
calls may depend on an invariant of the world.
-/

namespace ContextIndex.Sync

open ContextIndex.Store (Names)

/-! ## Calls under an invariant -/

namespace Script

variable {σ α β : Type}

/-- Where the invariant holds, every call that the script may come to changes the world in this way.
Its runs and its answers are such. -/
def Within (I : World σ → Prop) (G : World σ → World σ → Prop) (B : Run → Prop) (P : α → Prop) :
    Script σ α → Prop
  | .ended a => P a
  | .call world next => ∀ refusal w, I w →
    G w (world refusal w) ∧ (next refusal w).Within I G B P
  | .sleep _ next => next.Within I G B P
  | .crew run _ _ next => B run ∧ ∀ results, (next results).Within I G B P

section Within

variable {I : World σ → Prop} {G : World σ → World σ → Prop} {B : Run → Prop} {P : α → Prop}

theorem Within.bind {Q : β → Prop} {s : Script σ α} (hs : s.Within I G B P) {k : α → Script σ β}
    (hk : ∀ a, P a → (k a).Within I G B Q) : (s.bind k).Within I G B Q := by
  induction s with
  | ended a => exact hk a hs
  | call world next ih =>
    exact fun refusal w hw => ⟨(hs refusal w hw).1, ih refusal w (hs refusal w hw).2⟩
  | sleep wake next ih => exact ih hs
  | crew run workers done next ih => exact ⟨hs.1, fun results => ih results (hs.2 results)⟩

theorem Within.mono {B' : Run → Prop} {Q : α → Prop} {s : Script σ α} (hs : s.Within I G B P)
    (hB : ∀ run, B run → B' run) (hP : ∀ a, P a → Q a) : s.Within I G B' Q := by
  induction s with
  | ended a => exact hP a hs
  | call world next ih =>
    exact fun refusal w hw => ⟨(hs refusal w hw).1, ih refusal w (hs refusal w hw).2⟩
  | sleep wake next ih => exact ih hs
  | crew run workers done next ih =>
    exact ⟨hB run hs.1, fun results => ih results (hs.2 results)⟩

theorem Within.step {c : Setup σ} {s s' : Script σ α} {w w' : World σ}
    (hs : s.Within I G B P) (hw : I w) (hrefl : ∀ w, G w w)
    (hcrew : ∀ {run} {k k' : Crew σ}, B run → I k.world → k.Steps c run k' →
      G k.world k'.world)
    (h : Step c (s, w) (s', w')) : s'.Within I G B P ∧ G w w' := by
  cases h with
  | call world next refusal => exact (hs refusal w hw).symm
  | wake wake next => exact ⟨hs, hrefl w⟩
  | turn run k k' next hk => exact ⟨hs, hcrew hs.1 hw hk⟩
  | refuse run k before after x e next => exact ⟨hs, hrefl _⟩
  | join run done next => exact ⟨hs.2 _, hrefl w⟩

theorem within_ask {f : World σ → α × World σ} (hG : ∀ w, I w → G w (f w).2)
    (hP : ∀ w, I w → P (f w).1) : (ask f).Within I G B P :=
  fun _ w hw => ⟨hG w hw, hP w hw⟩

theorem within_askStore {f : World σ → Except Error β × World σ} {P : Except Error β → Prop}
    (hrefl : ∀ w, G w w) (hG : ∀ w, I w → G w (f w).2) (herror : ∀ e, P (.error e))
    (hP : ∀ w, I w → P (f w).1) : (askStore f).Within I G B P := by
  intro refusal w hw
  cases refusal with
  | none => exact ⟨hG w hw, hP w hw⟩
  | some e => exact ⟨hrefl w, herror e⟩

end Within

end Script

/-! ## Effects -/

section Effects

variable {σ : Type}

/-- Everything that a sync of a repository of this name does before its end is allowed.  Its rows
are such wherever the invariant holds. -/
structure Effects (c : Setup σ) (name : String) (I : World σ → Prop) (Row : RepoRow → Prop)
    (G : World σ → World σ → Prop) : Prop where
  refl : ∀ w, G w w
  host : ∀ {w : World σ} {host : σ},
    (∀ Valid : σ → Prop, c.service.Keeps Valid → Valid w.host → Valid host) →
    G w { w with host }
  take : ∀ {w : World σ}, I w → G w (takeLease w name c.label c.options.leaseTime).2
  drop : ∀ {w : World σ} (holder : String), I w → G w (dropLease w name holder)
  begin : ∀ {w : World σ} (now : Instant), G w (w.withStatus fun r => r.begin name now)
  setTotal : ∀ {w : World σ} (total : Nat), G w (w.withStatus fun r => r.setTotal name total)
  fileDone : ∀ {w : World σ}, G w (w.withStatus fun r => r.fileDone name)
  named : ∀ {row : RepoRow}, Row row → row.fullName = name
  stored : ∀ {w : World σ} {repo : RepoId} {row : RepoRow}, I w → repo.fullName = name →
    w.store.getRepo repo = .ok (some row) → Row row
  insert : ∀ {w : World σ} {repo : RepoId} (m : Remote.Metadata), I w → repo.fullName = name →
    G w { w with store := (w.store.insertRepo repo m).2 } ∧
      ∀ row, (w.store.insertRepo repo m).1 = .ok row → Row row
  record : ∀ {w : World σ} {row : RepoRow} (revision : Option String), I w → Row row →
    G w { w with store := w.store.recordSync row.id revision w.now }
  delete : ∀ {w : World σ} {row : RepoRow} (path : String), I w → Row row →
    G w { w with store := (w.store.deleteFile row.id path).2 }

structure Ends (name : String) (G : World σ → World σ → Prop) : Prop where
  finish : ∀ {w : World σ} (now : Instant) (e : Option String),
    G w (w.withStatus fun r => r.finish name now e)
  fail : ∀ {w : World σ} (now : Instant) (e : String),
    G w (w.withStatus fun r => r.fail name now e)
  clearQueued : ∀ {w : World σ}, G w (w.withStatus fun r => r.clearQueued name)

namespace Script

variable {c : Setup σ} {name : String} {I : World σ → Prop} {Row : RepoRow → Prop}
  {G : World σ → World σ → Prop} {B : Run → Prop}

section Parts

variable (h : Effects c name I Row G)
include h

theorem within_read {α : Type} (f : World σ → α) :
    (read f).Within I G B fun _ => True :=
  within_ask (fun w _ => h.refl w) fun _ _ => trivial

theorem within_question {α : Type} (f : World σ → Except Error α) :
    (askStore fun w => (f w, w)).Within I G B fun _ => True :=
  within_askStore h.refl (fun w _ => h.refl w) (fun _ => trivial) fun _ _ => trivial

/-- A call to the store whose answer does not matter. -/
theorem within_store {α : Type} {f : World σ → Except Error α × World σ}
    (hG : ∀ w, I w → G w (f w).2) : (askStore f).Within I G B fun _ => True :=
  within_askStore h.refl hG (fun _ => trivial) fun _ _ => trivial

omit h in
theorem within_note {f : Instant → Registry → Registry}
    (hG : ∀ w : World σ, G w (w.withStatus (f w.now))) :
    (note f).Within I G B fun _ => True :=
  within_ask (fun w _ => hG w) fun _ _ => trivial

/-- A question to the host, which keeps to whatever all questions keep to. -/
theorem within_askHost {α : Type} {f : σ → Remote.Reply σ α}
    (hask : ∀ (Valid : σ → Prop) (h : σ), c.service.Keeps Valid → Valid h → Valid (f h).2) :
    (askHost f).Within I G B fun _ => True :=
  within_ask (fun w _ => h.host fun Valid hkeep hv => hask Valid w.host hkeep hv)
    fun _ _ => trivial

theorem within_progress : (progress name : Script σ _).Within I G B fun _ => True := by
  unfold progress
  refine (within_read h _).bind fun here _ => ?_
  split
  · trivial
  · refine (within_question h _).bind fun l _ => ?_
    split
    · trivial
    · trivial
    · exact (within_read h _).bind fun now _ => trivial

theorem within_release (holder : String) :
    (release name holder : Script σ _).Within I G B fun _ => True :=
  (within_store h fun _ hw => h.drop holder hw).bind fun _ _ => trivial

theorem within_askLease : (askLease c name).Within I G B fun _ => True := by
  refine within_store h fun w hw => ?_
  have htake := h.take hw
  rcases heq : takeLease w name c.label c.options.leaseTime with ⟨taken, w'⟩
  rw [heq] at htake
  cases taken with
  | error e => exact htake
  | ok holder => cases holder <;> exact htake

theorem within_awaitLease (wait : Wait) (since : Nat) :
    (awaitLease c name wait since).Within I G B fun _ => True := by
  induction wait, since using awaitLease.induct with
  | case1 wait since ih =>
    rw [awaitLease]
    refine (within_askLease h).bind fun a _ => ?_
    split
    · trivial
    · trivial
    · refine (within_read h World.clock).bind fun clock _ => ?_
      simp only
      split
      · trivial
      · next wake hnext => exact ih clock wake hnext

theorem within_noteFiles (results : List FileResult) :
    (noteFiles name results : Script σ _).Within I G B fun _ => True := by
  induction results with
  | nil => trivial
  | cons result results ih =>
    have hnote : (note fun _ r => r.fileDone name : Script σ Unit).Within I G B fun _ => True :=
      within_note fun _ => h.fileDone
    exact hnote.bind fun _ _ => ih

theorem within_index {run : Run} (hrow : Row run.repo) :
    (index run : Script σ _).Within I G (fun run => Row run.repo) fun _ => True := by
  refine ⟨hrow, fun results => ?_⟩
  unfold record
  rw [h.named hrow]
  refine (within_noteFiles h results).bind fun _ _ => ?_
  refine (within_store h fun _ hw => h.record run.revision hw hrow).bind fun a _ => ?_
  cases a <;> trivial

theorem within_resolve {repo : RepoId} (hname : repo.fullName = name) :
    (resolve c repo).Within I G B fun a => ∀ row, a = .ok row → Row row := by
  have hget : (askStore fun w : World σ => (w.store.getRepo repo, w)).Within I G B
      fun a => ∀ row, a = .ok (some row) → Row row :=
    within_askStore h.refl (fun w _ => h.refl w) (fun _ => nofun)
      fun _ hw _ hrow => h.stored hw hname hrow
  refine hget.bind fun a hrow => ?_
  split
  · exact nofun
  · intro row heq
    cases heq
    exact hrow _ rfl
  · refine (within_askHost h fun _ _ hkeep hv => hkeep.metadata repo hv).bind fun a _ => ?_
    split
    · exact nofun
    · exact within_askStore h.refl (fun _ hw => (h.insert _ hw hname).1) (fun _ => nofun)
        fun _ hw => (h.insert _ hw hname).2

theorem within_runFull {row : RepoRow} (hrow : Row row) (holder : String) (force : Bool) :
    (runFull c row holder force).Within I G (fun run => Row run.repo) fun _ => True := by
  unfold runFull
  rw [h.named hrow]
  refine (within_askHost h fun _ _ hkeep hv => hkeep.head _ _ hv).bind fun a _ => ?_
  split
  · trivial
  · refine (within_question h _).bind fun a _ => ?_
    split
    · trivial
    · split
      · refine (within_note fun w => h.begin w.now).bind fun _ _ => ?_
        refine (within_askHost h fun _ _ hkeep hv => hkeep.tree _ _ hv).bind fun a _ => ?_
        split
        · trivial
        · exact (within_note fun _ => h.setTotal _).bind fun _ _ => within_index h hrow
      · trivial

theorem within_delete {row : RepoRow} (hrow : Row row) (path : String) :
    (delete row path : Script σ _).Within I G B fun _ => True :=
  within_store h fun _ hw => h.delete path hw hrow

theorem within_deleteAll {row : RepoRow} (hrow : Row row) (paths : List String)
    (report : Report) : (deleteAll row paths report : Script σ _).Within I G B fun _ => True := by
  induction paths generalizing report with
  | nil => trivial
  | cons path paths ih => exact (within_delete h hrow path).bind fun result _ => ih _

theorem within_lookUpAll {row : RepoRow} (hrow : Row row) (reference : String)
    (paths : List String) (report : Report) (jobs : List FileJob) :
    (lookUpAll c row reference paths report jobs).Within I G B fun _ => True := by
  induction paths generalizing report jobs with
  | nil => trivial
  | cons path paths ih =>
    unfold lookUpAll
    rw [h.named hrow]
    refine (within_askHost h fun _ _ hkeep hv => hkeep.contentId _ _ _ hv).bind fun a _ => ?_
    have hnote : (note fun _ r => r.fileDone name : Script σ Unit).Within I G B fun _ => True :=
      within_note fun _ => h.fileDone
    split
    · exact ih _ _
    · split
      · exact (within_delete h hrow path).bind fun _ _ => hnote.bind fun _ _ => ih _ _
      · exact hnote.bind fun _ _ => ih _ _

theorem within_runPartial {row : RepoRow} (hrow : Row row) (holder : String)
    (changes : ChangeSet) :
    (runPartial c row holder changes).Within I G (fun run => Row run.repo) fun _ => True := by
  unfold runPartial
  rw [h.named hrow]
  refine (within_deleteAll h hrow _ _).bind fun report _ => ?_
  refine (within_note fun _ => h.setTotal _).bind fun _ _ => ?_
  exact (within_lookUpAll h hrow _ _ _ _).bind fun _ _ => within_index h hrow

end Parts

/-! ## Whole syncs -/

section Whole

variable (h : Effects c name I Row G) (hends : Ends name G)
include h hends

theorem within_conclude (holder : String) (result : Except Error Outcome) :
    (conclude name holder result : Script σ _).Within I G B fun _ => True := by
  refine (within_release h holder).bind fun _ _ => (within_note fun w => ?_).bind fun _ _ => ?_
  · split
    · exact hends.finish _ _
    · exact hends.clearQueued
    · exact hends.fail _ _
  · trivial

theorem within_fullFrom {row : RepoRow} (hrow : Row row) (force : Bool) :
    (fullFrom c name row force).Within I G (fun run => Row run.repo) fun _ => True := by
  unfold fullFrom
  rw [h.named hrow]
  refine (within_askLease h).bind fun a _ => ?_
  split
  · trivial
  · refine (within_note fun _ => hends.clearQueued).bind fun _ _ => ?_
    exact (within_progress h).bind fun _ _ => trivial
  · exact (within_runFull h hrow _ force).bind fun _ _ => within_conclude h hends _ _

theorem within_full {repo : RepoId} (hname : repo.fullName = name) (force : Bool) :
    (full c repo force).Within I G (fun run => Row run.repo) fun _ => True := by
  unfold full
  rw [hname]
  refine (within_resolve h hname).bind fun a hrow => ?_
  split
  · exact (within_note fun _ => hends.fail _ _).bind fun _ _ => trivial
  · exact within_fullFrom h hends (hrow _ rfl) force

theorem within_partialFrom {row : RepoRow} (hrow : Row row) (changes : ChangeSet) (wait : Wait)
    (start since : Nat) :
    (partialFrom c row changes wait start since).Within I G (fun run => Row run.repo)
      fun _ => True := by
  unfold partialFrom
  rw [h.named hrow]
  refine (within_awaitLease h wait since).bind fun a _ => ?_
  split
  · trivial
  · exact (within_progress h).bind fun _ _ => trivial
  · refine (within_note fun w => h.begin w.now).bind fun _ _ => ?_
    exact (within_runPartial h hrow _ changes).bind fun _ _ => within_conclude h hends _ _

theorem within_partialSync {repo : RepoId} (hname : repo.fullName = name) (changes : ChangeSet) :
    (partialSync c repo changes).Within I G (fun run => Row run.repo) fun _ => True := by
  have hget : (askStore fun w : World σ => (storedRepo repo w, w)).Within I G
      (fun run => Row run.repo) fun a => ∀ row, a = .ok row → Row row :=
    within_askStore h.refl (fun w _ => h.refl w) (fun _ => nofun)
      fun _ hw _ hrow => h.stored hw hname (getRepo_of_storedRepo hrow)
  refine hget.bind fun a hrow => ?_
  split
  · trivial
  · exact (within_read h _).bind fun now _ => within_partialFrom h hends (hrow _ rfl) _ _ _ _

end Whole

/-- A job that is not about a repository has the effects of syncs of other ones. -/
theorem within_job_other {key : String} {Row : String → RepoRow → Prop} {j : Job}
    (heffects : ∀ name, key ≠ name → Effects c name I (Row name) G)
    (hends : ∀ name, key ≠ name → Ends name G) (h : ¬ j.Concerns key) :
    (job c j).Within I G (fun run => ∃ name, key ≠ name ∧ Row name run.repo) fun _ => True := by
  cases j with
  | full repo force =>
    have hne : key ≠ repo.fullName := fun heq => h heq.symm
    have hfull := within_full (heffects _ hne) (hends _ hne) rfl force
    exact (hfull.mono (fun _ hrow => ⟨_, hne, hrow⟩) fun _ h => h).bind fun _ _ => trivial
  | push repo changes =>
    have hne : key ≠ repo.fullName := fun heq => h heq.symm
    have hpush := within_partialSync (heffects _ hne) (hends _ hne) rfl changes
    exact (hpush.mono (fun _ hrow => ⟨_, hne, hrow⟩) fun _ h => h).bind fun _ _ => trivial
  | sweep => exact (h trivial).elim

end Script

end Effects

end ContextIndex.Sync
