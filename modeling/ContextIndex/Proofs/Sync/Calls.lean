import ContextIndex.Proofs.Sync.Changes
import ContextIndex.Proofs.Sync.Program

/-!
# What the calls of a sync do

Outside its files a sync makes a few kinds of changes to the store, asks the host, and notes its
status.  None of its calls writes a file or turns the clock (`Spares`), and it indexes files of its
own repository only (`calls_runFull`, `calls_partialFrom`).
-/

namespace ContextIndex

/-- Only questions for files change what this shows of a host. -/
structure Remote.Service.Shields {σ γ : Type} (s : Remote.Service σ) (view : σ → γ) : Prop where
  metadata : ∀ repo h, view (s.metadata repo h).2 = view h
  head : ∀ repo branch h, view (s.head repo branch h).2 = view h
  tree : ∀ repo ref h, view (s.tree repo ref h).2 = view h
  contentId : ∀ repo path ref h, view (s.contentId repo path ref h).2 = view h

namespace Sync

/-- What a call that is none of a worker's may change: no file of the store, not what the view shows
of the host, and not the clock. -/
structure Spares {σ γ : Type} (view : σ → γ) (w w' : World σ) : Prop where
  store : Changes .byRules (fun _ => False) w.store w'.store
  host : view w'.host = view w.host
  clock : w'.clock = w.clock

/-- A run of this repository, none of whose workers has begun. -/
structure Fresh (row : RepoRow) (run : Run) (workers : List Worker) : Prop where
  repo : run.repo = row
  waiting : ∀ x ∈ workers, x.stage = .waiting

section Spares

variable {σ γ : Type} {view : σ → γ}

theorem Spares.refl (w : World σ) : Spares view w w :=
  ⟨.refl, rfl, rfl⟩

/-- A call that makes one change to the store. -/
theorem Spares.of_change {w w' : World σ}
    (h : Change .byRules (fun _ => False) w.store w'.store)
    (hhost : w'.host = w.host) (hclock : w'.clock = w.clock) : Spares view w w' :=
  ⟨.single h, congrArg view hhost, hclock⟩

theorem takeLease_spares (w : World σ) (key label : String) (leaseTime : Nat) :
    Spares view w (takeLease w key label leaseTime).2 := by
  unfold takeLease
  split
  · exact ⟨.refl, rfl, rfl⟩
  · exact .of_change (.acquire _ key _ _ _) rfl rfl

end Spares

/-! ## Workers -/

theorem Worker.Acts.clock_eq {σ : Type} {c : Setup σ} {run : Run} {x : Worker} {turn : Turn}
    {w w' : World σ} (h : x.Acts c run w turn w') :
    w'.clock = w.clock ∧ w'.status = w.status := by
  cases h with
  | skip => exact ⟨rfl, rfl⟩
  | begin => exact ⟨rfl, rfl⟩
  | miss => exact ⟨rfl, rfl⟩
  | get => exact ⟨rfl, rfl⟩
  | write file result w' hstage hwrite =>
    have hworld := store_writeFetched c run.repo x.job.path file run.force w
    rw [hwrite] at hworld
    subst hworld
    exact ⟨rfl, rfl⟩

/-- Workers do not touch the clock and the status. -/
theorem Crew.Steps.clock_eq {σ : Type} {c : Setup σ} {run : Run} {k k' : Crew σ}
    (h : k.Steps c run k') :
    k'.world.clock = k.world.clock ∧ k'.world.status = k.world.status := by
  cases h with
  | idle => exact ⟨rfl, rfl⟩
  | on before after x stage w hworkers hpermit hacts => exact hacts.clock_eq
  | ended before after x result w hworkers hacts => exact hacts.clock_eq

namespace Script

/-! ## Calls of a sync -/

variable {σ γ α : Type} {view : σ → γ} {Begins : Run → List Worker → Prop}

theorem calls_read (f : World σ → α) : (read f).Calls (Spares view) Begins :=
  calls_ask fun w => .refl w

theorem calls_note (f : Instant → Registry → Registry) : (note f).Calls (Spares view) Begins :=
  calls_ask fun _ => ⟨.refl, rfl, rfl⟩

theorem calls_askHost {f : σ → Remote.Reply σ α} (h : ∀ host, view (f host).2 = view host) :
    (askHost f).Calls (Spares view) Begins :=
  calls_ask fun w => ⟨.refl, h w.host, rfl⟩

/-- A question to the store changes nothing. -/
theorem calls_question (f : World σ → Except Error α) :
    (askStore fun w => (f w, w)).Calls (Spares view) Begins :=
  calls_askStore .refl .refl

theorem calls_change {f : World σ → Except Error α × World σ}
    (h : ∀ w, Change .byRules (fun _ => False) w.store (f w).2.store)
    (hhost : ∀ w, (f w).2.host = w.host) (hclock : ∀ w, (f w).2.clock = w.clock) :
    (askStore f).Calls (Spares view) Begins :=
  calls_askStore .refl fun w => .of_change (h w) (hhost w) (hclock w)

theorem calls_progress (key : String) :
    (progress key : Script σ _).Calls (Spares view) Begins := by
  unfold progress
  refine (calls_read _).bind fun here => ?_
  split
  · trivial
  · refine (calls_question _).bind fun l => ?_
    split
    · trivial
    · trivial
    · exact (calls_read _).bind fun now => trivial

theorem calls_release (key holder : String) :
    (release key holder : Script σ _).Calls (Spares view) Begins := by
  refine (calls_change (fun _ => .release _ key holder) (fun _ => rfl) fun _ => rfl).bind ?_
  exact fun _ => trivial

theorem calls_conclude (key holder : String) (result : Except Error Outcome) :
    (conclude key holder result : Script σ _).Calls (Spares view) Begins :=
  (calls_release key holder).bind fun _ => (calls_note _).bind fun _ => trivial

theorem calls_noteFiles (key : String) (results : List FileResult) :
    (noteFiles key results : Script σ _).Calls (Spares view) Begins := by
  induction results with
  | nil => trivial
  | cons result results ih => exact (calls_note fun _ r => r.fileDone key).bind fun _ => ih

theorem calls_index {run : Run} {row : RepoRow} (hrepo : run.repo = row) :
    (index run : Script σ _).Calls (Spares view) (Fresh row) := by
  constructor
  · refine ⟨hrepo, fun x hx => ?_⟩
    obtain ⟨job, -, rfl⟩ := List.mem_map.mp hx
    rfl
  · intro results
    refine (calls_noteFiles _ results).bind fun _ => ?_
    refine (calls_change (fun _ => .record _ _ _ _) (fun _ => rfl) fun _ => rfl).bind fun a => ?_
    cases a <;> trivial

theorem calls_delete (repo : RepoRow) (path : String) :
    (delete repo path : Script σ _).Calls (Spares view) Begins :=
  calls_change (fun _ => .delete _ _ _) (fun _ => rfl) fun _ => rfl

variable (c : Setup σ)

theorem calls_askLease (key : String) : (askLease c key).Calls (Spares view) Begins := by
  refine calls_askStore .refl fun w => ?_
  have h : Spares view w _ := takeLease_spares w key c.label c.options.leaseTime
  rcases htake : takeLease w key c.label c.options.leaseTime with ⟨taken, w'⟩
  rw [htake] at h
  cases taken with
  | error e => exact h
  | ok holder => cases holder <;> exact h

theorem calls_awaitLease (key : String) (wait : Wait) (since : Nat) :
    (awaitLease c key wait since).Calls (Spares view) Begins := by
  induction wait, since using awaitLease.induct with
  | case1 wait since ih =>
    rw [awaitLease]
    refine (calls_askLease c key).bind fun a => ?_
    split
    · trivial
    · trivial
    · refine (calls_read World.clock).bind fun clock => ?_
      simp only
      split
      · trivial
      · next wake hnext => exact ih clock wake hnext

theorem calls_deleteAll (repo : RepoRow) (paths : List String) (report : Report) :
    (deleteAll repo paths report : Script σ _).Calls (Spares view) Begins := by
  induction paths generalizing report with
  | nil => trivial
  | cons path paths ih => exact (calls_delete repo path).bind fun result => ih _

variable (hservice : c.service.Shields view)
include hservice

theorem calls_resolve (repo : RepoId) : (resolve c repo).Calls (Spares view) Begins := by
  refine (calls_question _).bind fun a => ?_
  split
  · trivial
  · trivial
  · refine (calls_askHost (hservice.metadata repo)).bind fun a => ?_
    split
    · trivial
    · exact calls_change (fun _ => .insert _ _ _) (fun _ => rfl) fun _ => rfl

theorem calls_runFull (row : RepoRow) (holder : String) (force : Bool) :
    (runFull c row holder force).Calls (Spares view) (Fresh row) := by
  refine (calls_askHost (hservice.head _ _)).bind fun a => ?_
  split
  · trivial
  · refine (calls_question _).bind fun a => ?_
    split
    · trivial
    · split
      · refine (calls_note _).bind fun _ => (calls_askHost (hservice.tree _ _)).bind fun a => ?_
        split
        · trivial
        · exact (calls_note _).bind fun _ => calls_index rfl
      · trivial

theorem calls_fullFrom (key : String) (row : RepoRow) (force : Bool) :
    (fullFrom c key row force).Calls (Spares view) (Fresh row) := by
  refine (calls_askLease c key).bind fun a => ?_
  split
  · trivial
  · exact (calls_note _).bind fun _ => (calls_progress _).bind fun _ => trivial
  · exact (calls_runFull c hservice row _ force).bind fun _ => calls_conclude _ _ _

theorem calls_lookUpAll (repo : RepoRow) (reference : String) (paths : List String)
    (report : Report) (jobs : List FileJob) :
    (lookUpAll c repo reference paths report jobs).Calls (Spares view) Begins := by
  induction paths generalizing report jobs with
  | nil => trivial
  | cons path paths ih =>
    refine (calls_askHost (hservice.contentId _ _ _)).bind fun a => ?_
    split
    · exact ih _ _
    · split
      · exact (calls_delete repo path).bind fun _ => (calls_note _).bind fun _ => ih _ _
      · exact (calls_note fun _ r => r.fileDone repo.fullName).bind fun _ => ih _ _

theorem calls_partialFrom (row : RepoRow) (changes : ChangeSet) (wait : Wait)
    (start since : Nat) :
    (partialFrom c row changes wait start since).Calls (Spares view) (Fresh row) := by
  refine (calls_awaitLease c _ wait since).bind fun a => ?_
  split
  · trivial
  · exact (calls_progress _).bind fun _ => trivial
  · refine (calls_note _).bind fun _ => Calls.bind ?_ fun _ => calls_conclude _ _ _
    refine (calls_deleteAll row _ _).bind fun report => (calls_note _).bind fun _ => ?_
    exact (calls_lookUpAll c hservice row _ _ _ _).bind fun _ => calls_index rfl

theorem calls_full (repo : RepoId) (force : Bool) :
    (full c repo force).Calls (Spares view) fun _ _ => True := by
  refine (calls_resolve c hservice repo).bind fun a => ?_
  split
  · exact (calls_note _).bind fun _ => trivial
  · exact (calls_fullFrom c hservice _ _ force).mono fun _ _ _ => trivial

theorem calls_partialSync (repo : RepoId) (changes : ChangeSet) :
    (partialSync c repo changes).Calls (Spares view) fun _ _ => True := by
  refine (calls_question _).bind fun a => ?_
  split
  · trivial
  · refine (calls_read _).bind fun now => ?_
    exact (calls_partialFrom c hservice _ changes _ _ _).mono fun _ _ _ => trivial

theorem calls_sweep (rows : List RepoRow) :
    (sweep c rows).Calls (Spares view) fun _ _ => True := by
  induction rows with
  | nil => trivial
  | cons row rows ih =>
    exact (calls_full c hservice _ _).bind fun _ => ih.bind fun _ => trivial

theorem calls_job (j : Job) : (job c j).Calls (Spares view) fun _ _ => True := by
  cases j with
  | full repo force => exact (calls_full c hservice repo force).bind fun _ => trivial
  | push repo changes => exact (calls_partialSync c hservice repo changes).bind fun _ => trivial
  | sweep =>
    refine (calls_question _).bind fun a => ?_
    split
    · trivial
    · exact calls_sweep c hservice _

end Script

end Sync

end ContextIndex
