import ContextIndex.Proofs.Sync.Phases

/-!
# Whole runs as changes of the store

A run changes the store by the operations of `Change` and by nothing else, whatever the host answers
and in whatever order its files are done (`fullSyncIn_moves`, `partialSyncIn_moves`).  So a store
that runs have made stays one, and a question never takes the host out of a set of states that every
question keeps.
-/

namespace ContextIndex.Sync

/-- From a state of the host that is valid, the store goes on by operations of runs and the host
stays valid. -/
def Moves {σ : Type} (c : Setup σ) (Valid : σ → Prop) (Genuine : Remote.File → Prop)
    (w w' : World σ) : Prop :=
  Valid w.host → Changes c.source Genuine w.store w'.store ∧ Valid w'.host

section Moves

variable {σ : Type} {c : Setup σ} {Valid : σ → Prop} {Genuine : Remote.File → Prop}

theorem Moves.trans {w₁ w₂ w₃ : World σ} (h : Moves c Valid Genuine w₁ w₂)
    (h' : Moves c Valid Genuine w₂ w₃) : Moves c Valid Genuine w₁ w₃ := by
  intro hv
  obtain ⟨hs, hv⟩ := h hv
  obtain ⟨hs', hv⟩ := h' hv
  exact ⟨hs.trans hs', hv⟩

theorem Moves.of {w w' : World σ} (hstore : Changes c.source Genuine w.store w'.store)
    (hhost : Valid w.host → Valid w'.host) : Moves c Valid Genuine w w' :=
  fun hv => ⟨hstore, hhost hv⟩

/-! ## Leases -/

theorem takeLease_moves (w : World σ) (key label : String) (leaseTime : Nat) :
    Moves c Valid Genuine w (takeLease w key label leaseTime).2 := by
  unfold takeLease
  split
  · exact .of .refl id
  · exact .of (.single (.acquire w.store key _ _ _)) id

theorem awaitLease_moves (w : World σ) (key label : String) (leaseTime : Nat) (wait : Wait) :
    Moves c Valid Genuine w (awaitLease w key label leaseTime wait).2 := by
  fun_induction awaitLease w key label leaseTime wait with
  | case1 w wait w' h hnext =>
    have : Moves c Valid Genuine w _ := takeLease_moves w key label leaseTime
    rw [h] at this
    exact this
  | case2 w wait w' h t hnext ih =>
    have : Moves c Valid Genuine w _ := takeLease_moves w key label leaseTime
    rw [h] at this
    exact this.trans (Moves.trans (.of .refl id) ih)
  | case3 w wait hr => exact takeLease_moves w key label leaseTime

/-- Nothing has changed but leases and what belongs to waiting for them. -/
structure Waited (c : Setup σ) (Genuine : Remote.File → Prop) (w w' : World σ) : Prop where
  repos : w'.store.repos = w.store.repos
  host : w'.host = w.host
  moves : ∀ P : σ → Prop, Moves c P Genuine w w'

theorem Waited.refl (w : World σ) : Waited c Genuine w w :=
  ⟨rfl, rfl, fun _ => .of .refl id⟩

theorem takeLease_waited (w : World σ) (key label : String) (leaseTime : Nat) :
    Waited c Genuine w (takeLease w key label leaseTime).2 :=
  ⟨repos_takeLease w key label leaseTime, host_takeLease w key label leaseTime,
    fun _ => takeLease_moves w key label leaseTime⟩

theorem awaitLease_waited {w w' : World σ} {key label : String} {leaseTime : Nat} {wait : Wait}
    {taken : Except Error (Option String)}
    (h : awaitLease w key label leaseTime wait = (taken, w')) : Waited c Genuine w w' := by
  have hw : w' = (awaitLease w key label leaseTime wait).2 := by rw [h]
  subst hw
  exact ⟨repos_awaitLease w key label leaseTime wait, host_awaitLease w key label leaseTime wait,
    fun _ => awaitLease_moves w key label leaseTime wait⟩

/-! ## Phases -/

variable (hkeep : c.service.Keeps Valid) (hgive : c.service.Gives Valid Genuine)

include hkeep

theorem resolveRepo_moves (repo : RepoId) (w : World σ) :
    Moves c Valid Genuine w (resolveRepo c repo w).2 := by
  unfold resolveRepo
  split
  · exact .of .refl id
  · exact .of .refl id
  · have hask := hkeep.metadata repo (h := w.host)
    split <;> next h =>
      rw [h] at hask
      first
        | exact .of .refl hask
        | exact .of (.single (.insert w.store repo _)) hask

theorem openFull_moves (row : RepoRow) (holder : String) (force : Bool) (w : World σ) :
    Moves c Valid Genuine w (openFull c row holder force w).2 := by
  have hhead := hkeep.head row.repoId c.options.branch (h := w.host)
  have hrelease : Changes c.source Genuine w.store (w.store.releaseLease row.fullName holder) :=
    .single (.release w.store row.fullName holder)
  unfold openFull failRun
  simp only
  split
  · next e host h =>
    rw [h] at hhead
    exact .of hrelease hhead
  · next head host h =>
    rw [h] at hhead
    split
    · have htree := hkeep.tree row.repoId head (h := host)
      split <;> next h' =>
        unfold World.withStatus at h'
        rw [h'] at htree
        first
          | exact .of .refl fun hv => htree (hhead hv)
          | exact .of hrelease fun hv => htree (hhead hv)
    · exact .of hrelease hhead

theorem startFull_moves (repo : RepoId) (force : Bool) (w : World σ) :
    Moves c Valid Genuine w (startFull c repo force w).2 := by
  have hresolve : Moves c Valid Genuine w _ := resolveRepo_moves hkeep repo w
  unfold startFull
  simp only
  split
  · next e w₁ h =>
    rw [h] at hresolve
    exact hresolve.trans (.of .refl id)
  · next row w₁ h =>
    rw [h] at hresolve
    have hlease : Moves c Valid Genuine w₁ _ :=
      takeLease_moves w₁ repo.fullName c.label c.options.leaseTime
    split <;> next h' =>
      rw [h'] at hlease
      refine hresolve.trans (hlease.trans ?_)
      first | exact .of .refl id | exact openFull_moves hkeep _ _ _ _

omit hkeep in
theorem deletePath_moves (row : RepoRow) (path : String) (acc : Report × World σ) :
    Moves c Valid Genuine acc.2 (deletePath row path acc).2 :=
  .of (.single (.delete acc.2.store row.id path)) id

theorem lookUp_moves (row : RepoRow) (reference : String) (acc : Lookups σ) (path : String) :
    Moves c Valid Genuine acc.world (lookUp c row reference acc path).world := by
  have hask := hkeep.contentId row.repoId path reference (h := acc.world.host)
  unfold lookUp
  simp only
  split
  · next id host h =>
    rw [h] at hask
    exact .of .refl hask
  · next e host h =>
    rw [h] at hask
    split
    · exact .of (.single (.delete acc.world.store row.id path)) hask
    · exact .of .refl hask

theorem openPartial_moves (row : RepoRow) (holder : String) (changes : ChangeSet) (w : World σ) :
    Moves c Valid Genuine w (openPartial c row holder changes w).2 := by
  have hdelete (paths : List String) (acc : Report × World σ) :
      Moves c Valid Genuine acc.2 (paths.foldl (fun acc p => deletePath row p acc) acc).2 := by
    induction paths generalizing acc with
    | nil => exact .of .refl id
    | cons p paths ih => exact (deletePath_moves row p acc).trans (ih _)
  have hlook (reference : String) (paths : List String) (acc : Lookups σ) :
      Moves c Valid Genuine acc.world (paths.foldl (lookUp c row reference) acc).world := by
    induction paths generalizing acc with
    | nil => exact .of .refl id
    | cons p paths ih => exact (lookUp_moves hkeep row reference acc p).trans (ih _)
  unfold openPartial
  simp only
  refine Moves.trans ?_ (hlook _ _ _)
  have hdeleted := hdelete changes.deleted ({}, w.withStatus fun r => r.begin row.fullName w.now)
  exact fun hv => hdeleted hv

/-! ## Workers -/

/-- A crew keeps the host valid and its workers hold files that the host gave out. -/
def Crew.Honest (Valid : σ → Prop) (Genuine : Remote.File → Prop) (k : Crew σ) : Prop :=
  Valid k.world.host ∧ ∀ x ∈ k.workers, ∀ file, x.stage = .fetched file → Genuine file

include hgive

theorem Worker.Acts.moves {run : Run} {x : Worker} {w w' : World σ} {turn : Turn}
    (h : x.Acts c run w turn w') (hv : Valid w.host)
    (hx : ∀ file, x.stage = .fetched file → Genuine file) :
    Changes c.source Genuine w.store w'.store ∧ Valid w'.host ∧
      ∀ file, turn = .on (.fetched file) → Genuine file := by
  cases h with
  | skip => exact ⟨.refl, hv, nofun⟩
  | begin => exact ⟨.refl, hv, nofun⟩
  | miss e host hstage hf =>
    have := hkeep.fetch run.repo.repoId x.job.path run.reference hv
    rw [hf] at this
    exact ⟨.refl, this, nofun⟩
  | get file host hstage hf =>
    have hval := hkeep.fetch run.repo.repoId x.job.path run.reference hv
    have hgen : (c.service.fetch run.repo.repoId x.job.path run.reference w.host).1 = .ok file →
        Genuine file := hgive _ _ _ hv
    rw [hf] at hval hgen
    exact ⟨.refl, hval, fun file' heq => by cases heq; exact hgen rfl⟩
  | write file result w' hstage hwrite =>
    have hstore := store_writeFetched c run.repo x.job.path file run.force w
    rw [hwrite] at hstore
    simp only at hstore
    subst hstore
    exact ⟨.single (.write w.store run.repo.id c.source x.job.path file w.now run.force
      (fun _ => rfl) (hx file hstage)), hv, nofun⟩

theorem Crew.Steps.honest {run : Run} {k k' : Crew σ} (h : k.Steps c run k')
    (hk : k.Honest Valid Genuine) :
    Changes c.source Genuine k.world.store k'.world.store ∧ k'.Honest Valid Genuine := by
  obtain ⟨hv, hfiles⟩ := hk
  cases h with
  | idle => exact ⟨.refl, hv, hfiles⟩
  | on before after x stage w hworkers hpermit hacts =>
    obtain ⟨hs, hv', hgen⟩ := hacts.moves hkeep hgive hv (hfiles x (by simp [hworkers]))
    refine ⟨hs, hv', fun y hy file hstage => ?_⟩
    rw [hworkers] at hfiles
    simp only [List.mem_append, List.mem_cons] at hy hfiles
    rcases hy with hy | rfl | hy
    · exact hfiles y (.inl hy) file hstage
    · exact hgen file (by simp only at hstage; rw [hstage])
    · exact hfiles y (.inr (.inr hy)) file hstage
  | ended before after x result w hworkers hacts =>
    obtain ⟨hs, hv', -⟩ := hacts.moves hkeep hgive hv (hfiles x (by simp [hworkers]))
    refine ⟨hs, hv', fun y hy => hfiles y ?_⟩
    rw [hworkers]
    simp only [List.mem_append, List.mem_cons] at hy ⊢
    exact hy.imp id .inr

theorem Crew.turns_moves (run : Run) (order : List Nat) {k : Crew σ}
    (hk : k.Honest Valid Genuine) :
    Changes c.source Genuine k.world.store (k.turns c run order).world.store ∧
      (k.turns c run order).Honest Valid Genuine := by
  refine Crew.turns_induction c run
    (fun k' => Changes c.source Genuine k.world.store k'.world.store ∧
      k'.Honest Valid Genuine) (fun k₁ k₂ h₁ hstep => ?_) order ⟨.refl, hk⟩
  obtain ⟨hs, hk₂⟩ := hstep.honest hkeep hgive h₁.2
  exact ⟨h₁.1.trans hs, hk₂⟩

theorem Run.indexIn_moves {run : Run} {order : List Nat} {w w' : World σ}
    {results : List FileResult} (h : run.indexIn c order w = some (results, w')) :
    Moves c Valid Genuine w w' := by
  intro hv
  unfold Run.indexIn at h
  simp only at h
  split at h
  · cases h
    have hcrew : (run.crew w).Honest Valid Genuine := by
      refine ⟨hv, fun x hx file hstage => ?_⟩
      obtain ⟨job, -, rfl⟩ := List.mem_map.mp hx
      cases hstage
    obtain ⟨hs, hhonest⟩ := Crew.turns_moves hkeep hgive run order hcrew
    exact ⟨hs, hhonest.1⟩
  · cases h

/-! ## Runs -/

theorem completeIn_moves {order : List Nat} {p : Phase} {w w' : World σ}
    {result : Except Error Outcome} (h : completeIn c order p w = some (result, w')) :
    Moves c Valid Genuine w w' := by
  cases p with
  | «over» r =>
    cases h
    exact .of .refl id
  | indexing run =>
    unfold completeIn at h
    obtain ⟨⟨results, w₁⟩, hindex, hfinish⟩ := Option.map_eq_some_iff.mp h
    obtain ⟨-, hstore, hhost⟩ := Run.finish_eq run results w₁
    rw [hfinish] at hstore hhost
    refine (Run.indexIn_moves hkeep hgive hindex).trans ?_
    intro hv
    rw [hstore, hhost]
    exact ⟨.tail (.single (.record w₁.store run.repo.id run.revision w₁.now))
      (.release _ run.repo.fullName run.holder), hv⟩

/-- A full sync changes the store by operations of runs only. -/
theorem fullSyncIn_moves {order : List Nat} {repo : RepoId} {force : Bool} {w w' : World σ}
    {result : Except Error Outcome} (h : fullSyncIn c order repo force w = some (result, w')) :
    Moves c Valid Genuine w w' := by
  unfold fullSyncIn at h
  exact (startFull_moves hkeep repo force w).trans (completeIn_moves hkeep hgive h)

/-- A partial sync changes the store by operations of runs only. -/
theorem partialSyncIn_moves {order : List Nat} {repo : RepoId} {changes : ChangeSet}
    {w w' : World σ} {result : Except Error Outcome}
    (h : partialSyncIn c order repo changes w = some (result, w')) :
    Moves c Valid Genuine w w' := by
  unfold partialSyncIn at h
  split at h
  · cases h
    exact .of .refl id
  · next row hrow =>
    have hlease : Moves c Valid Genuine w _ := awaitLease_moves w row.fullName c.label
      c.options.leaseTime (.start w.clock c.options.leaseWait)
    simp only at h
    split at h <;> next h' =>
      rw [h'] at hlease
      first
        | cases h; exact hlease
        | exact hlease.trans ((openPartial_moves hkeep row _ changes _).trans
            (completeIn_moves hkeep hgive h))

end Moves

end ContextIndex.Sync
