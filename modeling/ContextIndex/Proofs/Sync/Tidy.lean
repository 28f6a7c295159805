import ContextIndex.Proofs.Sync.Calls
import ContextIndex.Proofs.Sync.Phases

/-!
# Scripts that leave what they enter

A repository that is queued or syncing takes no further full sync.  Who brings it into one of these
states has to take it out again, whatever fails on the way.  For a script that is a property of all
its ends: it does not end before one of its calls has taken the repository out of the state
(`Script.Leaves`).  A full sync that was accepted takes its repository out of the queue unless it
ends at its attempt to take the lease (`Script.leaves_full`), and no sync leaves a repository
syncing (`Script.tidy_full`, `Script.tidy_partialSync`).
-/

namespace ContextIndex.Sync

/-! ## Status by repository -/

theorem lookup_putEntry_ne {key k : String} (h : k ≠ key) (p : Progress)
    (es : List (String × Progress)) :
    (Registry.putEntry key p es).lookup k = es.lookup k := by
  have hne : (k == key) = false := beq_eq_false_iff_ne.mpr h
  induction es with
  | nil => simp [Registry.putEntry, List.lookup_cons, hne]
  | cons e es ih =>
    obtain ⟨k', q⟩ := e
    simp only [Registry.putEntry]
    split
    · next heq =>
      obtain rfl : k' = key := by simpa using heq
      simp [List.lookup_cons, hne]
    · simp only [List.lookup_cons, ih]

/-- A change of the status of a repository changes that of no other. -/
theorem get_update_ne {key k : String} (h : k ≠ key) (r : Registry) (f : Progress → Progress) :
    (r.update key f).get k = r.get k := by
  unfold Registry.get Registry.update
  simp only
  rw [lookup_putEntry_ne h]

/-- The state of a repository. -/
def World.state {σ : Type} (w : World σ) (key : String) : State :=
  (w.status.get key).state

/-- Whether a repository in this state is queued or syncing. -/
def State.isActive (x : State) : Bool :=
  x == .queued || x == .syncing

/-- A change of status that brings no repository into an active state. -/
def Calms (f : Registry → Registry) : Prop :=
  ∀ r key, ((f r).get key).state.isActive = true →
    ((f r).get key).state = (r.get key).state

section Calms

variable {key : String}

/-- A change of one repository that ends in its old state or in one that is not active. -/
theorem calms_update {f : Progress → Progress}
    (h : ∀ p, (f p).state.isActive = true → (f p).state = p.state) :
    Calms fun r => r.update key f := by
  intro r k hactive
  by_cases hk : k = key
  · subst hk
    simp only [Registry.get_update] at hactive ⊢
    exact h _ hactive
  · simp only [get_update_ne hk]

theorem calms_fail (now : Instant) (e : String) : Calms fun r => r.fail key now e :=
  calms_update fun _ h => absurd h (by simp [State.isActive])

theorem calms_finish (now : Instant) (e : Option String) : Calms fun r => r.finish key now e :=
  calms_update fun _ h => absurd h (by simp [State.isActive])

theorem calms_fileDone : Calms fun r => r.fileDone key :=
  calms_update fun _ _ => rfl

theorem calms_setTotal (total : Nat) : Calms fun r => r.setTotal key total :=
  calms_update fun _ _ => rfl

theorem calms_clearQueued : Calms fun r => r.clearQueued key := by
  refine calms_update fun p h => ?_
  split
  · next hp => rw [if_pos hp] at h; simp [State.isActive] at h
  · rfl

end Calms

theorem fullName_of_getRepo {s : Store} {repo : RepoId} {row : RepoRow}
    (h : s.getRepo repo = .ok (some row)) : row.fullName = repo.fullName := by
  obtain ⟨e, he, rfl⟩ := entry_of_getRepo h
  exact fullName_of_entryNamed? he

/-- A repository that is inserted, or that was there already, is the stored one. -/
theorem entry_of_insertRepo {s : Store} {repo : RepoId} {m : Remote.Metadata} {row : RepoRow}
    (h : (s.insertRepo repo m).1 = .ok row) :
    ∃ e, (s.insertRepo repo m).2.entryNamed? repo.fullName = some e ∧ e.row = row := by
  unfold Store.insertRepo at h ⊢
  split at h
  · next e he => exact ⟨e, he, (row_of_readRepo h).symm⟩
  · next hnone =>
    cases h
    refine ⟨⟨_, []⟩, ?_, rfl⟩
    rw [Store.entryNamed?_append, hnone, Option.none_or]
    exact if_pos rfl

theorem fullName_of_insertRepo {s : Store} {repo : RepoId} {m : Remote.Metadata} {row : RepoRow}
    (h : (s.insertRepo repo m).1 = .ok row) : row.fullName = repo.fullName := by
  obtain ⟨e, he, rfl⟩ := entry_of_insertRepo h
  exact fullName_of_entryNamed? he

namespace Script

variable {σ α β : Type} {key : String} {x : State} {P Q : α → Prop}

/-! ## Leaving a state -/

/-- The script does not end, other than with such an answer, before one of its calls has left the
repository out of the state. -/
def Leaves (key : String) (x : State) (P : α → Prop) : Script σ α → Prop
  | .ended a => P a
  | .call world next =>
    ∀ refusal w, (world refusal w).state key = x → (next refusal w).Leaves key x P
  | .sleep _ next => next.Leaves key x P
  | .crew _ _ _ next => ∀ results, (next results).Leaves key x P

theorem Leaves.bind {s : Script σ α} (hs : s.Leaves key x Q) {k : α → Script σ β}
    {P : β → Prop} (hk : ∀ a, Q a → (k a).Leaves key x P) : (s.bind k).Leaves key x P := by
  induction s with
  | ended a => exact hk a hs
  | call world next ih => exact fun refusal w h => ih refusal w (hs refusal w h)
  | sleep wake next ih => exact ih hs
  | crew run workers done next ih => exact fun results => ih results (hs results)

theorem leaves_of_forall (s : Script σ α) (h : ∀ a, P a) : s.Leaves key x P := by
  induction s with
  | ended a => exact h a
  | call world next ih => exact fun refusal w _ => ih refusal w
  | sleep wake next ih => exact ih
  | crew run workers done next ih => exact fun results => ih results

/-- A part whose answer does not matter, and what comes after it. -/
theorem leaves_then (s : Script σ α) {k : α → Script σ β} {P : β → Prop}
    (hk : ∀ a, (k a).Leaves key x P) : (s.bind k).Leaves key x P :=
  (leaves_of_forall s fun _ => trivial : s.Leaves key x fun _ => True).bind fun a _ => hk a

theorem Leaves.mono {s : Script σ α} (hs : s.Leaves key x P) (h : ∀ a, P a → Q a) :
    s.Leaves key x Q := by
  induction s with
  | ended a => exact h a hs
  | call world next ih => exact fun refusal w hx => ih refusal w (hs refusal w hx)
  | sleep wake next ih => exact ih hs
  | crew run workers done next ih => exact fun results => ih results (hs results)

theorem Leaves.step {c : Setup σ} {s s' : Script σ α} {w w' : World σ}
    (hs : s.Leaves key x P) (h : Step c (s, w) (s', w')) (hx : w'.state key = x) :
    s'.Leaves key x P := by
  cases h with
  | call world next refusal => exact hs refusal w hx
  | wake wake next => exact hs
  | turn run k k' next => exact hs
  | refuse run k before after y e next => exact hs
  | join run done next => exact hs _

/-- A note that leaves the repository out of the state, and what comes after it. -/
theorem leaves_note {f : Instant → Registry → Registry}
    (h : ∀ now r, ((f now r).get key).state ≠ x) {k : Unit → Script σ α} :
    ((note f).bind k).Leaves key x P :=
  fun _ w hx => absurd hx (h w.now w.status)

/-! ## Scripts that leave what they enter -/

/-- A call that brings the repository into an active state does so for this reason, and after it the
script does not end, other than with such an answer, before one of its calls has left the repository
out of that state.  Its other ends are such, too. -/
def Tidy (key : String) (C : Prop) (P : State → α → Prop) (R : α → Prop) : Script σ α → Prop
  | .ended a => R a
  | .call world next => ∀ refusal w,
    (((world refusal w).state key).isActive = true → (world refusal w).state key ≠ w.state key →
      C ∧ (next refusal w).Leaves key ((world refusal w).state key)
        (P ((world refusal w).state key))) ∧
    (next refusal w).Tidy key C P R
  | .sleep _ next => next.Tidy key C P R
  | .crew _ _ _ next => ∀ results, (next results).Tidy key C P R

section Tidy

variable {C : Prop} {P : State → α → Prop} {R : α → Prop}

theorem Tidy.bind {Q : State → β → Prop} {T : β → Prop} {s : Script σ β} {k : β → Script σ α}
    (hs : s.Tidy key C Q T) (hk : ∀ b, T b → (k b).Tidy key C P R)
    (hleave : ∀ x b, Q x b → (k b).Leaves key x (P x)) : (s.bind k).Tidy key C P R := by
  induction s with
  | ended b => exact hk b hs
  | call world next ih =>
    refine fun refusal w => ⟨fun hactive hne => ?_, ih refusal w (hs refusal w).2⟩
    obtain ⟨hC, hnext⟩ := (hs refusal w).1 hactive hne
    exact ⟨hC, hnext.bind (hleave _)⟩
  | sleep wake next ih => exact ih hs
  | crew run workers done next ih => exact fun results => ih results (hs results)

/-- The ends of a script do not depend on the states it goes through. -/
theorem Tidy.leaves {s : Script σ α} (hs : s.Tidy key C P R) : s.Leaves key x R := by
  induction s with
  | ended a => exact hs
  | call world next ih => exact fun refusal w _ => ih refusal w (hs refusal w).2
  | sleep wake next ih => exact ih hs
  | crew run workers done next ih => exact fun results => ih results (hs results)

theorem Tidy.imp {s : Script σ α} (hs : s.Tidy key C P R) {D : Prop} (h : C → D) :
    s.Tidy key D P R := by
  induction s with
  | ended a => exact hs
  | call world next ih =>
    exact fun refusal w => ⟨fun hactive hne => ((hs refusal w).1 hactive hne).imp_left h,
      ih refusal w (hs refusal w).2⟩
  | sleep wake next ih => exact ih hs
  | crew run workers done next ih => exact fun results => ih results (hs results)

/-- A part that brings the repository into no active state, and what comes after it. -/
theorem Tidy.then {T : β → Prop} {s : Script σ β} {k : β → Script σ α}
    (hs : s.Tidy key C (fun _ _ => False) T) (hk : ∀ b, T b → (k b).Tidy key C P R) :
    (s.bind k).Tidy key C P R :=
  hs.bind hk fun _ _ => False.elim

theorem Tidy.step {c : Setup σ} {s s' : Script σ α} {w w' : World σ}
    (hs : s.Tidy key C P R) (h : Step c (s, w) (s', w')) :
    s'.Tidy key C P R ∧ ((w'.state key).isActive = true → w'.state key ≠ w.state key →
      C ∧ s'.Leaves key (w'.state key) (P (w'.state key))) := by
  cases h with
  | call world next refusal => exact ⟨(hs refusal w).2, (hs refusal w).1⟩
  | wake wake next => exact ⟨hs, fun _ hne => absurd rfl hne⟩
  | turn run k k' next hk =>
    have hstate := congrArg (fun r : Registry => (r.get key).state) hk.clock_eq.2
    exact ⟨hs, fun _ hne => absurd hstate hne⟩
  | refuse run k before after y e next => exact ⟨hs, fun _ hne => absurd rfl hne⟩
  | join run done next => exact ⟨hs _, fun _ hne => absurd rfl hne⟩

theorem tidy_ask {f : World σ → α × World σ} (h : ∀ w, (f w).2.status = w.status)
    (hR : ∀ w, R (f w).1) : (ask f).Tidy key C P R := by
  refine fun _ w => ⟨fun _ hne => absurd ?_ hne, hR w⟩
  exact congrArg (fun r : Registry => (r.get key).state) (h w)

theorem tidy_read (f : World σ → α) : (read f).Tidy key C P fun _ => True :=
  tidy_ask (fun _ => rfl) fun _ => trivial

theorem tidy_askHost (f : σ → Remote.Reply σ β) {Q : State → Except RemoteError β → Prop} :
    (askHost f).Tidy key C Q fun _ => True :=
  tidy_ask (fun _ => rfl) fun _ => trivial

theorem tidy_askStore {f : World σ → Except Error β × World σ}
    {Q : State → Except Error β → Prop} {T : Except Error β → Prop}
    (h : ∀ w, (f w).2.status = w.status) (herror : ∀ e, T (.error e)) (hT : ∀ w, T (f w).1) :
    (askStore f).Tidy key C Q T := by
  intro refusal w
  cases refusal with
  | none =>
    exact ⟨fun _ hne => absurd (congrArg (fun r : Registry => (r.get key).state) (h w)) hne, hT w⟩
  | some e => exact ⟨fun _ hne => absurd rfl hne, herror e⟩

/-- A call to the store whose answer does not matter. -/
theorem tidy_store {f : World σ → Except Error β × World σ}
    {Q : State → Except Error β → Prop} (h : ∀ w, (f w).2.status = w.status) :
    (askStore f).Tidy key C Q fun _ => True :=
  tidy_askStore h (fun _ => trivial) fun _ => trivial

theorem tidy_note {f : Instant → Registry → Registry} (h : ∀ now, Calms (f now))
    {Q : State → Unit → Prop} : (note f : Script σ Unit).Tidy key C Q fun _ => True :=
  fun _ w => ⟨fun hactive hne => absurd (h w.now w.status key hactive) hne, trivial⟩

/-- A run begins, and what comes after it leaves its repository. -/
theorem tidy_begin {name : String} {k : Unit → Script σ α}
    (hk : (k ()).Tidy key (name = key) P R)
    (hleave : name = key → (k ()).Leaves key .syncing (P .syncing)) :
    ((note fun now r => r.begin name now).bind k).Tidy key (name = key) P R := by
  refine fun _ w => ⟨fun _ hne => ?_, hk⟩
  by_cases hname : name = key
  · subst hname
    have hstate : (w.withStatus fun r => r.begin name w.now).state name = .syncing :=
      congrArg Progress.state (Registry.get_update _ _ _)
    have hleave := hleave rfl
    rw [← hstate] at hleave
    exact ⟨rfl, hleave⟩
  · exact absurd (congrArg Progress.state (get_update_ne (Ne.symm hname) _ _)) hne

end Tidy

/-! ## The parts of a sync -/

section Parts

variable {C : Prop} {name holder : String}

theorem status_takeLease (w : World σ) (key label : String) (leaseTime : Nat) :
    (takeLease w key label leaseTime).2.status = w.status := by
  unfold takeLease
  split <;> rfl

theorem tidy_progress {P : State → Except Error Progress → Prop} :
    (progress name : Script σ _).Tidy key C P fun _ => True := by
  refine (tidy_read _).then fun here _ => ?_
  split
  · trivial
  · refine (tidy_store fun _ => rfl).then fun l _ => ?_
    split
    · trivial
    · trivial
    · exact (tidy_read _).then fun now _ => trivial

theorem tidy_conclude (result : Except Error Outcome) {P : State → Exit → Prop} :
    (conclude name holder result : Script σ _).Tidy key C P fun _ => True := by
  have hrelease : (release name holder : Script σ _).Tidy key C (fun _ _ => False)
      fun _ => True := (tidy_store fun _ => rfl).then fun _ _ => trivial
  refine hrelease.then fun _ _ => (tidy_note fun now => ?_).then fun _ _ => trivial
  split
  · exact calms_finish now _
  · exact calms_clearQueued
  · exact calms_fail now _

theorem tidy_noteFiles (results : List FileResult) {P : State → Unit → Prop} :
    (noteFiles name results : Script σ _).Tidy key C P fun _ => True := by
  induction results with
  | nil => trivial
  | cons result results ih => exact (tidy_note fun _ => calms_fileDone).then fun _ _ => ih

theorem tidy_index (run : Run) {P : State → Except Error Outcome → Prop} :
    (index run : Script σ _).Tidy key C P fun _ => True := by
  intro results
  refine (tidy_noteFiles results).then fun _ _ => (tidy_store fun _ => rfl).then fun a _ => ?_
  cases a <;> trivial

variable (c : Setup σ)

theorem tidy_askLease {P : State → Except Error (Except Refusal String) → Prop} :
    (askLease c name).Tidy key C P fun _ => True := by
  refine tidy_store fun w => ?_
  have h := status_takeLease w name c.label c.options.leaseTime
  rcases htake : takeLease w name c.label c.options.leaseTime with ⟨taken, w'⟩
  rw [htake] at h
  cases taken with
  | error e => exact h
  | ok holder => cases holder <;> exact h

theorem tidy_awaitLease (wait : Wait) (since : Nat)
    {P : State → Except Error (Except (Refusal × Nat) String) → Prop} :
    (awaitLease c name wait since).Tidy key C P fun _ => True := by
  induction wait, since using awaitLease.induct with
  | case1 wait since ih =>
    rw [awaitLease]
    refine (tidy_askLease c).then fun a _ => ?_
    split
    · trivial
    · trivial
    · refine (tidy_read World.clock).then fun clock _ => ?_
      simp only
      split
      · trivial
      · next wake hnext => exact ih clock wake hnext

theorem tidy_delete (repo : RepoRow) (path : String) {P : State → Except Error FileOutcome → Prop} :
    (delete repo path : Script σ _).Tidy key C P fun _ => True :=
  tidy_store fun _ => rfl

theorem tidy_deleteAll (repo : RepoRow) (paths : List String) (report : Report)
    {P : State → Report → Prop} :
    (deleteAll repo paths report : Script σ _).Tidy key C P fun _ => True := by
  induction paths generalizing report with
  | nil => trivial
  | cons path paths ih => exact (tidy_delete repo path).then fun _ _ => ih _

theorem tidy_lookUpAll (repo : RepoRow) (reference : String) (paths : List String)
    (report : Report) (jobs : List FileJob) {P : State → Report × List FileJob → Prop} :
    (lookUpAll c repo reference paths report jobs).Tidy key C P fun _ => True := by
  induction paths generalizing report jobs with
  | nil => trivial
  | cons path paths ih =>
    refine (tidy_askHost _).then fun a _ => ?_
    have hnote : (note fun _ r => r.fileDone repo.fullName : Script σ Unit).Tidy key C
        (fun _ _ => False) fun _ => True := tidy_note fun _ => calms_fileDone
    split
    · exact ih _ _
    · split
      · exact (tidy_delete repo path).then fun _ _ => hnote.then fun _ _ => ih _ _
      · exact hnote.then fun _ _ => ih _ _

/-- The row of a repository has its name. -/
theorem tidy_resolve (repo : RepoId) {P : State → Except Error RepoRow → Prop} :
    (resolve c repo).Tidy key C P fun a => ∀ row, a = .ok row → row.fullName = repo.fullName := by
  have hget : (askStore fun w : World σ => (w.store.getRepo repo, w)).Tidy key C
      (fun _ _ => False) fun a => ∀ row, a = .ok (some row) → row.fullName = repo.fullName :=
    tidy_askStore (fun _ => rfl) (fun _ => nofun) fun _ _ => fullName_of_getRepo
  refine hget.then fun a hrow => ?_
  split
  · exact nofun
  · exact fun _ h => by cases h; exact hrow _ rfl
  · refine (tidy_askHost _).then fun a _ => ?_
    split
    · exact nofun
    · exact tidy_askStore (fun _ => rfl) (fun _ => nofun) fun _ _ => fullName_of_insertRepo

/-- A run of a sync that has begun has a report, or it fails. -/
def Ran (result : Except Error Outcome) : Prop :=
  ∀ outcome, result = .ok outcome → ∃ report, outcome = .completed report

theorem leaves_index (run : Run) : (index run : Script σ _).Leaves key x Ran := by
  refine fun results => leaves_then _ fun _ => leaves_then _ fun a => ?_
  cases a with
  | error e => exact nofun
  | ok u => exact fun _ h => by cases h; exact ⟨_, rfl⟩

theorem state_finish (r : Registry) (key : String) (now : Instant) (e : Option String) :
    ((r.finish key now e).get key).state = .idle :=
  congrArg Progress.state (Registry.get_update _ _ _)

theorem state_fail (r : Registry) (key : String) (now : Instant) (e : String) :
    ((r.fail key now e).get key).state = .failed :=
  congrArg Progress.state (Registry.get_update _ _ _)

theorem state_clearQueued (r : Registry) (key : String) :
    ((r.clearQueued key).get key).state ≠ .queued := by
  unfold Registry.clearQueued
  rw [Registry.get_update]
  split
  · exact State.noConfusion
  · next h => exact h

/-- The end of a sync leaves the repository out of the queue. -/
theorem leaves_conclude_queued (result : Except Error Outcome) {P : Exit → Prop} :
    (conclude key holder result : Script σ _).Leaves key .queued P := by
  refine leaves_then _ fun _ => leaves_note fun now r => ?_
  split
  · rw [state_finish]
    exact State.noConfusion
  · exact state_clearQueued r key
  · rw [state_fail]
    exact State.noConfusion

/-- The end of a run leaves the repository not syncing. -/
theorem leaves_conclude_syncing {result : Except Error Outcome} (h : Ran result)
    {P : Exit → Prop} : (conclude key holder result : Script σ _).Leaves key .syncing P := by
  refine leaves_then _ fun _ => leaves_note fun now r => ?_
  split
  · rw [state_finish]
    exact State.noConfusion
  · next outcome hreport =>
    obtain ⟨report, rfl⟩ := h outcome rfl
    exact absurd rfl (hreport report)
  · rw [state_fail]
    exact State.noConfusion

/-! ## Whole syncs -/

theorem tidy_runFull (row : RepoRow) (holder : String) (force : Bool) :
    (runFull c row holder force).Tidy key (row.fullName = key)
      (fun x result => x = .syncing ∧ row.fullName = key ∧ Ran result) fun _ => True := by
  refine (tidy_askHost _).then fun a _ => ?_
  split
  · trivial
  · refine (tidy_store fun _ => rfl).then fun a _ => ?_
    split
    · trivial
    · split
      · refine tidy_begin ?_ fun hname => ?_
        · refine (tidy_askHost _).then fun a _ => ?_
          split
          · trivial
          · exact (tidy_note fun _ => calms_setTotal _).then fun _ _ => tidy_index _
        · refine leaves_then _ fun a => ?_
          split
          · exact ⟨rfl, hname, nofun⟩
          · exact leaves_then _ fun _ => (leaves_index _).mono fun _ h => ⟨rfl, hname, h⟩
      · trivial

theorem tidy_fullFrom (row : RepoRow) (force : Bool) :
    (fullFrom c row.fullName row force).Tidy key (row.fullName = key) (fun _ _ => False)
      fun _ => True := by
  refine (tidy_askLease c).then fun a _ => ?_
  split
  · trivial
  · refine (tidy_note fun _ => calms_clearQueued).then fun _ _ => ?_
    exact tidy_progress.then fun _ _ => trivial
  · refine (tidy_runFull c row _ force).bind (fun result _ => tidy_conclude result) ?_
    rintro x result ⟨rfl, rfl, hran⟩
    exact leaves_conclude_syncing hran

theorem tidy_full (repo : RepoId) (force : Bool) :
    (full c repo force).Tidy key (repo.fullName = key) (fun _ _ => False) fun _ => True := by
  refine (tidy_resolve c repo).then fun a hrow => ?_
  split
  · exact (tidy_note fun now => calms_fail now _).then fun _ _ => trivial
  · next row =>
    rw [← hrow row rfl]
    exact tidy_fullFrom c row force

/-- A full sync that was accepted leaves the repository out of the queue, unless it ends at its
attempt to take the lease. -/
theorem leaves_full (repo : RepoId) (force : Bool) :
    (full c repo force).Leaves repo.fullName .queued fun exit => ∃ e, exit = .unleased e := by
  have hresolve : (resolve c repo).Leaves repo.fullName .queued
      fun a => ∀ row, a = .ok row → row.fullName = repo.fullName :=
    (tidy_resolve c repo : Tidy _ False (fun _ _ => False) _ _).leaves
  refine hresolve.bind fun a hrow => ?_
  split
  · refine leaves_note fun now r => ?_
    rw [state_fail]
    exact State.noConfusion
  · next row =>
    refine leaves_then _ fun a => ?_
    split
    · exact ⟨_, rfl⟩
    · exact leaves_note fun _ r => state_clearQueued r _
    · rw [hrow row rfl]
      exact leaves_then _ fun result => leaves_conclude_queued result

theorem leaves_runPartial (row : RepoRow) (holder : String) (changes : ChangeSet) :
    (runPartial c row holder changes).Leaves key x Ran :=
  leaves_then _ fun _ => leaves_then _ fun _ => leaves_then _ fun _ => leaves_index _

theorem tidy_runPartial (row : RepoRow) (holder : String) (changes : ChangeSet)
    {P : State → Except Error Outcome → Prop} :
    (runPartial c row holder changes).Tidy key C P fun _ => True := by
  refine (tidy_deleteAll row _ _).then fun report _ => ?_
  refine (tidy_note fun _ => calms_setTotal _).then fun _ _ => ?_
  exact (tidy_lookUpAll c row _ _ _ _).then fun found _ => tidy_index _

theorem tidy_partialFrom (row : RepoRow) (changes : ChangeSet) (wait : Wait) (start since : Nat) :
    (partialFrom c row changes wait start since).Tidy key (row.fullName = key)
      (fun _ _ => False) fun _ => True := by
  refine (tidy_awaitLease c wait since).then fun a _ => ?_
  split
  · trivial
  · exact tidy_progress.then fun _ _ => trivial
  · refine tidy_begin ?_ fun hname => ?_
    · exact (tidy_runPartial c row _ changes).then fun result _ => tidy_conclude result
    · subst hname
      exact (leaves_runPartial c row _ changes).bind fun _ hran => leaves_conclude_syncing hran

theorem tidy_partialSync (repo : RepoId) (changes : ChangeSet) :
    (partialSync c repo changes).Tidy key (repo.fullName = key) (fun _ _ => False)
      fun _ => True := by
  have hget : (askStore fun w : World σ => (storedRepo repo w, w)).Tidy key (repo.fullName = key)
      (fun _ _ => False) fun a => ∀ row, a = .ok row → row.fullName = repo.fullName :=
    tidy_askStore (fun _ => rfl) (fun _ => nofun)
      fun _ _ h => fullName_of_getRepo (getRepo_of_storedRepo h)
  refine hget.then fun a hrow => ?_
  split
  · trivial
  · next row =>
    rw [← hrow row rfl]
    exact (tidy_read _).then fun now _ => tidy_partialFrom c row changes _ _ _

theorem tidy_sweep (rows : List RepoRow) :
    (sweep c rows).Tidy key True (fun _ _ => False) fun _ => True := by
  induction rows with
  | nil => trivial
  | cons row rows ih =>
    exact ((tidy_full c row.repoId false).imp fun _ => trivial).then fun _ _ =>
      ih.then fun _ _ => trivial

end Parts

end Script

end ContextIndex.Sync
