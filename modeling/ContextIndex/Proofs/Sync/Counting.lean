import ContextIndex.Proofs.Sync.Archive
import ContextIndex.Proofs.Sync.Undisturbed

/-!
# The files that are shown of a run

While a run is on, its repository is shown with the number of the files to look at and of those that
have been looked at.  A file counts as soon as its worker is done, which may be long before the last
worker is, so beside the steps of a script there is the report of a file (`Moment.report`).

Where a run stands is its account (`Account`): it has not begun, it has begun, or it has looked at
some files and some are left.  The account tells what is shown (`Account.Fits`), and a script
`Counts` if every change of what is shown is one of the account.  From then on what holds of the
account holds at each moment of the run, as long as nobody else touches what is shown of the
repository (`Script.Counts.moments`).
-/

namespace ContextIndex.Sync

/-! ## Accounts -/

/-- The number of files that a repository is shown to have to look at, and of those that it is shown
to have looked at. -/
def World.counts {σ : Type} (w : World σ) (key : String) : Nat × Nat :=
  ((w.status.get key).filesTotal, (w.status.get key).filesProcessed)

/-- Where a run of a repository stands. -/
inductive Account
  /-- It has not begun. -/
  | waiting
  /-- It has begun, and the number of its files is not known yet. -/
  | begun
  /-- It has looked at some of its files, and some are left. -/
  | counting (looked left : Nat)

section Account

variable {σ : Type} {key : String} {w₀ w w' : World σ}

/-- What is shown when a run that found the one world has come to the other. -/
def Account.Fits (key : String) (w₀ w : World σ) : Account → Prop
  | waiting => w.counts key = w₀.counts key
  | begun => w.counts key = (0, 0)
  | counting looked left => w.counts key = (looked + left, looked)

/-- How an account goes on when what is shown changes. -/
inductive Account.Step (key : String) (w w' : World σ) : Account → Account → Prop
  | keep (x : Account) : w'.counts key = w.counts key → Step key w w' x x
  | begin : w'.counts key = (0, 0) → Step key w w' .waiting .begun
  | total (n : Nat) : w'.counts key = (n, (w.counts key).2) →
    Step key w w' .begun (.counting 0 n)
  | done (looked left : Nat) : w'.counts key = ((w.counts key).1, (w.counts key).2 + 1) →
    Step key w w' (.counting looked (left + 1)) (.counting (looked + 1) left)

theorem Account.Fits.step {x y : Account} (hx : x.Fits key w₀ w) (h : Step key w w' x y) :
    y.Fits key w₀ w' := by
  cases h with
  | keep x hsame =>
    cases x with
    | waiting => exact hsame.trans hx
    | begun => exact hsame.trans hx
    | counting looked left => exact hsame.trans hx
  | begin hnone => exact hnone
  | total n htotal =>
    have hbegun : w.counts key = (0, 0) := hx
    rw [hbegun] at htotal
    simpa [Fits] using htotal
  | done looked left hone =>
    have hcounting : w.counts key = (looked + (left + 1), looked) := hx
    rw [hcounting] at hone
    simp only [Fits, hone, Prod.mk.injEq, and_true]
    omega

/-- A run that has begun has begun for good. -/
theorem Account.Step.ne_waiting {x y : Account} (h : Step key w w' x y) (hx : x ≠ .waiting) :
    y ≠ .waiting := by
  cases h with
  | keep => exact hx
  | begin => exact absurd rfl hx
  | total n => exact Account.noConfusion
  | done looked left => exact Account.noConfusion

/-- What is shown of a run that has begun adds up. -/
theorem Account.Fits.le {x : Account} (hx : x.Fits key w₀ w) (hbegun : x ≠ .waiting) :
    (w.counts key).2 ≤ (w.counts key).1 := by
  cases x with
  | waiting => exact absurd rfl hbegun
  | begun =>
    have hnone : w.counts key = (0, 0) := hx
    simp [hnone]
  | counting looked left =>
    have hcounting : w.counts key = (looked + left, looked) := hx
    simp [hcounting]

/-! ## Changes of what is shown -/

theorem counts_update (f : Progress → Progress) :
    (w.withStatus fun r => r.update key f).counts key =
      ((f (w.status.get key)).filesTotal, (f (w.status.get key)).filesProcessed) := by
  simp only [World.counts, World.withStatus, Registry.get_update]

theorem counts_fileDone : (w.withStatus fun r => r.fileDone key).counts key =
    ((w.counts key).1, (w.counts key).2 + 1) :=
  counts_update _

theorem counts_begin (now : Instant) :
    (w.withStatus fun r => r.begin key now).counts key = (0, 0) :=
  counts_update _

theorem counts_setTotal (n : Nat) :
    (w.withStatus fun r => r.setTotal key n).counts key = (n, (w.counts key).2) :=
  counts_update _

theorem counts_finish (now : Instant) (e : Option String) :
    (w.withStatus fun r => r.finish key now e).counts key = w.counts key :=
  counts_update _

theorem counts_fail (now : Instant) (e : String) :
    (w.withStatus fun r => r.fail key now e).counts key = w.counts key :=
  counts_update _

theorem counts_clearQueued : (w.withStatus fun r => r.clearQueued key).counts key =
    w.counts key := by
  refine (counts_update _).trans ?_
  simp only [World.counts]
  split <;> rfl

theorem counts_of_status (h : w'.status = w.status) : w'.counts key = w.counts key := by
  simp only [World.counts, h]

/-- Only an account with files left goes on when one more file is reported, and in one way. -/
theorem Account.Step.of_fileDone {x y : Account}
    (h : Step key w (w.withStatus fun r => r.fileDone key) x y) :
    ∃ looked left, x = .counting looked (left + 1) ∧ y = .counting (looked + 1) left := by
  have hsecond (n : Nat) : (w.withStatus fun r => r.fileDone key).counts key ≠
      (n, (w.counts key).2) := by
    rw [counts_fileDone]
    intro h
    have := congrArg Prod.snd h
    simp at this
  cases h with
  | keep x hsame => exact absurd hsame (hsecond (w.counts key).1)
  | begin hnone =>
    rw [counts_fileDone] at hnone
    simp at hnone
  | total n htotal => exact absurd htotal (hsecond n)
  | done looked left => exact ⟨looked, left, rfl, rfl⟩

end Account

namespace Script

variable {σ α β : Type}

/-! ## Scripts that keep accounts -/

section Counts

variable {key : String} {Valid : σ → Prop} {post : Account → α → Prop}

/-- From this account on, the script changes what is shown of a repository as an account goes on, as
long as the host is valid, and keeps it so.  It ends with such an account and answer. -/
def Counts (key : String) (Valid : σ → Prop) (post : Account → α → Prop) :
    Script σ α → Account → Prop
  | .ended a, x => post x a
  | .call world next, x => ∀ refusal w, Valid w.host → Valid (world refusal w).host ∧
    ∃ y, x.Step key w (world refusal w) y ∧ (next refusal w).Counts key Valid post y
  | .sleep _ next, x => next.Counts key Valid post x
  | .crew run workers done next, x => run.repo.fullName = key ∧
    ∀ results : List FileResult, results.length = workers.length + done.length →
      (next results).Counts key Valid post x

theorem Counts.bind {last : Account → β → Prop} {s : Script σ α} {x : Account}
    (hs : s.Counts key Valid post x) {k : α → Script σ β}
    (hk : ∀ y a, post y a → (k a).Counts key Valid last y) :
    (s.bind k).Counts key Valid last x := by
  induction s generalizing x with
  | ended a => exact hk x a hs
  | call world next ih =>
    intro refusal w hv
    obtain ⟨hv', y, hstep, hnext⟩ := hs refusal w hv
    exact ⟨hv', y, hstep, ih refusal w hnext⟩
  | sleep wake next ih => exact ih hs
  | crew run workers done next ih =>
    exact ⟨hs.1, fun results hlength => ih results (hs.2 results hlength)⟩

theorem Counts.mono {last : Account → α → Prop} {s : Script σ α} {x : Account}
    (hs : s.Counts key Valid post x) (h : ∀ y a, post y a → last y a) :
    s.Counts key Valid last x := by
  induction s generalizing x with
  | ended a => exact h x a hs
  | call world next ih =>
    intro refusal w hv
    obtain ⟨hv', y, hstep, hnext⟩ := hs refusal w hv
    exact ⟨hv', y, hstep, ih refusal w hnext⟩
  | sleep wake next ih => exact ih hs
  | crew run workers done next ih =>
    exact ⟨hs.1, fun results hlength => ih results (hs.2 results hlength)⟩

theorem counts_ask {f : World σ → α × World σ} {x : Account}
    (h : ∀ w, Valid w.host → Valid (f w).2.host ∧ ∃ y, x.Step key w (f w).2 y ∧ post y (f w).1) :
    (ask f).Counts key Valid post x :=
  fun _ w hv => h w hv

/-- A call that touches neither what is shown nor the host. -/
theorem counts_read (f : World σ → α) (x : Account) :
    (read f).Counts key Valid (fun y _ => y = x) x :=
  counts_ask fun _ hv => ⟨hv, x, .keep x rfl, rfl⟩

/-- A question to the host. -/
theorem counts_askHost {f : σ → Remote.Reply σ α} (hf : ∀ {h : σ}, Valid h → Valid (f h).2)
    (x : Account) : (askHost f).Counts key Valid
      (fun y a => y = x ∧ ∃ h, Valid h ∧ (f h).1 = a) x :=
  counts_ask fun w hv => ⟨hf hv, x, .keep x rfl, rfl, w.host, hv, rfl⟩

/-- A call to the store. -/
theorem counts_askStore {f : World σ → Except Error α × World σ} {P : Except Error α → Prop}
    (hstatus : ∀ w, (f w).2.status = w.status) (hhost : ∀ w, (f w).2.host = w.host)
    (herror : ∀ e, P (.error e)) (hP : ∀ w, P (f w).1) (x : Account) :
    (askStore f).Counts key Valid (fun y a => y = x ∧ P a) x := by
  intro refusal w hv
  cases refusal with
  | none => exact ⟨hhost w ▸ hv, x, .keep x (counts_of_status (hstatus w)), rfl, hP w⟩
  | some e => exact ⟨hv, x, .keep x rfl, rfl, herror e⟩

theorem counts_store {f : World σ → Except Error α × World σ}
    (hstatus : ∀ w, (f w).2.status = w.status) (hhost : ∀ w, (f w).2.host = w.host)
    (x : Account) : (askStore f).Counts key Valid (fun y _ => y = x) x :=
  (counts_askStore (P := fun _ => True) hstatus hhost (fun _ => trivial) (fun _ => trivial) x).mono
    fun _ _ h => h.1

/-- A note of how far a repository is. -/
theorem counts_note {f : Instant → Registry → Registry} {x y : Account}
    (h : ∀ w : World σ, x.Step key w (w.withStatus (f w.now)) y) :
    (note f).Counts key Valid (fun z _ => z = y) x :=
  counts_ask fun w hv => ⟨hv, y, h w, rfl⟩

/-- The note that one more file is done. -/
theorem counts_noteFile (looked left : Nat) :
    (note fun _ r => r.fileDone key : Script σ Unit).Counts key Valid
      (fun y _ => y = .counting (looked + 1) left) (.counting looked (left + 1)) :=
  counts_note fun _ => .done looked left counts_fileDone

end Counts

/-! ## The moments of a run -/

/-- The files of a run when some have been reported.  The others are reported when the last worker
is done. -/
def reporting (run : Run) (workers : List Worker)
    (done : List (FileJob × Except Error FileOutcome)) (reported : Nat)
    (next : List FileResult → Unit → Script σ α) : Script σ α :=
  .crew run workers done fun results =>
    (noteFiles run.repo.fullName (results.drop reported)).bind (next results)

/-- When a run comes to its files, whatever comes after it, none of them has been reported. -/
theorem index_bind (run : Run) (k : Except Error Outcome → Script σ α) :
    ∃ next, (index run).bind k = reporting run (run.jobs.map fun job => { job }) [] 0 next :=
  ⟨_, congrArg (crew run _ []) (funext fun _ => bind_assoc _ _ _)⟩

/-- What may come next: a step of the script, the report of a file whose worker is done while others
are at work, or something that others do, as long as it leaves alone what is shown of the repository
and keeps the host valid. -/
inductive Moment (c : Setup σ) (key : String) (Valid : σ → Prop) :
    Script σ α × World σ → Script σ α × World σ → Prop
  | step (x y : Script σ α × World σ) : Step c x y → Moment c key Valid x y
  | report (run : Run) (workers : List Worker) (done : List (FileJob × Except Error FileOutcome))
    (n : Nat) (next : List FileResult → Unit → Script σ α) (w : World σ) : n < done.length →
    Moment c key Valid (reporting run workers done n next, w)
      (reporting run workers done (n + 1) next,
        w.withStatus fun r => r.fileDone run.repo.fullName)
  | others (s : Script σ α) (w w' : World σ) : w'.counts key = w.counts key →
    (Valid w.host → Valid w'.host) → Moment c key Valid (s, w) (s, w')

/-- The moments of a run, one after the other. -/
abbrev Moments (c : Setup σ) (key : String) (Valid : σ → Prop) :
    Script σ α × World σ → Script σ α × World σ → Prop :=
  Relation.ReflTransGen (Moment c key Valid)

section Moments

variable {c : Setup σ} {key : String} {Valid : σ → Prop} {post : Account → α → Prop}

/-- A crew whose files are still to be reported has files left in its account, and goes on as the
account does when one of them is. -/
theorem Counts.report {run : Run} {workers : List Worker}
    {done : List (FileJob × Except Error FileOutcome)} {n : Nat}
    {next : List FileResult → Unit → Script σ α} {x : Account}
    (hs : (reporting run workers done n next).Counts key Valid post x)
    (hn : n < done.length) {w : World σ} (hv : Valid w.host) :
    ∃ y, x.Step key w (w.withStatus fun r => r.fileDone run.repo.fullName) y ∧
      (reporting run workers done (n + 1) next).Counts key Valid post y := by
  obtain ⟨rfl, hnext⟩ := hs
  have hone (results : List FileResult) (hlength : results.length = workers.length + done.length) :
      ∃ y, x.Step run.repo.fullName w (w.withStatus fun r => r.fileDone run.repo.fullName) y ∧
        ((noteFiles run.repo.fullName (results.drop (n + 1))).bind (next results)).Counts
          run.repo.fullName Valid post y := by
    have hlt : n < results.length := by omega
    have hreports : ((noteFiles run.repo.fullName (results.drop n)).bind (next results)).Counts
      run.repo.fullName Valid post x := hnext results hlength
    rw [List.drop_eq_getElem_cons hlt] at hreports
    exact (hreports none w hv).2
  -- What the account is does not depend on how the files end.
  obtain ⟨y, hstep, -⟩ := hone (List.replicate (workers.length + done.length) ("", .ok .unchanged))
    List.length_replicate
  obtain ⟨looked, left, rfl, rfl⟩ := hstep.of_fileDone
  refine ⟨_, hstep, rfl, fun results hlength => ?_⟩
  obtain ⟨z, hstep', hz⟩ := hone results hlength
  obtain ⟨looked', left', hx, rfl⟩ := hstep'.of_fileDone
  cases hx
  exact hz

theorem Counts.moment (hkeep : c.service.Keeps Valid) {s s' : Script σ α} {w w' : World σ}
    {x : Account} (hs : s.Counts key Valid post x) (hv : Valid w.host)
    (h : Moment c key Valid (s, w) (s', w')) :
    Valid w'.host ∧ ∃ y, x.Step key w w' y ∧ s'.Counts key Valid post y := by
  cases h with
  | step _ _ h =>
    cases h with
    | call world next refusal => exact hs refusal w hv
    | wake wake next => exact ⟨hv, x, .keep x rfl, hs⟩
    | turn run k k' next hk =>
      refine ⟨hk.host hkeep hv, x, .keep x (counts_of_status hk.clock_eq.2), hs.1,
        fun results hlength => hs.2 results ?_⟩
      rw [hlength, hk.length_eq]
    | refuse run k before after y e next hworkers =>
      refine ⟨hv, x, .keep x rfl, hs.1, fun results hlength => hs.2 results ?_⟩
      rw [hlength, hworkers]
      simp
      omega
    | join run done next =>
      exact ⟨hv, x, .keep x rfl, hs.2 _ (by simp [fileResults])⟩
  | report run workers done n next _ hn => exact ⟨hv, hs.report hn hv⟩
  | others _ _ _ hcounts hhost => exact ⟨hhost hv, x, .keep x hcounts, hs⟩

/-- At each moment of a run its account fits, and a run that has begun has begun for good. -/
theorem Counts.moments (hkeep : c.service.Keeps Valid) {u v : Script σ α × World σ} {x : Account}
    {w₀ : World σ} (hs : u.1.Counts key Valid post x) (hv : Valid u.2.host)
    (hx : x.Fits key w₀ u.2) (h : Moments c key Valid u v) :
    Valid v.2.host ∧ ∃ y, y.Fits key w₀ v.2 ∧ v.1.Counts key Valid post y ∧
      (x ≠ .waiting → y ≠ .waiting) := by
  induction h with
  | refl => exact ⟨hv, x, hx, hs, id⟩
  | tail _ hmoment ih =>
    obtain ⟨hv', y, hy, hcounts, hbegun⟩ := ih
    obtain ⟨hv'', z, hstep, hz⟩ := hcounts.moment hkeep hv' hmoment
    exact ⟨hv'', z, hy.step hstep, hz, fun hne => hstep.ne_waiting (hbegun hne)⟩

/-- The moments of an undisturbed script are among those of any run of it. -/
theorem Alone.moments {u v : Script σ α × World σ} (h : Alone c u v) : Moments c key Valid u v := by
  induction h with
  | refl => exact .refl
  | tail _ hstep ih =>
    refine ih.tail ?_
    obtain hstep | ⟨time, -, rfl⟩ := hstep
    · exact .step _ _ hstep
    · exact .others _ _ _ rfl id

end Moments

end Script

end ContextIndex.Sync
