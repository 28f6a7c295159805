import ContextIndex.Proofs.Sync.Archive

/-!
# Pushes in their tenure

A push waits until it has the lease of its repository, changes what is stored of it and gives the
lease up.  So it has a tenure (`Tenure`): before it and after it the push leaves the repository
alone, and during it whoever keeps away from the lease leaves the repository to the push.  What the
push may count on between two of its calls depends on where it is (`Archive.Rely`), and so does what
a call of it may do (`Archive.Move`).

At the end of its tenure the push has made of the repository what its changes say, with the files
that its reference has at the host (`Script.inTenure_job`).  That says of the push all that matters
to others, whatever they do in between.
-/

namespace ContextIndex.Sync

open Remote (Tree Fetched)

/-! ## What a push does -/

/-- What a push makes of it where its reference has these files. -/
def Contents.apply (v : Contents) (y : SymbolSource) (T : Tree) (changes : ChangeSet) :
    Contents where
  row p :=
    if p ∈ changes.changed ∧ Language.isIndexable p = true then (T p).map (y.rowOf p)
    else if p ∈ changes.deleted then none
    else v.row p
  marker := changes.revision.or v.marker

/-- What the changes of a push are looked up at. -/
def Setup.reference {σ : Type} (c : Setup σ) (changes : ChangeSet) : String :=
  changes.revision.getD c.options.branch

def jobAt (T : Tree) (path : String) : Option FileJob :=
  (T path).map fun file => ⟨path, some file.sha⟩

/-- Where a push is: it has not had the lease, it has it since it found these contents, or it has
given it up. -/
inductive Tenure
  | before
  | during (holder : String) (found : Contents)
  | after

def Tenure.IsDuring : Tenure → Prop
  | .during _ _ => True
  | _ => False

namespace Archive

variable {σ : Type} (a : Archive σ) (c : Setup σ) (changes : ChangeSet)

/-- What a push with these changes finds whenever it calls. -/
structure Ready (changes : ChangeSet) (w : World σ) : Prop where
  fit : a.Fit c.source w.store
  firm : a.Firm c w
  has : a.has w.host (c.reference changes)

/-- What a push finds at its next call where it left this at the one before. -/
def Rely : Tenure → World σ → World σ → Prop
  | .during holder _, w, w' => a.Ready c changes w' ∧ a.Held w' holder ∧
    (∀ p, w'.store.file? a.number p = w.store.file? a.number p) ∧
    w'.store.marker a.repo = w.store.marker a.repo
  | _, _, w' => a.Ready c changes w'

inductive Move (w w' : World σ) : Tenure → Tenure → Prop
  | before : a.Aside c w w' → Move w w' .before .before
  | take (n : Nat) : a.Steady c w w' → Contents.of w'.store a.repo = Contents.of w.store a.repo →
    (∀ m, ¬ a.Held w (holderName c.label m)) → a.Held w' (holderName c.label n) →
    Move w w' .before (.during (holderName c.label n) (Contents.of w.store a.repo))
  | work (holder : String) (found : Contents) : a.Steady c w w' →
    (∀ n, a.Held w' (holderName c.label n) ↔ a.Held w (holderName c.label n)) →
    Move w w' (.during holder found) (.during holder found)
  | leave (holder : String) (found : Contents) : a.Steady c w w' →
    Contents.of w'.store a.repo =
      found.apply c.source (a.files (c.reference changes)) changes →
    (∀ n, ¬ a.Held w' (holderName c.label n)) → Move w w' (.during holder found) .after
  | after : a.Aside c w w' → Move w w' .after .after

variable {a c changes} {t t' : Tenure} {w w' w'' : World σ}

theorem Rely.ready (h : a.Rely c changes t w w') : a.Ready c changes w' := by
  cases t with
  | before => exact h
  | during holder found => exact h.1
  | after => exact h

/-- What a push finds when others have stayed aside during its tenure. -/
theorem Rely.of_aside (hready : a.Ready c changes w') (hduring : ∀ holder found,
    t = .during holder found → a.Aside c w w' ∧ a.Held w' holder) : a.Rely c changes t w w' := by
  cases t with
  | before => exact hready
  | during holder found =>
    obtain ⟨haside, hheld⟩ := hduring holder found rfl
    exact ⟨hready, hheld, haside.rows, haside.marker⟩
  | after => exact hready

theorem Rely.trans (h : a.Rely c changes t w w') (h' : a.Rely c changes t w' w'') :
    a.Rely c changes t w w'' := by
  cases t with
  | before => exact h'
  | during holder found =>
    obtain ⟨-, -, hrows, hmarker⟩ := h
    obtain ⟨hready, hheld, hrows', hmarker'⟩ := h'
    exact ⟨hready, hheld, fun p => (hrows' p).trans (hrows p), hmarker'.trans hmarker⟩
  | after => exact h'

theorem Move.steady (h : a.Move c changes w w' t t') : a.Steady c w w' := by
  cases h with
  | before haside => exact haside.toSteady
  | take n hsteady => exact hsteady
  | work holder found hsteady => exact hsteady
  | leave holder found hsteady => exact hsteady
  | after haside => exact haside.toSteady

theorem Move.refl (t : Tenure) (w : World σ) : a.Move c changes w w t t := by
  cases t with
  | before => exact .before (.refl w)
  | during holder found => exact .work holder found (Aside.refl w).toSteady fun _ => Iff.rfl
  | after => exact .after (.refl w)

end Archive

/-! ## Scripts with a tenure -/

namespace Script

variable {σ α β : Type}

/-- The next step of a script when no call is refused. -/
inductive Served (c : Setup σ) : Script σ α × World σ → Script σ α × World σ → Prop
  | call (world : Option Error → World σ → World σ) (next : Option Error → World σ → Script σ α)
    (w : World σ) : Served c (.call world next, w) (next none w, world none w)
  | wake (wake : Nat) (next : Script σ α) (w : World σ) : wake ≤ w.clock →
    Served c (.sleep wake next, w) (next, w)
  | turn (run : Run) (k k' : Crew σ) (next : List FileResult → Script σ α) : k.Steps c run k' →
    Served c (.crew run k.workers k.done next, k.world)
      (.crew run k'.workers k'.done next, k'.world)
  | join (run : Run) (done : List (FileJob × Except Error FileOutcome))
    (next : List FileResult → Script σ α) (w : World σ) :
    Served c (.crew run [] done next, w) (next (fileResults done), w)

theorem Served.step {c : Setup σ} {x y : Script σ α × World σ} (h : Served c x y) : Step c x y := by
  cases h with
  | call world next w => exact .call world next none w
  | wake wake next w hwake => exact .wake wake next w hwake
  | turn run k k' next hk => exact .turn run k k' next hk
  | join run done next w => exact .join run done next w

section InTenure

variable (a : Archive σ) (c : Setup σ) (changes : ChangeSet)

/-- The calls of a script are those of a push with these changes, and it ends like this.  A crew has
an invariant that its turns keep and that others keep, too. -/
def InTenure (post : Tenure → α → World σ → Prop) : Script σ α → Tenure → World σ → Prop
  | .ended x, t, w => post t x w
  | .call world next, t, w => ∀ w', a.Rely c changes t w w' →
    ∃ t', a.Move c changes w' (world none w') t t' ∧
      (next none w').InTenure post t' (world none w')
  | .sleep _ next, t, w => next.InTenure post t w
  | .crew run workers done next, t, w => ∃ Inv : Crew σ → Prop, Inv ⟨workers, done, w⟩ ∧
    (∀ k w', Inv k → a.Rely c changes t k.world w' → Inv { k with world := w' }) ∧
    (∀ k k', Inv k → k.Steps c run k' → Inv k' ∧ a.Move c changes k.world k'.world t t) ∧
    ∀ done w', Inv ⟨[], done, w'⟩ → (next (fileResults done)).InTenure post t w'

variable {a c changes} {post : Tenure → α → World σ → Prop} {s s' : Script σ α} {t : Tenure}
  {w w' : World σ}

theorem InTenure.bind {last : Tenure → β → World σ → Prop} (hs : s.InTenure a c changes post t w)
    {k : α → Script σ β} (hk : ∀ t x w, post t x w → (k x).InTenure a c changes last t w) :
    (s.bind k).InTenure a c changes last t w := by
  induction s generalizing t w with
  | ended x => exact hk t x w hs
  | call world next ih =>
    intro w' hw'
    obtain ⟨t', hmove, hnext⟩ := hs w' hw'
    exact ⟨t', hmove, ih none w' hnext⟩
  | sleep wake next ih => exact ih hs
  | crew run workers done next ih =>
    obtain ⟨Inv, hinv, hrely, hturn, hend⟩ := hs
    exact ⟨Inv, hinv, hrely, hturn, fun done w' h => ih _ (hend done w' h)⟩

theorem InTenure.mono {last : Tenure → α → World σ → Prop} (hs : s.InTenure a c changes post t w)
    (h : ∀ t x w, post t x w → last t x w) : s.InTenure a c changes last t w := by
  induction s generalizing t w with
  | ended x => exact h t x w hs
  | call world next ih =>
    intro w' hw'
    obtain ⟨t', hmove, hnext⟩ := hs w' hw'
    exact ⟨t', hmove, ih none w' hnext⟩
  | sleep wake next ih => exact ih hs
  | crew run workers done next ih =>
    obtain ⟨Inv, hinv, hrely, hturn, hend⟩ := hs
    exact ⟨Inv, hinv, hrely, hturn, fun done w' h => ih _ (hend done w' h)⟩

theorem InTenure.rely (hs : s.InTenure a c changes post t w)
    (hpost : ∀ {t x w w'}, a.Rely c changes t w w' → post t x w → post t x w')
    (h : a.Rely c changes t w w') : s.InTenure a c changes post t w' := by
  induction s generalizing t w with
  | ended x => exact hpost h hs
  | call world next ih => exact fun w'' h' => hs w'' (h.trans h')
  | sleep wake next ih => exact ih hs h
  | crew run workers done next ih =>
    obtain ⟨Inv, hinv, hrely, hturn, hend⟩ := hs
    exact ⟨Inv, hrely _ _ hinv h, hrely, hturn, hend⟩

theorem InTenure.step (hs : s.InTenure a c changes post t w) (hself : a.Rely c changes t w w)
    (h : Served c (s, w) (s', w')) :
    ∃ t', a.Move c changes w w' t t' ∧ s'.InTenure a c changes post t' w' := by
  cases h with
  | call world next => exact hs w hself
  | wake wake next => exact ⟨t, .refl t w, hs⟩
  | turn run k k' next hk =>
    obtain ⟨Inv, hinv, hrely, hturn, hend⟩ := hs
    obtain ⟨hinv', hmove⟩ := hturn k k' hinv hk
    exact ⟨t, hmove, Inv, hinv', hrely, hturn, hend⟩
  | join run done next =>
    obtain ⟨Inv, hinv, -, -, hend⟩ := hs
    exact ⟨t, .refl t w, hend done w hinv⟩

theorem inTenure_ask {f : World σ → α × World σ} (h : ∀ w', a.Rely c changes t w w' →
    ∃ t', a.Move c changes w' (f w').2 t t' ∧ post t' (f w').1 (f w').2) :
    (ask f).InTenure a c changes post t w :=
  h

theorem inTenure_askStore {f : World σ → Except Error α × World σ}
    {post : Tenure → Except Error α → World σ → Prop} (h : ∀ w', a.Rely c changes t w w' →
      ∃ t', a.Move c changes w' (f w').2 t t' ∧ post t' (f w').1 (f w').2) :
    (askStore f).InTenure a c changes post t w :=
  h

/-! ## Before the tenure -/

theorem inTenure_look {f : World σ → α} {P : α → Prop}
    (hP : ∀ w, a.Ready c changes w → P (f w)) :
    (read f).InTenure a c changes (fun t x _ => t = .before ∧ P x) .before w :=
  fun w' hready => ⟨.before, .before (.refl w'), rfl, hP w' hready⟩

variable (a c changes) in
def Asked {ε : Type} : Tenure → Except Error (Except ε String) → World σ → Prop
  | t, .ok (.ok holder), w => t = .during holder (Contents.of w.store a.repo) ∧
    a.Fit c.source w.store ∧ a.has w.host (c.reference changes)
  | t, _, _ => t = .before

theorem inTenure_askLease {w : World σ} : (askLease c a.repo.fullName).InTenure a c changes
    (Asked a c changes) .before w := by
  refine inTenure_askStore fun w' hready => ?_
  have hfit := hready.fit.takeLease a.repo.fullName c.label c.options.leaseTime
  have hhost := host_takeLease w' a.repo.fullName c.label c.options.leaseTime
  have hrepos := repos_takeLease w' a.repo.fullName c.label c.options.leaseTime
  rcases htake : takeLease w' a.repo.fullName c.label c.options.leaseTime with ⟨taken, w''⟩
  rw [htake] at hfit hhost hrepos
  have hcontents := Contents.of_repos hrepos a.repo
  rcases Archive.takeLease_cases htake with ⟨hstore, hnot⟩ | ⟨rfl, hway, hleases⟩
  · -- Nobody has got the lease, so the push waits.
    have haside : a.Aside c w' w'' := .of_eq hstore hhost
    rcases taken with e | holder | holder
    · exact ⟨.before, .before haside, rfl⟩
    · exact ⟨.before, .before haside, rfl⟩
    · exact absurd rfl (hnot holder)
  · have hsteady : a.Steady c w' w'' := ⟨fun _ => hfit, fun r hr => hhost ▸ hr⟩
    have hfree (m : Nat) : ¬ a.Held w' (holderName c.label m) := by
      rintro ⟨l, hl, hholder⟩
      cases (hway l hl).symm.trans (hready.firm l m hl hholder)
    have hheld : a.Held w'' (holderName c.label w'.serial) :=
      ⟨_, (hleases _).trans (if_pos rfl), rfl⟩
    refine ⟨_, .take w'.serial hsteady hcontents hfree hheld, ?_, hfit, hhost ▸ hready.has⟩
    rw [← hcontents]

theorem inTenure_awaitLease (wait : Wait) (since : Nat) {w : World σ} :
    (awaitLease c a.repo.fullName wait since).InTenure a c changes
      (Asked a c changes) .before w := by
  induction wait, since using awaitLease.induct generalizing w with
  | case1 wait since ih =>
    rw [awaitLease]
    refine inTenure_askLease.bind fun t x w hasked => ?_
    split
    · exact hasked
    · exact hasked
    · next refusal =>
      obtain rfl : t = .before := hasked
      refine (inTenure_look (P := fun _ => True) fun _ _ => trivial).bind fun t clock w ht => ?_
      obtain ⟨rfl, -⟩ := ht
      simp only
      split
      · exact rfl
      · next wake hnext => exact ih clock wake hnext

/-! ## During the tenure -/

variable (a c changes) in
/-- What a push has made of the rows and the marker. -/
structure Shows (row : String → Option FileRow) (marker : Option String) (w : World σ) :
    Prop where
  fit : a.Fit c.source w.store
  has : a.has w.host (c.reference changes)
  rows : ∀ p, w.store.file? a.number p = row p
  marker : w.store.marker a.repo = marker

section During

variable {holder : String} {found : Contents} {row row' : String → Option FileRow}
  {m : Option String}

theorem Shows.congr (h : Shows a c changes row m w) (hrow : ∀ p, row p = row' p) :
    Shows a c changes row' m w :=
  ⟨h.fit, h.has, fun p => (h.rows p).trans (hrow p), h.marker⟩

theorem Shows.rely (h : Shows a c changes row m w)
    (hrely : a.Rely c changes (.during holder found) w w') : Shows a c changes row m w' := by
  obtain ⟨hready, -, hrows, hmarker⟩ := hrely
  exact ⟨hready.fit, hready.has, fun p => (hrows p).trans (h.rows p), hmarker.trans h.marker⟩

theorem inTenure_work {f : World σ → α × World σ} {P : α → World σ → Prop}
    (hw : Shows a c changes row m w) (hf : ∀ w', Shows a c changes row m w' →
      a.Steady c w' (f w').2 ∧ (f w').2.store.leases = w'.store.leases ∧ P (f w').1 (f w').2) :
    (ask f).InTenure a c changes (fun t x w => t = .during holder found ∧ P x w)
      (.during holder found) w := by
  refine inTenure_ask fun w' hrely => ?_
  obtain ⟨hsteady, hleases, hp⟩ := hf w' (hw.rely hrely)
  refine ⟨_, .work holder found hsteady fun n => ?_, rfl, hp⟩
  unfold Archive.Held Store.lease?
  rw [hleases]

theorem inTenure_note {f : Instant → Registry → Registry} (hw : Shows a c changes row m w) :
    (note f).InTenure a c changes
      (fun t _ w => t = .during holder found ∧ Shows a c changes row m w)
      (.during holder found) w :=
  inTenure_work hw fun _ hw' =>
    ⟨⟨fun h => h, fun _ h => h⟩, rfl, ⟨hw'.fit, hw'.has, hw'.rows, hw'.marker⟩⟩

theorem inTenure_delete {repo : RepoRow} (hrepo : repo.id = a.number) (path : String)
    (hw : Shows a c changes row m w) :
    (delete repo path).InTenure a c changes (fun t _ w => t = .during holder found ∧
      Shows a c changes (fun p => if p = path then none else row p) m w)
      (.during holder found) w := by
  refine inTenure_work hw fun w' hw' => ?_
  have hfit := hw'.fit.deleteFile repo.id path
  refine ⟨⟨fun _ => hfit, fun _ h => h⟩, rfl, hfit, hw'.has, fun p => ?_, ?_⟩
  · show (w'.store.deleteFile repo.id path).2.file? a.number p = _
    rw [Store.file?_deleteFile, hrepo]
    simp only [true_and, hw'.rows]
  · exact (Store.marker_modify _ _ _ (Store.keepsIdentity_delete path) fun _ => rfl).trans
      hw'.marker

theorem inTenure_deleteAll {repo : RepoRow} (hrepo : repo.id = a.number) (paths : List String)
    (report : Report) (hw : Shows a c changes row m w) :
    (deleteAll repo paths report).InTenure a c changes (fun t _ w => t = .during holder found ∧
      Shows a c changes (fun p => if p ∈ paths then none else row p) m w)
      (.during holder found) w := by
  induction paths generalizing report row w with
  | nil => exact ⟨rfl, hw.congr fun _ => (if_neg List.not_mem_nil).symm⟩
  | cons path paths ih =>
    refine (inTenure_delete hrepo path hw).bind fun t result w h => ?_
    obtain ⟨rfl, hw⟩ := h
    have hrow (p : String) : (if p ∈ paths then none else if p = path then none else row p) =
        if p ∈ path :: paths then none else row p := by
      by_cases hp : p = path <;> simp [hp]
    have hrest := ih (report.record path result) hw
    simp only [hrow] at hrest
    exact hrest

theorem inTenure_contentId (hserved : a.Served c.service) {repo : RepoRow}
    (hname : repo.fullName = a.repo.fullName) (path : String) (hw : Shows a c changes row m w) :
    (askHost (c.service.contentId repo.repoId path (c.reference changes))).InTenure a c changes
      (fun t x w => t = .during holder found ∧ Shows a c changes row m w ∧
        ((∃ file, a.files (c.reference changes) path = some file ∧ x = .ok file.sha) ∨
          ∃ e : RemoteError, x = .error e ∧ e.isNotFound = true ∧
            a.files (c.reference changes) path = none))
      (.during holder found) w := by
  refine inTenure_work hw fun w' hw' => ?_
  have hanswer := (hserved.serves repo.repoId hname (c.reference changes)).contentId path hw'.has
  have hhas (r : String) := (hserved.serves repo.repoId hname r).keeps.contentId repo.repoId path
    (c.reference changes) (h := w'.host)
  rcases hask : c.service.contentId repo.repoId path (c.reference changes) w'.host with ⟨x, host⟩
  rw [hask] at hanswer hhas
  refine ⟨⟨fun h => h, hhas⟩, rfl, ⟨hw'.fit, hhas _ hw'.has, hw'.rows, hw'.marker⟩, ?_⟩
  cases x with
  | ok i =>
    obtain ⟨file, rfl, hfile⟩ := hanswer
    exact .inl ⟨file, hfile.symm, rfl⟩
  | error e => exact .inr ⟨e, rfl, hanswer.1, hanswer.2.symm⟩

/-- The lookups find the files of the tree and delete the paths that have none. -/
theorem inTenure_lookUpAll (hserved : a.Served c.service) {repo : RepoRow}
    (hname : repo.fullName = a.repo.fullName) (hrepo : repo.id = a.number) (paths : List String)
    (report : Report) (jobs : List FileJob) (hw : Shows a c changes row m w) :
    (lookUpAll c repo (c.reference changes) paths report jobs).InTenure a c changes
      (fun t x w => t = .during holder found ∧
        x.2 = (paths.filterMap (jobAt (a.files (c.reference changes)))).reverse ++ jobs ∧
        Shows a c changes (fun p => if p ∈ paths ∧ a.files (c.reference changes) p = none then none
          else row p) m w)
      (.during holder found) w := by
  induction paths generalizing report jobs row w with
  | nil => exact ⟨rfl, rfl, hw.congr fun p => by simp⟩
  | cons path paths ih =>
    refine (inTenure_contentId hserved hname path hw).bind fun t x w h => ?_
    obtain ⟨rfl, hw, ⟨file, hfile, rfl⟩ | ⟨e, rfl, hmissing, hnone⟩⟩ := h
    · -- The path has a file, so it becomes a job.
      have hrow (p : String) :
          (if p ∈ paths ∧ a.files (c.reference changes) p = none then none else row p) =
            if p ∈ path :: paths ∧ a.files (c.reference changes) p = none then none else row p := by
        by_cases hp : p = path
        · subst hp
          simp [hfile]
        · simp [hp]
      have hjob : jobAt (a.files (c.reference changes)) path = some ⟨path, some file.sha⟩ := by
        unfold jobAt
        rw [hfile]
        rfl
      have hrest := ih report (⟨path, some file.sha⟩ :: jobs) hw
      rw [List.filterMap_cons_some hjob, List.reverse_cons, List.append_assoc]
      simp only [hrow] at hrest
      exact hrest
    · have hjob : jobAt (a.files (c.reference changes)) path = none := by
        unfold jobAt
        rw [hnone]
        rfl
      have hrow (p : String) : (if p ∈ paths ∧ a.files (c.reference changes) p = none then none
          else if p = path then none else row p) =
            if p ∈ path :: paths ∧ a.files (c.reference changes) p = none then none else row p := by
        by_cases hp : p = path
        · subst hp
          simp [hnone]
        · simp [hp]
      simp only [hmissing, if_true]
      refine (inTenure_delete hrepo path hw).bind fun t result w h => ?_
      obtain ⟨rfl, hw⟩ := h
      refine (inTenure_note hw).bind fun t _ w h => ?_
      obtain ⟨rfl, hw⟩ := h
      have hrest := ih (report.record path result) jobs hw
      rw [List.filterMap_cons_none hjob]
      simp only [hrow] at hrest
      exact hrest

variable (a c changes) in
/-- What holds of the crew of a push that began with these rows. -/
structure CrewShows (run : Run) (row : String → Option FileRow) (m : Option String)
    (k : Crew σ) : Prop where
  fit : a.Fit c.source k.world.store
  marker : k.world.store.marker a.repo = m
  sound : k.Sound c run (fun h => a.has h (c.reference changes))
    (fun _ p answer => Fetched (· = a.files (c.reference changes) p) answer) row

structure RunOf (a : Archive σ) (c : Setup σ) (changes : ChangeSet) (paths : List String)
    (run : Run) : Prop where
  name : run.repo.fullName = a.repo.fullName
  number : run.repo.id = a.number
  reference : run.reference = c.reference changes
  revision : run.revision = changes.revision
  jobs : run.jobs = paths.filterMap (jobAt (a.files (c.reference changes)))

section Crew

variable {run : Run} {paths : List String} (hserved : a.Served c.service)
  (hrun : RunOf a c changes paths run)

include hrun in
theorem CrewShows.rely {k : Crew σ} (hk : CrewShows a c changes run row m k) {w' : World σ}
    (h : a.Rely c changes (.during holder found) k.world w') :
    CrewShows a c changes run row m { k with world := w' } := by
  obtain ⟨hready, -, hrows, hmarker⟩ := h
  rw [← hrun.number] at hrows
  refine ⟨hready.fit, hmarker.trans hk.marker, hk.sound.jobs, hready.has, ?_, hk.sound.ready, ?_,
    fun p hp => (hrows p).trans (hk.sound.others p hp)⟩
  · rw [hrun.number]
    exact hready.fit.named.hasRepo hready.fit.wellFormed
  · intro d hd
    rw [hrows]
    exact hk.sound.ended d hd

include hserved hrun in
theorem CrewShows.turn (hnodup : (run.jobs.map FileJob.path).Nodup) {k k' : Crew σ}
    (hk : CrewShows a c changes run row m k) (h : k.Steps c run k') :
    CrewShows a c changes run row m k' ∧ a.Steady c k.world k'.world ∧
      k'.world.store.leases = k.world.store.leases := by
  have hserves := hserved.serves run.repo.repoId hrun.name
  have hsound := hk.sound.step (hrun.reference ▸ (hserves _).answers) hnodup h
  have hhas (r : String) := h.host (hserves r).keeps
  rcases h.store_cases with hstore | ⟨x, hx, e, file, i, next, he, hstage, hstore⟩
  · exact ⟨⟨hstore ▸ hk.fit, hstore ▸ hk.marker, hsound⟩, ⟨fun h => hstore ▸ h, hhas⟩,
      congrArg Store.leases hstore⟩
  · -- The file was fetched, so it is one of the archive.
    have hgenuine : a.Genuine file := by
      have hready := hk.sound.ready x hx
      unfold Worker.Ready at hready
      rw [hstage] at hready
      exact ⟨_, _, hready.2.symm⟩
    have hrow : Traced c.source a.Genuine x.job.path
        ((c.source.writeOf x.job.path file).row i k.world.now) :=
      fun _ => ⟨file, hgenuine, c.source.core_row x.job.path file i k.world.now⟩
    have hfit := hk.fit.putRow he (fun _ => hrow) next
    rw [← hstore] at hfit
    refine ⟨⟨hfit, ?_, hsound⟩, ⟨fun _ => hfit, hhas⟩, by rw [hstore]; rfl⟩
    rw [hstore]
    exact (Store.marker_modify _ _ _ (Store.keepsIdentity_put _) fun _ => rfl).trans hk.marker

include hserved hrun in
/-- When its files are done, a run has the rows of the tree at its paths. -/
theorem CrewShows.joined (hnone : ∀ p ∈ paths, a.files (c.reference changes) p = none →
      row p = none) (hrow : ∀ p, ∀ f ∈ row p, Traced c.source a.Genuine p f)
    {done : List (FileJob × Except Error FileOutcome)} {w : World σ}
    (hk : CrewShows a c changes run row m ⟨[], done, w⟩) (p : String) :
    (w.store.file? a.number p).map FileRow.core =
      if p ∈ paths then (a.files (c.reference changes) p).map (c.source.rowOf p)
      else (row p).map FileRow.core := by
  have hjobs : (done.map Prod.fst).Perm run.jobs := by simpa using hk.sound.jobs
  have hpath {d} (hd : d ∈ done) : d.1.path ∈ paths ∧
      ∃ file, a.files (c.reference changes) d.1.path = some file ∧ d.1.known = some file.sha := by
    have hmem := hjobs.mem_iff.mp (List.mem_map_of_mem hd)
    rw [hrun.jobs] at hmem
    obtain ⟨q, hq, hjob⟩ := List.mem_filterMap.mp hmem
    obtain ⟨file, hfile, hd⟩ := Option.map_eq_some_iff.mp hjob
    rw [← hd]
    exact ⟨hq, file, hfile, rfl⟩
  have hothers (h : ∀ d ∈ done, d.1.path ≠ p) : w.store.file? a.number p = row p :=
    hrun.number ▸ hk.sound.others p h
  by_cases hp : p ∈ paths
  · rw [if_pos hp]
    cases hfile : a.files (c.reference changes) p with
    | none =>
      rw [hothers, hnone p hp hfile]
      · rfl
      · rintro d hd rfl
        obtain ⟨-, file, hfile', -⟩ := hpath hd
        cases hfile.symm.trans hfile'
    | some file =>
      have hjob : ⟨p, some file.sha⟩ ∈ run.jobs := by
        rw [hrun.jobs]
        exact List.mem_filterMap.mpr ⟨p, hp, by unfold jobAt; rw [hfile]; rfl⟩
      obtain ⟨⟨job, result⟩, hd, rfl⟩ := List.mem_map.mp (hjobs.mem_iff.mpr hjob)
      have hended := hk.sound.ended _ hd
      rw [hrun.number] at hended
      have hcaught := hended.caught (hrow p) hserved.distinct
        (fun f hf => ⟨_, _, hf.symm⟩) hfile.symm rfl
      exact hcaught.core_eq fun f hf => hf.trans hfile
  · rw [if_neg hp, hothers]
    rintro d hd rfl
    exact hp (hpath hd).1

theorem inTenure_noteFiles (results : List FileResult) (hw : Shows a c changes row m w) :
    (noteFiles a.repo.fullName results).InTenure a c changes
      (fun t _ w => t = .during holder found ∧ Shows a c changes row m w)
      (.during holder found) w := by
  induction results generalizing w with
  | nil => exact ⟨rfl, hw⟩
  | cons result results ih =>
    have hnote : (note fun _ r => r.fileDone a.repo.fullName).InTenure a c changes
        (fun t _ w => t = .during holder found ∧ Shows a c changes row m w)
        (.during holder found) w := inTenure_note hw
    exact hnote.bind fun t _ w h => h.1 ▸ ih h.2

include hrun in
theorem inTenure_record (results : List FileResult) (hw : Shows a c changes row m w) :
    (record run results).InTenure a c changes
      (fun t x w => t = .during holder found ∧ (∃ report, x = .ok (.completed report)) ∧
        Shows a c changes row (changes.revision.or m) w)
      (.during holder found) w := by
  unfold record
  rw [hrun.name]
  refine (inTenure_noteFiles results hw).bind fun t _ w h => ?_
  obtain ⟨rfl, hw⟩ := h
  have hstore : (askStore fun w : World σ =>
      (.ok (), { w with store := w.store.recordSync run.repo.id run.revision w.now })).InTenure
      a c changes (fun t x w => t = .during holder found ∧ x = .ok () ∧
        Shows a c changes row (changes.revision.or m) w) (.during holder found) w := by
    refine inTenure_work hw fun w' hw' => ?_
    have hfit := hw'.fit.recordSync run.repo.id run.revision w'.now
    refine ⟨⟨fun _ => hfit, fun _ h => h⟩, rfl, rfl, hfit, hw'.has, fun p => ?_, ?_⟩
    · exact (Store.file?_recordSync _ _ _ _ _ _).trans (hw'.rows p)
    · rw [hrun.number, hrun.revision, ← hw'.marker]
      exact Store.marker_recordSync hw'.fit.named changes.revision w'.now
  refine hstore.bind fun t x w h => ?_
  obtain ⟨rfl, rfl, hw⟩ := h
  exact ⟨rfl, ⟨_, rfl⟩, hw⟩

include hserved hrun in
theorem inTenure_index (hnodup : paths.Nodup)
    (hnone : ∀ p ∈ paths, a.files (c.reference changes) p = none → row p = none)
    (hw : Shows a c changes row m w) :
    (index run).InTenure a c changes
      (fun t x w => t = .during holder found ∧ (∃ report, x = .ok (.completed report)) ∧
        ∃ row', (∀ p, (row' p).map FileRow.core =
          if p ∈ paths then (a.files (c.reference changes) p).map (c.source.rowOf p)
          else (row p).map FileRow.core) ∧
          Shows a c changes row' (changes.revision.or m) w)
      (.during holder found) w := by
  have hjobs : (run.jobs.map FileJob.path).Nodup := by
    rw [hrun.jobs, List.map_filterMap]
    refine hnodup.filterMap fun p q job hp hq => ?_
    obtain ⟨_, hjob, rfl⟩ := Option.map_eq_some_iff.mp hp
    obtain ⟨_, hjob', heq⟩ := Option.map_eq_some_iff.mp hq
    obtain ⟨_, -, rfl⟩ := Option.map_eq_some_iff.mp hjob
    obtain ⟨_, -, rfl⟩ := Option.map_eq_some_iff.mp hjob'
    exact heq.symm
  have hbegin : CrewShows a c changes run row m ⟨run.jobs.map fun job => { job }, [], w⟩ := by
    refine ⟨hw.fit, hw.marker, ?_, hw.has, ?_, fun x hx => ?_, nofun, fun p _ => ?_⟩
    · simp [Function.comp_def]
    · exact hrun.number ▸ hw.fit.named.hasRepo hw.fit.wellFormed
    · obtain ⟨job, -, rfl⟩ := List.mem_map.mp hx
      trivial
    · exact hrun.number ▸ hw.rows p
  refine ⟨CrewShows a c changes run row m, hbegin, fun k w' hk => hk.rely hrun,
    fun k k' hk h => ?_, fun done w' hk => ?_⟩
  · obtain ⟨hk', hsteady, hleases⟩ := hk.turn hserved hrun hjobs h
    refine ⟨hk', .work holder found hsteady fun n => ?_⟩
    unfold Archive.Held Store.lease?
    rw [hleases]
  · have htraced (p : String) : ∀ f ∈ row p, Traced c.source a.Genuine p f := by
      rw [← hw.rows p]
      exact hw.fit.traced p
    have hrows := hk.joined hserved hrun hnone htraced
    have hshows : Shows a c changes (w'.store.file? a.number) m w' :=
      ⟨hk.fit, hk.sound.valid, fun _ => rfl, hk.marker⟩
    exact (inTenure_record hrun (fileResults done) hshows).mono fun t x w h =>
      ⟨h.1, h.2.1, _, hrows, h.2.2⟩

end Crew

/-- What a push has made of the contents that it found. -/
def Applies (a : Archive σ) (c : Setup σ) (changes : ChangeSet) (found : Contents)
    (w : World σ) : Prop :=
  ∃ row, (∀ p, (row p).map FileRow.core =
      (found.apply c.source (a.files (c.reference changes)) changes).row p) ∧
    Shows a c changes row (changes.revision.or found.marker) w

theorem inTenure_runPartial (hserved : a.Served c.service) (hnodup : changes.changed.Nodup)
    {repo : RepoRow} (hname : repo.fullName = a.repo.fullName) (hnumber : repo.id = a.number)
    (hw : Shows a c changes row found.marker w)
    (hfound : ∀ p, (row p).map FileRow.core = found.row p) :
    (runPartial c repo holder changes).InTenure a c changes
      (fun t x w => t = .during holder found ∧ (∃ report, x = .ok (.completed report)) ∧
        Applies a c changes found w)
      (.during holder found) w := by
  unfold runPartial
  refine (inTenure_deleteAll hnumber changes.deleted {} hw).bind fun t report w h => ?_
  obtain ⟨rfl, hw⟩ := h
  refine (inTenure_note hw).bind fun t _ w h => ?_
  obtain ⟨rfl, hw⟩ := h
  refine (inTenure_lookUpAll hserved hname hnumber _ report [] hw).bind fun t x w h => ?_
  obtain ⟨rfl, hjobs, hw⟩ := h
  have hrun : RunOf a c changes (changes.changed.filter Language.isIndexable)
      { repo, holder, reference := c.reference changes, revision := changes.revision,
        force := false, report := x.1, jobs := x.2.reverse } := by
    refine ⟨hname, hnumber, rfl, rfl, ?_⟩
    show x.2.reverse = _
    rw [hjobs, List.append_nil, List.reverse_reverse]
  refine (inTenure_index hserved hrun (hnodup.filter _) ?_ hw).mono fun t x w h => ?_
  · exact fun p hp hnone => if_pos ⟨hp, hnone⟩
  · obtain ⟨ht, hreport, row', hrow', hw⟩ := h
    refine ⟨ht, hreport, row', fun p => (hrow' p).trans ?_, hw⟩
    unfold Contents.apply
    simp only [List.mem_filter]
    split
    · rfl
    · next hp =>
      rw [if_neg fun h => hp h.1, ← hfound p]
      split <;> rfl

/-- The push gives the lease up, and then it has nothing more to do than to say so. -/
theorem inTenure_conclude (result : Except Error Outcome) (hw : Applies a c changes found w) :
    (conclude a.repo.fullName holder result).InTenure a c changes
      (fun t x _ => t = .after ∧ x = .ran result) (.during holder found) w := by
  obtain ⟨row', hrow', hw⟩ := hw
  have hrelease : (release a.repo.fullName holder : Script σ Unit).InTenure a c changes
      (fun t _ _ => t = .after) (.during holder found) w := by
    intro w' hrely
    have hw' := hw.rely hrely
    have hfit := hw'.fit.releaseLease a.repo.fullName holder
    refine ⟨.after, .leave holder found ⟨fun _ => hfit, fun _ h => h⟩ ?_ fun n => ?_, rfl⟩
    · show Contents.of w'.store a.repo = _
      rw [hw'.fit.contents]
      simp only [hw'.rows, hrow', hw'.marker]
      rfl
    · exact Archive.not_held_dropLease hw'.fit hrely.2.1 _
  refine hrelease.bind fun t _ w ht => ?_
  subst ht
  exact fun w' _ => ⟨.after, .after (.of_eq rfl rfl), rfl, rfl⟩

end During

/-! ## Whole pushes -/

/-- A push that has completed has had its tenure, and any other one has not. -/
def Concluded (t : Tenure) (exit : Exit) : Prop :=
  (t = .after ∧ ∃ report, exit = .ran (.ok (.completed report))) ∨
    (t = .before ∧ ∀ report, exit ≠ .ran (.ok (.completed report)))

theorem inTenure_progress : (progress a.repo.fullName).InTenure a c changes
    (fun t _ _ => t = .before) .before w := by
  have hlook {γ : Type} {f : World σ → γ} {w : World σ} : (read f).InTenure a c changes
      (fun t _ _ => t = .before) .before w :=
    fun w' _ => ⟨.before, .before (.refl w'), rfl⟩
  refine hlook.bind fun t here w ht => ?_
  subst ht
  split
  · rfl
  · have hask : (askStore fun w : World σ => (w.store.getLease a.repo.fullName, w)).InTenure
        a c changes (fun t _ _ => t = .before) .before w :=
      fun w' _ => ⟨.before, .before (.refl w'), rfl⟩
    refine hask.bind fun t l w ht => ?_
    subst ht
    split
    · rfl
    · rfl
    · exact hlook.bind fun t _ w ht => ht

theorem inTenure_partialFrom (hserved : a.Served c.service) (hnodup : changes.changed.Nodup)
    {repo : RepoRow} (hname : repo.fullName = a.repo.fullName) (hnumber : repo.id = a.number)
    (wait : Wait) (start since : Nat) :
    (partialFrom c repo changes wait start since).InTenure a c changes
      (fun t x _ => Concluded t x) .before w := by
  unfold partialFrom
  rw [hname]
  refine (inTenure_awaitLease wait since).bind fun t x w hasked => ?_
  split
  · exact .inr ⟨hasked, nofun⟩
  · obtain rfl : t = .before := hasked
    exact inTenure_progress.bind fun t x w ht => .inr ⟨ht, nofun⟩
  · next holder =>
    obtain ⟨rfl, hfit, hhas⟩ := hasked
    have hw : Shows a c changes (w.store.file? a.number) (Contents.of w.store a.repo).marker w :=
      ⟨hfit, hhas, fun _ => rfl, rfl⟩
    have hfound (p : String) :
        (w.store.file? a.number p).map FileRow.core = (Contents.of w.store a.repo).row p := by
      rw [hfit.contents]
    refine (inTenure_note hw).bind fun t _ w h => ?_
    obtain ⟨rfl, hw⟩ := h
    refine (inTenure_runPartial hserved hnodup hname hnumber hw hfound).bind fun t x w h => ?_
    obtain ⟨rfl, ⟨report, rfl⟩, hw⟩ := h
    exact (inTenure_conclude _ hw).mono fun t x w h => .inl ⟨h.1, report, h.2⟩

theorem inTenure_partialSync (hserved : a.Served c.service) (hnodup : changes.changed.Nodup)
    {repo : RepoId} (hrepo : repo.fullName = a.repo.fullName) :
    (partialSync c repo changes).InTenure a c changes
      (fun t x _ => Concluded t x) .before w := by
  have hget : (askStore fun w : World σ => (storedRepo repo w, w)).InTenure a c changes
      (fun t x _ => t = .before ∧ ∀ row : RepoRow, x = .ok row →
        row.fullName = a.repo.fullName ∧ row.id = a.number) .before w := by
    refine fun w' hready => ⟨.before, .before (.refl w'), rfl, fun row hrow => ?_⟩
    obtain ⟨e, he, rfl⟩ := entry_of_getRepo (getRepo_of_storedRepo hrow)
    obtain ⟨e', he', hnumber⟩ := hready.fit.named
    rw [hrepo] at he
    cases he.symm.trans he'
    exact ⟨fullName_of_entryNamed? he, hnumber⟩
  refine hget.bind fun t x w h => ?_
  obtain ⟨rfl, hrow⟩ := h
  split
  · exact .inr ⟨rfl, nofun⟩
  · next row =>
    obtain ⟨hname, hnumber⟩ := hrow row rfl
    refine (inTenure_look (P := fun _ => True) fun _ _ => trivial).bind fun t now w h => ?_
    obtain ⟨rfl, -⟩ := h
    exact inTenure_partialFrom hserved hnodup hname hnumber _ _ _

theorem inTenure_job (hserved : a.Served c.service) (hnodup : changes.changed.Nodup)
    {repo : RepoId} (hrepo : repo.fullName = a.repo.fullName) :
    (job c (.push repo changes)).InTenure a c changes
      (fun t exits _ => ∃ exit, exits = [exit] ∧ Concluded t exit) .before w :=
  (inTenure_partialSync hserved hnodup hrepo).bind fun _ exit _ h => ⟨exit, rfl, h⟩

end InTenure

end Script

end ContextIndex.Sync
