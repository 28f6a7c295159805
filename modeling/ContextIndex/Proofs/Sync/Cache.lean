import ContextIndex.Proofs.Extract.Settled
import ContextIndex.Proofs.Sync.Calls
import ContextIndex.Proofs.Sync.Full
import ContextIndex.Proofs.Sync.Undisturbed

/-!
# The index is a cache

Any number of coordinators sync repositories in one store, each call by call, and between two calls
the host, the leases and the time may change, syncs may begin and syncs may crash (`Site.Step`).
Every stored row comes from one answer of the host: it holds the content and the identity that came
together, and everything else in it, its symbols included, is made from its path and that content
(`Site.rows_cached`).

The invariant has two parts.  A row is faithful to a file that the host gave out for the path
(`Faithful`), and whoever is about to write a file got it from the host for the repository that it
writes to (`cacheTerms`).
-/

namespace ContextIndex

namespace Remote

/-- A file that a host gave out for a path of a repository. -/
structure Given where
  /-- The repository. -/
  repo : RepoId
  /-- The path. -/
  path : String
  /-- The file. -/
  file : File
deriving DecidableEq, Repr

/-- A service that keeps a list of the files it has given out. -/
def Service.recorded {σ : Type} (s : Service σ) : Service (σ × List Given) where
  metadata repo h := ((s.metadata repo h.1).1, (s.metadata repo h.1).2, h.2)
  head repo branch h := ((s.head repo branch h.1).1, (s.head repo branch h.1).2, h.2)
  tree repo ref h := ((s.tree repo ref h.1).1, (s.tree repo ref h.1).2, h.2)
  fetch repo path ref h :=
    match s.fetch repo path ref h.1 with
    | (.ok file, host) => (.ok file, host, h.2 ++ [⟨repo, path, file⟩])
    | (.error e, host) => (.error e, host, h.2)
  contentId repo path ref h :=
    ((s.contentId repo path ref h.1).1, (s.contentId repo path ref h.1).2, h.2)
  commitsSince repo branch since h :=
    ((s.commitsSince repo branch since h.1).1, (s.commitsSince repo branch since h.1).2, h.2)
  commitFiles repo sha h :=
    ((s.commitFiles repo sha h.1).1, (s.commitFiles repo sha h.1).2, h.2)

theorem Service.recorded_shields {σ : Type} (s : Service σ) : s.recorded.Shields Prod.snd :=
  ⟨fun _ _ => rfl, fun _ _ _ => rfl, fun _ _ _ => rfl, fun _ _ _ _ => rfl⟩

/-- The list grows with every file. -/
theorem Service.recorded_fetch {σ : Type} (s : Service σ) (repo : RepoId) (path ref : String)
    (h : σ × List Given) :
    h.2 ⊆ (s.recorded.fetch repo path ref h).2.2 ∧
      ∀ file, (s.recorded.fetch repo path ref h).1 = .ok file →
        ⟨repo, path, file⟩ ∈ (s.recorded.fetch repo path ref h).2.2 := by
  unfold Service.recorded
  simp only
  split
  · exact ⟨List.subset_append_left _ _, fun file hfile => by cases hfile; simp⟩
  · exact ⟨List.Subset.refl _, nofun⟩

end Remote

namespace Sync

open Remote (Given Service)
open Store (KeepsIdentity)

/-! ## Faithful rows -/

/-- A row of a repository is the row of a file that the host gave out for its path. -/
def IsGiven (given : List Given) (repo : RepoId) (f : FileRow) : Prop :=
  ∃ file, ⟨repo, f.path, file⟩ ∈ given ∧ f.core = SymbolSource.byRules.rowOf f.path file

/-- Every row is that of a file that the host gave out for the path. -/
def Faithful (given : List Given) (s : Store) : Prop :=
  ∀ e ∈ s.repos, ∀ f ∈ e.files, IsGiven given e.row.repoId f

/-- The repository of a row is stored under its number. -/
def Holds (s : Store) (row : RepoRow) : Prop :=
  ∃ e ∈ s.repos, e.row.id = row.id ∧ e.row.repoId = row.repoId

section Rows

variable {given : List Given} {s s' : Store} {row : RepoRow}

theorem Faithful.mono (hs : Faithful given s) {more : List Given} (h : given ⊆ more) :
    Faithful more s := by
  intro e he f hf
  obtain ⟨file, hfile, hcore⟩ := hs e he f hf
  exact ⟨file, h hfile, hcore⟩

/-- A change to the entry of a repository keeps rows faithful if those it brings are. -/
theorem Faithful.modify (hs : Faithful given s) (r : Nat) {f : RepoEntry → RepoEntry}
    (hf : KeepsIdentity f) (hfiles : ∀ e ∈ s.repos, e.row.id = r → ∀ x ∈ (f e).files,
      x ∈ e.files ∨ IsGiven given e.row.repoId x) : Faithful given (s.modify r f) := by
  intro e he
  obtain ⟨e₀, he₀, rfl⟩ := List.mem_map.mp he
  split
  · next hid =>
    intro x hx
    rw [(hf e₀).2]
    exact (hfiles e₀ he₀ hid x hx).elim (hs e₀ he₀ x) id
  · exact hs e₀ he₀

theorem Holds.modify (h : Holds s row) (r : Nat) {f : RepoEntry → RepoEntry}
    (hf : KeepsIdentity f) : Holds (s.modify r f) row := by
  obtain ⟨e, he, hid, hrepo⟩ := h
  refine ⟨if e.row.id = r then f e else e, List.mem_map.mpr ⟨e, he, rfl⟩, ?_⟩
  split
  · rw [(hf e).1, (hf e).2]
    exact ⟨hid, hrepo⟩
  · exact ⟨hid, hrepo⟩

/-- What the operations other than a write leave of the repositories. -/
theorem Change.repos_cases {y : SymbolSource} (h : Change y (fun _ => False) s s') :
    s'.repos = s.repos ∨ (∃ row, s'.repos = s.repos ++ [⟨row, []⟩]) ∨
      ∃ r f, KeepsIdentity f ∧ (∀ e, (f e).files ⊆ e.files) ∧ s' = s.modify r f := by
  cases h with
  | insert repo m =>
    unfold Store.insertRepo
    split
    · exact .inl rfl
    · exact .inr (.inl ⟨_, rfl⟩)
  | record repo revision t =>
    exact .inr (.inr ⟨repo, _, Store.keepsIdentity_record revision t,
      fun _ => List.Subset.refl _, rfl⟩)
  | write repo z path file now force htag hfile => exact hfile.elim
  | delete repo path =>
    exact .inr (.inr ⟨repo, _, Store.keepsIdentity_delete path,
      fun _ _ hx => (List.mem_filter.mp hx).1, rfl⟩)
  | acquire key holder now expiresAt =>
    exact .inl (Store.repos_acquireLease s key holder now expiresAt).1
  | renew key holder expiresAt => exact .inl rfl
  | release key holder => exact .inl rfl

theorem Change.faithful {y : SymbolSource} (h : Change y (fun _ => False) s s')
    (hs : Faithful given s) : Faithful given s' := by
  rcases h.repos_cases with hrepos | ⟨row, hrepos⟩ | ⟨r, f, hid, hfiles, rfl⟩
  · unfold Faithful
    rw [hrepos]
    exact hs
  · intro e he
    rw [hrepos] at he
    rcases List.mem_append.mp he with he | he
    · exact hs e he
    · rw [List.mem_singleton.mp he]
      exact fun _ hx => nomatch hx
  · exact hs.modify r hid fun e _ _ x hx => .inl (hfiles e hx)

theorem Change.holds {y : SymbolSource} (h : Change y (fun _ => False) s s')
    (hs : Holds s row) : Holds s' row := by
  rcases h.repos_cases with hrepos | ⟨row', hrepos⟩ | ⟨r, f, hid, -, rfl⟩
  · unfold Holds
    rw [hrepos]
    exact hs
  · obtain ⟨e, he, hrow⟩ := hs
    exact ⟨e, hrepos ▸ List.mem_append_left _ he, hrow⟩
  · exact hs.modify r hid

theorem Changes.faithful {y : SymbolSource} (h : Changes y (fun _ => False) s s')
    (hs : Faithful given s) : Faithful given s' := by
  induction h with
  | refl => exact hs
  | tail _ hstep ih => exact hstep.faithful ih

theorem Changes.holds {y : SymbolSource} (h : Changes y (fun _ => False) s s')
    (hs : Holds s row) : Holds s' row := by
  induction h with
  | refl => exact hs
  | tail _ hstep ih => exact hstep.holds ih

/-- The row of a file that was given out for a path of a stored repository keeps rows faithful. -/
theorem Faithful.putRow (hs : Faithful given s) (hwf : s.WellFormed) (hrow : Holds s row)
    {x : FileRow} (hx : IsGiven given row.repoId x) (next : Nat) :
    Faithful given (s.putRow row.id x next) := by
  obtain ⟨e₀, he₀, hid₀, hrepo₀⟩ := hrow
  refine hs.modify row.id (Store.keepsIdentity_put x) fun e he hid z hz => ?_
  rcases Store.mem_putFile hz with rfl | hold
  · -- Numbers are unique, so this is the entry of the repository.
    have heq : e = e₀ := List.inj_on_of_nodup_map hwf.ids he he₀ (hid.trans hid₀.symm)
    rw [heq, hrepo₀]
    exact .inr hx
  · exact .inl hold

theorem Holds.putRow (h : Holds s row) (r : Nat) (x : FileRow) (next : Nat) :
    Holds (s.putRow r x next) row :=
  h.modify r (Store.keepsIdentity_put x)

end Rows

/-! ## Syncs whose rows are faithful -/

section Terms

variable {σ : Type}

/-- Stored repositories stay and the list of files given out grows.  A file that is about to be
written was given out for its path and for the repository of the run, which is stored. -/
def cacheTerms : Script.Terms (σ × List Given) where
  rely w w' := (∀ row, Holds w.store row → Holds w'.store row) ∧ w.host.2 ⊆ w'.host.2
  crew run workers w := Holds w.store run.repo ∧
    ∀ x ∈ workers, ∀ file, x.stage = .fetched file →
      ⟨run.repo.repoId, x.job.path, file⟩ ∈ w.host.2

/-- A coordinator that finds declarations by rules. -/
def coordinator (service : Service σ) (options : Options) (label : String) :
    Setup (σ × List Given) :=
  { service := service.recorded, options, label }

variable {service : Service σ} {options : Options} {label : String}

/-- The worker of a crew at a place is another one now. -/
theorem crew_replace {run : Run} {before after : List Worker} {x y : Worker}
    {w w' : World (σ × List Given)} (hcrew : cacheTerms.crew run (before ++ x :: after) w)
    (hrely : cacheTerms.rely w w') (hy : ∀ file, y.stage = .fetched file →
      ⟨run.repo.repoId, y.job.path, file⟩ ∈ w'.host.2) :
    cacheTerms.crew run (before ++ y :: after) w' := by
  refine ⟨hrely.1 _ hcrew.1, fun z hz file hfile => ?_⟩
  have hold (hmem : z ∈ before ++ x :: after) := hrely.2 (hcrew.2 z hmem file hfile)
  rcases List.mem_append.mp hz with hz | hz
  · exact hold (List.mem_append_left _ hz)
  · rcases List.mem_cons.mp hz with rfl | hz
    · exact hy file hfile
    · exact hold (List.mem_append_right _ (.tail _ hz))

theorem crew_drop {run : Run} {before after : List Worker} {x : Worker}
    {w w' : World (σ × List Given)} (hcrew : cacheTerms.crew run (before ++ x :: after) w)
    (hrely : cacheTerms.rely w w') : cacheTerms.crew run (before ++ after) w' := by
  refine ⟨hrely.1 _ hcrew.1, fun z hz file hfile => hrely.2 (hcrew.2 z ?_ file hfile)⟩
  rcases List.mem_append.mp hz with hz | hz
  · exact List.mem_append_left _ hz
  · exact List.mem_append_right _ (.tail _ hz)

/-- What holds of the store between any two steps. -/
structure Kept (w : World (σ × List Given)) : Prop where
  wellFormed : w.store.WellFormed
  faithful : Faithful w.host.2 w.store

/-- A worker writes the row of the file that it was given. -/
theorem Worker.Acts.kept {run : Run} {x : Worker} {turn : Turn} {w w' : World (σ × List Given)}
    (h : x.Acts (coordinator service options label) run w turn w') (hrepo : Holds w.store run.repo)
    (hfetched : ∀ file, x.stage = .fetched file → ⟨run.repo.repoId, x.job.path, file⟩ ∈ w.host.2) :
    cacheTerms.rely w w' ∧ (Kept w → Kept w') ∧ ∀ stage, turn = .on stage →
      ∀ file, stage = .fetched file → ⟨run.repo.repoId, x.job.path, file⟩ ∈ w'.host.2 := by
  have hself : cacheTerms.rely w w := ⟨fun _ h => h, List.Subset.refl _⟩
  cases h with
  | skip => exact ⟨hself, id, nofun⟩
  | begin => exact ⟨hself, id, fun _ hturn _ hfile => by cases hturn; cases hfile⟩
  | miss e host hstage hanswer =>
    have hgrow := (service.recorded_fetch run.repo.repoId x.job.path run.reference w.host).1
    have hhost :
        (service.recorded.fetch run.repo.repoId x.job.path run.reference w.host).2 = host :=
      congrArg Prod.snd hanswer
    rw [hhost] at hgrow
    exact ⟨⟨fun _ h => h, hgrow⟩, fun hk => ⟨hk.wellFormed, hk.faithful.mono hgrow⟩, nofun⟩
  | get file host hstage hanswer =>
    obtain ⟨hgrow, hgiven⟩ :=
      service.recorded_fetch run.repo.repoId x.job.path run.reference w.host
    have hanswer' : service.recorded.fetch run.repo.repoId x.job.path run.reference w.host =
      (.ok file, host) := hanswer
    rw [hanswer'] at hgrow hgiven
    refine ⟨⟨fun _ h => h, hgrow⟩, fun hk => ⟨hk.wellFormed, hk.faithful.mono hgrow⟩, ?_⟩
    intro stage hturn file' hfile
    cases hturn
    cases hfile
    exact hgiven file rfl
  | write file result w' hstage hwrite =>
    rcases writeFetched_cases _ hwrite with
      ⟨-, -, -, rfl⟩ | ⟨-, ⟨-, -, rfl⟩ | ⟨e, id, next, -, -, rfl⟩⟩
    · exact ⟨hself, fun hk => hk, nofun⟩
    · exact ⟨hself, fun hk => hk, nofun⟩
    · have hrow : IsGiven w.host.2 run.repo.repoId
          ((SymbolSource.byRules.writeOf x.job.path file).row id w.now) :=
        ⟨file, hfetched file hstage, SymbolSource.byRules.core_row x.job.path file id w.now⟩
      exact ⟨⟨fun _ h => h.putRow _ _ _, List.Subset.refl _⟩,
        fun hk => ⟨hk.wellFormed.putRow _ _ _, hk.faithful.putRow hk.wellFormed hrepo hrow next⟩,
        nofun⟩

/-- What a turn in a crew of a coordinator keeps. -/
theorem Crew.Steps.kept {run : Run} {k k' : Crew (σ × List Given)}
    (h : k.Steps (coordinator service options label) run k')
    (hcrew : cacheTerms.crew run k.workers k.world) :
    cacheTerms.rely k.world k'.world ∧ cacheTerms.crew run k'.workers k'.world ∧
      (Kept k.world → Kept k'.world) := by
  cases h with
  | idle => exact ⟨⟨fun _ h => h, List.Subset.refl _⟩, hcrew, id⟩
  | on before after x stage w hworkers hpermit hacts =>
    rw [hworkers] at hcrew
    obtain ⟨hrely, hkept, hgiven⟩ := hacts.kept hcrew.1 (hcrew.2 x (by simp))
    exact ⟨hrely, crew_replace hcrew hrely (hgiven stage rfl), hkept⟩
  | ended before after x result w hworkers hacts =>
    rw [hworkers] at hcrew
    obtain ⟨hrely, hkept, -⟩ := hacts.kept hcrew.1 (hcrew.2 x (by simp))
    exact ⟨hrely, crew_drop hcrew hrely, hkept⟩

theorem cacheTerms_fair (service : Service σ) (options : Options) (label : String) :
    cacheTerms.Fair (coordinator service options label) where
  refl _ := ⟨fun _ h => h, List.Subset.refl _⟩
  trans h h' := ⟨fun row hrow => h'.1 row (h.1 row hrow), List.Subset.trans h.2 h'.2⟩
  crew hrely hcrew :=
    ⟨hrely.1 _ hcrew.1, fun x hx file hfile => hrely.2 (hcrew.2 x hx file hfile)⟩
  turn h hcrew := ⟨(h.kept hcrew).1, (h.kept hcrew).2.1⟩
  refuse hcrew := crew_drop hcrew ⟨fun _ h => h, List.Subset.refl _⟩

theorem Spares.rely {w w' : World (σ × List Given)} (h : Spares Prod.snd w w') :
    cacheTerms.rely w w' :=
  ⟨fun _ => h.store.holds, (h.host ▸ List.Subset.refl _ : w.host.2 ⊆ w'.host.2)⟩

theorem Spares.kept {w w' : World (σ × List Given)} (h : Spares Prod.snd w w') (hw : Kept w) :
    Kept w' where
  wellFormed := h.store.wellFormed hw.wellFormed
  faithful := h.host ▸ h.store.faithful hw.faithful

/-- A sync that runs only for a stored repository meets the terms. -/
theorem Script.Calls.meets {α : Type} {row : RepoRow} {s : Script (σ × List Given) α}
    {w : World (σ × List Given)} (hs : s.Calls (Spares Prod.snd) (Fresh row))
    (hrow : Holds w.store row) : s.Meets cacheTerms (fun _ _ => True) w := by
  induction s generalizing w with
  | ended a => trivial
  | call world next ih =>
    intro refusal w' hrely
    exact ih refusal w' (hs refusal w').2 ((hs refusal w').1.rely.1 row (hrely.1 row hrow))
  | sleep wake next ih => exact ih hs hrow
  | crew run workers done next ih =>
    obtain ⟨⟨rfl, hwaiting⟩, hnext⟩ := hs
    refine ⟨⟨hrow, fun x hx file hfile => ?_⟩, fun results _ w' hrely => ?_⟩
    · rw [hwaiting x hx] at hfile
      cases hfile
    · exact ih results (hnext results) (hrely.1 _ hrow)

theorem holds_of_getRepo {s : Store} {repo : RepoId} {row : RepoRow}
    (h : s.getRepo repo = .ok (some row)) : Holds s row := by
  obtain ⟨e, he, rfl⟩ := entry_of_getRepo h
  exact ⟨e, List.mem_of_find?_eq_some he, rfl, rfl⟩

theorem holds_insertRepo {s : Store} {repo : RepoId} {m : Remote.Metadata} {row : RepoRow}
    (h : (s.insertRepo repo m).1 = .ok row) : Holds (s.insertRepo repo m).2 row := by
  unfold Store.insertRepo at h ⊢
  split at h
  · next e he =>
    obtain rfl := row_of_readRepo h
    exact ⟨e, List.mem_of_find?_eq_some he, rfl, rfl⟩
  · cases h
    exact ⟨_, List.mem_append_right _ (List.mem_singleton.mpr rfl), rfl, rfl⟩

/-- What a step of a sync that meets the terms keeps. -/
theorem Script.Step.kept {α : Type} {post : α → World (σ × List Given) → Prop}
    {s s' : Script (σ × List Given) α} {w w' : World (σ × List Given)}
    (h : Script.Step (coordinator service options label) (s, w) (s', w'))
    (hcalls : s.Calls (Spares Prod.snd) fun _ _ => True) (hmeets : s.Meets cacheTerms post w) :
    cacheTerms.rely w w' ∧ (Kept w → Kept w') := by
  have hfair := cacheTerms_fair service options label
  cases h with
  | call world next refusal => exact ⟨(hcalls refusal w).1.rely, (hcalls refusal w).1.kept⟩
  | wake wake next => exact ⟨hfair.refl w, id⟩
  | turn run k k' next hk => exact ⟨(hk.kept hmeets.1).1, (hk.kept hmeets.1).2.2⟩
  | refuse run k before after x e next => exact ⟨hfair.refl _, id⟩
  | join run done next => exact ⟨hfair.refl w, id⟩

namespace Script

variable (service options label)

theorem meets_resolve (repo : RepoId) (w : World (σ × List Given)) :
    (resolve (coordinator service options label) repo).Meets cacheTerms
      (fun a w => ∀ row, a = .ok row → Holds w.store row) w := by
  have hget : (askStore fun w : World (σ × List Given) => (w.store.getRepo repo, w)).Meets
      cacheTerms (fun a w => ∀ row, a = .ok (some row) → Holds w.store row) w :=
    meets_askStore (fun _ _ _ => nofun) fun _ _ _ h => holds_of_getRepo h
  refine hget.bind fun a w hrow => ?_
  split
  · exact nofun
  · exact fun _ h => by cases h; exact hrow _ rfl
  · have hask : (askHost ((coordinator service options label).service.metadata repo)).Meets
        cacheTerms (fun _ _ => True) w := meets_ask fun _ _ => trivial
    refine hask.bind fun a w _ => ?_
    split
    · exact nofun
    · exact meets_askStore (fun _ _ _ => nofun) fun _ _ _ h => holds_insertRepo h

theorem meets_full (repo : RepoId) (force : Bool) (w : World (σ × List Given)) :
    (full (coordinator service options label) repo force).Meets cacheTerms (fun _ _ => True) w := by
  refine (meets_resolve service options label repo w).bind fun a w hrow => ?_
  split
  · next e =>
    have hnote : (note fun now r => r.fail repo.fullName now e.message).Meets cacheTerms
        (fun _ _ => True) w := meets_ask fun _ _ => trivial
    refine hnote.bind fun _ _ _ => ?_
    trivial
  · exact (calls_fullFrom _ service.recorded_shields _ _ force).meets (hrow _ rfl)

theorem meets_partialSync (repo : RepoId) (changes : ChangeSet) (w : World (σ × List Given)) :
    (partialSync (coordinator service options label) repo changes).Meets cacheTerms
      (fun _ _ => True) w := by
  have hget : (askStore fun w : World (σ × List Given) => (storedRepo repo w, w)).Meets
      cacheTerms (fun a w => ∀ row, a = .ok row → Holds w.store row) w :=
    meets_askStore (fun _ _ _ => nofun)
      fun _ _ _ h => holds_of_getRepo (getRepo_of_storedRepo h)
  refine hget.bind fun a w hrow => ?_
  split
  · trivial
  · next row =>
    have hread : (read World.clock).Meets cacheTerms (fun _ w => Holds w.store row) w :=
      meets_ask fun _ hrely => hrely.1 row (hrow row rfl)
    exact hread.bind fun now w hrow =>
      (calls_partialFrom _ service.recorded_shields row changes _ _ _).meets hrow

end Script

end Terms

/-! ## Syncs that share a store -/

/-- A sync that runs, with what its coordinator works with. -/
structure Task (σ : Type) where
  /-- The host of the repositories. -/
  service : Service σ
  /-- What the coordinator is told. -/
  options : Options
  /-- What its leases are labelled with. -/
  label : String
  /-- What the sync still has to do. -/
  script : Script (σ × List Given) (Except Error Outcome)

namespace Task

variable {σ : Type}

/-- What the sync works with. -/
def setup (t : Task σ) : Setup (σ × List Given) :=
  coordinator t.service t.options t.label

/-- A full sync that begins. -/
def full (service : Service σ) (options : Options) (label : String) (repo : RepoId)
    (force : Bool) : Task σ where
  service := service
  options := options
  label := label
  script := (Script.full (coordinator service options label) repo force).map Exit.result

/-- A partial sync that begins. -/
def partialSync (service : Service σ) (options : Options) (label : String) (repo : RepoId)
    (changes : ChangeSet) : Task σ where
  service := service
  options := options
  label := label
  script := (Script.partialSync (coordinator service options label) repo changes).map Exit.result

end Task

/-- A store and the syncs that run on it. -/
structure Site (σ : Type) where
  /-- Everything that syncs change or depend on, and the files that the host has given out. -/
  world : World (σ × List Given)
  /-- The syncs. -/
  tasks : List (Task σ) := []

namespace Site

variable {σ : Type}

/-- What can happen next.  Every process has its own status, clock and number of lease holders, so
these may be anything at the next call. -/
inductive Step (x : Site σ) : Site σ → Prop
  | full (service : Service σ) (options : Options) (label : String) (repo : RepoId)
    (force : Bool) :
    Step x { x with tasks := .full service options label repo force :: x.tasks }
  | partialSync (service : Service σ) (options : Options) (label : String) (repo : RepoId)
    (changes : ChangeSet) :
    Step x { x with tasks := .partialSync service options label repo changes :: x.tasks }
  | work (before after : List (Task σ)) (t : Task σ)
    (script : Script (σ × List Given) (Except Error Outcome)) (w : World (σ × List Given)) :
    x.tasks = before ++ t :: after →
    Script.Step t.setup (t.script, x.world) (script, w) →
    Step x { world := w, tasks := before ++ { t with script } :: after }
  | crash (before after : List (Task σ)) (t : Task σ) : x.tasks = before ++ t :: after →
    Step x { x with tasks := before ++ after }
  | host (host : σ) : Step x { x with world := { x.world with host := (host, x.world.host.2) } }
  | leases (leases : List Lease) :
    Step x { x with world := { x.world with store := { x.world.store with leases } } }
  | process (status : Registry) (now : Instant) (clock serial : Nat) :
    Step x { x with world := { x.world with status, now, clock, serial } }

/-- Steps one after another. -/
abbrev Steps : Site σ → Site σ → Prop :=
  Relation.ReflTransGen Step

/-- A store without repositories at a host that has given nothing out, and no sync. -/
def start (host : σ) (now : Instant) : Site σ :=
  { world := { store := {}, host := (host, []), now } }

/-- The store is kept, and every sync meets the terms. -/
structure Sound (x : Site σ) : Prop where
  kept : Kept x.world
  calls : ∀ t ∈ x.tasks, t.script.Calls (Spares Prod.snd) fun _ _ => True
  meets : ∀ t ∈ x.tasks, t.script.Meets cacheTerms (fun _ _ => True) x.world

theorem sound_start (host : σ) (now : Instant) : (start host now).Sound where
  kept := ⟨wellFormed_empty, fun _ he => nomatch he⟩
  calls _ ht := nomatch ht
  meets _ ht := nomatch ht

/-- What others do within the terms does not matter. -/
theorem Sound.of_rely {x : Site σ} (hx : x.Sound) {w : World (σ × List Given)} (hw : Kept w)
    (h : cacheTerms.rely x.world w) : Sound { x with world := w } where
  kept := hw
  calls := hx.calls
  meets t ht := (hx.meets t ht).rely (cacheTerms_fair t.service t.options t.label)
    (fun _ _ => trivial) h

theorem Sound.begin {x : Site σ} (hx : x.Sound) {t : Task σ}
    (hcalls : t.script.Calls (Spares Prod.snd) fun _ _ => True)
    (hmeets : t.script.Meets cacheTerms (fun _ _ => True) x.world) :
    Sound { x with tasks := t :: x.tasks } where
  kept := hx.kept
  calls t' ht' := (List.mem_cons.mp ht').elim (fun h => h ▸ hcalls) (hx.calls t')
  meets t' ht' := (List.mem_cons.mp ht').elim (fun h => h ▸ hmeets) (hx.meets t')

theorem Sound.work {x : Site σ} (hx : x.Sound) {before after : List (Task σ)} {t : Task σ}
    {script : Script (σ × List Given) (Except Error Outcome)} {w : World (σ × List Given)}
    (htasks : x.tasks = before ++ t :: after)
    (hstep : Script.Step t.setup (t.script, x.world) (script, w)) :
    Sound { world := w, tasks := before ++ { t with script } :: after } := by
  have hmem : t ∈ x.tasks := htasks ▸ mem_middle.mpr (.inl rfl)
  obtain ⟨hrely, hkept⟩ := hstep.kept (hx.calls t hmem) (hx.meets t hmem)
  have hothers := hx.of_rely (hkept hx.kept) hrely
  have hold {t' : Task σ} (ht' : t' ∈ before ++ { t with script } :: after) :
      t' = { t with script } ∨ t' ∈ x.tasks :=
    (mem_middle.mp ht').imp_right fun h => htasks ▸ mem_middle.mpr (.inr h)
  refine ⟨hkept hx.kept, fun t' ht' => ?_, fun t' ht' => ?_⟩
  · rcases hold ht' with rfl | ht'
    · exact (hx.calls t hmem).step hstep
    · exact hx.calls t' ht'
  · rcases hold ht' with rfl | ht'
    · exact (hx.meets t hmem).step (cacheTerms_fair t.service t.options t.label) hstep
    · exact hothers.meets t' ht'

/-- Whatever happens next, the store is kept and every sync meets the terms. -/
theorem Sound.step {x y : Site σ} (hx : x.Sound) (h : x.Step y) : y.Sound := by
  cases h with
  | full service options label repo force =>
    have hcalls := Script.calls_full (coordinator service options label)
      service.recorded_shields repo force
    have hmeets := Script.meets_full service options label repo force x.world
    exact hx.begin (hcalls.bind fun _ => trivial) (hmeets.bind fun _ _ _ => trivial)
  | partialSync service options label repo changes =>
    have hcalls := Script.calls_partialSync (coordinator service options label)
      service.recorded_shields repo changes
    have hmeets := Script.meets_partialSync service options label repo changes x.world
    exact hx.begin (hcalls.bind fun _ => trivial) (hmeets.bind fun _ _ _ => trivial)
  | work before after t script w htasks hstep => exact hx.work htasks hstep
  | crash before after t htasks =>
    have hold {t' : Task σ} (ht' : t' ∈ before ++ after) : t' ∈ x.tasks :=
      htasks ▸ mem_middle.mpr (.inr ht')
    exact ⟨hx.kept, fun t' ht' => hx.calls t' (hold ht'), fun t' ht' => hx.meets t' (hold ht')⟩
  | host host =>
    exact hx.of_rely ⟨hx.kept.wellFormed, hx.kept.faithful⟩ ⟨fun _ h => h, List.Subset.refl _⟩
  | leases leases =>
    exact hx.of_rely ⟨hx.kept.wellFormed.of_repos rfl rfl, hx.kept.faithful⟩
      ⟨fun _ h => h, List.Subset.refl _⟩
  | process status now clock serial =>
    exact hx.of_rely ⟨hx.kept.wellFormed, hx.kept.faithful⟩ ⟨fun _ h => h, List.Subset.refl _⟩

theorem Sound.steps {x y : Site σ} (hx : x.Sound) (h : x.Steps y) : y.Sound := by
  induction h with
  | refl => exact hx
  | tail _ hstep ih => exact ih.step hstep

/-- A stored row is the one that is found at its path. -/
theorem file?_of_mem {s : Store} (hs : s.WellFormed) {e : RepoEntry} (he : e ∈ s.repos)
    {f : FileRow} (hf : f ∈ e.files) : s.file? e.row.id f.path = some f := by
  have hentry : s.entry? e.row.id = some e :=
    Store.find?_key (fun e : RepoEntry => e.row.id) hs.ids he
  unfold Store.file? Store.files
  rw [hentry]
  exact Store.find?_key FileRow.path (hs.paths e he) hf

/-- Every stored row comes from one answer of the host for its path: the content and the identity
are those of the answer, and the rest is made from the path and the content.  Its symbols are read
as the declarations of the content, in their order and with the token cost of their lines. -/
theorem rows_cached {host : σ} {now : Instant} {x : Site σ} (h : (start host now).Steps x)
    {e : RepoEntry} (he : e ∈ x.world.store.repos) {f : FileRow} (hf : f ∈ e.files) :
    ⟨e.row.repoId, f.path, ⟨f.content, f.contentId⟩⟩ ∈ x.world.host.2 ∧
      f.language = Language.ofPath f.path ∧ f.lineCount = Text.countLines f.content.toList ∧
      f.tokens = Token.cost f.content ∧
      ((x.world.store.symbolsIn e.row.id f.path).map Store.SymbolRecord.ofSymbol).mapM
          Store.SymbolRecord.symbol? =
        some ((Extract.declarations f.content f.language).map
          (Store.symbolOf f.content.toList)) := by
  have hx := (sound_start host now).steps h
  obtain ⟨file, hgiven, hcore⟩ := hx.kept.faithful e he f hf
  have hcontent : f.content = file.content := congrArg FileRow.content hcore
  have hid : f.contentId = file.sha := congrArg FileRow.contentId hcore
  have hlanguage : f.language = Language.ofPath f.path := congrArg FileRow.language hcore
  have hlines : f.lineCount = Text.countLines file.content.toList :=
    congrArg FileRow.lineCount hcore
  have htokens : f.tokens = Token.cost file.content := congrArg FileRow.tokens hcore
  have hfile : x.world.store.file? e.row.id f.path = some f :=
    file?_of_mem hx.kept.wellFormed he hf
  have hsymbols : Store.sortedSymbols f =
      (Extract.declarations f.content f.language).map (Store.symbolOf f.content.toList) := by
    have hsorted : Store.sortedSymbols f = Store.sortedSymbols f.core := rfl
    rw [hsorted, hcore, hcontent, hlanguage]
    exact Store.sortedSymbols_row rfl 0 ⟨0⟩
  refine ⟨?_, hlanguage, hcontent ▸ hlines, hcontent ▸ htokens, ?_⟩
  · rw [hcontent, hid]
    exact hgiven
  · unfold Store.symbolsIn
    rw [hfile, Store.mapM_symbol?_ofSymbol]
    exact congrArg some hsymbols

/-! ### A file that changes while it is synced -/

theorem steps_of_script {t : Task σ} {w : World (σ × List Given)}
    {y : Script (σ × List Given) (Except Error Outcome) × World (σ × List Given)}
    (h : Script.Steps t.setup (t.script, w) y) :
    Steps { world := w, tasks := [t] }
      { world := y.2, tasks := [{ t with script := y.1 }] } := by
  induction h with
  | refl => exact .refl
  | @tail y z _ hstep ih =>
    exact ih.tail (.work [] [] { t with script := y.1 } z.1 z.2 rfl hstep)

/-- A host with one file. -/
def hostOf (content : String) : Remote.Memory :=
  Remote.Memory.single Remote.widgets { head := "c1", files := [("a.py", content)] }

/-- A coordinator for that host. -/
def hostSetup : Setup (Remote.Memory × List Given) :=
  coordinator Remote.Memory.service {} "sync"

/-- A full sync of the host that has listed the tree. -/
def listed : Phase × World (Remote.Memory × List Given) :=
  startFull hostSetup Remote.widgets false (start (hostOf "A = 1\n") ⟨1700000000000⟩).world

/-- The world in which the file has changed then. -/
def changed : World (Remote.Memory × List Given) :=
  { listed.2 with host := (hostOf "def f():\n    return 2\n", listed.2.host.2) }

theorem changed_steps : ∃ x, (start (hostOf "A = 1\n") ⟨1700000000000⟩).Steps x ∧
    x.world = (complete hostSetup listed.1 changed).2 := by
  have hbegin : Step (start (hostOf "A = 1\n") ⟨1700000000000⟩)
      { world := (start (hostOf "A = 1\n") ⟨1700000000000⟩).world
        tasks := [.full Remote.Memory.service {} "sync" Remote.widgets false] } :=
    .full Remote.Memory.service {} "sync" Remote.widgets false
  have hlist := steps_of_script (t := .full Remote.Memory.service {} "sync" Remote.widgets false)
    (Script.steps_of_advance hostSetup (Script.advance_full hostSetup Remote.widgets false
      (start (hostOf "A = 1\n") ⟨1700000000000⟩).world))
  obtain ⟨order, hcomplete⟩ := complete_isOrder hostSetup listed.1 changed
  have hrest := steps_of_script
    (t := { (.full Remote.Memory.service {} "sync" Remote.widgets false : Task Remote.Memory) with
      script := Script.rest listed.1 }) (Script.steps_rest hostSetup hcomplete)
  exact ⟨_, .trans (.head hbegin hlist) (.head (.host _) hrest), rfl⟩

theorem rows_cached_changed : ∃ e ∈ (complete hostSetup listed.1 changed).2.store.repos,
    ∃ f ∈ e.files, f.content = "def f():\n    return 2\n" ∧
      ⟨e.row.repoId, f.path, ⟨f.content, f.contentId⟩⟩ ∈
        (complete hostSetup listed.1 changed).2.host.2 := by
  obtain ⟨x, hsteps, hx⟩ := changed_steps
  have hstored : ((complete hostSetup listed.1 changed).2.store.repos.any fun e =>
      e.files.any fun f => f.content == "def f():\n    return 2\n") = true := by
    decide +kernel
  simp only [List.any_eq_true, beq_iff_eq] at hstored
  obtain ⟨e, he, f, hf, hcontent⟩ := hstored
  have hgiven := (rows_cached hsteps (hx ▸ he) hf).1
  exact ⟨e, he, f, hf, hcontent, hx ▸ hgiven⟩

end Site

end Sync

end ContextIndex
