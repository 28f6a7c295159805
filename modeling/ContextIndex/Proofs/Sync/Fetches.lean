import ContextIndex.Proofs.Store.Replacement
import ContextIndex.Proofs.Sync.Sweeps

/-!
# Fetches that are skipped

A file is looked at twice.  Before it is fetched, it is compared with the store if the identity of
its content is known, and a file that is current is not fetched at all (`indexFile_skipped`).  When
it is written, it is compared again, by the identity that the fetch tells
(`indexFile_of_fetch`).  Both looks ask the store the same, so they decide alike: what is known
beforehand saves a fetch and changes nothing else (`indexFile_known`).
-/

namespace ContextIndex

namespace Store

/-! ## Stores without numbers and times -/

/-- A store but for the numbers of its files and the times they were written. -/
def core (s : Store) : Store :=
  { s with repos := s.repos.map RepoEntry.core }

variable (s : Store) (repo : Nat)

theorem core_modify {f g : RepoEntry → RepoEntry} (h : ∀ e, (f e).core = g e.core) :
    (s.modify repo f).core = s.core.modify repo g := by
  have hrepos : ((s.repos.map fun e => if e.row.id = repo then f e else e).map RepoEntry.core) =
      (s.repos.map RepoEntry.core).map fun e => if e.row.id = repo then g e else e := by
    rw [List.map_map, List.map_map]
    refine List.map_congr_left fun e _ => ?_
    have hid : e.core.row.id = e.row.id := rfl
    by_cases he : e.row.id = repo
    · simp [he, hid, h]
    · simp [he, hid]
  simp only [core, modify, hrepos]

theorem core_putRow (row : FileRow) (next : Nat) :
    (s.putRow repo row next).core = s.core.putRow repo row.core next := by
  have hmodify := s.core_modify repo (f := fun e => { e with files := putFile row e.files })
    (g := fun e => { e with files := putFile row.core e.files }) fun e => by
      simp only [RepoEntry.core, map_core_putFile]
  show { (s.modify repo fun e => { e with files := putFile row e.files }).core with
    nextFile := next } = _
  rw [hmodify]
  rfl

/-- The time of a write is left out of the outcome and shows in the time of the row alone. -/
theorem core_writeFile (x : FileWrite) (now now' : Instant) (force : Bool) :
    (s.writeFile repo x now force).1 = (s.writeFile repo x now' force).1 ∧
      (s.writeFile repo x now force).2.core = (s.writeFile repo x now' force).2.core := by
  simp only [writeFile]
  by_cases hcurrent : (!force && s.isCurrent repo x.path x.contentId x.extractor) = true
  · simp only [hcurrent, if_true, and_self]
  · simp only [hcurrent]
    cases s.entry? repo with
    | none => exact ⟨rfl, rfl⟩
    | some e =>
      have hput (id next : Nat) : (s.putRow repo (x.row id now) next).core =
          (s.putRow repo (x.row id now') next).core := by
        rw [core_putRow, core_putRow]
        rfl
      cases s.file? repo x.path with
      | none => exact ⟨rfl, hput s.nextFile (s.nextFile + 1)⟩
      | some f => exact ⟨rfl, hput f.id s.nextFile⟩

end Store

namespace Sync

open ContextIndex.Remote (Memory memorySetup worldOf)

/-! ## The two looks at a file -/

section Fetches

variable {σ : Type} (c : Setup σ) (repo : RepoRow)

/-- A file whose content is known and current is not fetched. -/
theorem indexFile_skipped {path id : String} {w : World σ}
    (h : w.store.isCurrent repo.id path id c.source.id.tag = true) (reference : String) :
    indexFile c repo ⟨path, some id⟩ reference false w = (.ok .unchanged, w) := by
  simp [indexFile, h]

/-- A file that is not skipped is what its fetch makes of it. -/
theorem indexFile_of_fetch (job : FileJob) {force : Bool} {w : World σ}
    (hneed : (!force && job.known.any fun id =>
      w.store.isCurrent repo.id job.path id c.source.id.tag) = false)
    {reference : String} {file : Remote.File}
    (hfetch : (c.service.fetch repo.repoId job.path reference w.host).1 = .ok file) :
    indexFile c repo job reference force w = writeFetched c repo job.path file force
      { w with host := (c.service.fetch repo.repoId job.path reference w.host).2 } := by
  have hreply : c.service.fetch repo.repoId job.path reference w.host =
      (.ok file, (c.service.fetch repo.repoId job.path reference w.host).2) := Prod.ext hfetch rfl
  simp only [indexFile, hneed, Bool.false_eq_true, if_false]
  rw [hreply]

/-- The second look finds a current file as the first one does. -/
theorem writeFetched_of_isCurrent {path : String} {file : Remote.File} {w : World σ}
    (h : w.store.isCurrent repo.id path file.sha c.source.id.tag = true) :
    writeFetched c repo path file false w = (.ok .unchanged, w) := by
  have hwrite := Store.writeFile_of_isCurrent (x := c.source.writeOf path file) h w.now
  simp [writeFetched, hwrite]

/-- What is written depends on the store and, times apart, on nothing else of the world. -/
theorem core_writeFetched (path : String) (file : Remote.File) (force : Bool) {v w : World σ}
    (hstore : v.store = w.store) :
    (writeFetched c repo path file force w).1 = (writeFetched c repo path file force v).1 ∧
      (writeFetched c repo path file force w).2.store.core =
        (writeFetched c repo path file force v).2.store.core := by
  obtain ⟨hresult, hcore⟩ := w.store.core_writeFile repo.id (c.source.writeOf path file) w.now
    v.now force
  refine ⟨?_, ?_⟩
  · rw [← hstore] at hresult
    rw [writeFetched, writeFetched, ← hstore]
    -- The two outcomes are the same, so each match goes on in the same way.
    generalize v.store.writeFile repo.id (c.source.writeOf path file) w.now force = x at hresult ⊢
    generalize v.store.writeFile repo.id (c.source.writeOf path file) v.now force = y at hresult ⊢
    obtain ⟨result, _⟩ := x
    obtain ⟨_, _⟩ := y
    cases hresult
    cases result with
    | error e => rfl
    | ok outcome => cases outcome <;> rfl
  · rw [store_writeFetched, store_writeFetched, hstore]
    exact hcore

/-- It makes no difference whether the content of a file is known before it is indexed, as long as
it can be fetched: from the same store, and whatever else the host has come to and however late it
is, the outcome is the same, and so is the store up to numbers and times.  At the same time, it is
the very same store. -/
theorem indexFile_known (path reference : String) (force : Bool) (file : Remote.File)
    {v w : World σ} (hstore : v.store = w.store)
    (hfetch : (c.service.fetch repo.repoId path reference w.host).1 = .ok file)
    (hfetch' : (c.service.fetch repo.repoId path reference v.host).1 = .ok file) :
    (indexFile c repo ⟨path, some file.sha⟩ reference force w).1 =
        (indexFile c repo ⟨path, none⟩ reference force v).1 ∧
      (indexFile c repo ⟨path, some file.sha⟩ reference force w).2.store.core =
        (indexFile c repo ⟨path, none⟩ reference force v).2.store.core ∧
      (v.now = w.now → (indexFile c repo ⟨path, some file.sha⟩ reference force w).2.store =
        (indexFile c repo ⟨path, none⟩ reference force v).2.store) := by
  -- Without an identity the file is fetched in any case.
  have hplain : indexFile c repo ⟨path, none⟩ reference force v =
      writeFetched c repo path file force
        { v with host := (c.service.fetch repo.repoId path reference v.host).2 } :=
    indexFile_of_fetch c repo ⟨path, none⟩ (by simp) hfetch'
  rw [hplain]
  by_cases hskip : (!force && w.store.isCurrent repo.id path file.sha c.source.id.tag) = true
  · obtain ⟨rfl, hcurrent⟩ : force = false ∧
        w.store.isCurrent repo.id path file.sha c.source.id.tag = true := by simpa using hskip
    rw [indexFile_skipped c repo hcurrent, writeFetched_of_isCurrent c repo (hstore ▸ hcurrent)]
    exact ⟨rfl, by rw [hstore], fun _ => hstore.symm⟩
  · rw [indexFile_of_fetch c repo ⟨path, some file.sha⟩ (by simpa using hskip) hfetch]
    obtain ⟨hresult, hcore⟩ := core_writeFetched c repo path file force
      (v := { v with host := (c.service.fetch repo.repoId path reference v.host).2 })
      (w := { w with host := (c.service.fetch repo.repoId path reference w.host).2 }) hstore
    refine ⟨hresult, hcore, fun hnow => ?_⟩
    rw [store_writeFetched, store_writeFetched, hstore, hnow]

end Fetches

/-- The repository of the examples as it is first stored. -/
def widgetsRow : RepoRow :=
  ⟨1, "octo", "widgets", none, none, none, none⟩

theorem indexFile_known_outdated :
    (indexFile memorySetup widgetsRow ⟨"b.py", some (Memory.contentIdOf "B = 2\n")⟩ "c2" false
        (worldOf shrunk outdated)).1 = .ok .unchanged ∧
      (indexFile memorySetup widgetsRow ⟨"b.py", none⟩ "c2" false
        { worldOf shrunk outdated with now := ⟨1700000005000⟩ }).2.store.core = outdated.core ∧
      (indexFile memorySetup widgetsRow ⟨"b.py", some (Memory.contentIdOf "B = 2\n")⟩ "c2" true
        (worldOf shrunk outdated)).2.store.core =
      (indexFile memorySetup widgetsRow ⟨"b.py", none⟩ "c2" true
        { worldOf shrunk outdated with now := ⟨1700000005000⟩ }).2.store.core := by
  have hskipped : indexFile memorySetup widgetsRow
      ⟨"b.py", some (Memory.contentIdOf "B = 2\n")⟩ "c2" false (worldOf shrunk outdated) =
        (.ok .unchanged, worldOf shrunk outdated) :=
    indexFile_skipped memorySetup widgetsRow (by decide +kernel) "c2"
  have hknown (force : Bool) := indexFile_known memorySetup widgetsRow "b.py" "c2" force
    ⟨"B = 2\n", Memory.contentIdOf "B = 2\n"⟩ (w := worldOf shrunk outdated)
    (v := { worldOf shrunk outdated with now := ⟨1700000005000⟩ }) rfl rfl rfl
  refine ⟨congrArg Prod.fst hskipped, ?_, (hknown true).2.1⟩
  rw [← (hknown false).2.1, hskipped]
  rfl

end Sync

end ContextIndex
