import ContextIndex.Proofs.Store.Rows
import ContextIndex.Sync.Run
import Mathlib.Logic.Relation

/-!
# What runs do to the store

A run changes the store by a few operations, and between two of them other runs and other processes
may change it by theirs.  `Change` lists these operations once; whatever every one of them keeps,
every interleaving of runs keeps.

Two facts are kept.  The keys stay unique (`Changes.wellFormed`), and every row is made from a file
that the host gave out, as the extractor of the row makes it (`Changes.derived`).  With identities
that tell contents apart, a row that seems current is therefore the row of the current file
(`Traced.core_eq`).
-/

namespace ContextIndex.Sync

open ContextIndex.Store (Names WellFormed AllRows)

/-! ## Rows of files -/

/-- The row of a file, but for its number and the time it is written. -/
def SymbolSource.rowOf (y : SymbolSource) (path : String) (file : Remote.File) : FileRow :=
  (y.writeOf path file).row 0 ⟨0⟩

theorem SymbolSource.core_row (y : SymbolSource) (path : String) (file : Remote.File) (id : Nat)
    (now : Instant) : ((y.writeOf path file).row id now).core = y.rowOf path file :=
  rfl

/-- The identity of a content tells it from any other among these files. -/
def CollisionFree (Genuine : Remote.File → Prop) : Prop :=
  ∀ f g, Genuine f → Genuine g → f.sha = g.sha → f = g

theorem CollisionFree.mono {P Q : Remote.File → Prop} (hq : CollisionFree Q)
    (h : ∀ f, P f → Q f) : CollisionFree P :=
  fun f g hf hg => hq f g (h f hf) (h g hg)

/-- If a row comes from this extractor, then it is the row of a file that a host gave out. -/
def Traced (y : SymbolSource) (Genuine : Remote.File → Prop) (path : String) (f : FileRow) : Prop :=
  f.extractor = y.id.tag → ∃ file, Genuine file ∧ f.core = y.rowOf path file

/-- The rows of an extractor are those of files that a host gave out. -/
def Derived (y : SymbolSource) (Genuine : Remote.File → Prop) (s : Store) : Prop :=
  s.AllRows fun f => Traced y Genuine f.path f

theorem Derived.traced {y : SymbolSource} {Genuine : Remote.File → Prop} {s : Store}
    (hs : Derived y Genuine s) (repo : RepoId) (path : String) :
    ∀ f ∈ s.rowAt repo path, Traced y Genuine path f := by
  intro f hrow
  obtain ⟨hpath, hf⟩ := AllRows.rowAt hs hrow
  exact hpath ▸ hf

/-- A row that is current for a file is the row of the file. -/
theorem Traced.core_eq {y : SymbolSource} {Genuine : Remote.File → Prop} {path : String}
    {f : FileRow} {file : Remote.File} (hf : Traced y Genuine path f)
    (hfree : CollisionFree Genuine) (hfile : Genuine file)
    (h : f.derivesFrom file.sha y.id.tag = true) : f.core = y.rowOf path file := by
  simp only [FileRow.derivesFrom, Bool.and_eq_true, beq_iff_eq] at h
  obtain ⟨made, hmade, hcore⟩ := hf h.2
  have hsha : made.sha = file.sha := by
    have hid : f.core.contentId = (y.rowOf path made).contentId := congrArg _ hcore
    exact hid.symm.trans h.1
  rw [hcore, hfree made file hmade hfile hsha]

/-! ## Changes -/

/-- One operation of a run on the store.  Files are those that a host gave out, and a tag stands
for one extractor. -/
inductive Change (y : SymbolSource) (Genuine : Remote.File → Prop) : Store → Store → Prop
  | insert (s : Store) (repo : RepoId) (m : Remote.Metadata) :
    Change y Genuine s (s.insertRepo repo m).2
  | record (s : Store) (repo : Nat) (revision : Option String) (t : Instant) :
    Change y Genuine s (s.recordSync repo revision t)
  | write (s : Store) (repo : Nat) (z : SymbolSource) (path : String) (file : Remote.File)
    (now : Instant) (force : Bool) : (z.id.tag = y.id.tag → z = y) → Genuine file →
    Change y Genuine s (s.writeFile repo (z.writeOf path file) now force).2
  | delete (s : Store) (repo : Nat) (path : String) : Change y Genuine s (s.deleteFile repo path).2
  | acquire (s : Store) (key holder : String) (now expiresAt : Instant) :
    Change y Genuine s (s.acquireLease key holder now expiresAt).2
  | renew (s : Store) (key holder : String) (expiresAt : Instant) :
    Change y Genuine s (s.renewLease key holder expiresAt).2
  | release (s : Store) (key holder : String) : Change y Genuine s (s.releaseLease key holder)

/-- Operations of runs one after another. -/
abbrev Changes (y : SymbolSource) (Genuine : Remote.File → Prop) : Store → Store → Prop :=
  Relation.ReflTransGen (Change y Genuine)

section Kept

variable {y : SymbolSource} {Genuine : Remote.File → Prop} {s s' : Store}

theorem Change.wellFormed (h : Change y Genuine s s') (hs : s.WellFormed) : s'.WellFormed := by
  cases h with
  | insert repo m => exact hs.insertRepo repo m
  | record repo revision t => exact hs.recordSync repo revision t
  | write repo z path file now force htag hfile =>
    cases hw : s.writeFile repo (z.writeOf path file) now force with
    | mk result s' =>
      rcases Store.writeFile_cases hw with
        ⟨-, -, -, rfl⟩ | ⟨-, ⟨-, -, rfl⟩ | ⟨e, id, next, -, -, rfl⟩⟩
      · exact hs
      · exact hs
      · exact hs.putRow repo _ next
  | delete repo path => exact hs.deleteFile repo path
  | acquire key holder now expiresAt =>
    obtain ⟨hrepos, hnext⟩ := Store.repos_acquireLease s key holder now expiresAt
    exact hs.of_repos hrepos hnext
  | renew key holder expiresAt => exact hs.of_repos rfl rfl
  | release key holder => exact hs.of_repos rfl rfl

/-- A repository keeps its number. -/
theorem Change.names (h : Change y Genuine s s') {repo : RepoId} {id : Nat}
    (hs : s.Names repo id) : s'.Names repo id := by
  cases h with
  | insert r m => exact hs.insertRepo r m
  | record r revision t => exact hs.modify r (Store.keepsIdentity_record revision t)
  | write r z path file now force htag hfile =>
    cases hw : s.writeFile r (z.writeOf path file) now force with
    | mk result s' =>
      rcases Store.writeFile_cases hw with
        ⟨-, -, -, rfl⟩ | ⟨-, ⟨-, -, rfl⟩ | ⟨e, i, next, -, -, rfl⟩⟩
      · exact hs
      · exact hs
      · exact hs.modify r (Store.keepsIdentity_put _)
  | delete r path => exact hs.modify r (Store.keepsIdentity_delete path)
  | acquire key holder now expiresAt =>
    exact hs.of_repos (Store.repos_acquireLease s key holder now expiresAt).1
  | renew key holder expiresAt => exact hs.of_repos rfl
  | release key holder => exact hs.of_repos rfl

theorem Change.derived (h : Change y Genuine s s') (hs : Derived y Genuine s) :
    Derived y Genuine s' := by
  cases h with
  | insert repo m => exact AllRows.insertRepo hs repo m
  | record repo revision t => exact AllRows.modify hs repo fun _ he => he
  | write repo z path file now force htag hfile =>
    cases hw : s.writeFile repo (z.writeOf path file) now force with
    | mk result s' =>
      rcases Store.writeFile_cases hw with
        ⟨-, -, -, rfl⟩ | ⟨-, ⟨-, -, rfl⟩ | ⟨e, id, next, -, -, rfl⟩⟩
      · exact hs
      · exact hs
      · refine AllRows.putRow hs repo (fun heq => ?_) next
        cases htag heq
        exact ⟨file, hfile, y.core_row path file id now⟩
  | delete repo path => exact AllRows.deleteFile hs repo path
  | acquire key holder now expiresAt =>
    unfold Derived AllRows
    rw [(Store.repos_acquireLease s key holder now expiresAt).1]
    exact hs
  | renew key holder expiresAt => exact hs
  | release key holder => exact hs

theorem Changes.wellFormed (h : Changes y Genuine s s') (hs : s.WellFormed) : s'.WellFormed := by
  induction h with
  | refl => exact hs
  | tail _ hstep ih => exact hstep.wellFormed ih

theorem Changes.names (h : Changes y Genuine s s') {repo : RepoId} {id : Nat}
    (hs : s.Names repo id) : s'.Names repo id := by
  induction h with
  | refl => exact hs
  | tail _ hstep ih => exact hstep.names ih

theorem Changes.derived (h : Changes y Genuine s s') (hs : Derived y Genuine s) :
    Derived y Genuine s' := by
  induction h with
  | refl => exact hs
  | tail _ hstep ih => exact hstep.derived ih

end Kept

/-! ## Stores that runs produce -/

theorem wellFormed_empty : ({} : Store).WellFormed :=
  ⟨List.nodup_nil, List.nodup_nil, (fun _ h => nomatch h), (fun _ h => nomatch h)⟩

/-- The store is one that runs have made out of an empty one. -/
def Produced (y : SymbolSource) (Genuine : Remote.File → Prop) (s : Store) : Prop :=
  Changes y Genuine {} s

theorem Produced.wellFormed {y : SymbolSource} {Genuine : Remote.File → Prop} {s : Store}
    (h : Produced y Genuine s) : s.WellFormed :=
  Changes.wellFormed h wellFormed_empty

theorem Produced.derived {y : SymbolSource} {Genuine : Remote.File → Prop} {s : Store}
    (h : Produced y Genuine s) : Derived y Genuine s :=
  Changes.derived h fun _ he => nomatch he

end ContextIndex.Sync
