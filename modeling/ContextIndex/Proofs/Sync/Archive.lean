import ContextIndex.Proofs.Store.Exclusion
import ContextIndex.Proofs.Store.Integrity
import ContextIndex.Proofs.Sync.Effects
import ContextIndex.Proofs.Sync.Partial
import ContextIndex.Proofs.Sync.Tidy

/-!
# One repository among others

What is stored of a repository is its rows and its marker (`Contents`).  An archive is a stored
repository with the files that its host has at each reference.  Pushes of the repository take its
lease, one after the other.  The coordinator that has the lease may `Move` on, and whoever has not
stays `Aside`: it leaves the repository as it is, and the leases of it that the coordinator has.

Syncs of other repositories stay aside whatever fails in them (`Archive.effects_aside`).
-/

namespace ContextIndex.Sync

open Remote (Tree Fetched)
open Store (Names WellFormed)

/-! ## What is stored of a repository -/

/-- The rows of a repository, but for their numbers and the times they were written, and its
marker. -/
@[ext] structure Contents where
  row : String → Option FileRow
  marker : Option String

def Contents.of (s : Store) (repo : RepoId) : Contents where
  row p := (s.rowAt repo p).map FileRow.core
  marker := s.marker repo

theorem Contents.of_repos {s s' : Store} (h : s'.repos = s.repos) (repo : RepoId) :
    Contents.of s' repo = Contents.of s repo := by
  unfold Contents.of
  simp only [Store.rowAt_of_repos h, Store.marker_of_repos h]

/-- A stored repository and the files that its host has at each reference. -/
structure Archive (σ : Type) where
  repo : RepoId
  number : Nat
  files : String → Tree
  has : σ → String → Prop

namespace Archive

variable {σ : Type} (a : Archive σ) (c : Setup σ)

/-- The files that the host may give out for the repository. -/
def Genuine (file : Remote.File) : Prop :=
  ∃ r p, a.files r p = some file

/-- A service has the files of the archive, and their identities tell them apart. -/
structure Served (s : Remote.Service σ) : Prop where
  serves : ∀ repo : RepoId, repo.fullName = a.repo.fullName → ∀ r,
    s.Serves repo r (fun h => a.has h r) fun _ p file => file = a.files r p
  distinct : CollisionFree a.Genuine

/-- What a store has to be like: its keys are unique, the repository is in it, and the rows of the
repository come from the host. -/
structure Fit (y : SymbolSource) (s : Store) : Prop where
  wellFormed : s.WellFormed
  named : s.Names a.repo a.number
  leases : (s.leases.map Lease.key).Nodup
  traced : ∀ p, ∀ f ∈ s.file? a.number p, Traced y a.Genuine p f

def Held (w : World σ) (holder : String) : Prop :=
  ∃ l, w.store.lease? a.repo.fullName = some l ∧ l.holder = holder

/-- A lease that the coordinator has of the repository does not run out. -/
def Firm (w : World σ) : Prop :=
  ∀ l n, w.store.lease? a.repo.fullName = some l → l.holder = holderName c.label n →
    l.givesWay w.now = false

/-- What everybody keeps to. -/
structure Steady (w w' : World σ) : Prop where
  fit : a.Fit c.source w.store → a.Fit c.source w'.store
  has : ∀ r, a.has w.host r → a.has w'.host r

/-- What those do who leave the repository alone, and the leases that the coordinator has of it. -/
structure Aside (w w' : World σ) : Prop extends Steady a c w w' where
  rows : ∀ p, w'.store.file? a.number p = w.store.file? a.number p
  marker : w'.store.marker a.repo = w.store.marker a.repo
  held : ∀ n, a.Held w' (holderName c.label n) ↔ a.Held w (holderName c.label n)

variable {a c} {y : SymbolSource} {s s' : Store} {w w' : World σ}

/-! ## Fit stores -/

/-- By number, the same is stored of the repository. -/
theorem Fit.contents (h : a.Fit y s) : Contents.of s a.repo =
    ⟨fun p => (s.file? a.number p).map FileRow.core, s.marker a.repo⟩ := by
  unfold Contents.of
  simp only [Store.rowAt_eq_file? h.wellFormed h.named]

theorem Fit.of_repos (h : a.Fit y s) (hrepos : s'.repos = s.repos)
    (hnext : s'.nextRepo = s.nextRepo) (hleases : (s'.leases.map Lease.key).Nodup) :
    a.Fit y s' where
  wellFormed := h.wellFormed.of_repos hrepos hnext
  named := h.named.of_repos hrepos
  leases := hleases
  traced p := by
    rw [Store.file?_of_repos hrepos]
    exact h.traced p

theorem Fit.deleteFile (h : a.Fit y s) (r : Nat) (path : String) :
    a.Fit y (s.deleteFile r path).2 where
  wellFormed := h.wellFormed.deleteFile r path
  named := h.named.modify r (Store.keepsIdentity_delete path)
  leases := h.leases
  traced p f hf := by
    rw [Store.file?_deleteFile] at hf
    split at hf
    · cases hf
    · exact h.traced p f hf

theorem Fit.recordSync (h : a.Fit y s) (r : Nat) (revision : Option String) (now : Instant) :
    a.Fit y (s.recordSync r revision now) where
  wellFormed := h.wellFormed.recordSync r revision now
  named := h.named.modify r (Store.keepsIdentity_record revision now)
  leases := h.leases
  traced p := by
    rw [Store.file?_recordSync]
    exact h.traced p

/-- A row put into the repository has to come from the host. -/
theorem Fit.putRow (h : a.Fit y s) {r : Nat} {e : RepoEntry} (he : s.entry? r = some e)
    {row : FileRow} (hrow : r = a.number → Traced y a.Genuine row.path row) (next : Nat) :
    a.Fit y (s.putRow r row next) where
  wellFormed := h.wellFormed.putRow r row next
  named := h.named.modify r (Store.keepsIdentity_put row)
  leases := h.leases
  traced p f hf := by
    rw [Store.file?_putRow he] at hf
    split at hf
    · next heq =>
      cases hf
      exact heq.2 ▸ hrow heq.1.symm
    · exact h.traced p f hf

theorem Fit.insertRepo (h : a.Fit y s) (repo : RepoId) (m : Remote.Metadata) :
    a.Fit y (s.insertRepo repo m).2 where
  wellFormed := h.wellFormed.insertRepo repo m
  named := h.named.insertRepo repo m
  leases := by
    have hleases : (s.insertRepo repo m).2.leases = s.leases := by
      unfold Store.insertRepo
      split <;> rfl
    exact hleases ▸ h.leases
  traced p := by
    rw [Store.file?_insertRepo]
    exact h.traced p

theorem Fit.releaseLease (h : a.Fit y s) (key holder : String) :
    a.Fit y (s.releaseLease key holder) :=
  h.of_repos rfl rfl (h.leases.sublist (List.filter_sublist.map _))

theorem Fit.acquireLease (h : a.Fit y s) (key holder : String) (now expiresAt : Instant) :
    a.Fit y (s.acquireLease key holder now expiresAt).2 := by
  obtain ⟨hrepos, hnext⟩ := Store.repos_acquireLease s key holder now expiresAt
  exact h.of_repos hrepos hnext (Store.nodup_keys_acquireLease h.leases key holder now expiresAt)

/-! ## Taking the lease and giving it up -/

theorem Fit.takeLease (h : a.Fit y w.store) (key label : String) (leaseTime : Nat) :
    a.Fit y (takeLease w key label leaseTime).2.store := by
  unfold Sync.takeLease
  split
  · exact h
  · exact h.acquireLease _ _ _ _

/-- An attempt to take a lease leaves the store as it is, or nobody had the lease, or one that gives
way, and a new holder has it. -/
theorem takeLease_cases {key label : String} {leaseTime : Nat}
    {taken : Except Error (Option String)} (h : takeLease w key label leaseTime = (taken, w')) :
    (w'.store = w.store ∧ ∀ holder, taken ≠ .ok (some holder)) ∨
      (taken = .ok (some (holderName label w.serial)) ∧
        (∀ l, w.store.lease? key = some l → l.givesWay w.now = true) ∧
        ∀ k, w'.store.lease? k = if k = key then
          some ⟨key, holderName label w.serial, w.now, w.now.plus leaseTime⟩
          else w.store.lease? k) := by
  unfold Sync.takeLease at h
  simp only at h
  split at h
  · cases h
    exact .inl ⟨rfl, nofun⟩
  · cases hcall : w.store.acquireLease key (holderName label w.serial) w.now
        (w.now.plus leaseTime) with
    | mk granted s =>
      rw [hcall] at h
      cases h
      rcases Store.acquireLease_cases hcall with ⟨rfl, rfl⟩ | ⟨rfl, hway, hleases, -⟩
      · exact .inl ⟨rfl, nofun⟩
      · exact .inr ⟨rfl, hway, hleases⟩

/-- Whoever lets go of the lease of a repository, no holder has it then if this one had it. -/
theorem not_held_dropLease (h : a.Fit y w.store) {holder : String} (hheld : a.Held w holder)
    (other : String) : ¬ a.Held (dropLease w a.repo.fullName holder) other := by
  obtain ⟨l, hl, rfl⟩ := hheld
  rintro ⟨m, hm, -⟩
  have hkey := (Store.mem_of_lease? hl).2
  replace hm : (w.store.releaseLease a.repo.fullName l.holder).lease? a.repo.fullName = some m := hm
  rw [Store.lease?_releaseLease h.leases, hl, Option.filter_some] at hm
  simp [hkey] at hm

end Archive

/-! ## Turns of a crew -/

section Crews

variable {σ : Type} {c : Setup σ} {run : Run}

/-- A turn leaves the store as it is, or it puts the row of a file that was fetched. -/
theorem Worker.Acts.store_cases {x : Worker} {turn : Turn} {w w' : World σ}
    (h : x.Acts c run w turn w') : w'.store = w.store ∨ ∃ e file i next,
      w.store.entry? run.repo.id = some e ∧ x.stage = .fetched file ∧ w'.store =
        w.store.putRow run.repo.id ((c.source.writeOf x.job.path file).row i w.now) next := by
  cases h with
  | skip => exact .inl rfl
  | begin => exact .inl rfl
  | miss e host => exact .inl rfl
  | get file host => exact .inl rfl
  | write file result w' hstage hwrite =>
    rcases writeFetched_cases c hwrite with
      ⟨-, -, -, rfl⟩ | ⟨-, ⟨-, -, rfl⟩ | ⟨e, i, next, he, -, rfl⟩⟩
    · exact .inl rfl
    · exact .inl rfl
    · exact .inr ⟨e, file, i, next, he, hstage, rfl⟩

theorem Crew.Steps.store_cases {k k' : Crew σ} (h : k.Steps c run k') :
    k'.world.store = k.world.store ∨ ∃ x ∈ k.workers, ∃ e file i next,
      k.world.store.entry? run.repo.id = some e ∧ x.stage = .fetched file ∧ k'.world.store =
        k.world.store.putRow run.repo.id
          ((c.source.writeOf x.job.path file).row i k.world.now) next := by
  cases h with
  | idle => exact .inl rfl
  | on before after x stage w hworkers hpermit hacts =>
    exact hacts.store_cases.imp_right fun h => ⟨x, hworkers ▸ mem_middle.mpr (.inl rfl), h⟩
  | ended before after x result w hworkers hacts =>
    exact hacts.store_cases.imp_right fun h => ⟨x, hworkers ▸ mem_middle.mpr (.inl rfl), h⟩

theorem Crew.Steps.host {k k' : Crew σ} (h : k.Steps c run k') {P : σ → Prop}
    (hkeep : c.service.Keeps P) (hp : P k.world.host) : P k'.world.host := by
  cases h with
  | idle => exact hp
  | on before after x stage w hworkers hpermit hacts => exact hacts.host hkeep hp
  | ended before after x result w hworkers hacts => exact hacts.host hkeep hp

end Crews

namespace Archive

variable {σ : Type} {a : Archive σ} {c : Setup σ} {w w' : World σ}

theorem Aside.refl (w : World σ) : a.Aside c w w :=
  ⟨⟨fun h => h, fun _ h => h⟩, fun _ => rfl, rfl, fun _ => Iff.rfl⟩

theorem Aside.of_eq (hstore : w'.store = w.store) (hhost : w'.host = w.host) : a.Aside c w w' := by
  obtain ⟨store, host, status, now, clock, serial⟩ := w'
  cases hstore
  cases hhost
  exact ⟨⟨fun h => h, fun _ h => h⟩, fun _ => rfl, rfl, fun _ => Iff.rfl⟩

theorem Aside.of_store (hfit : a.Fit c.source w'.store)
    (hhas : ∀ r, a.has w.host r → a.has w'.host r)
    (hrows : ∀ p, w'.store.file? a.number p = w.store.file? a.number p)
    (hmarker : w'.store.marker a.repo = w.store.marker a.repo)
    (hlease : w'.store.lease? a.repo.fullName = w.store.lease? a.repo.fullName) :
    a.Aside c w w' := by
  refine ⟨⟨fun _ => hfit, hhas⟩, hrows, hmarker, fun n => ?_⟩
  unfold Held
  rw [hlease]

/-- Who stays aside leaves what is stored of the repository as it is. -/
theorem Aside.contents (h : a.Aside c w w') (hfit : a.Fit c.source w.store) :
    Contents.of w'.store a.repo = Contents.of w.store a.repo := by
  rw [(h.fit hfit).contents, hfit.contents]
  simp only [h.rows, h.marker]

/-! ## Syncs of other repositories -/

section Other

variable {name : String}

def OtherRow (a : Archive σ) (name : String) (row : RepoRow) : Prop :=
  row.fullName = name ∧ a.number ≠ row.id

theorem otherRow_of_entryNamed? (hne : a.repo.fullName ≠ name) {y : SymbolSource} {s : Store}
    (hfit : a.Fit y s) {e : RepoEntry} (he : s.entryNamed? name = some e) :
    a.OtherRow name e.row := by
  refine ⟨fullName_of_entryNamed? he, fun hid => hne ?_⟩
  obtain ⟨e', he', hid'⟩ := hfit.named
  have hentry := Store.entry?_of_entryNamed? hfit.wellFormed he
  have hentry' := Store.entry?_of_entryNamed? hfit.wellFormed he'
  rw [hid', hid, hentry] at hentry'
  cases hentry'
  exact (fullName_of_entryNamed? he').symm.trans (fullName_of_entryNamed? he)

theorem Aside.of_modify {r : Nat} (hr : a.number ≠ r) {f : RepoEntry → RepoEntry}
    (hf : Store.KeepsIdentity f) (hw : a.Fit c.source w.store) (hfit : a.Fit c.source w'.store)
    (hhas : ∀ r, a.has w.host r → a.has w'.host r) {next : Nat}
    (hstore : w'.store = { w.store.modify r f with nextFile := next }) : a.Aside c w w' := by
  refine .of_store hfit hhas (fun p => ?_) ?_ (by rw [hstore]; rfl)
  · rw [hstore]
    exact (Store.file?_modify w.store r a.number p hf).trans (if_neg hr)
  · rw [hstore]
    exact Store.marker_modify_of_ne hw.named hr hf

/-- A sync of another repository stays aside before its end, whatever fails. -/
theorem effects_aside (hserved : a.Served c.service) (hne : a.repo.fullName ≠ name) :
    Effects c name (fun w => a.Fit c.source w.store) (a.OtherRow name) (a.Aside c) where
  refl := .refl
  host h := ⟨⟨fun hfit => hfit, fun r => h _ (hserved.serves a.repo rfl r).keeps⟩, fun _ => rfl,
    rfl, fun _ => Iff.rfl⟩
  take {w} hw := by
    have hfit := hw.takeLease name c.label c.options.leaseTime
    have hhost := host_takeLease w name c.label c.options.leaseTime
    have hrepos := repos_takeLease w name c.label c.options.leaseTime
    rcases htake : takeLease w name c.label c.options.leaseTime with ⟨taken, w'⟩
    rw [htake] at hfit hhost hrepos
    refine ⟨⟨fun _ => hfit, fun r hr => hhost ▸ hr⟩, fun p => Store.file?_of_repos hrepos _ p,
      Store.marker_of_repos hrepos _, fun n => ?_⟩
    unfold Held
    rcases takeLease_cases htake with ⟨hstore, -⟩ | ⟨-, -, hleases⟩
    · rw [hstore]
    · rw [hleases, if_neg hne]
  drop {w} holder hw := by
    have hlease : (w.store.releaseLease name holder).lease? a.repo.fullName =
        w.store.lease? a.repo.fullName := by
      rw [Store.lease?_releaseLease hw.leases]
      cases hl : w.store.lease? a.repo.fullName with
      | none => rfl
      | some l =>
        have hkey : l.key ≠ name := (Store.mem_of_lease? hl).2 ▸ hne
        simp [hkey]
    exact .of_store (hw.releaseLease name holder) (fun _ h => h) (fun _ => rfl) rfl hlease
  begin _ := .of_eq rfl rfl
  setTotal _ := .of_eq rfl rfl
  fileDone := .of_eq rfl rfl
  named hrow := hrow.1
  stored hw hname hget := by
    obtain ⟨e, he, rfl⟩ := entry_of_getRepo hget
    exact otherRow_of_entryNamed? hne hw (hname ▸ he)
  insert {w repo} m hw hname := by
    have hfit := hw.insertRepo repo m
    refine ⟨.of_store hfit (fun _ h => h)
      (fun p => Store.file?_insertRepo w.store repo m a.number p)
      (Store.marker_insertRepo w.store repo a.repo m) ?_, fun row hrow => ?_⟩
    · unfold Store.insertRepo
      split <;> rfl
    · obtain ⟨e, he, rfl⟩ := entry_of_insertRepo hrow
      exact otherRow_of_entryNamed? hne hfit (hname ▸ he)
  record revision hw hrow :=
    .of_modify hrow.2 (Store.keepsIdentity_record revision _) hw (hw.recordSync _ revision _)
      (fun _ h => h) rfl
  delete path hw hrow :=
    .of_modify hrow.2 (Store.keepsIdentity_delete path) hw (hw.deleteFile _ path) (fun _ h => h) rfl

theorem ends_aside : Ends name (a.Aside c) where
  finish _ _ := .of_eq rfl rfl
  fail _ _ := .of_eq rfl rfl
  clearQueued := .of_eq rfl rfl

theorem aside_of_turn (hserved : a.Served c.service) {run : Run} {k k' : Crew σ}
    (hrun : a.number ≠ run.repo.id) (hk : a.Fit c.source k.world.store) (h : k.Steps c run k') :
    a.Aside c k.world k'.world := by
  have hhas (r : String) := h.host (hserved.serves a.repo rfl r).keeps
  rcases h.store_cases with hstore | ⟨x, -, e, file, i, next, he, -, hstore⟩
  · exact .of_store (hstore ▸ hk) hhas (fun p => by rw [hstore]) (by rw [hstore]) (by rw [hstore])
  · have hfit : a.Fit c.source k'.world.store := by
      rw [hstore]
      exact hk.putRow he (fun h => absurd h.symm hrun) next
    exact .of_modify hrun (Store.keepsIdentity_put _) hk hfit hhas hstore

end Other

end Archive

end ContextIndex.Sync
