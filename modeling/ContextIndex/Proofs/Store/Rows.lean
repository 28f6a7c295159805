import ContextIndex.Store.Lease

/-!
# Rows of the store

What each operation does to the rows of a repository.  An operation has one equation for the row at
a path: a write puts one row in its place (`file?_put`), a deletion takes one away
(`file?_deleteFile`), and no other operation touches a row.

A run reaches the rows of its repository by number, and what is said of a whole run names the
repository.  The two agree in a well-formed store (`rowAt_eq_file?`), which is one whose numbers,
names and paths are unique, as its keys demand.
-/

namespace ContextIndex

/-- A row without its number and without the time it was written. -/
def FileRow.core (f : FileRow) : FileRow :=
  { f with id := 0, updatedAt := ⟨0⟩ }

/-! ## Repositories as they are read -/

/-- A row that is read is the stored one. -/
theorem row_of_readRepo {r row : RepoRow} (h : Store.readRepo r = .ok row) : row = r := by
  unfold Store.readRepo at h
  split at h
  · split at h
    · cases h
      rfl
    · cases h
  · cases h
    rfl

/-- A repository that the store gives is the stored one. -/
theorem entry_of_getRepo {s : Store} {repo : RepoId} {row : RepoRow}
    (h : s.getRepo repo = .ok (some row)) :
    ∃ e, s.entryNamed? repo.fullName = some e ∧ e.row = row := by
  unfold Store.getRepo at h
  split at h
  · next e he =>
    cases hread : Store.readRepo e.row with
    | error e => rw [hread] at h; cases h
    | ok r =>
      rw [hread] at h
      cases h
      exact ⟨e, he, (row_of_readRepo hread).symm⟩
  · cases h

theorem fullName_of_entryNamed? {s : Store} {n : String} {e : RepoEntry}
    (h : s.entryNamed? n = some e) : e.row.fullName = n := by
  simpa using List.find?_some h

namespace Store

/-! ## Repositories by name -/

/-- The row at a path of a repository. -/
def rowAt (s : Store) (repo : RepoId) (path : String) : Option FileRow :=
  (s.entryNamed? repo.fullName).bind fun e => e.files.find? fun f => f.path == path

/-- The revision recorded for a repository. -/
def marker (s : Store) (repo : RepoId) : Option String :=
  (s.entryNamed? repo.fullName).bind fun e => e.row.lastRevision

/-- A repository is stored under a number. -/
def Names (s : Store) (repo : RepoId) (id : Nat) : Prop :=
  ∃ e, s.entryNamed? repo.fullName = some e ∧ e.row.id = id

/-- What the keys of the tables ask for: repositories differ in number and in name, and the files
of one in their path. -/
structure WellFormed (s : Store) : Prop where
  ids : (s.repos.map fun e => e.row.id).Nodup
  names : (s.repos.map fun e => e.row.fullName).Nodup
  fresh : ∀ e ∈ s.repos, e.row.id < s.nextRepo
  paths : ∀ e ∈ s.repos, (e.files.map FileRow.path).Nodup

/-- With distinct keys, looking a key up gives the element it belongs to. -/
theorem find?_key {α β : Type} [DecidableEq β] (key : α → β) {l : List α} {a : α}
    (hnd : (l.map key).Nodup) (ha : a ∈ l) : (l.find? fun x => key x == key a) = some a := by
  induction l with
  | nil => cases ha
  | cons b l ih =>
    rw [List.map_cons, List.nodup_cons] at hnd
    cases List.mem_cons.mp ha with
    | inl heq => subst heq; simp
    | inr hmem =>
      have hne : key b ≠ key a := fun h => hnd.1 (h ▸ List.mem_map_of_mem hmem)
      rw [List.find?_cons_of_neg (by simpa using hne)]
      exact ih hnd.2 hmem

/-- The entry of a name is the entry of its number. -/
theorem entry?_of_entryNamed? {s : Store} (hs : s.WellFormed) {n : String} {e : RepoEntry}
    (h : s.entryNamed? n = some e) : s.entry? e.row.id = some e :=
  find?_key (fun e : RepoEntry => e.row.id) hs.ids (List.mem_of_find?_eq_some h)

/-- By name and by number, the same row is at a path. -/
theorem rowAt_eq_file? {s : Store} (hs : s.WellFormed) {repo : RepoId} {id : Nat}
    (h : s.Names repo id) (path : String) : s.rowAt repo path = s.file? id path := by
  obtain ⟨e, he, rfl⟩ := h
  unfold rowAt file? files
  rw [he, entry?_of_entryNamed? hs he]
  rfl

/-- A number is that of a stored repository. -/
def HasRepo (s : Store) (id : Nat) : Prop :=
  ∃ e, s.entry? id = some e

theorem Names.hasRepo {s : Store} {repo : RepoId} {id : Nat} (h : s.Names repo id)
    (hs : s.WellFormed) : s.HasRepo id := by
  obtain ⟨e, he, rfl⟩ := h
  exact ⟨e, entry?_of_entryNamed? hs he⟩

/-! ## Changes to one repository -/

/-- A change to an entry that leaves its identity alone. -/
def KeepsIdentity (f : RepoEntry → RepoEntry) : Prop :=
  ∀ e, (f e).row.id = e.row.id ∧ (f e).row.repoId = e.row.repoId

theorem KeepsIdentity.fullName {f : RepoEntry → RepoEntry} (hf : KeepsIdentity f)
    (e : RepoEntry) : (f e).row.fullName = e.row.fullName := by
  unfold RepoRow.fullName
  rw [(hf e).2]

theorem entry?_modify (s : Store) (repo r : Nat) {f : RepoEntry → RepoEntry}
    (hf : KeepsIdentity f) :
    entry? (s.modify repo f) r =
      (Option.map (fun e : RepoEntry => if e.row.id = repo then f e else e) <| s.entry? r) := by
  unfold entry? modify
  rw [List.find?_map]
  congr 2
  funext e
  simp only [Function.comp]
  split
  · rw [(hf e).1]
  · rfl

theorem entryNamed?_modify (s : Store) (repo : Nat) (n : String) {f : RepoEntry → RepoEntry}
    (hf : KeepsIdentity f) :
    (s.modify repo f).entryNamed? n =
      (s.entryNamed? n).map fun e => if e.row.id = repo then f e else e := by
  unfold entryNamed? modify
  rw [List.find?_map]
  congr 2
  funext e
  simp only [Function.comp]
  split
  · rw [hf.fullName]
  · rfl

theorem HasRepo.modify {s : Store} {id : Nat} (h : s.HasRepo id) (r : Nat)
    {f : RepoEntry → RepoEntry} (hf : KeepsIdentity f) : (s.modify r f).HasRepo id := by
  obtain ⟨e, he⟩ := h
  refine ⟨if e.row.id = r then f e else e, ?_⟩
  rw [entry?_modify s r id hf, he]
  rfl

theorem id_of_entry? {s : Store} {r : Nat} {e : RepoEntry} (h : s.entry? r = some e) :
    e.row.id = r := by
  simpa using List.find?_some h

/-- A change to one repository leaves the files of the others alone. -/
theorem file?_modify (s : Store) (repo r : Nat) (path : String) {f : RepoEntry → RepoEntry}
    (hf : KeepsIdentity f) :
    (s.modify repo f).file? r path =
      if r = repo then
        s.entry? r |>.bind fun e => (f e).files.find? fun x => x.path == path
      else s.file? r path := by
  unfold file? files
  rw [entry?_modify s repo r hf]
  cases he : s.entry? r with
  | none => simp
  | some e =>
    have hid := id_of_entry? he
    by_cases h : r = repo
    · simp [hid, h]
    · simp [hid, h]

theorem Names.modify {s : Store} {repo : RepoId} {id : Nat} (h : s.Names repo id) (r : Nat)
    {f : RepoEntry → RepoEntry} (hf : KeepsIdentity f) : (s.modify r f).Names repo id := by
  obtain ⟨e, he, rfl⟩ := h
  refine ⟨if e.row.id = r then f e else e, by rw [entryNamed?_modify s r _ hf, he]; rfl, ?_⟩
  split
  · exact (hf e).1
  · rfl

/-- A change that leaves the revisions alone leaves every marker alone. -/
theorem marker_modify (s : Store) (repo : RepoId) (r : Nat) {f : RepoEntry → RepoEntry}
    (hf : KeepsIdentity f) (hrev : ∀ e, (f e).row.lastRevision = e.row.lastRevision) :
    (s.modify r f).marker repo = s.marker repo := by
  unfold marker
  rw [entryNamed?_modify s r _ hf]
  cases s.entryNamed? repo.fullName with
  | none => rfl
  | some e =>
    simp only [Option.map_some, Option.bind_some]
    split
    · exact hrev e
    · rfl

/-- A change to one repository leaves the markers of the others alone. -/
theorem marker_modify_of_ne {s : Store} {repo : RepoId} {id r : Nat} (h : s.Names repo id)
    (hne : id ≠ r) {f : RepoEntry → RepoEntry} (hf : KeepsIdentity f) :
    (s.modify r f).marker repo = s.marker repo := by
  obtain ⟨e, he, rfl⟩ := h
  unfold marker
  rw [entryNamed?_modify s r _ hf, he, Option.map_some, if_neg hne]

theorem WellFormed.modify {s : Store} (hs : s.WellFormed) (repo : Nat)
    {f : RepoEntry → RepoEntry} (hf : KeepsIdentity f)
    (hpaths : ∀ e, (e.files.map FileRow.path).Nodup → ((f e).files.map FileRow.path).Nodup) :
    (s.modify repo f).WellFormed := by
  have hkey {β : Type} (key : RepoEntry → β) (hk : ∀ e, key (f e) = key e) :
      ((s.modify repo f).repos.map key) = s.repos.map key := by
    unfold Store.modify
    rw [List.map_map]
    refine List.map_congr_left fun e _ => ?_
    simp only [Function.comp]
    split
    · exact hk e
    · rfl
  refine ⟨?_, ?_, ?_, ?_⟩
  · rw [hkey _ fun e => (hf e).1]
    exact hs.ids
  · rw [hkey _ fun e => hf.fullName e]
    exact hs.names
  · intro e he
    obtain ⟨e₀, he₀, rfl⟩ := List.mem_map.mp he
    have := hs.fresh e₀ he₀
    split
    · rw [(hf e₀).1]; exact this
    · exact this
  · intro e he
    obtain ⟨e₀, he₀, rfl⟩ := List.mem_map.mp he
    have := hs.paths e₀ he₀
    split
    · exact hpaths e₀ this
    · exact this

/-! ## Records of a sync -/

theorem keepsIdentity_record (revision : Option String) (t : Instant) :
    KeepsIdentity fun e =>
      { e with row := { e.row with
          lastRevision := revision.or e.row.lastRevision
          lastSyncedAt := some t } } :=
  fun _ => ⟨rfl, rfl⟩

/-- Recording a sync touches no file. -/
theorem file?_recordSync (s : Store) (repo : Nat) (revision : Option String) (t : Instant)
    (r : Nat) (path : String) : (s.recordSync repo revision t).file? r path = s.file? r path := by
  unfold recordSync
  rw [file?_modify s repo r path (keepsIdentity_record revision t)]
  split
  · unfold file? files
    cases s.entry? r <;> rfl
  · rfl

/-- The revision of a finished sync is recorded; without one the old marker stays. -/
theorem marker_recordSync {s : Store} {repo : RepoId} {id : Nat} (h : s.Names repo id)
    (revision : Option String) (t : Instant) :
    (s.recordSync id revision t).marker repo = revision.or (s.marker repo) := by
  obtain ⟨e, he, rfl⟩ := h
  unfold marker recordSync
  rw [entryNamed?_modify s _ _ (keepsIdentity_record revision t), he]
  simp

/-! ## Writes and deletions -/

theorem find?_putFile (row : FileRow) (p : String) (fs : List FileRow) :
    ((putFile row fs).find? fun f => f.path == p) =
      if p = row.path then some row else fs.find? fun f => f.path == p := by
  induction fs with
  | nil =>
    by_cases h : p = row.path
    · simp [putFile, h]
    · simp [putFile, h, Ne.symm h]
  | cons f fs ih =>
    by_cases hf : f.path = row.path
    · by_cases h : p = row.path
      · simp [putFile, hf, h]
      · simp [putFile, hf, h, Ne.symm h]
    · rw [putFile, if_neg hf]
      by_cases h : f.path = p
      · have hne : p ≠ row.path := fun h' => hf (h.trans h')
        simp [h, hne]
      · rw [List.find?_cons_of_neg (by simpa using h), ih,
          List.find?_cons_of_neg (by simpa using h)]

theorem map_path_putFile (row : FileRow) (fs : List FileRow) :
    (putFile row fs).map FileRow.path =
      if row.path ∈ fs.map FileRow.path then fs.map FileRow.path
      else fs.map FileRow.path ++ [row.path] := by
  induction fs with
  | nil => simp [putFile]
  | cons f fs ih =>
    by_cases hf : f.path = row.path
    · simp [putFile, hf]
    · rw [putFile, if_neg hf, List.map_cons, ih, List.map_cons]
      have hne : row.path ≠ f.path := Ne.symm hf
      split
      · next h => rw [if_pos (List.mem_cons_of_mem _ h)]
      · next h => rw [if_neg (by simpa [hne] using h), List.cons_append]

theorem mem_putFile {row g : FileRow} {fs : List FileRow} (h : g ∈ putFile row fs) :
    g = row ∨ g ∈ fs := by
  induction fs with
  | nil => exact .inl (by simpa [putFile] using h)
  | cons f fs ih =>
    rw [putFile] at h
    split at h
    · cases List.mem_cons.mp h with
      | inl heq => exact .inl heq
      | inr hmem => exact .inr (List.mem_cons_of_mem _ hmem)
    · cases List.mem_cons.mp h with
      | inl heq => exact .inr (heq ▸ List.mem_cons_self)
      | inr hmem => exact (ih hmem).imp id (List.mem_cons_of_mem _)

theorem nodup_path_putFile {row : FileRow} {fs : List FileRow}
    (h : (fs.map FileRow.path).Nodup) : ((putFile row fs).map FileRow.path).Nodup := by
  rw [map_path_putFile]
  split
  · exact h
  · next hnot =>
    refine List.nodup_append.mpr ⟨h, by simp, ?_⟩
    intro a ha b hb heq
    rw [List.mem_singleton] at hb
    exact hnot (hb ▸ heq ▸ ha)

theorem find?_filter_path (path p : String) (fs : List FileRow) :
    ((fs.filter fun f => f.path != path).find? fun f => f.path == p) =
      if p = path then none else fs.find? fun f => f.path == p := by
  rw [List.find?_filter]
  by_cases h : p = path
  · rw [if_pos h, List.find?_eq_none]
    intro f _ hf
    simp only [bne_iff_ne, beq_iff_eq, decide_eq_true_eq] at hf
    exact hf.1 (hf.2.trans h)
  · rw [if_neg h]
    congr 1
    funext f
    by_cases hf : f.path = p
    · have hne : f.path ≠ path := fun h' => h (hf.symm.trans h')
      simp [hf, h]
    · simp [hf]

theorem keepsIdentity_put (row : FileRow) :
    KeepsIdentity fun e => { e with files := putFile row e.files } :=
  fun _ => ⟨rfl, rfl⟩

theorem keepsIdentity_delete (path : String) :
    KeepsIdentity fun e => { e with files := e.files.filter fun f => f.path != path } :=
  fun _ => ⟨rfl, rfl⟩

/-- A deletion takes the row at its path away, with its symbols, and leaves every other one. -/
theorem file?_deleteFile (s : Store) (repo : Nat) (path : String) (r : Nat) (p : String) :
    (s.deleteFile repo path).2.file? r p =
      if r = repo ∧ p = path then none else s.file? r p := by
  unfold deleteFile
  rw [file?_modify s repo r p (keepsIdentity_delete path)]
  by_cases hr : r = repo
  · subst hr
    simp only [if_true, true_and, find?_filter_path]
    unfold file? files
    cases s.entry? r <;> by_cases hp : p = path <;> simp [hp]
  · simp [hr]

/-- A row put into a stored repository is the one at its path, and every other one stays. -/
theorem file?_put {s : Store} {repo : Nat} {e : RepoEntry} (he : s.entry? repo = some e)
    (row : FileRow) (r : Nat) (p : String) :
    (s.modify repo fun e => { e with files := putFile row e.files }).file? r p =
      if r = repo ∧ p = row.path then some row else s.file? r p := by
  rw [file?_modify s repo r p (keepsIdentity_put row)]
  by_cases hr : r = repo
  · subst hr
    simp only [if_true, true_and, find?_putFile]
    unfold file? files
    simp [he]
  · simp [hr]

/-- The store after a write that was carried out, with the row under this number. -/
def putRow (s : Store) (repo : Nat) (row : FileRow) (next : Nat) : Store :=
  { s.modify repo fun e => { e with files := putFile row e.files } with nextFile := next }

/-- What a write of a file does: nothing if the file is current, nothing but an error without its
repository, and else one row is put. -/
theorem writeFile_cases {s s' : Store} {repo : Nat} {x : FileWrite} {now : Instant}
    {force : Bool} {result : Except Error Written}
    (h : s.writeFile repo x now force = (result, s')) :
    (force = false ∧ s.isCurrent repo x.path x.contentId x.extractor = true ∧
      result = .ok .unchanged ∧ s' = s) ∨
    ((!force && s.isCurrent repo x.path x.contentId x.extractor) = false ∧
      ((¬s.HasRepo repo ∧ result = .error (.storage .unknownRepo) ∧ s' = s) ∨
        ∃ e id next, s.entry? repo = some e ∧ result = .ok (.written x.rows.length) ∧
          s' = s.putRow repo (x.row id now) next)) := by
  unfold writeFile at h
  split at h
  · next hc =>
    simp only [Bool.and_eq_true, Bool.not_eq_true'] at hc
    cases h
    exact .inl ⟨hc.1, hc.2, rfl, rfl⟩
  · next hc =>
    refine .inr ⟨by simpa using hc, ?_⟩
    split at h
    · next he =>
      cases h
      exact .inl ⟨(fun ⟨e, h⟩ => by rw [he] at h; cases h), rfl, rfl⟩
    · next e he =>
      right
      cases hf : s.file? repo x.path with
      | some f =>
        simp only [hf] at h
        cases h
        exact ⟨e, f.id, _, he, rfl, rfl⟩
      | none =>
        simp only [hf] at h
        cases h
        exact ⟨e, s.nextFile, _, he, rfl, rfl⟩

theorem file?_putRow {s : Store} {repo : Nat} {e : RepoEntry} (he : s.entry? repo = some e)
    (row : FileRow) (next r : Nat) (p : String) :
    (s.putRow repo row next).file? r p =
      if r = repo ∧ p = row.path then some row else s.file? r p :=
  file?_put he row r p

theorem WellFormed.putRow {s : Store} (hs : s.WellFormed) (repo : Nat) (row : FileRow)
    (next : Nat) : (s.putRow repo row next).WellFormed := by
  have h := hs.modify repo (keepsIdentity_put row) fun _ he => nodup_path_putFile he
  exact ⟨h.ids, h.names, h.fresh, h.paths⟩

theorem WellFormed.deleteFile {s : Store} (hs : s.WellFormed) (repo : Nat) (path : String) :
    (s.deleteFile repo path).2.WellFormed :=
  hs.modify repo (keepsIdentity_delete path) fun _ he => he.sublist (List.filter_sublist.map _)

theorem WellFormed.recordSync {s : Store} (hs : s.WellFormed) (repo : Nat)
    (revision : Option String) (t : Instant) : (s.recordSync repo revision t).WellFormed :=
  hs.modify repo (keepsIdentity_record revision t) fun _ he => he

/-! ## New repositories -/

theorem entryNamed?_append (s : Store) (n : String) (e : RepoEntry) (next : Nat) :
    ({ s with repos := s.repos ++ [e], nextRepo := next } : Store).entryNamed? n =
      (s.entryNamed? n).or (if e.row.fullName = n then some e else none) := by
  unfold entryNamed?
  rw [List.find?_append]
  by_cases h : e.row.fullName = n <;> simp [h]

/-- Storing a repository takes no other one away. -/
theorem Names.insertRepo {s : Store} {repo : RepoId} {id : Nat} (h : s.Names repo id)
    (r : RepoId) (m : Remote.Metadata) : (s.insertRepo r m).2.Names repo id := by
  obtain ⟨e, he, hid⟩ := h
  unfold Store.insertRepo
  split
  · exact ⟨e, he, hid⟩
  · exact ⟨e, by rw [entryNamed?_append, he]; rfl, hid⟩

theorem WellFormed.insertRepo {s : Store} (hs : s.WellFormed) (r : RepoId)
    (m : Remote.Metadata) : (s.insertRepo r m).2.WellFormed := by
  unfold Store.insertRepo
  split
  · exact hs
  · next hnone =>
    refine ⟨?_, ?_, ?_, ?_⟩
    · simp only [List.map_append, List.map_cons, List.map_nil]
      refine List.nodup_append.mpr ⟨hs.ids, by simp, ?_⟩
      intro a ha b hb heq
      obtain ⟨e, he, rfl⟩ := List.mem_map.mp ha
      have hlt := hs.fresh e he
      rw [List.mem_singleton] at hb
      omega
    · simp only [List.map_append, List.map_cons, List.map_nil]
      refine List.nodup_append.mpr ⟨hs.names, by simp, ?_⟩
      intro a ha b hb heq
      obtain ⟨e, he, rfl⟩ := List.mem_map.mp ha
      rw [List.mem_singleton] at hb
      have hmiss := List.find?_eq_none.mp hnone e he
      exact hmiss (beq_iff_eq.mpr (heq.trans hb))
    · intro e he
      cases List.mem_append.mp he with
      | inl hold => exact Nat.lt_succ_of_lt (hs.fresh e hold)
      | inr hnew =>
        rw [List.mem_singleton] at hnew
        subst hnew
        exact Nat.lt_succ_self _
    · intro e he
      cases List.mem_append.mp he with
      | inl hold => exact hs.paths e hold
      | inr hnew =>
        rw [List.mem_singleton] at hnew
        subst hnew
        exact List.nodup_nil

/-- A repository that is new has neither rows nor a marker. -/
theorem rowAt_insertRepo (s : Store) (r repo : RepoId) (m : Remote.Metadata) (path : String) :
    (s.insertRepo r m).2.rowAt repo path = s.rowAt repo path := by
  unfold Store.insertRepo
  split
  · rfl
  · unfold rowAt
    rw [entryNamed?_append]
    cases s.entryNamed? repo.fullName with
    | some e => rfl
    | none =>
      simp only [Option.none_or]
      split <;> rfl

theorem marker_insertRepo (s : Store) (r repo : RepoId) (m : Remote.Metadata) :
    (s.insertRepo r m).2.marker repo = s.marker repo := by
  unfold Store.insertRepo
  split
  · rfl
  · unfold marker
    rw [entryNamed?_append]
    cases s.entryNamed? repo.fullName with
    | some e => rfl
    | none =>
      simp only [Option.none_or]
      split <;> rfl

/-! ## Leases -/

/-- What is said of the repositories holds whatever the leases are. -/
theorem WellFormed.of_repos {s t : Store} (hs : s.WellFormed) (h : t.repos = s.repos)
    (hnext : t.nextRepo = s.nextRepo) : t.WellFormed :=
  ⟨h ▸ hs.ids, h ▸ hs.names, h ▸ hnext ▸ hs.fresh, h ▸ hs.paths⟩

theorem entryNamed?_of_repos {s t : Store} (h : t.repos = s.repos) (n : String) :
    t.entryNamed? n = s.entryNamed? n := by
  unfold entryNamed?
  rw [h]

theorem Names.of_repos {s t : Store} {repo : RepoId} {id : Nat} (hn : s.Names repo id)
    (h : t.repos = s.repos) : t.Names repo id := by
  unfold Names
  rw [entryNamed?_of_repos h]
  exact hn

theorem rowAt_of_repos {s t : Store} (h : t.repos = s.repos) (repo : RepoId) (path : String) :
    t.rowAt repo path = s.rowAt repo path := by
  unfold rowAt
  rw [entryNamed?_of_repos h]

theorem marker_of_repos {s t : Store} (h : t.repos = s.repos) (repo : RepoId) :
    t.marker repo = s.marker repo := by
  unfold marker
  rw [entryNamed?_of_repos h]

theorem repos_acquireLease (s : Store) (key holder : String) (now expiresAt : Instant) :
    (s.acquireLease key holder now expiresAt).2.repos = s.repos ∧
      (s.acquireLease key holder now expiresAt).2.nextRepo = s.nextRepo := by
  unfold acquireLease
  split
  · exact ⟨rfl, rfl⟩
  · split <;> exact ⟨rfl, rfl⟩

theorem rowAt_releaseLease (s : Store) (key holder : String) (repo : RepoId) (path : String) :
    (s.releaseLease key holder).rowAt repo path = s.rowAt repo path :=
  rfl

theorem marker_releaseLease (s : Store) (key holder : String) (repo : RepoId) :
    (s.releaseLease key holder).marker repo = s.marker repo :=
  rfl

/-! ## Statements on every row -/

/-- Every stored row has a property. -/
def AllRows (P : FileRow → Prop) (s : Store) : Prop :=
  ∀ e ∈ s.repos, ∀ f ∈ e.files, P f

theorem AllRows.modify {P : FileRow → Prop} {s : Store} (hs : s.AllRows P) (repo : Nat)
    {f : RepoEntry → RepoEntry} (hf : ∀ e, (∀ x ∈ e.files, P x) → ∀ x ∈ (f e).files, P x) :
    (s.modify repo f).AllRows P := by
  intro e he
  obtain ⟨e₀, he₀, rfl⟩ := List.mem_map.mp he
  split
  · exact hf e₀ (hs e₀ he₀)
  · exact hs e₀ he₀

theorem AllRows.putRow {P : FileRow → Prop} {s : Store} (hs : s.AllRows P) (repo : Nat)
    {row : FileRow} (hrow : P row) (next : Nat) : (s.putRow repo row next).AllRows P := by
  refine hs.modify repo fun e he x hx => ?_
  cases mem_putFile hx with
  | inl heq => exact heq ▸ hrow
  | inr hmem => exact he x hmem

theorem AllRows.deleteFile {P : FileRow → Prop} {s : Store} (hs : s.AllRows P) (repo : Nat)
    (path : String) : (s.deleteFile repo path).2.AllRows P :=
  hs.modify repo fun _ he x hx => he x (List.mem_filter.mp hx).1

theorem AllRows.insertRepo {P : FileRow → Prop} {s : Store} (hs : s.AllRows P) (r : RepoId)
    (m : Remote.Metadata) : (s.insertRepo r m).2.AllRows P := by
  unfold Store.insertRepo
  split
  · exact hs
  · intro e he
    cases List.mem_append.mp he with
    | inl hold => exact hs e hold
    | inr hnew =>
      rw [List.mem_singleton] at hnew
      subst hnew
      exact fun _ hx => nomatch hx

/-- A row that is found is one of the rows, at the path that was looked for. -/
theorem AllRows.rowAt {P : FileRow → Prop} {s : Store} (hs : s.AllRows P) {repo : RepoId}
    {path : String} {f : FileRow} (h : s.rowAt repo path = some f) : f.path = path ∧ P f := by
  obtain ⟨e, he, hf⟩ := Option.bind_eq_some_iff.mp h
  exact ⟨by simpa using List.find?_some hf,
    hs e (List.mem_of_find?_eq_some he) f (List.mem_of_find?_eq_some hf)⟩

theorem AllRows.file? {P : FileRow → Prop} {s : Store} (hs : s.AllRows P) {id : Nat}
    {path : String} {f : FileRow} (h : s.file? id path = some f) : f.path = path ∧ P f := by
  refine ⟨by simpa using List.find?_some h, ?_⟩
  have hmem := List.mem_of_find?_eq_some h
  rw [files] at hmem
  cases he : s.entry? id with
  | none => simp [he] at hmem
  | some e =>
    rw [he] at hmem
    exact hs e (List.mem_of_find?_eq_some he) f hmem

end Store

end ContextIndex
