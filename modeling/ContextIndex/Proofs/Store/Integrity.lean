import ContextIndex.Proofs.Store.Rows

/-!
# Integrity of the store

Whatever operations the store has gone through, in any order and whether they succeeded or not, what
it shows fits together.  An `Operation` is one request with its arguments, `Store.after` is the
store a list of them leaves, and `Sound` is the invariant that each of them keeps (`Sound.run`).

`after_consistent` says the invariant in terms of what reading the store gives: names, paths and
numbers are keys, no file is without its repository and no symbol without its file, what is derived
from a file is derived from the text that is stored, and the statistics are the sums of the
listings.  The declarations that come with a write are not trusted: `FileWrite.rows` keeps those
whose range lies in the text.
-/

namespace ContextIndex

/-! ## Sums -/

theorem total_flatMap {α β : Type} (g : α → List β) (h : β → Nat) (l : List α) :
    total ((l.flatMap g).map h) = total (l.map fun a => total ((g a).map h)) := by
  induction l with
  | nil => rfl
  | cons a l ih => rw [List.flatMap_cons, List.map_append, total_append, ih]; rfl

theorem total_map_one {α : Type} (l : List α) : total (l.map fun _ => 1) = l.length := by
  induction l with
  | nil => rfl
  | cons a l ih => rw [List.map_cons, total, ih, List.length_cons, Nat.add_comm]

theorem total_perm {ms ns : List Nat} (h : ms.Perm ns) : total ms = total ns := by
  induction h with
  | nil => rfl
  | cons n _ ih => rw [total, total, ih]
  | swap m n ns => simp only [total, Nat.add_left_comm]
  | trans _ _ ih₁ ih₂ => exact ih₁.trans ih₂

/-! ## What a row says of its text -/

/-- A symbol lies in a text and costs what its lines cost. -/
structure Symbol.LiesIn (y : Symbol) (text : List Char) : Prop where
  first : 1 ≤ y.first
  ordered : y.first ≤ y.last
  last : y.last ≤ Text.countLines text
  tokens : y.tokens = Token.estimate (Text.lineRange text y.first y.last)

/-- What a row says besides its text is read off its path and its text. -/
structure FileRow.Measured (f : FileRow) : Prop where
  language : f.language = Language.ofPath f.path
  lineCount : f.lineCount = Text.countLines f.content.toList
  tokens : f.tokens = Token.estimate f.content.toList
  symbols : ∀ y ∈ f.symbols, y.LiesIn f.content.toList

namespace Store

theorem symbolOf_liesIn {text : List Char} {d : Declaration}
    (h : inRange (Text.countLines text) d = true) : (symbolOf text d).LiesIn text := by
  simp only [inRange, Bool.and_eq_true, decide_eq_true_eq] at h
  obtain ⟨⟨hfirst, hordered⟩, hlast⟩ := h
  exact ⟨hfirst, hordered, hlast, rfl⟩

/-- Whatever declarations come with a file, its row holds those that lie in its text. -/
theorem FileWrite.row_measured (x : FileWrite) (id : Nat) (now : Instant) :
    (x.row id now).Measured where
  language := rfl
  lineCount := rfl
  tokens := Token.cost_eq_estimate x.content
  symbols := by
    intro y hy
    obtain ⟨d, hd, rfl⟩ := List.mem_map.mp hy
    exact symbolOf_liesIn (List.mem_filter.mp hd).2

/-! ## Operations -/

/-- A request to the store that may change it. -/
inductive Operation
  | insertRepo (repo : RepoId) (m : Remote.Metadata)
  | recordSync (repo : Nat) (revision : Option String) (time : Instant)
  | writeFile (repo : Nat) (file : FileWrite) (now : Instant) (force : Bool)
  | deleteFile (repo : Nat) (path : String)
  | acquireLease (key holder : String) (now expiresAt : Instant)
  | renewLease (key holder : String) (expiresAt : Instant)
  | releaseLease (key holder : String)

/-- The store after a request, also after one that was refused. -/
def Operation.run (s : Store) : Operation → Store
  | insertRepo repo m => (s.insertRepo repo m).2
  | recordSync repo revision time => s.recordSync repo revision time
  | writeFile repo file now force => (s.writeFile repo file now force).2
  | deleteFile repo path => (s.deleteFile repo path).2
  | acquireLease key holder now expiresAt => (s.acquireLease key holder now expiresAt).2
  | renewLease key holder expiresAt => (s.renewLease key holder expiresAt).2
  | releaseLease key holder => s.releaseLease key holder

/-- The time of a recorded sync can be read back.  Nothing is asked of the other requests. -/
def Operation.inTime : Operation → Bool
  | recordSync _ _ time => time.isReadable
  | _ => true

/-- The store that requests leave of an empty one. -/
def after (ops : List Operation) : Store :=
  ops.foldl Operation.run {}

/-! ## Numbers of files -/

/-- No two files have one number, and the next number is free. -/
structure Numbered (s : Store) : Prop where
  below : ∀ {r p f}, s.file? r p = some f → f.id < s.nextFile
  distinct : ∀ {r p f r' p' f'}, s.file? r p = some f → s.file? r' p' = some f' →
    f.id = f'.id → r = r' ∧ p = p'

/-- Nothing but the files and the next number matters. -/
theorem Numbered.mono {s t : Store} (hs : s.Numbered) (hnext : s.nextFile ≤ t.nextFile)
    (h : ∀ {r p f}, t.file? r p = some f → s.file? r p = some f) : t.Numbered where
  below hf := Nat.lt_of_lt_of_le (hs.below (h hf)) hnext
  distinct hf hf' := hs.distinct (h hf) (h hf')

theorem file?_of_repos {s t : Store} (h : t.repos = s.repos) (r : Nat) (p : String) :
    t.file? r p = s.file? r p := by
  unfold file? files entry?
  rw [h]

theorem Numbered.of_repos {s t : Store} (hs : s.Numbered) (h : t.repos = s.repos)
    (hnext : t.nextFile = s.nextFile) : t.Numbered := by
  refine hs.mono (Nat.le_of_eq hnext.symm) ?_
  intro r p f hf
  rwa [file?_of_repos h] at hf

/-- A row is put under the number of the one it replaces, or under a new one. -/
theorem Numbered.putRow {s : Store} (hs : s.Numbered) {repo : Nat} {e : RepoEntry}
    (he : s.entry? repo = some e) {row : FileRow} {next : Nat} (hnext : s.nextFile ≤ next)
    (hid : row.id < next)
    (hfree : ∀ {r p f}, s.file? r p = some f → f.id = row.id → r = repo ∧ p = row.path) :
    (s.putRow repo row next).Numbered where
  below := by
    intro r p f hf
    show f.id < next
    rw [file?_putRow he] at hf
    split at hf
    · cases hf
      exact hid
    · exact Nat.lt_of_lt_of_le (hs.below hf) hnext
  distinct := by
    intro r p f r' p' f' hf hf' heq
    rw [file?_putRow he] at hf hf'
    split at hf
    · next hin =>
      cases hf
      split at hf'
      · next hin' => exact ⟨hin.1.trans hin'.1.symm, hin.2.trans hin'.2.symm⟩
      · next hout' => exact absurd (hfree hf' heq.symm) hout'
    · next hout =>
      split at hf'
      · cases hf'
        exact absurd (hfree hf heq) hout
      · exact hs.distinct hf hf' heq

theorem Numbered.writeFile {s : Store} (hs : s.Numbered) (repo : Nat) (x : FileWrite)
    (now : Instant) (force : Bool) : (s.writeFile repo x now force).2.Numbered := by
  unfold Store.writeFile
  split
  · exact hs
  · cases he : s.entry? repo with
    | none => exact hs
    | some e =>
      cases hold : s.file? repo x.path with
      | some g =>
        have hbelow := hs.below hold
        have hlt : (x.row g.id now).id < s.nextFile := hbelow
        have hput := hs.putRow he (Nat.le_refl _) hlt fun hf heq => hs.distinct hf hold heq
        exact hput
      | none =>
        have hlt : (x.row s.nextFile now).id < s.nextFile + 1 := Nat.lt_succ_self _
        have hput := hs.putRow he (Nat.le_succ _) hlt
          fun hf heq => absurd heq (Nat.ne_of_lt (hs.below hf))
        exact hput

theorem Numbered.deleteFile {s : Store} (hs : s.Numbered) (repo : Nat) (path : String) :
    (s.deleteFile repo path).2.Numbered := by
  refine hs.mono (Nat.le_refl _) ?_
  intro r p f hf
  rw [file?_deleteFile] at hf
  split at hf
  · cases hf
  · exact hf

theorem Numbered.recordSync {s : Store} (hs : s.Numbered) (repo : Nat)
    (revision : Option String) (t : Instant) : (s.recordSync repo revision t).Numbered := by
  refine hs.mono (Nat.le_refl _) ?_
  intro r p f hf
  rwa [file?_recordSync] at hf

theorem file?_insertRepo (s : Store) (repo : RepoId) (m : Remote.Metadata) (r : Nat)
    (p : String) : (s.insertRepo repo m).2.file? r p = s.file? r p := by
  unfold insertRepo
  split
  · rfl
  · unfold file? files entry?
    rw [List.find?_append]
    cases s.repos.find? fun e => e.row.id == r with
    | some e => rfl
    | none => by_cases h : s.nextRepo = r <;> simp [h]

theorem Numbered.insertRepo {s : Store} (hs : s.Numbered) (repo : RepoId)
    (m : Remote.Metadata) : (s.insertRepo repo m).2.Numbered := by
  have hnext : (s.insertRepo repo m).2.nextFile = s.nextFile := by
    unfold Store.insertRepo
    split <;> rfl
  refine hs.mono (Nat.le_of_eq hnext.symm) ?_
  intro r p f hf
  rwa [file?_insertRepo] at hf

/-! ## Times of syncs -/

/-- The times of all syncs can be read back. -/
def InTime (s : Store) : Prop :=
  ∀ e ∈ s.repos, ∀ t ∈ e.row.lastSyncedAt, t.isReadable = true

theorem InTime.modify {s : Store} (hs : s.InTime) (repo : Nat) {f : RepoEntry → RepoEntry}
    (hf : ∀ e, ∀ t ∈ (f e).row.lastSyncedAt, t ∈ e.row.lastSyncedAt ∨ t.isReadable = true) :
    (s.modify repo f).InTime := by
  intro e he t ht
  obtain ⟨e₀, he₀, rfl⟩ := List.mem_map.mp he
  split at ht
  · cases hf e₀ t ht with
    | inl hold => exact hs e₀ he₀ t hold
    | inr hnew => exact hnew
  · exact hs e₀ he₀ t ht

theorem InTime.insertRepo {s : Store} (hs : s.InTime) (repo : RepoId) (m : Remote.Metadata) :
    (s.insertRepo repo m).2.InTime := by
  unfold Store.insertRepo
  split
  · exact hs
  · intro e he
    cases List.mem_append.mp he with
    | inl hold => exact hs e hold
    | inr hnew =>
      rw [List.mem_singleton] at hnew
      subst hnew
      intro t ht
      cases ht

theorem readRepo_eq {r : RepoRow} (h : ∀ t ∈ r.lastSyncedAt, t.isReadable = true) :
    readRepo r = .ok r := by
  unfold readRepo
  cases ht : r.lastSyncedAt with
  | none => rfl
  | some t => simp [h t ht]

theorem mapM_readRepo {rows : List RepoRow}
    (h : ∀ r ∈ rows, ∀ t ∈ r.lastSyncedAt, t.isReadable = true) :
    rows.mapM readRepo = .ok rows := by
  induction rows with
  | nil => rfl
  | cons r rows ih =>
    rw [List.mapM_cons, readRepo_eq (h r List.mem_cons_self),
      ih fun x hx => h x (List.mem_cons_of_mem _ hx)]
    rfl

theorem readable_of_readRepo {r r' : RepoRow} (h : readRepo r = .ok r') :
    ∀ t ∈ r.lastSyncedAt, t.isReadable = true := by
  intro t ht
  cases hread : t.isReadable with
  | true => rfl
  | false => simp [readRepo, Option.mem_def.mp ht, hread] at h

/-- Rows that can all be read. -/
theorem readable_of_mapM_readRepo {rows rows' : List RepoRow}
    (h : rows.mapM readRepo = .ok rows') :
    ∀ r ∈ rows, ∀ t ∈ r.lastSyncedAt, t.isReadable = true := by
  induction rows generalizing rows' with
  | nil => exact fun _ hr => nomatch hr
  | cons r rows ih =>
    rw [List.mapM_cons] at h
    cases hr : readRepo r with
    | error e => simp [hr, bind, Except.bind] at h
    | ok r' =>
      cases hrest : rows.mapM readRepo with
      | error e => simp [hr, hrest, bind, Except.bind] at h
      | ok rest => exact List.forall_mem_cons.mpr ⟨readable_of_readRepo hr, ih hrest⟩

/-! ## The invariant -/

structure Sound (s : Store) : Prop where
  keys : s.WellFormed
  numbers : s.Numbered
  rows : s.AllRows FileRow.Measured
  times : s.InTime

theorem Sound.empty : Sound {} where
  keys := ⟨List.nodup_nil, List.nodup_nil, (fun _ he => nomatch he), (fun _ he => nomatch he)⟩
  numbers := ⟨(fun hf => nomatch hf), (fun hf => nomatch hf)⟩
  rows := fun _ he => nomatch he
  times := fun _ he => nomatch he

theorem Sound.of_repos {s t : Store} (hs : s.Sound) (h : t.repos = s.repos)
    (hrepo : t.nextRepo = s.nextRepo) (hfile : t.nextFile = s.nextFile) : t.Sound where
  keys := hs.keys.of_repos h hrepo
  numbers := hs.numbers.of_repos h hfile
  rows := fun e he => hs.rows e (h ▸ he)
  times := fun e he => hs.times e (h ▸ he)

theorem Sound.writeFile {s : Store} (hs : s.Sound) (repo : Nat) (x : FileWrite) (now : Instant)
    (force : Bool) : (s.writeFile repo x now force).2.Sound := by
  have hnumbers := hs.numbers.writeFile repo x now force
  cases hw : s.writeFile repo x now force with
  | mk result t =>
    rw [hw] at hnumbers
    obtain ⟨-, -, -, rfl⟩ | ⟨-, ⟨-, -, rfl⟩ | ⟨e, id, next, -, -, rfl⟩⟩ := writeFile_cases hw
    · exact hs
    · exact hs
    · exact ⟨hs.keys.putRow repo _ next, hnumbers,
        hs.rows.putRow repo (x.row_measured id now) next,
        hs.times.modify repo fun _ _ ht => .inl ht⟩

/-- Every request keeps the invariant. -/
theorem Sound.run {s : Store} (hs : s.Sound) {o : Operation} (ho : o.inTime = true) :
    (o.run s).Sound := by
  cases o with
  | insertRepo repo m =>
    exact ⟨hs.keys.insertRepo repo m, hs.numbers.insertRepo repo m, hs.rows.insertRepo repo m,
      hs.times.insertRepo repo m⟩
  | recordSync repo revision time =>
    refine ⟨hs.keys.recordSync repo revision time, hs.numbers.recordSync repo revision time,
      hs.rows.modify repo fun _ he => he, hs.times.modify repo ?_⟩
    intro e t ht
    cases ht
    exact .inr ho
  | writeFile repo file now force => exact hs.writeFile repo file now force
  | deleteFile repo path =>
    exact ⟨hs.keys.deleteFile repo path, hs.numbers.deleteFile repo path,
      hs.rows.deleteFile repo path, hs.times.modify repo fun _ _ ht => .inl ht⟩
  | acquireLease key holder now expiresAt =>
    obtain ⟨hrepos, hnext⟩ := repos_acquireLease s key holder now expiresAt
    refine hs.of_repos hrepos hnext ?_
    show (s.acquireLease key holder now expiresAt).2.nextFile = s.nextFile
    unfold acquireLease
    split
    · rfl
    · split <;> rfl
  | renewLease key holder expiresAt => exact hs.of_repos rfl rfl rfl
  | releaseLease key holder => exact hs.of_repos rfl rfl rfl

theorem Sound.after {ops : List Operation} (hops : ∀ o ∈ ops, o.inTime = true) :
    (after ops).Sound := by
  unfold Store.after
  suffices h : ∀ s : Store, s.Sound → (ops.foldl Operation.run s).Sound from h _ Sound.empty
  induction ops with
  | nil => exact fun _ hs => hs
  | cons o ops ih =>
    intro s hs
    exact ih (fun x hx => hops x (List.mem_cons_of_mem _ hx)) _
      (hs.run (hops o List.mem_cons_self))

/-! ## What every write has -/

/-- What is written, if anything, has a property. -/
def Operation.Writes (P : FileWrite → Prop) : Operation → Prop
  | writeFile _ file _ _ => P file
  | _ => True

/-- If what is written gives rows with a property, every request keeps that all rows have it. -/
theorem AllRows.run {P : FileRow → Prop} {Q : FileWrite → Prop}
    (hrow : ∀ x, Q x → ∀ id now, P (x.row id now)) {s : Store} (hs : s.AllRows P) {o : Operation}
    (ho : o.Writes Q) : (o.run s).AllRows P := by
  cases o with
  | insertRepo repo m => exact hs.insertRepo repo m
  | recordSync repo revision time => exact hs.modify repo fun _ he => he
  | writeFile repo file now force =>
    show (s.writeFile repo file now force).2.AllRows P
    cases hw : s.writeFile repo file now force with
    | mk result t =>
      obtain ⟨-, -, -, rfl⟩ | ⟨-, ⟨-, -, rfl⟩ | ⟨e, id, next, -, -, rfl⟩⟩ := writeFile_cases hw
      · exact hs
      · exact hs
      · exact hs.putRow repo (hrow file ho id now) next
  | deleteFile repo path => exact hs.deleteFile repo path
  | acquireLease key holder now expiresAt =>
    intro e he
    exact hs e ((repos_acquireLease s key holder now expiresAt).1 ▸ he)
  | renewLease key holder expiresAt => exact hs
  | releaseLease key holder => exact hs

theorem AllRows.after {P : FileRow → Prop} {Q : FileWrite → Prop}
    (hrow : ∀ x, Q x → ∀ id now, P (x.row id now)) {ops : List Operation}
    (hops : ∀ o ∈ ops, o.Writes Q) : (after ops).AllRows P := by
  suffices h : ∀ s : Store, s.AllRows P → (ops.foldl Operation.run s).AllRows P from
    h {} fun _ he => nomatch he
  induction ops with
  | nil => exact fun _ hs => hs
  | cons o ops ih =>
    intro s hs
    exact ih (fun x hx => hops x (List.mem_cons_of_mem _ hx)) _
      (hs.run hrow (hops o List.mem_cons_self))

/-! ## What reading shows -/

section Reading

variable {s : Store} {id : Nat} {f : FileRow}

theorem mem_listFiles : f ∈ s.listFiles id ↔ f ∈ s.files id :=
  (List.mergeSort_perm _ _).mem_iff

theorem exists_entry_of_mem (hf : f ∈ s.listFiles id) :
    ∃ e, s.entry? id = some e ∧ f ∈ e.files := by
  rw [mem_listFiles] at hf
  unfold files at hf
  cases he : s.entry? id with
  | none => rw [he] at hf; cases hf
  | some e => rw [he] at hf; exact ⟨e, rfl, hf⟩

theorem Sound.file?_of_mem (hs : s.Sound) (hf : f ∈ s.listFiles id) :
    s.file? id f.path = some f := by
  obtain ⟨e, he, hmem⟩ := exists_entry_of_mem hf
  unfold file? files
  rw [he]
  exact find?_key FileRow.path (hs.keys.paths e (List.mem_of_find?_eq_some he)) hmem

theorem Sound.measured (hs : s.Sound) (hf : f ∈ s.listFiles id) : f.Measured := by
  obtain ⟨e, he, hmem⟩ := exists_entry_of_mem hf
  exact hs.rows e (List.mem_of_find?_eq_some he) f hmem

theorem WellFormed.nodup_paths (hs : s.WellFormed) (id : Nat) :
    ((s.files id).map FileRow.path).Nodup := by
  unfold files
  cases he : s.entry? id with
  | none => exact List.nodup_nil
  | some e => exact hs.paths e (List.mem_of_find?_eq_some he)

theorem Sound.nodup_paths (hs : s.Sound) (id : Nat) :
    ((s.listFiles id).map FileRow.path).Nodup :=
  ((List.mergeSort_perm _ _).map _).nodup_iff.mpr (hs.keys.nodup_paths id)

/-- The symbols read for a path are those of the file at this path. -/
theorem exists_file_of_mem_symbolsIn {path : String} {y : Symbol}
    (hy : y ∈ s.symbolsIn id path) : ∃ f ∈ s.listFiles id, f.path = path ∧ y ∈ f.symbols := by
  unfold symbolsIn at hy
  cases hf : s.file? id path with
  | none => rw [hf] at hy; cases hy
  | some f =>
    rw [hf] at hy
    exact ⟨f, mem_listFiles.mpr (List.mem_of_find?_eq_some hf),
      by simpa using List.find?_some hf, (List.mergeSort_perm _ _).mem_iff.mp hy⟩

theorem Sound.length_symbolsIn (hs : s.Sound) (hf : f ∈ s.listFiles id) :
    (s.symbolsIn id f.path).length = f.symbols.length := by
  unfold symbolsIn
  rw [hs.file?_of_mem hf]
  exact (List.mergeSort_perm _ _).length_eq

/-- The rows of all repositories, by name. -/
def sortedRows (s : Store) : List RepoRow :=
  (s.repos.map RepoEntry.row).mergeSort fun a b => decide (a.fullName ≤ b.fullName)

theorem sortedRows_perm (s : Store) : s.sortedRows.Perm (s.repos.map RepoEntry.row) :=
  List.mergeSort_perm _ _

theorem InTime.listRepos_eq (hs : s.InTime) : s.listRepos = .ok s.sortedRows := by
  refine mapM_readRepo ?_
  intro r hr
  obtain ⟨e, he, rfl⟩ := List.mem_map.mp ((sortedRows_perm s).mem_iff.mp hr)
  exact hs e he

theorem inTime_of_listRepos {rows : List RepoRow} (h : s.listRepos = .ok rows) : s.InTime :=
  fun e he => readable_of_mapM_readRepo h e.row
    ((sortedRows_perm s).mem_iff.mpr (List.mem_map_of_mem he))

theorem Sound.listRepos_eq (hs : s.Sound) : s.listRepos = .ok s.sortedRows :=
  hs.times.listRepos_eq

theorem nodup_sortedRows {β : Type} (key : RepoRow → β)
    (h : (s.repos.map fun e => key e.row).Nodup) : (s.sortedRows.map key).Nodup := by
  refine ((sortedRows_perm s).map key).nodup_iff.mpr ?_
  rwa [List.map_map]

/-- A sum over the files that are listed for every repository is a sum over all files. -/
theorem Sound.total_files (hs : s.Sound) (size : FileRow → Nat) :
    total (s.sortedRows.map fun r => total ((s.listFiles r.id).map size)) =
      total (s.allFiles.map size) := by
  have hlist : ∀ e ∈ s.repos, total ((s.listFiles e.row.id).map size) =
      total (e.files.map size) := by
    intro e he
    have hentry : s.entry? e.row.id = some e :=
      find?_key (fun e : RepoEntry => e.row.id) hs.keys.ids he
    have hfiles : s.files e.row.id = e.files := by
      unfold files
      rw [hentry]
    have hperm : (s.listFiles e.row.id).Perm e.files := hfiles ▸ List.mergeSort_perm _ _
    exact total_perm (hperm.map size)
  calc total (s.sortedRows.map fun r => total ((s.listFiles r.id).map size))
      = total ((s.repos.map RepoEntry.row).map fun r => total ((s.listFiles r.id).map size)) :=
        total_perm ((sortedRows_perm s).map _)
    _ = total (s.repos.map fun e => total (e.files.map size)) := by
        rw [List.map_map]
        exact congrArg total (List.map_congr_left hlist)
    _ = total (s.allFiles.map size) := (total_flatMap RepoEntry.files size s.repos).symm

end Reading

/-- The sums of what the listings say, for these repositories. -/
def tally (s : Store) (rows : List RepoRow) : Stats where
  repos := rows.length
  files := total (rows.map fun r => (s.listFiles r.id).length)
  symbols := total (rows.map fun r =>
    total ((s.listFiles r.id).map fun f => (s.symbolsIn r.id f.path).length))
  tokens := total (rows.map fun r => total ((s.listFiles r.id).map FileRow.tokens))
  leases := s.leases.length

/-- The statistics are the sums of the listings. -/
theorem Sound.stats_eq {s : Store} (hs : s.Sound) : s.stats = s.tally s.sortedRows := by
  have hrepos : s.repos.length = s.sortedRows.length := by
    rw [(sortedRows_perm s).length_eq, List.length_map]
  have hfiles : s.allFiles.length =
      total (s.sortedRows.map fun r => (s.listFiles r.id).length) := by
    rw [← total_map_one, ← hs.total_files]
    simp only [total_map_one]
  have hsymbols : s.countSymbols = total (s.sortedRows.map fun r =>
      total ((s.listFiles r.id).map fun f => (s.symbolsIn r.id f.path).length)) := by
    unfold countSymbols
    rw [← hs.total_files]
    congr 1
    refine List.map_congr_left fun r _ => ?_
    congr 1
    exact List.map_congr_left fun f hf => (hs.length_symbolsIn hf).symm
  unfold stats tally
  rw [hrepos, hfiles, hsymbols, ← hs.total_files]

/-- What the store shows after any requests: its listings have keys, everything belongs to something
that is listed, what is derived from a text is derived from the one that is stored, and the
statistics are the sums of the listings. -/
theorem after_consistent (ops : List Operation) (hops : ∀ o ∈ ops, o.inTime = true) :
    ∃ rows, (after ops).listRepos = .ok rows ∧
      (rows.map RepoRow.fullName).Nodup ∧ (rows.map RepoRow.id).Nodup ∧
      (∀ id, (((after ops).listFiles id).map FileRow.path).Nodup) ∧
      (∀ id id' f f', f ∈ (after ops).listFiles id → f' ∈ (after ops).listFiles id' →
        f.id = f'.id → id = id' ∧ f.path = f'.path) ∧
      (∀ id f, f ∈ (after ops).listFiles id → f.Measured ∧ ∃ r ∈ rows, r.id = id) ∧
      (∀ id path y, y ∈ (after ops).symbolsIn id path →
        ∃ f ∈ (after ops).listFiles id, f.path = path ∧ y ∈ f.symbols) ∧
      (after ops).stats = (after ops).tally rows := by
  have hs := Sound.after hops
  refine ⟨_, hs.listRepos_eq, nodup_sortedRows _ hs.keys.names, nodup_sortedRows _ hs.keys.ids,
    hs.nodup_paths, ?_, ?_, fun _ _ _ => exists_file_of_mem_symbolsIn, hs.stats_eq⟩
  · intro id id' f f' hf hf'
    exact hs.numbers.distinct (hs.file?_of_mem hf) (hs.file?_of_mem hf')
  · intro id f hf
    obtain ⟨e, he, -⟩ := exists_entry_of_mem hf
    refine ⟨hs.measured hf, e.row, ?_, id_of_entry? he⟩
    exact (sortedRows_perm _).mem_iff.mpr
      (List.mem_map_of_mem (List.mem_of_find?_eq_some he))

/-- Two writes of one file that bring declarations from before it, past its end and back to front,
a write to a repository that is not there, and a lease that is refused. -/
def rewritten : List Operation :=
  [.insertRepo ⟨"octo", "widgets"⟩ {}, .insertRepo ⟨"octo", "gadgets"⟩ {},
    .writeFile 1 ⟨"a.py", "x = 1\ny = 2\n", "v1", "regex@1",
      [⟨"x", .function, 1, 2, none, none⟩, ⟨"y", .function, 2, 9, none, none⟩]⟩ ⟨0⟩ false,
    .writeFile 2 ⟨"a.py", "", "v0", "regex@1", []⟩ ⟨1⟩ false,
    .writeFile 7 ⟨"b.py", "", "v0", "regex@1", []⟩ ⟨1⟩ true,
    .writeFile 1 ⟨"a.py", "z = 3", "v2", "regex@1",
      [⟨"z", .function, 1, 1, none, none⟩, ⟨"w", .method, 0, 1, none, none⟩,
        ⟨"v", .classType, 2, 1, none, none⟩]⟩ ⟨2⟩ false,
    .acquireLease "octo/widgets" "h1" ⟨3⟩ ⟨90⟩, .acquireLease "octo/widgets" "h2" ⟨4⟩ ⟨90⟩,
    .writeFile 1 ⟨"c.py", "", "v0", "regex@1", []⟩ ⟨5⟩ true, .deleteFile 1 "c.py",
    .recordSync 1 (some "c2") ⟨6⟩]

theorem after_consistent_rewritten :
    (∀ o ∈ rewritten, o.inTime = true) ∧ (after rewritten).stats = ⟨2, 2, 1, 2, 1⟩ ∧
    ∃ rows, (after rewritten).listRepos = .ok rows ∧
      (∀ f ∈ (after rewritten).listFiles 1, f.Measured ∧ ∃ r ∈ rows, r.id = 1) ∧
      (after rewritten).tally rows = ⟨2, 2, 1, 2, 1⟩ := by
  have hops : ∀ o ∈ rewritten, o.inTime = true := by decide +kernel
  have hstats : (after rewritten).stats = ⟨2, 2, 1, 2, 1⟩ := by decide +kernel
  obtain ⟨rows, hrows, -, -, -, -, hfiles, -, htally⟩ := after_consistent rewritten hops
  exact ⟨hops, hstats, rows, hrows, hfiles 1, htally.symm.trans hstats⟩

end Store

end ContextIndex
