import Mathlib
import ContextIndex.Proofs.Extract.Settled
import ContextIndex.Proofs.Store.Integrity

/-!
# Writing a file

A write is conditional and replaces a file as a whole.  It does nothing for a file that is current,
unless it is forced, and nothing but an error for a repository that is not stored.  Else the row at
its path is the new one, under the number of the old one if there was one, and its symbols are the
declarations that lie in the text, in the order of their first lines (`InOrderOf`).  Nothing else in
the store is touched (`SameBut`).  `writeFile_replaces` puts this together for every store that
requests can leave.
-/

namespace ContextIndex

namespace Store

/-! ## Requests and keys -/

/-- Every request keeps that no two files have one number. -/
theorem Numbered.run {s : Store} (hs : s.Numbered) (o : Operation) : (o.run s).Numbered := by
  cases o with
  | insertRepo repo m => exact hs.insertRepo repo m
  | recordSync repo revision time => exact hs.recordSync repo revision time
  | writeFile repo file now force => exact hs.writeFile repo file now force
  | deleteFile repo path => exact hs.deleteFile repo path
  | acquireLease key holder now expiresAt =>
    refine hs.of_repos (repos_acquireLease s key holder now expiresAt).1 ?_
    show (s.acquireLease key holder now expiresAt).2.nextFile = s.nextFile
    unfold acquireLease
    split
    · rfl
    · split <;> rfl
  | renewLease key holder expiresAt => exact hs.of_repos rfl rfl
  | releaseLease key holder => exact hs.of_repos rfl rfl

theorem Numbered.after (ops : List Operation) : (after ops).Numbered := by
  suffices h : ∀ s : Store, s.Numbered → (ops.foldl Operation.run s).Numbered from
    h {} Sound.empty.numbers
  induction ops with
  | nil => exact fun _ hs => hs
  | cons o ops ih => exact fun s hs => ih _ (hs.run o)

/-- Every request keeps that numbers, names and paths are distinct. -/
theorem WellFormed.run {s : Store} (hs : s.WellFormed) (o : Operation) : (o.run s).WellFormed := by
  cases o with
  | insertRepo repo m => exact hs.insertRepo repo m
  | recordSync repo revision time => exact hs.recordSync repo revision time
  | writeFile repo file now force =>
    show (s.writeFile repo file now force).2.WellFormed
    cases hw : s.writeFile repo file now force with
    | mk result t =>
      obtain ⟨-, -, -, rfl⟩ | ⟨-, ⟨-, -, rfl⟩ | ⟨e, id, next, -, -, rfl⟩⟩ := writeFile_cases hw
      · exact hs
      · exact hs
      · exact hs.putRow repo _ next
  | deleteFile repo path => exact hs.deleteFile repo path
  | acquireLease key holder now expiresAt =>
    obtain ⟨hrepos, hnext⟩ := repos_acquireLease s key holder now expiresAt
    exact hs.of_repos hrepos hnext
  | renewLease key holder expiresAt => exact hs.of_repos rfl rfl
  | releaseLease key holder => exact hs.of_repos rfl rfl

theorem WellFormed.after (ops : List Operation) : (after ops).WellFormed := by
  suffices h : ∀ s : Store, s.WellFormed → (ops.foldl Operation.run s).WellFormed from
    h {} Sound.empty.keys
  induction ops with
  | nil => exact fun _ hs => hs
  | cons o ops ih => exact fun s hs => ih _ (hs.run o)

/-! ## Everything else -/

/-- Stores that are alike but for the file at one path of a repository and for the number of the
next file. -/
structure SameBut (repo : Nat) (path : String) (s s' : Store) : Prop where
  repos : s'.repos.map RepoEntry.row = s.repos.map RepoEntry.row
  files : ∀ r, ((s'.files r).filter fun f => !(r == repo && f.path == path)) =
    (s.files r).filter fun f => !(r == repo && f.path == path)
  leases : s'.leases = s.leases
  nextRepo : s'.nextRepo = s.nextRepo

theorem SameBut.refl (repo : Nat) (path : String) (s : Store) : SameBut repo path s s :=
  ⟨rfl, fun _ => rfl, rfl, rfl⟩

/-- Every other file is found as it was, with its symbols. -/
theorem SameBut.file?_eq {repo r : Nat} {path p : String} {s s' : Store}
    (h : SameBut repo path s s') (hne : ¬(r = repo ∧ p = path)) : s'.file? r p = s.file? r p := by
  have hfind (fs : List FileRow) : ((fs.filter fun f => !(r == repo && f.path == path)).find?
      fun f => f.path == p) = fs.find? fun f => f.path == p := by
    rw [List.find?_filter]
    congr 1
    funext f
    by_cases hp : f.path = p
    · simpa [hp] using Decidable.not_and_iff_or_not.mp hne
    · simp [hp]
  unfold file?
  rw [← hfind (s'.files r), h.files r, hfind]

theorem filter_putFile (row : FileRow) (fs : List FileRow) :
    ((putFile row fs).filter fun f => !(f.path == row.path)) =
      fs.filter fun f => !(f.path == row.path) := by
  induction fs with
  | nil => simp [putFile]
  | cons f fs ih =>
    by_cases hf : f.path = row.path
    · simp [putFile, hf]
    · simp [putFile, hf, ih]

theorem files_modify (s : Store) (repo r : Nat) {f : RepoEntry → RepoEntry}
    (hf : KeepsIdentity f) :
    (s.modify repo f).files r =
      if r = repo then ((s.entry? r).map fun e => (f e).files).getD [] else s.files r := by
  unfold files
  rw [entry?_modify s repo r hf]
  cases he : s.entry? r with
  | none => simp
  | some e =>
    have hid := id_of_entry? he
    by_cases h : r = repo
    · simp [hid, h]
    · simp [hid, h]

/-- A row that is put leaves everything else alone. -/
theorem sameBut_putRow (s : Store) (repo : Nat) (row : FileRow) (next : Nat) :
    SameBut repo row.path s (s.putRow repo row next) where
  repos := by
    show ((s.modify repo fun e => { e with files := putFile row e.files }).repos.map
      RepoEntry.row) = _
    unfold modify
    rw [List.map_map]
    refine List.map_congr_left fun e _ => ?_
    simp only [Function.comp]
    split <;> rfl
  files r := by
    show ((s.modify repo fun e => { e with files := putFile row e.files }).files r).filter _ = _
    rw [files_modify s repo r (keepsIdentity_put row)]
    by_cases hr : r = repo
    · subst hr
      rw [if_pos rfl]
      unfold files
      cases s.entry? r with
      | none => rfl
      | some e => simpa using filter_putFile row e.files
    · rw [if_neg hr]
  leases := rfl
  nextRepo := rfl

/-! ## The row that is written -/

/-- What the store says of a file is what was written, and what follows from its path and text. -/
structure Describes (f : FileRow) (x : FileWrite) (now : Instant) : Prop where
  path : f.path = x.path
  content : f.content = x.content
  contentId : f.contentId = x.contentId
  extractor : f.extractor = x.extractor
  language : f.language = Language.ofPath x.path
  lineCount : f.lineCount = Text.countLines x.content.toList
  tokens : f.tokens = Token.estimate x.content.toList
  updatedAt : f.updatedAt = now

theorem describes_row (x : FileWrite) (id : Nat) (now : Instant) :
    Describes (x.row id now) x now :=
  ⟨rfl, rfl, rfl, rfl, rfl, rfl, Token.cost_eq_estimate x.content, rfl⟩

/-- The number of a file that is written: that of the file it replaces, or one that no file has. -/
structure NumberedFor (s : Store) (repo : Nat) (path : String) (id : Nat) : Prop where
  kept : ∀ f, s.file? repo path = some f → id = f.id
  fresh : s.file? repo path = none → ∀ r p f, s.file? r p = some f → f.id ≠ id

/-- What a write that is carried out makes of a store. -/
structure Replaces (s : Store) (repo : Nat) (x : FileWrite) (now : Instant) (s' : Store) :
    Prop where
  row : ∃ f, s'.file? repo x.path = some f ∧ Describes f x now ∧
    NumberedFor s repo x.path f.id
  symbols : InOrderOf Symbol.first
    ((x.symbols.filter fun d => 1 ≤ d.first ∧ d.first ≤ d.last ∧
      d.last ≤ Text.countLines x.content.toList).map (symbolOf x.content.toList))
    (s'.symbolsIn repo x.path)
  others : SameBut repo x.path s s'

theorem rows_eq (x : FileWrite) :
    x.rows = (x.symbols.filter fun d => 1 ≤ d.first ∧ d.first ≤ d.last ∧
      d.last ≤ Text.countLines x.content.toList).map (symbolOf x.content.toList) := by
  unfold FileWrite.rows
  congr 2
  funext d
  rw [Bool.eq_iff_iff]
  simp only [inRange, Bool.and_eq_true, decide_eq_true_eq, and_assoc]
  rfl

theorem replaces_putRow {s : Store} {repo id : Nat} {e : RepoEntry} (x : FileWrite)
    (now : Instant) (next : Nat) (he : s.entry? repo = some e)
    (hid : NumberedFor s repo x.path id) :
    Replaces s repo x now (s.putRow repo (x.row id now) next) := by
  have hrow : (s.putRow repo (x.row id now) next).file? repo x.path = some (x.row id now) := by
    rw [file?_putRow he, if_pos ⟨rfl, rfl⟩]
  refine ⟨⟨x.row id now, hrow, describes_row x id now, hid⟩, ?_,
    sameBut_putRow s repo (x.row id now) next⟩
  unfold symbolsIn
  rw [hrow, ← rows_eq]
  exact inOrderOf_mergeSort Symbol.first x.rows

/-- A write that is carried out puts its row under the right number. -/
theorem exists_putRow {s : Store} (hs : s.Numbered) {repo : Nat} {e : RepoEntry} (x : FileWrite)
    (now : Instant) {force : Bool} (he : s.entry? repo = some e)
    (hneed : (!force && s.isCurrent repo x.path x.contentId x.extractor) = false) :
    ∃ id next, NumberedFor s repo x.path id ∧ s.writeFile repo x now force =
      (.ok (.written x.rows.length), s.putRow repo (x.row id now) next) := by
  unfold writeFile
  rw [hneed, he]
  cases hold : s.file? repo x.path with
  | some g =>
    refine ⟨g.id, s.nextFile, ⟨fun f hf => ?_, fun hnone => ?_⟩, rfl⟩
    · cases hold.symm.trans hf
      rfl
    · cases hold.symm.trans hnone
  | none =>
    refine ⟨s.nextFile, s.nextFile + 1, ⟨fun f hf => ?_, fun _ r p f hf => ?_⟩, rfl⟩
    · cases hold.symm.trans hf
    · exact Nat.ne_of_lt (hs.below hf)

theorem isCurrent_iff {s : Store} {repo : Nat} {path contentId extractor : String} :
    s.isCurrent repo path contentId extractor = true ↔
      ∃ f, s.file? repo path = some f ∧ f.contentId = contentId ∧ f.extractor = extractor := by
  unfold isCurrent FileRow.derivesFrom
  simp [Option.any_eq_true]

theorem not_isCurrent_of_not_hasRepo {s : Store} {repo : Nat} (h : ¬s.HasRepo repo)
    (path contentId extractor : String) :
    s.isCurrent repo path contentId extractor = false := by
  have hnone : s.entry? repo = none := by
    cases he : s.entry? repo with
    | none => rfl
    | some e => exact absurd ⟨e, he⟩ h
  unfold isCurrent file? files
  rw [hnone]
  rfl

/-- A file that is current is not written unless the write is forced. -/
theorem writeFile_of_isCurrent {s : Store} {repo : Nat} {x : FileWrite}
    (h : s.isCurrent repo x.path x.contentId x.extractor = true) (now : Instant) :
    s.writeFile repo x now false = (.ok .unchanged, s) := by
  unfold writeFile
  rw [h]
  rfl

theorem Replaces.isCurrent {s s' : Store} {repo : Nat} {x : FileWrite} {now : Instant}
    (h : Replaces s repo x now s') :
    s'.isCurrent repo x.path x.contentId x.extractor = true := by
  obtain ⟨f, hf, hdescribes, -⟩ := h.row
  exact isCurrent_iff.mpr ⟨f, hf, hdescribes.contentId, hdescribes.extractor⟩

/-- A write fails without its repository, finds the file current or replaces it as a whole, and it
is the first or the second of these that leaves the store exactly as it was.  Whenever it does not
fail, writing the file once more changes nothing. -/
theorem writeFile_replaces (ops : List Operation) {s : Store} (hs : s = after ops) (repo : Nat)
    (x : FileWrite) (now : Instant) (force : Bool) {result : Except Error Written} {s' : Store}
    (h : s.writeFile repo x now force = (result, s')) :
    (¬s.HasRepo repo → result = .error (.storage .unknownRepo) ∧ s' = s) ∧
    (result = .ok .unchanged ↔ force = false ∧
      s.isCurrent repo x.path x.contentId x.extractor = true) ∧
    (s.isCurrent repo x.path x.contentId x.extractor = true ↔ ∃ f,
      s.file? repo x.path = some f ∧ f.contentId = x.contentId ∧ f.extractor = x.extractor) ∧
    (result = .ok .unchanged → s' = s) ∧
    (s.HasRepo repo → result ≠ .ok .unchanged →
      result = .ok (.written (s'.symbolsIn repo x.path).length) ∧ Replaces s repo x now s') ∧
    (s.HasRepo repo → ∀ later, s'.writeFile repo x later false = (.ok .unchanged, s')) := by
  have hnumbered : s.Numbered := hs ▸ Numbered.after ops
  by_cases hcurrent : force = false ∧ s.isCurrent repo x.path x.contentId x.extractor = true
  · obtain ⟨rfl, hcur⟩ := hcurrent
    rw [writeFile_of_isCurrent hcur] at h
    cases h
    refine ⟨fun hnone => ?_, by simp [hcur], isCurrent_iff, fun _ => rfl,
      fun _ hne => absurd rfl hne, fun _ later => writeFile_of_isCurrent hcur later⟩
    rw [not_isCurrent_of_not_hasRepo hnone] at hcur
    cases hcur
  · have hneed : (!force && s.isCurrent repo x.path x.contentId x.extractor) = false := by
      rw [Bool.eq_false_iff]
      intro hboth
      rw [Bool.and_eq_true, Bool.not_eq_true'] at hboth
      exact hcurrent hboth
    cases he : s.entry? repo with
    | none =>
      have hnone : ¬s.HasRepo repo := fun ⟨e, h⟩ => by cases he.symm.trans h
      have hfails : s.writeFile repo x now force = (.error (.storage .unknownRepo), s) := by
        unfold writeFile
        rw [hneed, he]
        rfl
      cases h.symm.trans hfails
      exact ⟨fun _ => ⟨rfl, rfl⟩, ⟨nofun, fun h => absurd h hcurrent⟩, isCurrent_iff,
        fun _ => rfl, fun hstored => absurd hstored hnone, fun hstored => absurd hstored hnone⟩
    | some e =>
      obtain ⟨id, next, hid, hput⟩ := exists_putRow hnumbered x now he hneed
      cases h.symm.trans hput
      have hreplaces := replaces_putRow x now next he hid
      have hcount : x.rows.length =
          ((s.putRow repo (x.row id now) next).symbolsIn repo x.path).length := by
        rw [hreplaces.symbols.perm.length_eq, ← rows_eq]
      refine ⟨fun hnone => absurd ⟨e, he⟩ hnone, ⟨nofun, fun h => absurd h hcurrent⟩,
        isCurrent_iff, nofun, fun _ _ => ⟨by rw [hcount], hreplaces⟩,
        fun _ later => writeFile_of_isCurrent hreplaces.isCurrent later⟩

/-- Two files, of which one has a symbol. -/
def beforeRewrite : List Operation :=
  [.insertRepo ⟨"octo", "widgets"⟩ {},
    .writeFile 1 ⟨"b.py", "y = 1\n", "v1", "regex@1", []⟩ ⟨0⟩ false,
    .writeFile 1 ⟨"a.py", "old = 1\n", "v1", "regex@1",
      [⟨"old", .function, 1, 1, none, none⟩]⟩ ⟨1⟩ false]

/-- Another text for the second one.  Its declarations come in no order, two start on one line, and
two do not lie in the text. -/
def rewrite : FileWrite :=
  ⟨"a.py", "one = 1\ntwo = 2", "v2", "regex@1",
    [⟨"two", .function, 2, 2, none, none⟩, ⟨"first", .function, 1, 2, none, none⟩,
      ⟨"early", .function, 0, 1, none, none⟩, ⟨"one", .function, 1, 1, none, none⟩,
      ⟨"late", .function, 2, 3, none, none⟩]⟩

theorem writeFile_replaces_symbols :
    ∃ s', (after beforeRewrite).writeFile 1 rewrite ⟨2⟩ false = (.ok (.written 3), s') ∧
      Replaces (after beforeRewrite) 1 rewrite ⟨2⟩ s' ∧
      (s'.symbolsIn 1 "a.py").map Symbol.name = ["first", "one", "two"] ∧
      s'.writeFile 1 rewrite ⟨3⟩ false = (.ok .unchanged, s') := by
  have hnames : (((after beforeRewrite).writeFile 1 rewrite ⟨2⟩ false).2.symbolsIn 1 "a.py").map
      Symbol.name = ["first", "one", "two"] := by cbv
  have hstale : (after beforeRewrite).isCurrent 1 "a.py" "v2" "regex@1" = false := by
    decide +kernel
  have hstored : (after beforeRewrite).HasRepo 1 :=
    Option.isSome_iff_exists.mp (by decide +kernel)
  cases h : (after beforeRewrite).writeFile 1 rewrite ⟨2⟩ false with
  | mk result s' =>
    rw [h] at hnames
    obtain ⟨-, hunchanged, -, -, hwritten, hagain⟩ :=
      writeFile_replaces beforeRewrite rfl 1 rewrite ⟨2⟩ false h
    have hneeded : result ≠ .ok .unchanged := fun hr =>
      Bool.false_ne_true (hstale.symm.trans (hunchanged.mp hr).2)
    obtain ⟨rfl, hreplaces⟩ := hwritten hstored hneeded
    have hcount : (s'.symbolsIn 1 rewrite.path).length = 3 :=
      (List.length_map Symbol.name).symm.trans (congrArg List.length hnames)
    rw [hcount]
    exact ⟨s', rfl, hreplaces, hnames, hagain hstored ⟨3⟩⟩

end Store

end ContextIndex
