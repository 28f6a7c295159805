import ContextIndex.Proofs.Sync.Archive
import ContextIndex.Proofs.Sync.Repeated
import ContextIndex.Proofs.Sync.Undisturbed

/-!
# What a sync leaves alone

A sync writes under the number of its repository, and takes and notes things under its name.  For
any other name the store has the same entry, numbers and times included, and the same lease, and the
status says the same (`Elsewhere`).  `elsewhere_fullSyncIn` and `elsewhere_partialSyncIn` say so of
whole syncs, in whatever order their files are indexed and whatever fails.
-/

namespace ContextIndex

namespace Store

/-- A store in order, and what it has under a name. -/
structure Finds (s : Store) (key : String) (e? : Option RepoEntry) : Prop where
  wellFormed : s.WellFormed
  entry : s.entryNamed? key = e?

section Finds

variable {s t : Store} {key : String} {e? : Option RepoEntry}

theorem Finds.of_repos (h : s.Finds key e?) (hrepos : t.repos = s.repos)
    (hnext : t.nextRepo = s.nextRepo) : t.Finds key e? :=
  ⟨h.wellFormed.of_repos hrepos hnext, (entryNamed?_of_repos hrepos key).trans h.entry⟩

/-- A change to a repository of another number changes nothing here. -/
theorem Finds.modify (h : s.Finds key e?) {r : Nat} (hr : ∀ e ∈ e?, e.row.id ≠ r)
    {f : RepoEntry → RepoEntry} (hf : KeepsIdentity f) (hs : (s.modify r f).WellFormed) :
    (s.modify r f).Finds key e? := by
  refine ⟨hs, ?_⟩
  rw [entryNamed?_modify s r key hf, h.entry]
  cases e? with
  | none => rfl
  | some e => exact congrArg some (if_neg (hr e rfl))

theorem Finds.putRow (h : s.Finds key e?) {r : Nat} (hr : ∀ e ∈ e?, e.row.id ≠ r) (row : FileRow)
    (next : Nat) : (s.putRow r row next).Finds key e? :=
  ⟨h.wellFormed.putRow r row next, (h.modify hr (keepsIdentity_put row)
    (h.wellFormed.modify r (keepsIdentity_put row) fun _ he => nodup_path_putFile he)).entry⟩

theorem Finds.insertRepo (h : s.Finds key e?) {repo : RepoId} (hne : key ≠ repo.fullName)
    (m : Remote.Metadata) : (s.insertRepo repo m).2.Finds key e? := by
  refine ⟨h.wellFormed.insertRepo repo m, ?_⟩
  rw [← h.entry]
  unfold Store.insertRepo
  split
  · rfl
  · have hother : ¬repo.fullName = key := Ne.symm hne
    exact (entryNamed?_append s key _ _).trans ((congrArg _ (if_neg hother)).trans Option.or_none)

end Finds

/-- Giving up the lease of one repository leaves those of the others. -/
theorem lease?_releaseLease_of_ne {key name : String} (h : key ≠ name) (s : Store)
    (holder : String) : (s.releaseLease name holder).lease? key = s.lease? key := by
  unfold lease? releaseLease
  rw [List.find?_filter]
  congr 1
  funext l
  by_cases hl : l.key = key
  · simp [hl, h]
  · simp [hl]

end Store

namespace Sync

open ContextIndex.Store (Finds)

variable {σ : Type} {c : Setup σ} {key name : String} {e? : Option RepoEntry} {w w' w'' : World σ}

/-- What is under a name stays as it is: the entry that the store has, the lease and the status.
The host stays what questions keep it. -/
structure Elsewhere (c : Setup σ) (key : String) (e? : Option RepoEntry) (w w' : World σ) :
    Prop where
  finds : w.store.Finds key e? → w'.store.Finds key e?
  lease : w'.store.lease? key = w.store.lease? key
  progress : w'.status.get key = w.status.get key
  now : w'.now = w.now
  host : ∀ Valid : σ → Prop, c.service.Keeps Valid → Valid w.host → Valid w'.host

theorem Elsewhere.refl (w : World σ) : Elsewhere c key e? w w :=
  ⟨fun h => h, rfl, rfl, rfl, fun _ _ h => h⟩

theorem Elsewhere.trans (h : Elsewhere c key e? w w') (h' : Elsewhere c key e? w' w'') :
    Elsewhere c key e? w w'' where
  finds hw := h'.finds (h.finds hw)
  lease := h'.lease.trans h.lease
  progress := h'.progress.trans h.progress
  now := h'.now.trans h.now
  host Valid hkeep hv := h'.host Valid hkeep (h.host Valid hkeep hv)

theorem Elsewhere.of_store {s : Store} (hfinds : s.Finds key e?)
    (hlease : s.lease? key = w.store.lease? key) : Elsewhere c key e? w { w with store := s } :=
  ⟨fun _ => hfinds, hlease, rfl, rfl, fun _ _ h => h⟩

theorem Elsewhere.of_update (hne : key ≠ name) (f : Progress → Progress) :
    Elsewhere c key e? w (w.withStatus fun r => r.update name f) :=
  ⟨fun h => h, rfl, get_update_ne hne w.status f, rfl, fun _ _ h => h⟩

/-- A row of this name, with another number than what is under the other one. -/
def Apart (name : String) (e? : Option RepoEntry) (row : RepoRow) : Prop :=
  row.fullName = name ∧ ∀ e ∈ e?, e.row.id ≠ row.id

theorem apart_of_entryNamed? (hne : key ≠ name) {s : Store} (hs : s.Finds key e?)
    {e : RepoEntry} (he : s.entryNamed? name = some e) : Apart name e? e.row := by
  refine ⟨fullName_of_entryNamed? he, fun other hother hid => hne ?_⟩
  have hfound : s.entryNamed? key = some other := hs.entry.trans hother
  have hentry := Store.entry?_of_entryNamed? hs.wellFormed hfound
  rw [hid, Store.entry?_of_entryNamed? hs.wellFormed he] at hentry
  cases hentry
  exact (fullName_of_entryNamed? hfound).symm.trans (fullName_of_entryNamed? he)

/-- All that a sync does before its end leaves the other names alone. -/
theorem Elsewhere.effects (hne : key ≠ name) :
    Effects c name (fun w => w.store.Finds key e?) (Apart name e?) (Elsewhere c key e?) where
  refl := .refl
  host h := ⟨fun hw => hw, rfl, rfl, rfl, fun Valid hkeep hv => h Valid hkeep hv⟩
  take {w} _ := by
    have hhost := host_takeLease w name c.label c.options.leaseTime
    have hstatus := Script.status_takeLease w name c.label c.options.leaseTime
    have hnow := now_takeLease w name c.label c.options.leaseTime
    refine ⟨fun hw => ?_, ?_, by rw [hstatus], hnow,
      fun Valid _ hv => hhost ▸ hv⟩
    · unfold takeLease
      split
      · exact hw
      · obtain ⟨hrepos, hnext⟩ := Store.repos_acquireLease w.store name
          (holderName c.label w.serial) w.now (w.now.plus c.options.leaseTime)
        exact hw.of_repos hrepos hnext
    rcases htake : takeLease w name c.label c.options.leaseTime with ⟨taken, w'⟩
    rcases Archive.takeLease_cases htake with ⟨hstore, -⟩ | ⟨-, -, hleases⟩
    · rw [hstore]
    · rw [hleases, if_neg hne]
  drop holder hw :=
    .of_store (hw.of_repos rfl rfl) (Store.lease?_releaseLease_of_ne hne _ holder)
  begin _ := .of_update hne _
  setTotal _ := .of_update hne _
  fileDone := .of_update hne _
  named hrow := hrow.1
  stored hw hname hget := by
    obtain ⟨e, he, rfl⟩ := entry_of_getRepo hget
    exact apart_of_entryNamed? hne hw (hname ▸ he)
  insert {w repo} m hw hname := by
    have hinsert := hw.insertRepo (hname ▸ hne) m
    refine ⟨.of_store hinsert ?_, fun row hrow => ?_⟩
    · unfold Store.insertRepo
      split <;> rfl
    · obtain ⟨e, he, rfl⟩ := entry_of_insertRepo hrow
      exact apart_of_entryNamed? hne hinsert (hname ▸ he)
  record revision hw hrow :=
    .of_store (hw.modify hrow.2 (Store.keepsIdentity_record revision _)
      (hw.wellFormed.recordSync _ revision _)) rfl
  delete path hw hrow :=
    .of_store (hw.modify hrow.2 (Store.keepsIdentity_delete path)
      (hw.wellFormed.deleteFile _ path)) rfl

theorem Elsewhere.ends (hne : key ≠ name) : Ends name (Elsewhere c key e?) where
  finish _ _ := .of_update hne _
  fail _ _ := .of_update hne _
  clearQueued := .of_update hne _

/-- What a worker of a run does leaves the other names alone. -/
theorem Worker.Acts.elsewhere {run : Run} (hrun : Apart name e? run.repo) {x : Worker} {turn : Turn}
    (hw : w.store.Finds key e?) (h : x.Acts c run w turn w') : Elsewhere c key e? w w' := by
  have hhost (Valid : σ → Prop) (hkeep : c.service.Keeps Valid) (hv : Valid w.host) :=
    h.host hkeep hv
  cases h with
  | skip => exact .refl w
  | begin => exact .refl w
  | miss e host => exact ⟨fun hw => hw, rfl, rfl, rfl, hhost⟩
  | get file host => exact ⟨fun hw => hw, rfl, rfl, rfl, hhost⟩
  | write file result w' hstage hwrite =>
    rcases writeFetched_cases c hwrite with
      ⟨-, -, -, rfl⟩ | ⟨-, ⟨-, -, rfl⟩ | ⟨e, i, next, -, -, rfl⟩⟩
    · exact .refl _
    · exact .refl _
    · exact .of_store (hw.putRow hrun.2 _ next) rfl

theorem elsewhere_of_turn {run : Run} (hrun : Apart name e? run.repo) {k k' : Crew σ}
    (hk : k.world.store.Finds key e?) (h : k.Steps c run k') :
    Elsewhere c key e? k.world k'.world := by
  cases h with
  | idle => exact .refl _
  | on before after x stage w hworkers hpermit hacts => exact hacts.elsewhere hrun hk
  | ended before after x result w hworkers hacts => exact hacts.elsewhere hrun hk

/-! ## Whole syncs -/

/-- A script whose calls leave a name alone does so in all its runs. -/
theorem Script.Within.elsewhere {α : Type} {P : α → Prop} {s s' : Script σ α}
    (hs : s.Within (fun w => w.store.Finds key e?) (Elsewhere c key e?)
      (fun run => Apart name e? run.repo) P)
    (hw : w.store.Finds key e?) (h : Alone c (s, w) (s', w')) : Elsewhere c key e? w w' := by
  suffices hall : ∀ x, Alone c (s, w) x → x.1.Within (fun w => w.store.Finds key e?)
      (Elsewhere c key e?) (fun run => Apart name e? run.repo) P ∧ Elsewhere c key e? w x.2 from
    (hall _ h).2
  intro x hx
  induction hx with
  | refl => exact ⟨hs, .refl w⟩
  | @tail x y _ hstep ih =>
    obtain ⟨hwithin, hkept⟩ := ih
    rcases hstep with hstep | ⟨time, -, rfl⟩
    · obtain ⟨hnext, hchange⟩ := hwithin.step (hkept.finds hw) .refl
        (fun hrun hk h => elsewhere_of_turn hrun hk h) hstep
      exact ⟨hnext, hkept.trans hchange⟩
    · exact ⟨hwithin, hkept.trans ⟨fun h => h, rfl, rfl, rfl, fun _ _ h => h⟩⟩

/-- A full sync leaves the other names alone. -/
theorem elsewhere_fullSyncIn {repo : RepoId} {force : Bool} {order : List Nat}
    {r : Except Error Outcome} (hw : w.store.WellFormed) (hne : key ≠ repo.fullName)
    (h : fullSyncIn c order repo force w = some (r, w')) :
    Elsewhere c key (w.store.entryNamed? key) w w' := by
  have heffects : Effects c repo.fullName
      (fun u => u.store.Finds key (w.store.entryNamed? key)) _ _ :=
    Elsewhere.effects hne
  have hfull := Script.within_full heffects (Elsewhere.ends hne) rfl force
  have hmap := hfull.bind (Q := fun _ => True) (k := fun a => .ended a.result) fun _ _ => trivial
  exact hmap.elsewhere ⟨hw, rfl⟩ (Script.steps_fullSyncIn c h).alone

theorem elsewhere_fullSync (repo : RepoId) (force : Bool) (hw : w.store.WellFormed)
    (hne : key ≠ repo.fullName) :
    Elsewhere c key (w.store.entryNamed? key) w (fullSync c repo force w).2 := by
  obtain ⟨order, h⟩ := fullSync_isOrder c repo force w
  exact elsewhere_fullSyncIn hw hne h

/-- A partial sync leaves the other names alone. -/
theorem elsewhere_partialSyncIn {repo : RepoId} {changes : ChangeSet} {order : List Nat}
    {r : Except Error Outcome} (hw : w.store.WellFormed) (hne : key ≠ repo.fullName)
    (h : partialSyncIn c order repo changes w = some (r, w')) :
    Elsewhere c key (w.store.entryNamed? key) w w' := by
  have heffects : Effects c repo.fullName
      (fun u => u.store.Finds key (w.store.entryNamed? key)) _ _ :=
    Elsewhere.effects hne
  have hpartial := Script.within_partialSync heffects (Elsewhere.ends hne) rfl changes
  have hmap := hpartial.bind (Q := fun _ => True) (k := fun a => .ended a.result)
    fun _ _ => trivial
  exact hmap.elsewhere ⟨hw, rfl⟩ (Script.alone_partialSyncIn c h)

end Sync

end ContextIndex
