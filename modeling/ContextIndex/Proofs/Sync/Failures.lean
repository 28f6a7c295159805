import ContextIndex.Proofs.Sync.Sweeps

/-!
# Full syncs that fail

The host can fail a full sync in three places: when it is asked for the description of a repository
that is not stored, when it is asked for the head of the branch, and when it is asked for the tree
(`Setup.Refuses`).  Each comes after something else: nothing yet, a lease that was taken, a run that
has begun.  Each exit takes back what came before it, so that all of them leave the same
(`FailsQuietly`): the tables as they were, but for the entry of a repository that was not stored, no
lease of this sync, and the failure for everyone to see (`fullSync_fails_quietly`).
-/

namespace ContextIndex

namespace Store

/-! ## Entries and leases that come and go -/

/-- The entry of a repository that is stored for the first time. -/
def newEntry (s : Store) (repo : RepoId) (m : Remote.Metadata) : RepoEntry :=
  ⟨⟨s.nextRepo, repo.owner, repo.name, m.description, m.language, none, none⟩, []⟩

theorem key_ne_of_lease?_eq_none {s : Store} {key : String} (h : s.lease? key = none) {l : Lease}
    (hl : l ∈ s.leases) : l.key ≠ key :=
  fun hkey => lease?_eq_none.mp h (List.mem_map.mpr ⟨l, hl, hkey⟩)

/-- Where a holder has replaced the leases of a key, its release leaves those of other keys. -/
theorem filter_map_replace {l : Lease} (ls : List Lease) :
    ((ls.map fun m => if m.key = l.key then l else m).filter fun m =>
      !(m.key == l.key && m.holder == l.holder)) = ls.filter fun m => m.key != l.key := by
  induction ls with
  | nil => rfl
  | cons m ls ih =>
    simp only [List.map_cons, List.filter_cons, ih]
    by_cases hm : m.key = l.key
    · simp [hm]
    · have hne : (m.key == l.key) = false := beq_eq_false_iff_ne.mpr hm
      simp [hm, hne, bne]

theorem nextFile_acquireLease {s s' : Store} {key holder : String} {now expiresAt : Instant}
    {granted : Bool} (h : s.acquireLease key holder now expiresAt = (granted, s')) :
    s'.nextFile = s.nextFile := by
  unfold acquireLease at h
  split at h
  · cases h
    rfl
  · split at h
    · cases h
      rfl
    · cases h
      rfl

/-- A lease that is taken and given up again has only displaced one that gave way. -/
theorem leases_release_acquire {s s' : Store} {key holder : String} {now expiresAt : Instant}
    (h : s.acquireLease key holder now expiresAt = (true, s')) :
    (s'.releaseLease key holder).leases = s.leases.filter fun l => l.key != key := by
  unfold acquireLease at h
  split at h
  · next hnone =>
    cases h
    simp only [releaseLease, List.filter_append]
    have hold : ∀ l ∈ s.leases, (!(l.key == key && l.holder == holder)) = (l.key != key) := by
      intro l hl
      have hne : (l.key == key) = false :=
        beq_eq_false_iff_ne.mpr (key_ne_of_lease?_eq_none hnone hl)
      simp [hne, bne]
    rw [List.filter_congr hold]
    simp
  · next l hl =>
    split at h
    · cases h
      exact filter_map_replace (l := ⟨key, holder, now, expiresAt⟩) s.leases
    · cases h

end Store

namespace Sync

open ContextIndex.Remote (Memory widgets memorySetup worldOf)

variable {σ : Type} {c : Setup σ} {repo : RepoId} {w w' : World σ}

/-! ## What remains of a sync that fails -/

/-- The host does not answer one of the questions that come before the files. -/
inductive Setup.Refuses (c : Setup σ) (repo : RepoId) (w : World σ) (e : RemoteError) : Prop
  | metadata : w.store.entryNamed? repo.fullName = none →
    (c.service.metadata repo w.host).1 = .error e → Refuses c repo w e
  | head (row : RepoRow) : (resolveRepo c repo w).1 = .ok row →
    (c.service.head row.repoId c.options.branch (resolveRepo c repo w).2.host).1 = .error e →
    Refuses c repo w e
  | tree (row : RepoRow) (head : String) (host : σ) : (resolveRepo c repo w).1 = .ok row →
    c.service.head row.repoId c.options.branch (resolveRepo c repo w).2.host = (.ok head, host) →
    (c.service.tree row.repoId head host).1 = .error e → Refuses c repo w e

/-- The failure of a repository is shown, and what is shown of the others stays. -/
structure ShowsFailure (key : String) (e : Error) (w w' : World σ) : Prop where
  state : (w'.status.get key).state = .failed
  lastError : (w'.status.get key).lastError = some e.message
  finishedAt : (w'.status.get key).finishedAt = some w.now
  others : ∀ k, k ≠ key → w'.status.get k = w.status.get k

/-- What a sync of a repository may leave of what was there before it when it fails. -/
structure FailsQuietly (c : Setup σ) (repo : RepoId) (e : Error) (w w' : World σ) : Prop where
  repos : w'.store.repos = w.store.repos ∨
    w.store.entryNamed? repo.fullName = none ∧
      ∃ m, (c.service.metadata repo w.host).1 = .ok m ∧
        w'.store.repos = w.store.repos ++ [w.store.newEntry repo m]
  files : w'.store.nextFile = w.store.nextFile
  leases : w'.store.leases = w.store.leases ∨
    (∀ l, w.store.lease? repo.fullName = some l → l.givesWay w.now = true) ∧
      w'.store.leases = w.store.leases.filter fun l => l.key != repo.fullName
  shows : ShowsFailure repo.fullName e w w'

/-- Whatever else has been shown of a repository, its failure is shown in the end. -/
theorem showsFailure_fail {key : String} {v : World σ} (e : Error)
    (hothers : ∀ k, k ≠ key → v.status.get k = w.status.get k) (hnow : v.now = w.now) :
    ShowsFailure key e w (v.withStatus fun r => r.fail key v.now e.message) := by
  have hget : (v.status.fail key v.now e.message).get key =
      { v.status.get key with
        state := .failed, finishedAt := some v.now, lastError := some e.message } :=
    Registry.get_update _ _ _
  refine ⟨?_, ?_, ?_, fun k hk => ?_⟩
  · exact congrArg Progress.state hget
  · exact congrArg Progress.lastError hget
  · exact (congrArg Progress.finishedAt hget).trans (congrArg some hnow)
  · exact (get_update_ne hk _ _).trans (hothers k hk)

/-! ## Errors of the store -/

theorem error_of_readRepo {row : RepoRow} {e : Error} (h : Store.readRepo row = .error e) :
    ∃ f, e = .storage f := by
  unfold Store.readRepo at h
  split at h
  · split at h
    · cases h
    · cases h
      exact ⟨_, rfl⟩
  · cases h

theorem error_of_getRepo {s : Store} {e : Error} (h : s.getRepo repo = .error e) :
    ∃ f, e = .storage f := by
  unfold Store.getRepo at h
  split at h
  · next entry _ =>
    cases hread : Store.readRepo entry.row with
    | ok row => rw [hread] at h; cases h
    | error x =>
      rw [hread] at h
      cases h
      exact error_of_readRepo hread
  · cases h

theorem error_of_getLease {s : Store} {key : String} {e : Error} (h : s.getLease key = .error e) :
    ∃ f, e = .storage f := by
  unfold Store.getLease at h
  split at h
  · cases h
  · split at h
    · cases h
      exact ⟨_, rfl⟩
    · split at h
      · cases h
        exact ⟨_, rfl⟩
      · cases h

theorem error_of_progress {key : String} {e : Error} (h : w.progress key = .error e) :
    ∃ f, e = .storage f := by
  unfold World.progress at h
  simp only at h
  split at h
  · cases h
  · split at h
    · next x hlease =>
      cases h
      exact error_of_getLease hlease
    · split at h <;> cases h
    · cases h

theorem error_of_takeLease {key label : String} {leaseTime : Nat} {e : Error}
    (h : takeLease w key label leaseTime = (.error e, w')) : e = .badLeaseTime := by
  unfold takeLease at h
  simp only at h
  split at h
  · cases h
    rfl
  · cases h

/-! ## The three exits -/

theorem entryNamed?_of_getRepo {s : Store} (h : s.getRepo repo = .ok none) :
    s.entryNamed? repo.fullName = none := by
  unfold Store.getRepo at h
  cases he : s.entryNamed? repo.fullName with
  | none => rfl
  | some e =>
    simp only [he] at h
    cases hread : Store.readRepo e.row with
    | error x => rw [hread] at h; cases h
    | ok row => rw [hread] at h; cases h

/-- Resolving a repository stores it or touches nothing but the host. -/
theorem resolveRepo_cases {result : Except Error RepoRow}
    (h : resolveRepo c repo w = (result, w')) :
    w'.store.leases = w.store.leases ∧ w'.store.nextFile = w.store.nextFile ∧
      w'.status = w.status ∧ w'.now = w.now ∧
      (w'.store.repos = w.store.repos ∨
        w.store.entryNamed? repo.fullName = none ∧
          ∃ m, (c.service.metadata repo w.host).1 = .ok m ∧
            w'.store.repos = w.store.repos ++ [w.store.newEntry repo m]) := by
  unfold resolveRepo at h
  split at h
  · cases h
    exact ⟨rfl, rfl, rfl, rfl, .inl rfl⟩
  · cases h
    exact ⟨rfl, rfl, rfl, rfl, .inl rfl⟩
  · next hget =>
    have hnone := entryNamed?_of_getRepo hget
    split at h
    · cases h
      exact ⟨rfl, rfl, rfl, rfl, .inl rfl⟩
    · next m host hm =>
      simp only [Store.insertRepo, hnone] at h
      cases h
      exact ⟨rfl, rfl, rfl, rfl, .inr ⟨hnone, m, by rw [hm], rfl⟩⟩

/-- A repository fails to resolve because of the store or because of the host. -/
theorem resolveRepo_error {e : RemoteError} (h : resolveRepo c repo w = (.error (.remote e), w')) :
    w.store.entryNamed? repo.fullName = none ∧ (c.service.metadata repo w.host).1 = .error e := by
  unfold resolveRepo at h
  split at h
  · next x hget =>
    cases h
    obtain ⟨f, hf⟩ := error_of_getRepo hget
    cases hf
  · cases h
  · next hget =>
    have hnone := entryNamed?_of_getRepo hget
    split at h
    · next x host hm =>
      cases h
      exact ⟨hnone, by rw [hm]⟩
    · next m host hm =>
      simp only [Store.insertRepo, hnone] at h
      cases h

/-- Whoever gives up the lease that it has just taken leaves the leases of the other keys. -/
theorem leases_release_takeLease {key label holder : String} {leaseTime : Nat}
    (h : takeLease w key label leaseTime = (.ok (some holder), w')) :
    w'.store.nextFile = w.store.nextFile ∧
      (∀ l, w.store.lease? key = some l → l.givesWay w.now = true) ∧
      (w'.store.releaseLease key holder).leases = w.store.leases.filter fun l => l.key != key := by
  unfold takeLease at h
  simp only at h
  split at h
  · cases h
  · cases hcall : w.store.acquireLease key (holderName label w.serial) w.now
        (w.now.plus leaseTime) with
    | mk granted s =>
      rw [hcall] at h
      cases granted with
      | false => cases h
      | true =>
        cases h
        obtain ⟨hgranted, -⟩ | ⟨-, hway, -⟩ := Store.acquireLease_cases hcall
        · cases hgranted
        · exact ⟨Store.nextFile_acquireLease hcall, hway, Store.leases_release_acquire hcall⟩

/-- A full sync that has the lease fails at the head or at the tree.  It gives the lease up and
shows the failure. -/
theorem openFull_fails {row : RepoRow} {holder : String} {force : Bool} {e : Error}
    (h : openFull c row holder force w = (.over (.error e), w')) :
    w'.store = w.store.releaseLease row.fullName holder ∧ ShowsFailure row.fullName e w w' ∧
      ∃ x, e = .remote x ∧ ((c.service.head row.repoId c.options.branch w.host).1 = .error x ∨
        ∃ head host, c.service.head row.repoId c.options.branch w.host = (.ok head, host) ∧
          (c.service.tree row.repoId head host).1 = .error x) := by
  unfold openFull at h
  simp only at h
  split at h
  · next x host hhead =>
    cases h
    refine ⟨rfl, showsFailure_fail (v := dropLease { w with host } row.fullName holder) _
      (fun _ _ => rfl) rfl, x, rfl, .inl (by rw [hhead])⟩
  · next head host hhead =>
    split at h
    · split at h
      · next x host' htree =>
        cases h
        -- What the run has shown since it began is of its own repository.
        refine ⟨rfl, showsFailure_fail (v := dropLease _ row.fullName holder) _
          (fun k hk => get_update_ne hk _ _) rfl, x, rfl, .inr ⟨head, host, hhead, ?_⟩⟩
        exact congrArg Prod.fst htree
      · cases h
    · cases h

/-- A full sync that is refused an answer after it has taken the lease leaves quietly. -/
theorem openFull_fails_quietly {row : RepoRow} {holder : String} {force : Bool} {e : RemoteError}
    {w₁ w₂ : World σ} (hresolve : resolveRepo c repo w = (.ok row, w₁))
    (htake : takeLease w₁ repo.fullName c.label c.options.leaseTime = (.ok (some holder), w₂))
    (h : openFull c row holder force w₂ = (.over (.error (.remote e)), w')) :
    FailsQuietly c repo (.remote e) w w' ∧ c.Refuses repo w e := by
  obtain ⟨hleases, hfiles, hstatus, hnow, hrepos⟩ := resolveRepo_cases hresolve
  obtain ⟨hfiles', hway, hfilter⟩ := leases_release_takeLease htake
  have htook := tookLease w₁ repo.fullName c.label c.options.leaseTime
  rw [htake] at htook
  obtain ⟨-, hname, -⟩ := resolveRepo_row hresolve
  have hkey : row.fullName = repo.fullName := hname
  obtain ⟨hstore, hshows, x, hx, hrefused⟩ := openFull_fails h
  cases hx
  rw [hkey] at hstore hshows
  refine ⟨⟨?_, ?_, .inr ⟨fun l hl => ?_, ?_⟩, ?_⟩, ?_⟩
  · rw [hstore]
    exact htook.repos ▸ hrepos
  · rw [hstore]
    exact hfiles'.trans hfiles
  · refine hnow ▸ hway l ?_
    simpa [Store.lease?, hleases] using hl
  · rw [hstore, hfilter, hleases]
  · refine ⟨hshows.state, hshows.lastError, ?_, fun k hk => ?_⟩
    · rw [hshows.finishedAt, htook.now, hnow]
    · rw [hshows.others k hk, htook.status, hstatus]
  · have hresolved : (resolveRepo c repo w).1 = .ok row := by rw [hresolve]
    have hhost : (resolveRepo c repo w).2.host = w₂.host := by rw [hresolve, htook.host]
    obtain hhead | ⟨head, host, hhead, htree⟩ := hrefused
    · exact .head row hresolved (hhost ▸ hhead)
    · exact .tree row head host hresolved (hhost ▸ hhead) htree

/-- A full sync that has been refused an answer leaves quietly. -/
theorem startFull_fails {force : Bool} {e : RemoteError}
    (h : startFull c repo force w = (.over (.error (.remote e)), w')) :
    FailsQuietly c repo (.remote e) w w' ∧ c.Refuses repo w e := by
  unfold startFull at h
  simp only at h
  split at h
  · next x w₁ hresolve =>
    cases h
    obtain ⟨hleases, hfiles, hstatus, hnow, hrepos⟩ := resolveRepo_cases hresolve
    obtain ⟨hnone, hrefused⟩ := resolveRepo_error hresolve
    exact ⟨⟨hrepos, hfiles, .inl hleases,
      showsFailure_fail _ (fun k _ => congrArg (Registry.get · k) hstatus) hnow⟩,
      .metadata hnone hrefused⟩
  · next row w₁ hresolve =>
    split at h
    · next x w₂ htake =>
      cases h
      cases error_of_takeLease htake
    · next w₂ htake =>
      simp only [Prod.mk.injEq, Phase.over.injEq] at h
      cases hprogress : (w₂.withStatus fun r => r.clearQueued repo.fullName).progress
          repo.fullName with
      | ok p => rw [hprogress] at h; cases h.1
      | error x =>
        rw [hprogress] at h
        obtain ⟨f, rfl⟩ := error_of_progress hprogress
        cases h.1
    · next holder w₂ htake => exact openFull_fails_quietly hresolve htake h

/-- A full sync that ends with an error of the host, whatever the store and wherever the host has
failed, leaves the tables as they were, but for the entry of a repository that was not stored, and
no lease.  The repository is shown to have failed with this error, which is the answer of the host
to one of the questions. -/
theorem fullSync_fails_quietly {force : Bool} {order : List Nat} {e : RemoteError}
    (h : fullSyncIn c order repo force w = some (.error (.remote e), w')) :
    FailsQuietly c repo (.remote e) w w' ∧ c.Refuses repo w e := by
  obtain hover | ⟨run, w₁, -, hcomplete⟩ := fullSyncIn_cases h
  · exact startFull_fails hover
  · cases completeIn_isReport hcomplete

/-- A coordinator whose host has repositories and heads but lists no tree. -/
def treelessSetup : Setup Memory :=
  { service := { Memory.service with tree := fun _ _ h => (.error (.rateLimited "slow down"), h) } }

theorem fullSync_fails_quietly_treeless :
    ∃ w', fullSyncIn treelessSetup [] widgets true (worldOf shrunk outdated) =
        some (.error (.remote (.rateLimited "slow down")), w') ∧
      w'.store.repos = outdated.repos ∧ w'.store.leases = [] ∧
      (w'.status.get widgets.fullName).state = .failed ∧
      (w'.status.get widgets.fullName).lastError =
        some "Remote error: rate limited: slow down" := by
  have hresult : (fullSyncIn treelessSetup [] widgets true (worldOf shrunk outdated)).map Prod.fst =
      some (.error (.remote (.rateLimited "slow down"))) := by decide +kernel
  obtain ⟨⟨_, w'⟩, h, rfl⟩ := Option.map_eq_some_iff.mp hresult
  obtain ⟨hquiet, -⟩ := fullSync_fails_quietly h
  have hstored : (worldOf shrunk outdated).store.entryNamed? widgets.fullName ≠ none := by
    decide +kernel
  have hnone : (worldOf shrunk outdated).store.leases = [] := by decide +kernel
  refine ⟨w', h, ?_, ?_, hquiet.shows.state, hquiet.shows.lastError⟩
  · exact hquiet.repos.resolve_right fun hnew => hstored hnew.1
  · obtain hsame | ⟨-, hfilter⟩ := hquiet.leases
    · exact hsame.trans hnone
    · rw [hfilter, hnone, List.filter_nil]

end Sync

end ContextIndex
