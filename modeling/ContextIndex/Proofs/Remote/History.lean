import ContextIndex.Remote.GitHub.Client
import ContextIndex.Remote.Memory
import Mathlib.Data.List.Nodup

/-!
# The history of a branch

A host that knows the history of a branch, or the newest part of it, recounts what it knows: it gives
out the commits before the one that is asked for, and the paths that each of them touches
(`Service.Recounts`).  A host in memory recounts the whole history (`Memory.recounts`).  GitHub is
asked for one page, so however well it serves the page, no more than that is recounted
(`GitHub.recounts`).  If the commit that is asked for is in the history, what is newer than it comes
out, as far as it is on the page (`History.newerThan_take`).
-/

namespace ContextIndex.Remote

/-- The history of a branch, newest first: commits with the paths that they touch. -/
structure History where
  /-- The commits. -/
  commits : List (Commit × List String)
  /-- No id is used twice. -/
  distinct : (commits.map fun c => c.1.sha).Nodup

namespace History

variable {x : History} {newer older : List (Commit × List String)} {marker : Commit × List String}

/-- Nothing newer than a commit has its id. -/
theorem sha_ne_of_mem (h : x.commits = newer ++ marker :: older) {c : Commit × List String}
    (hc : c ∈ newer) : c.1.sha ≠ marker.1.sha := by
  have hdistinct := x.distinct
  rw [h, List.map_append, List.map_cons] at hdistinct
  have hapart := (List.nodup_append.mp hdistinct).2.2
  exact hapart _ (List.mem_map_of_mem hc) _ List.mem_cons_self

/-- The commits that come before a commit of the history. -/
theorem newerThan_eq (h : x.commits = newer ++ marker :: older) :
    Memory.newerThan (x.commits.map Prod.fst) marker.1.sha = newer.map Prod.fst := by
  rw [Memory.newerThan, h, List.map_append, List.map_cons, List.takeWhile_append_of_pos,
    List.takeWhile_cons_of_neg, List.append_nil]
  · simp
  · intro c hc
    obtain ⟨c, hmem, rfl⟩ := List.mem_map.mp hc
    simpa using sha_ne_of_mem h hmem

/-- The same in the newest part of the history: as many of them as are in it. -/
theorem newerThan_take (h : x.commits = newer ++ marker :: older) (n : Nat) :
    Memory.newerThan ((x.commits.take n).map Prod.fst) marker.1.sha =
      (newer.take n).map Prod.fst := by
  rw [List.map_take, List.map_take, ← newerThan_eq h, Memory.newerThan, Memory.newerThan,
    List.take_takeWhile]

/-- The paths of a commit are found by its id. -/
theorem find?_sha {c : Commit × List String} (hc : c ∈ x.commits) :
    x.commits.find? (fun d => d.1.sha == c.1.sha) = some c := by
  obtain ⟨newer, older, hsplit⟩ := List.append_of_mem hc
  have hnewer : newer.find? (fun d => d.1.sha == c.1.sha) = none :=
    List.find?_eq_none.mpr fun d hd => by simpa using sha_ne_of_mem hsplit hd
  rw [hsplit, List.find?_append, hnewer, List.find?_cons, beq_self_eq_true]
  rfl

end History

/-- A host in this state gives out what it knows of a history: the commits before an id, and the paths
that each of the commits touches. -/
structure Service.Recounts {σ : Type} (s : Service σ) (repo : RepoId) (branch : String)
    (known : List (Commit × List String)) (h : σ) : Prop where
  /-- The commits before an id. -/
  commits : ∀ since, s.commitsSince repo branch since h =
    (.ok (Memory.newerThan (known.map Prod.fst) since), h)
  /-- The paths that a commit touches. -/
  files : ∀ c ∈ known, s.commitFiles repo c.1.sha h = (.ok c.2, h)

/-- A host in memory recounts the whole history, whatever the branch is called. -/
theorem Memory.recounts {h : Memory} {repo : RepoId} {r : MemoryRepo} {x : History}
    (hrepo : h.repo? repo = some r) (hcommits : r.commits = x.commits) (branch : String) :
    Memory.service.Recounts repo branch x.commits h where
  commits since := by
    simp only [Memory.service, Memory.ask, hrepo, hcommits]
  files c hc := by
    simp only [Memory.service, Memory.ask, hrepo, Memory.filesOfCommit, hcommits,
      History.find?_sha hc]

namespace GitHub

variable {t : Http.Transport} {a : Access} {repo : RepoId} {branch : String} {x : History}

/-- A request can be sent to an address, and the answer is read as a value. -/
structure Answers {α : Type} (t : Http.Transport) (a : Access) (read : Json → Option α) (u : Url)
    (value : α) : Prop where
  /-- The address names a host. -/
  host : u.hasHost = true
  /-- The token can be sent. -/
  token : a.token.all Http.isHeaderText = true
  /-- The address can be asked. -/
  requestable : u.requested.isRequestable = true
  /-- What comes back. -/
  answer : ∃ response, t (request a u) = some response ∧ response.succeeded = true ∧
    (Json.parse? response.body).bind read = some value

theorem ask_of_answers {α : Type} {read : Json → Option α} {u : Url} {value : α}
    (h : Answers t a read u value) : ask t a read u = .ok value := by
  obtain ⟨response, hresponse, hsucceeded, hvalue⟩ := h.answer
  have htoken : (a.token.any fun token => !Http.isHeaderText token) = false := by
    have := h.token
    cases htoken : a.token with
    | none => rfl
    | some token =>
      rw [htoken] at this
      simpa using this
  simp only [ask, h.host, htoken, h.requestable, hresponse, hsucceeded, decode, hvalue,
    not_true_eq_false, Bool.false_eq_true, if_false, if_true]

/-- The host serves a branch with a history: the page that is asked for is the newest commits, as many
as are asked for at a time, and each commit is there with its paths. -/
structure Serves (t : Http.Transport) (a : Access) (repo : RepoId) (branch : String) (x : History) :
    Prop where
  /-- The page. -/
  page : ∃ u, commitsEndpoint a repo branch = .ok u ∧
    Answers t a (Json.list? commit?) u ((x.commits.take commitsAtATime).map Prod.fst)
  /-- The commits. -/
  files : ∀ c ∈ x.commits, ∃ u, endpoint a repo ["commits", c.1.sha] = .ok u ∧
    Answers t a commitFiles? u c.2

/-- From a page the commits before an id come out. -/
theorem commitsSince_of_page {u : Url} {page : List Commit}
    (hu : commitsEndpoint a repo branch = .ok u) (h : Answers t a (Json.list? commit?) u page)
    (since : String) :
    commitsSince t a repo branch since = .ok (Memory.newerThan page since) := by
  have htest : (fun c : Commit => decide (c.sha ≠ since)) = fun c => c.sha != since := by
    funext c
    simp [bne, beq_eq_decide]
  simp only [commitsSince, hu, bind, Except.bind, ask_of_answers h, Memory.newerThan, htest]
  rfl

/-- GitHub recounts what is on the page. -/
theorem recounts (h : Serves t a repo branch x) :
    (service t a).Recounts repo branch (x.commits.take commitsAtATime) () where
  commits since := by
    obtain ⟨u, hu, hpage⟩ := h.page
    exact congrArg (·, ()) (commitsSince_of_page hu hpage since)
  files c hc := by
    obtain ⟨u, hu, hfiles⟩ := h.files c (List.mem_of_mem_take hc)
    simp only [service, commitFiles, hu, bind, Except.bind, ask_of_answers hfiles]

end GitHub

end ContextIndex.Remote
