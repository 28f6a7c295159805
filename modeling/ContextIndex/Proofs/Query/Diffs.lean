import ContextIndex.Proofs.Remote.Addresses
import ContextIndex.Proofs.Remote.History
import ContextIndex.Proofs.Remote.InMemory
import ContextIndex.Json.Printer
import ContextIndex.Query.Diff
import Mathlib.Data.List.ProdSigma

/-!
# Diffs over two hosts

What a diff says is determined by the commits that the host recounts (`diffReport_of_recounts`).  So a
diff over GitHub is a beginning of the diff over a host in memory with the same history: it has the
same head, and of the commits and the paths it has the first ones.  It has all of them if and only if
the newer commits are on one page (`commitsSince_agree_iff`), and nothing in the report tells which is
the case.
-/

namespace ContextIndex.Query

open Remote
open Remote.GitHub (commitsAtATime)

/-- The report on commits with the paths that they touch, all of which are told. -/
def reportOf (since : String) (commits : List (Commit × List String)) : DiffReport :=
  ⟨since, (commits.map Prod.fst).head?.map Commit.sha, commits.map Prod.fst,
    (commits.flatMap Prod.snd).eraseDups⟩

section Recounted

variable {σ : Type} {service : Service σ} {repo : RepoId} {branch : String} {h : σ}

theorem touchedPaths_eq {commits : List (Commit × List String)}
    (hfiles : ∀ c ∈ commits, service.commitFiles repo c.1.sha h = (.ok c.2, h)) :
    touchedPaths service repo (commits.map Prod.fst) h = (commits.flatMap Prod.snd, h) := by
  induction commits with
  | nil => rfl
  | cons c commits ih =>
    rw [List.map_cons, touchedPaths, hfiles c List.mem_cons_self]
    simp only [ih fun d hd => hfiles d (List.mem_cons_of_mem c hd)]
    rfl

variable {x : History} {newer older : List (Commit × List String)} {marker : Commit × List String}
  {n : Nat} {s : Store} {row : RepoRow} {since : Option String}

/-- A diff over a host that recounts the newest commits of a history: it reports on those of them that
are newer than the given one. -/
theorem diffReport_of_recounts (hsplit : x.commits = newer ++ marker :: older)
    (hservice : service.Recounts repo branch (x.commits.take n) h) (hrow : requireRepo s repo = .ok row)
    (hsince : since.or row.lastRevision = some marker.1.sha) :
    diffReport s service repo branch since h =
      (.ok (.complete (reportOf marker.1.sha (newer.take n))
        (jsonCost (reportOf marker.1.sha (newer.take n)).toJson)), h) := by
  have hcommits : service.commitsSince repo branch marker.1.sha h =
      (.ok ((newer.take n).map Prod.fst), h) := by
    rw [hservice.commits, History.newerThan_take hsplit]
  have hknown : newer.take n ⊆ x.commits.take n := by
    rw [hsplit, List.take_append]
    exact List.subset_append_left _ _
  have hpaths := touchedPaths_eq fun c hc => hservice.files c (hknown hc)
  rw [diffReport, hrow]
  simp only [hsince, hcommits, hpaths]
  rfl

end Recounted

/-- A report on the first commits is a beginning of the report on all of them. -/
theorem reportOf_take (since : String) (commits : List (Commit × List String)) {n : Nat}
    (hn : 0 < n) :
    (reportOf since (commits.take n)).head = (reportOf since commits).head ∧
      (reportOf since (commits.take n)).commits = (reportOf since commits).commits.take n ∧
      (reportOf since (commits.take n)).changedFiles <+: (reportOf since commits).changedFiles := by
  refine ⟨?_, List.map_take, ?_⟩
  · simp [reportOf, List.head?_take, Nat.ne_of_gt hn]
  · have hsplit : commits.flatMap Prod.snd =
        (commits.take n).flatMap Prod.snd ++ (commits.drop n).flatMap Prod.snd := by
      rw [← List.flatMap_append, List.take_append_drop]
    simp only [reportOf, hsplit, List.eraseDups_append]
    exact List.prefix_append _ _

theorem map_take_eq_iff {α β : Type} {f : α → β} {l : List α} {n : Nat} :
    (l.take n).map f = l.map f ↔ l.length ≤ n := by
  constructor
  · intro heq
    have hlength := congrArg List.length heq
    simp only [List.length_map, List.length_take] at hlength
    omega
  · intro hle
    rw [List.take_of_length_le hle]

section Hosts

variable {x : History} {newer older : List (Commit × List String)} {marker : Commit × List String}
  {h : Memory} {r : MemoryRepo} {t : Http.Transport} {a : GitHub.Access}
  {repo : RepoId} {branch : String} {s : Store} {row : RepoRow} {since : Option String}

/-- The commits of a branch that are newer than one of its commits, from a host in memory with the
history of the branch and from GitHub, which serves a page of it.  The host in memory gives out all of
them, and GitHub those that are on the page: all of them if and only if there are no more than are
asked for at a time.  A diff over GitHub has the head of the diff over the host in memory, and the
first of its commits and of its paths; it does not say whether it has them all. -/
theorem commitsSince_agree_iff (hsplit : x.commits = newer ++ marker :: older)
    (hrepo : h.repo? repo = some r) (hcommits : r.commits = x.commits)
    (hserves : GitHub.Serves t a repo branch x) (hrow : requireRepo s repo = .ok row)
    (hsince : since.or row.lastRevision = some marker.1.sha) :
    Memory.service.commitsSince repo branch marker.1.sha h = (.ok (newer.map Prod.fst), h) ∧
      (GitHub.service t a).commitsSince repo branch marker.1.sha () =
        (.ok ((newer.take commitsAtATime).map Prod.fst), ()) ∧
      ((newer.take commitsAtATime).map Prod.fst = newer.map Prod.fst ↔
        newer.length ≤ commitsAtATime) ∧
      ∃ whole page, (diffReport s Memory.service repo branch since h).1 = .ok whole ∧
        (diffReport s (GitHub.service t a) repo branch since ()).1 = .ok page ∧
        whole.data = reportOf marker.1.sha newer ∧
        page.data.head = whole.data.head ∧
        page.data.commits = whole.data.commits.take commitsAtATime ∧
        page.data.changedFiles <+: whole.data.changedFiles ∧
        page.truncated = false ∧
        (page = whole ↔ newer.length ≤ commitsAtATime) := by
  have hmemory : Memory.service.Recounts repo branch (x.commits.take x.commits.length) h := by
    rw [List.take_length]
    exact Memory.recounts hrepo hcommits branch
  have hgitHub := GitHub.recounts hserves
  have hall : newer.take x.commits.length = newer :=
    List.take_of_length_le (by rw [hsplit, List.length_append]; omega)
  have hwhole := diffReport_of_recounts hsplit hmemory hrow hsince
  have hpage := diffReport_of_recounts hsplit hgitHub hrow hsince
  rw [hall] at hwhole
  obtain ⟨hhead, hfirst, hfiles⟩ := reportOf_take marker.1.sha newer (show 0 < commitsAtATime by decide)
  refine ⟨?_, ?_, map_take_eq_iff, _, _, congrArg Prod.fst hwhole, congrArg Prod.fst hpage, rfl, hhead,
    hfirst, hfiles, rfl, ?_⟩
  · rw [hmemory.commits, History.newerThan_take hsplit, hall]
  · rw [hgitHub.commits, History.newerThan_take hsplit]
  · constructor
    · intro heq
      exact map_take_eq_iff.mp (congrArg (fun e => e.data.commits) heq)
    · intro hle
      rw [List.take_of_length_le hle]

end Hosts

/-! ## Branches that are served -/

/-- A host that has these texts at these targets, and nothing else. -/
def served (texts : List (String × String)) : Http.Transport := fun r =>
  match texts.lookup r.target with
  | some body => some ⟨200, body⟩
  | none => some ⟨404, ""⟩

theorem answers_served {α : Type} {texts : List (String × String)} {read : Json → Option α} {u : Url}
    {value : α} (hhost : u.hasHost = true) (hrequestable : u.requested.isRequestable = true)
    (hvalue : ((texts.lookup (String.ofList u.target)).bind fun body =>
      (Json.parse? body).bind read) = some value) :
    GitHub.Answers (served texts) {} read u value := by
  obtain ⟨body, hbody, hread⟩ := Option.bind_eq_some_iff.mp hvalue
  refine ⟨hhost, rfl, hrequestable, ⟨200, body⟩, ?_, rfl, hread⟩
  simp only [served, GitHub.request, hbody]

/-- A page of commits, as GitHub writes it. -/
def pageText (commits : List Commit) : String :=
  Json.compact (.array (commits.map fun c =>
    .object [("sha", .string c.sha), ("commit", .object [("message", .string c.message)])]))

/-- The paths that a commit touches, as GitHub writes them. -/
def pathsText (paths : List String) : String :=
  Json.compact (.object [("files", .array (paths.map fun p => .object [("filename", .string p)]))])

/-- A branch with two commits. -/
def shortBranch : History where
  commits := [(⟨"c2", "tweak"⟩, ["a.py", "b.py"]), (⟨"c1", "initial"⟩, ["a.py"])]
  distinct := by decide

/-- What the host of the short branch has. -/
def shortTexts : List (String × String) :=
  [("/repos/octo/widgets/commits?sha=main&per_page=100",
      pageText (shortBranch.commits.map Prod.fst)),
    ("/repos/octo/widgets/commits/c2", pathsText ["a.py", "b.py"]),
    ("/repos/octo/widgets/commits/c1", pathsText ["a.py"])]

/-- The address of the page of commits. -/
def pageAddress : Url :=
  ⟨"https", some ⟨none, "api.github.com".toList, none⟩,
    .path false "/repos/octo/widgets/commits".toList, some "sha=main&per_page=100".toList, none⟩

theorem commitsEndpoint_root :
    GitHub.commitsEndpoint {} ⟨"octo", "widgets"⟩ "main" = .ok pageAddress := by
  rw [GitHub.commitsEndpoint, GitHub.endpoint_root]
  exact congrArg Except.ok (by decide +kernel)

theorem serves_shortBranch :
    GitHub.Serves (served shortTexts) {} ⟨"octo", "widgets"⟩ "main" shortBranch where
  page := ⟨_, commitsEndpoint_root, answers_served rfl (by decide +kernel) (by decide +kernel)⟩
  files c hc := by
    refine ⟨_, GitHub.endpoint_root _ _, ?_⟩
    obtain rfl | rfl : c = _ ∨ c = _ := by simpa [shortBranch] using hc
    · exact answers_served rfl (by decide +kernel) (by decide +kernel)
    · exact answers_served rfl (by decide +kernel) (by decide +kernel)

/-- A store with a repository that is in step with the older of two commits. -/
def synced : Store :=
  ((({} : Store).insertRepo ⟨"octo", "widgets"⟩ {}).2).recordSync 1 (some "c1") ⟨0⟩

/-- A diff since the last sync, over the host of a short branch and over a host in memory. -/
theorem commitsSince_agree_iff_shortBranch :
    ∃ row whole page, requireRepo synced ⟨"octo", "widgets"⟩ = .ok row ∧
      row.lastRevision = some "c1" ∧
      GitHub.Serves (served shortTexts) {} ⟨"octo", "widgets"⟩ "main" shortBranch ∧
      (diffReport synced Memory.service ⟨"octo", "widgets"⟩ "main" none
        (Memory.single ⟨"octo", "widgets"⟩ { commits := shortBranch.commits })).1 = .ok whole ∧
      (diffReport synced (GitHub.service (served shortTexts) {}) ⟨"octo", "widgets"⟩ "main"
        none ()).1 = .ok page ∧
      page = whole ∧
      whole.data = ⟨"c1", some "c2", [⟨"c2", "tweak"⟩], ["a.py", "b.py"]⟩ := by
  have hrow : requireRepo synced ⟨"octo", "widgets"⟩ =
    .ok ⟨1, "octo", "widgets", none, none, some "c1", some ⟨0⟩⟩ := rfl
  have hsplit : shortBranch.commits =
      [(⟨"c2", "tweak"⟩, ["a.py", "b.py"])] ++ (⟨"c1", "initial"⟩, ["a.py"]) :: [] := rfl
  have hrepo := Memory.repo?_single ⟨"octo", "widgets"⟩ { commits := shortBranch.commits }
  have hsince : (none : Option String).or (some "c1") = some "c1" := rfl
  obtain ⟨-, -, -, whole, page, hwhole, hpage, hdata, -, -, -, -, hiff⟩ :=
    commitsSince_agree_iff hsplit hrepo rfl serves_shortBranch hrow hsince
  exact ⟨_, whole, page, hrow, rfl, serves_shortBranch, hwhole, hpage, hiff.mpr (by decide),
    hdata.trans rfl⟩

/-! ## More than a page -/

/-- Texts of two hexadecimal digits. -/
def twoDigits : List (Char × Char) :=
  List.product "0123456789abcdef".toList "0123456789abcdef".toList

/-- A branch with more commits than are on a page. -/
def longBranch : History where
  commits := (twoDigits.take 102).map fun p => (⟨String.ofList [p.1, p.2], ""⟩, [])
  distinct := by
    have hdigits : "0123456789abcdef".toList.Nodup := by decide
    have htexts : (twoDigits.take 102).Nodup :=
      (hdigits.product hdigits).sublist (List.take_sublist 102 _)
    rw [List.map_map]
    refine htexts.map fun p q heq => ?_
    obtain ⟨hfirst, hsecond⟩ : p.1 = q.1 ∧ p.2 = q.2 := by
      simpa using String.ofList_injective heq
    exact Prod.ext hfirst hsecond

/-- The host of the long branch, with the page that it is asked for. -/
def longTexts : List (String × String) :=
  [("/repos/octo/widgets/commits?sha=main&per_page=100",
    pageText ((longBranch.commits.take commitsAtATime).map Prod.fst))]

theorem parse?_compact (v : Json) :
    Json.parse? (Json.compact v) = Json.parseChars? (Json.compactChars v) := by
  rw [Json.parse?, Json.compact, String.toList_ofList]

/-- The last commit of the long branch has more newer ones than are on a page.  GitHub serves the page,
and the oldest of the newer commits is missing. -/
theorem commitsSince_past_page :
    longBranch.commits = longBranch.commits.take 101 ++ [(⟨"65", ""⟩, [])] ∧
      GitHub.commitsEndpoint {} ⟨"octo", "widgets"⟩ "main" = .ok pageAddress ∧
      GitHub.Answers (served longTexts) {} (Json.list? GitHub.commit?) pageAddress
        ((longBranch.commits.take commitsAtATime).map Prod.fst) ∧
      (Memory.service.commitsSince ⟨"octo", "widgets"⟩ "main" "65"
        (Memory.single ⟨"octo", "widgets"⟩ { commits := longBranch.commits })).1 =
          .ok ((longBranch.commits.take 101).map Prod.fst) ∧
      GitHub.commitsSince (served longTexts) {} ⟨"octo", "widgets"⟩ "main" "65" =
        .ok ((longBranch.commits.take 100).map Prod.fst) ∧
      (longBranch.commits.take 100).map Prod.fst ≠ (longBranch.commits.take 101).map Prod.fst := by
  have hsplit : longBranch.commits = longBranch.commits.take 101 ++ [(⟨"65", ""⟩, [])] := rfl
  have hfirst : longBranch.commits.take 100 = (longBranch.commits.take 101).take 100 := rfl
  have hpage : GitHub.Answers (served longTexts) {} (Json.list? GitHub.commit?) pageAddress
      ((longBranch.commits.take commitsAtATime).map Prod.fst) := by
    have htarget : String.ofList pageAddress.target =
        "/repos/octo/widgets/commits?sha=main&per_page=100" := by decide +kernel
    refine answers_served rfl (by decide +kernel) ?_
    rw [htarget, longTexts, List.lookup_cons, beq_self_eq_true, Option.bind_some, pageText,
      parse?_compact]
    decide +kernel
  have hmemory := Memory.recounts
    (Memory.repo?_single ⟨"octo", "widgets"⟩ { commits := longBranch.commits }) rfl "main"
  refine ⟨hsplit, commitsEndpoint_root, hpage, ?_, ?_, fun heq => ?_⟩
  · rw [hmemory.commits]
    exact congrArg Except.ok (History.newerThan_eq hsplit)
  · rw [GitHub.commitsSince_of_page commitsEndpoint_root hpage, hfirst]
    exact congrArg Except.ok (History.newerThan_take hsplit 100)
  · rw [hfirst] at heq
    exact absurd (map_take_eq_iff.mp heq) (by decide)

end ContextIndex.Query
