import ContextIndex.Proofs.Url.Segments
import ContextIndex.Remote.GitHub.Endpoint

/-!
# The addresses of files

A file at a revision is asked for at an address below the root, and what a request names there is a
path and a query.  The parts of the path of the file are at the end of the one and the revision is at
the end of the other (`exists_target`), so both can be read off again: two requests of one repository
name the same target if and only if they are for the same revision, and for the same path but for the
characters that no address holds (`contentsTargets_iff`).  Such a character is dropped without a
word, and two files whose paths differ in nothing else have one target (`contentsTargets_tab`).
-/

namespace ContextIndex.Remote.GitHub

open Url (IsPlain addedText clean isDropped)

/-! ## Paths -/

instance (s : List Char) : Decidable (IsPlain s) :=
  inferInstanceAs (Decidable (_ ∧ _))

/-- No part of a path is empty, and none leads nowhere or up, once the characters that no address
holds are dropped. -/
def IsProper (path : String) : Prop :=
  ∀ p ∈ Path.pieces '/' path.toList, p ≠ [] ∧ IsPlain p

instance (path : String) : Decidable (IsProper path) :=
  inferInstanceAs (Decidable (∀ p ∈ _, _))

theorem segments_of_isProper {path : String} (h : IsProper path) :
    Path.segments path = (Path.pieces '/' path.toList).map String.ofList := by
  rw [Path.segments, List.filter_eq_self.mpr]
  intro p hp
  simpa using (h p hp).1

theorem clean_eq_self {cs : List Char} (h : ∀ c ∈ cs, isDropped c = false) : clean cs = cs :=
  List.filter_eq_self.mpr fun c hc => by rw [h c hc]; rfl

/-- Two paths have the same parts, once characters are dropped, if and only if they are the same
then. -/
theorem map_clean_pieces_inj {cs ds : List Char} :
    (Path.pieces '/' cs).map clean = (Path.pieces '/' ds).map clean ↔ clean cs = clean ds := by
  have hpieces (cs : List Char) : (Path.pieces '/' cs).map clean = Path.pieces '/' (clean cs) :=
    (Path.pieces_filter (by decide) cs).symm
  rw [hpieces, hpieces]
  exact (Path.pieces_injective '/').eq_iff

/-! ## Targets -/

/-- The word in front of the paths of files is a segment of any address. -/
theorem length_addSegment_contents (ofFile special : Bool) (path : List Char) :
    1 < (Url.addSegment ofFile special path "contents").length := by
  have hstep (mayDrive : Bool) : Url.Step.ofSegment mayDrive (Url.inSegment special)
      "contents".toList = .name "contents".toList := by
    cases mayDrive <;> cases special <;> decide +kernel
  simp only [Url.addSegment, hstep, Url.land]
  simp

/-- The value of a further pair is at the end of the target; what the query holds before it depends on
what it held. -/
theorem exists_target_addPair (query : Option (List Char)) (name : String) :
    ∃ front, ∀ (u : Url) (value : String), u.query = query →
      (u.addPair name value).target =
        u.route.chars ++ '?' :: (front ++ Url.formText value.toList) := by
  obtain _ | _ | ⟨c, cs⟩ := query
  · refine ⟨Url.formText name.toList ++ ['='], fun u value h => ?_⟩
    simp [Url.target, Url.addPair, Url.marked, Url.pairText, h]
  · refine ⟨Url.formText name.toList ++ ['='], fun u value h => ?_⟩
    simp [Url.target, Url.addPair, Url.marked, Url.pairText, h]
  · refine ⟨c :: cs ++ '&' :: Url.formText name.toList ++ ['='], fun u value h => ?_⟩
    simp [Url.target, Url.addPair, Url.marked, Url.pairText, h]

/-- The target of a file: the path ends in the encoded parts of the path of the file, and the query
in the revision.  What stands in front of them is the same for all files of a repository. -/
theorem exists_target {a : Access} {root : Url} {guarded : Bool} {text : List Char}
    (hroot : Url.parse a.root = .ok root) (hroute : root.route = .path guarded text)
    (repo : RepoId) : ∃ base front, ∀ path reference, IsProper path →
      ∃ u, contentsEndpoint a repo path reference = .ok u ∧ u.target =
        base ++ addedText root.kind.isSpecial (Path.pieces '/' path.toList) ++
          '?' :: (front ++ Url.formText reference.toList) := by
  let add := Url.addSegment (root.kind == .file) root.kind.isSpecial
  let base := ["repos", repo.owner, repo.name, "contents"].foldl add (Url.closed text)
  have hbase : 1 < base.length := length_addSegment_contents _ _ _
  obtain ⟨front, hfront⟩ := exists_target_addPair root.query "ref"
  refine ⟨base, front, fun path reference hpath => ?_⟩
  let file : Url := { root with
    route := .path guarded
      (base ++ addedText root.kind.isSpecial (Path.pieces '/' path.toList)) }
  have hfile : endpoint a repo ("contents" :: Path.segments path) = .ok file := by
    have hparts : (Path.segments path).foldl add base =
        base ++ addedText root.kind.isSpecial (Path.pieces '/' path.toList) := by
      rw [segments_of_isProper hpath]
      exact Url.foldl_addSegment hbase fun p hp => (hpath p hp).2
    simp only [endpoint, hroot, Url.extend?, hroute]
    exact congrArg (fun parts => Except.ok { root with route := .path guarded parts }) hparts
  refine ⟨file.addPair "ref" reference, ?_, hfront file reference rfl⟩
  rw [contentsEndpoint, hfile]
  rfl

/-- Two requests for files of one repository name the same target if and only if the revisions are
the same and the paths are, but for the characters that no address holds.  Where neither path has
such a character, different files have different targets. -/
theorem contentsTargets_iff {a : Access} {root : Url} {guarded : Bool} {text : List Char}
    (hroot : Url.parse a.root = .ok root) (hroute : root.route = .path guarded text)
    (repo : RepoId) {path path' : String} (hpath : IsProper path) (hpath' : IsProper path')
    (reference reference' : String) :
    ∃ u u', contentsEndpoint a repo path reference = .ok u ∧
      contentsEndpoint a repo path' reference' = .ok u' ∧
      ((request a u).target = (request a u').target ↔
        clean path.toList = clean path'.toList ∧ reference = reference') ∧
      ((∀ c ∈ path.toList ++ path'.toList, isDropped c = false) →
        ((request a u).target = (request a u').target ↔ path = path' ∧ reference = reference')) := by
  obtain ⟨base, front, htarget⟩ := exists_target hroot hroute repo
  obtain ⟨u, hu, hut⟩ := htarget path reference hpath
  obtain ⟨u', hu', hut'⟩ := htarget path' reference' hpath'
  have hiff : (request a u).target = (request a u').target ↔
      clean path.toList = clean path'.toList ∧ reference = reference' := by
    rw [request, request, String.ofList_inj, hut, hut', List.append_assoc, List.append_assoc,
      List.append_right_inj, Path.append_cons_inj (Url.question_not_mem_addedText _ _)
        (Url.question_not_mem_addedText _ _), List.append_right_inj,
      Url.formText_injective.eq_iff, String.toList_inj, Url.addedText_inj, map_clean_pieces_inj]
  refine ⟨u, u', hu, hu', hiff, fun hkept => ?_⟩
  rw [hiff, clean_eq_self fun c hc => hkept c (List.mem_append_left _ hc),
    clean_eq_self fun c hc => hkept c (List.mem_append_right _ hc), String.toList_inj]

/-- The address under which the host answers unless another one is given. -/
theorem parse_root : Url.parse "https://api.github.com" =
    .ok ⟨"https", some ⟨none, "api.github.com".toList, none⟩, .path false ['/'], none, none⟩ := by
  have h : (Url.parse "https://api.github.com").toOption =
      some ⟨"https", some ⟨none, "api.github.com".toList, none⟩, .path false ['/'], none, none⟩ := by
    decide +kernel
  cases hparse : Url.parse "https://api.github.com" with
  | error fault =>
    rw [hparse] at h
    cases h
  | ok u =>
    rw [hparse] at h
    exact congrArg Except.ok (Option.some.inj h)

/-- Everything about a repository has an address below it. -/
theorem endpoint_root (repo : RepoId) (segments : List String) : endpoint {} repo segments =
    .ok ⟨"https", some ⟨none, "api.github.com".toList, none⟩,
      .path false (("repos" :: repo.owner :: repo.name :: segments).foldl
        (Url.addSegment false true) ['/']), none, none⟩ := by
  simp only [endpoint, parse_root, Url.extend?]
  rfl

/-- Two files below the default root; one has a blank where the other has the escape of a blank. -/
theorem contentsTargets_iff_escaped :
    Url.parse "https://api.github.com" =
        .ok ⟨"https", some ⟨none, "api.github.com".toList, none⟩, .path false ['/'], none, none⟩ ∧
      IsProper "src/a b.py" ∧ IsProper "src/a%20b.py" ∧
      ∃ u u', contentsEndpoint {} ⟨"octo", "widgets"⟩ "src/a b.py" "main" = .ok u ∧
        contentsEndpoint {} ⟨"octo", "widgets"⟩ "src/a%20b.py" "main" = .ok u' ∧
        (request {} u).target ≠ (request {} u').target := by
  have hblank : IsProper "src/a b.py" := by decide +kernel
  have hescape : IsProper "src/a%20b.py" := by decide +kernel
  obtain ⟨u, u', hu, hu', -, hkept⟩ := contentsTargets_iff (a := {}) parse_root rfl
    ⟨"octo", "widgets"⟩ hblank hescape "main" "main"
  refine ⟨parse_root, hblank, hescape, u, u', hu, hu', fun htarget => ?_⟩
  have hall : ("src/a b.py".toList ++ "src/a%20b.py".toList).all (fun c => !isDropped c) = true := by
    decide +kernel
  have heq : "src/a b.py" = "src/a%20b.py" :=
    ((hkept fun c hc => by simpa using List.all_eq_true.mp hall c hc).mp htarget).1
  exact absurd heq (by decide)

/-- The tabulator in the path of a file is dropped, so the file has the target of another one. -/
theorem contentsTargets_tab : "a\tb.py" ≠ "ab.py" ∧ ∀ path ∈ ["a\tb.py", "ab.py"],
    (∀ p ∈ Path.pieces '/' path.toList, p ≠ [] ∧ p ≠ ['.'] ∧ p ≠ ['.', '.']) ∧
      ((contentsEndpoint {} ⟨"octo", "widgets"⟩ path "main").toOption.map fun u =>
        (request {} u).target) = some "/repos/octo/widgets/contents/ab.py?ref=main" := by
  decide +kernel

end ContextIndex.Remote.GitHub
