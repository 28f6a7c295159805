import ContextIndex.Proofs.Url.Encoding
import ContextIndex.Url.Basic
import Mathlib.Data.List.Basic

/-!
# Segments added to a path

A segment that is added to the path of an address stays there with a slash in front, unless it leads
nowhere or up (`foldl_addSegment`).  Whether it does is asked twice, of the segment as it is given and
of the segment as it is encoded, and there an escaped dot is a dot.  But what is encoded to dots is
dots (`eq_of_isUp_encode`), so only the characters that are dropped in between make a difference.

No encoded segment has a slash, so the segments can be read off the text that they add
(`addedText_inj`).  In the same way a text can be read off its pieces (`pieces_injective`).
-/

namespace ContextIndex

/-! ## Pieces -/

namespace Path

variable {mark : Char}

theorem pieces_eq_splitOn (mark : Char) (cs : List Char) : pieces mark cs = cs.splitOn mark := by
  induction cs with
  | nil => rfl
  | cons c cs ih =>
    rw [pieces, ih, List.splitOn_cons_eq_if_modifyHead]
    by_cases hc : c = mark
    · rw [if_pos hc, if_pos (beq_iff_eq.mpr hc)]
    · rw [if_neg hc, if_neg (by simpa using hc)]
      cases h : cs.splitOn mark with
      | nil => exact absurd h (List.splitOn_ne_nil mark cs)
      | cons p ps => rfl

/-- A text is read off its pieces. -/
theorem pieces_injective (mark : Char) : Function.Injective (pieces mark) := by
  intro cs ds h
  rw [pieces_eq_splitOn, pieces_eq_splitOn] at h
  have hjoined := congrArg ([mark].intercalate) h
  rwa [List.intercalate_splitOn, List.intercalate_splitOn] at hjoined

/-- What stands before the first mark is the first piece. -/
theorem pieces_append_cons {cs : List Char} (h : mark ∉ cs) (ds : List Char) :
    pieces mark (cs ++ mark :: ds) = cs :: pieces mark ds := by
  rw [pieces_eq_splitOn, pieces_eq_splitOn, List.splitOn_append_cons_self_of_not_mem h]

/-- The first mark parts a text. -/
theorem append_cons_inj {cs cs' ds ds' : List Char} (h : mark ∉ cs) (h' : mark ∉ cs') :
    cs ++ mark :: ds = cs' ++ mark :: ds' ↔ cs = cs' ∧ ds = ds' := by
  rw [← (pieces_injective mark).eq_iff, pieces_append_cons h, pieces_append_cons h',
    List.cons_eq_cons, (pieces_injective mark).eq_iff]

/-- Characters that are no marks may be left out before a text is cut or after. -/
theorem pieces_filter {keep : Char → Bool} (hmark : keep mark = true) (cs : List Char) :
    pieces mark (cs.filter keep) = (pieces mark cs).map (List.filter keep) := by
  simp only [pieces_eq_splitOn]
  induction cs with
  | nil => rfl
  | cons c cs ih =>
    rw [List.splitOn_cons_eq_if_modifyHead]
    by_cases hc : c = mark
    · subst hc
      rw [List.filter_cons_of_pos hmark, List.splitOn_cons_eq_if_modifyHead, ih,
        if_pos (beq_self_eq_true c), if_pos (beq_self_eq_true c)]
      rfl
    · have hne : ¬(c == mark) = true := by simpa using hc
      obtain ⟨p, ps, hp⟩ := List.exists_cons_of_ne_nil (List.splitOn_ne_nil mark cs)
      rw [hp] at ih
      rw [if_neg hne, hp, List.modifyHead_cons, List.map_cons]
      by_cases hkeep : keep c = true
      · rw [List.filter_cons_of_pos hkeep, List.splitOn_cons_eq_if_modifyHead, if_neg hne, ih,
          List.filter_cons_of_pos hkeep]
        rfl
      · rw [List.filter_cons_of_neg hkeep, ih, List.filter_cons_of_neg hkeep]
        rfl

end Path

namespace Url

/-! ## Dots -/

/-- What has this small form has it in capitals too, and nothing else has it. -/
theorem eq_or_eq_of_toLower {x c : Char} (h : x.toLower = c) :
    x = c ∨ (0x41 ≤ x.toNat ∧ x.toNat ≤ 0x5A ∧ x.toNat + 32 = c.toNat) := by
  unfold Char.toLower at h
  split at h
  · next hx =>
    subst h
    have hfirst : 65 ≤ x.val.toNat := hx.1
    have hlast : x.val.toNat ≤ 90 := hx.2
    have hgap : ('a'.val - 'A'.val).toNat = 32 := by decide
    refine .inr ⟨hfirst, hlast, ?_⟩
    simp only [Char.toNat, UInt32.toNat_add, hgap]
    omega
  · exact .inl h

theorem eq_dot_of_toLower {x : Char} (h : x.toLower = '.') : x = '.' := by
  obtain h | ⟨hfirst, -, hsum⟩ := eq_or_eq_of_toLower h
  · exact h
  · have hdot : '.'.toNat = 46 := rfl
    omega

theorem eq_percent_of_toLower {x : Char} (h : x.toLower = '%') : x = '%' := by
  obtain h | ⟨hfirst, -, hsum⟩ := eq_or_eq_of_toLower h
  · exact h
  · have hpercent : '%'.toNat = 37 := rfl
    omega

/-- What an escaped dot looks like. -/
theorem unescape_of_toLower {x y z : Char} (hx : x.toLower = '%') (hy : y.toLower = '2')
    (hz : z.toLower = 'e') (rest : List Char) :
    unescape (x :: y :: z :: rest) = 0x2E :: unescape rest := by
  obtain rfl := eq_percent_of_toLower hx
  have htwo : y = '2' := by
    obtain h | ⟨hfirst, -, hsum⟩ := eq_or_eq_of_toLower hy
    · exact h
    · have htwo : '2'.toNat = 50 := rfl
      omega
  have hdigit : Text.hexDigit? z = some 14 := by
    obtain rfl | ⟨-, -, hsum⟩ := eq_or_eq_of_toLower hz
    · rfl
    · have hz : z.toNat = 'E'.toNat := Nat.add_right_cancel hsum
      obtain rfl : z = 'E' := Char.ext (UInt32.toNat_inj.mp hz)
      rfl
  have hnumeral : Text.numeral? 16 [y, z] = some 0x2E := by
    subst htwo
    simp only [Text.numeral?, Text.numeralFrom?, Text.digit?, hdigit]
    rfl
  simp only [unescape, hnumeral]
  rfl

/-- A dot, as it is or escaped, in front of a text. -/
theorem unescape_dot {s rest : List Char}
    (h : s.map Char.toLower = '.' :: rest ∨ s.map Char.toLower = '%' :: '2' :: 'e' :: rest) :
    ∃ s', s'.map Char.toLower = rest ∧ unescape s = 0x2E :: unescape s' := by
  obtain h | h := h
  · obtain ⟨x, s, rfl, hx, hs⟩ := List.map_eq_cons_iff.mp h
    obtain rfl := eq_dot_of_toLower hx
    exact ⟨s, hs, unescape_cons (by decide) s⟩
  · obtain ⟨x, s, rfl, hx, hs⟩ := List.map_eq_cons_iff.mp h
    obtain ⟨y, s, rfl, hy, hs⟩ := List.map_eq_cons_iff.mp hs
    obtain ⟨z, s, rfl, hz, hs⟩ := List.map_eq_cons_iff.mp hs
    exact ⟨s, hs, unescape_of_toLower hx hy hz s⟩

theorem unescape_of_isHere {s : List Char} (h : isHere s = true) :
    unescape s = Text.utf8 ['.'] := by
  have hform : s.map Char.toLower = ['.'] ∨ s.map Char.toLower = ['%', '2', 'e'] := by
    simpa [isHere, String.ext_iff] using h
  obtain ⟨s', hs', heq⟩ := unescape_dot hform
  obtain rfl := List.map_eq_nil_iff.mp hs'
  exact heq

theorem unescape_of_isUp {s : List Char} (h : isUp s = true) :
    unescape s = Text.utf8 ['.', '.'] := by
  have hforms : ∃ rest, (s.map Char.toLower = '.' :: rest ∨
      s.map Char.toLower = '%' :: '2' :: 'e' :: rest) ∧ (rest = ['.'] ∨ rest = ['%', '2', 'e']) := by
    have hcases : s.map Char.toLower = ['.', '.'] ∨ s.map Char.toLower = ['.', '%', '2', 'e'] ∨
        s.map Char.toLower = ['%', '2', 'e', '.'] ∨
        s.map Char.toLower = ['%', '2', 'e', '%', '2', 'e'] := by
      simpa [isUp, String.ext_iff] using h
    obtain h | h | h | h := hcases
    · exact ⟨_, .inl h, .inl rfl⟩
    · exact ⟨_, .inl h, .inr rfl⟩
    · exact ⟨_, .inr h, .inl rfl⟩
    · exact ⟨_, .inr h, .inr rfl⟩
  obtain ⟨rest, hfirst, hsecond⟩ := hforms
  obtain ⟨s', rfl, heq⟩ := unescape_dot hfirst
  obtain ⟨s'', hs'', heq'⟩ := unescape_dot hsecond
  obtain rfl := List.map_eq_nil_iff.mp hs''
  rw [heq, heq']
  rfl

section Dots

variable {keeps : Char → Bool} (h : keeps '%' = false) {cs : List Char}
include h

/-- Only a dot is encoded to what stands for one. -/
theorem eq_of_isHere_encode (hhere : isHere (encode keeps cs) = true) : cs = ['.'] :=
  Text.utf8_injective ((unescape_encode h cs).symm.trans (unescape_of_isHere hhere))

/-- Only two dots are encoded to what stands for them. -/
theorem eq_of_isUp_encode (hup : isUp (encode keeps cs) = true) : cs = ['.', '.'] :=
  Text.utf8_injective ((unescape_encode h cs).symm.trans (unescape_of_isUp hup))

end Dots

/-! ## Segments -/

/-- A segment without the characters that are dropped leads neither nowhere nor up. -/
def IsPlain (segment : List Char) : Prop :=
  clean segment ≠ ['.'] ∧ clean segment ≠ ['.', '.']

theorem inSegment_percent (special : Bool) : inSegment special '%' = false := by
  cases special <;> rfl

theorem inSegment_slash (special : Bool) : inSegment special '/' = false := by
  cases special <;> rfl

theorem inSegment_question (special : Bool) : inSegment special '?' = false := by
  cases special <;> rfl

/-- The text that segments add to a path. -/
def addedText (special : Bool) (segments : List (List Char)) : List Char :=
  segments.flatMap fun s => '/' :: encode (inSegment special) (clean s)

/-- A plain segment is added behind a slash, and no drive is named behind a segment. -/
theorem addSegment_of_plain {ofFile special : Bool} {path : List Char} (hpath : 1 < path.length)
    {s : List Char} (hs : IsPlain s) : addSegment ofFile special path (String.ofList s) =
      path ++ '/' :: encode (inSegment special) (clean s) := by
  have hne : path ≠ ['/'] := by
    rintro rfl
    simp at hpath
  have hbehind : (path ++ ['/'] == ['/']) = false := by
    refine beq_eq_false_iff_ne.mpr fun heq => ?_
    have hlength := congrArg List.length heq
    simp only [List.length_append, List.length_singleton] at hlength
    omega
  have hdots : ¬(String.ofList s = "." ∨ String.ofList s = "..") := by
    rintro (h | h)
    · exact hs.1 (by rw [← String.toList_ofList (l := s), h]; rfl)
    · exact hs.2 (by rw [← String.toList_ofList (l := s), h]; rfl)
  have hup : isUp (encode (inSegment special) (clean s)) = false :=
    Bool.eq_false_iff.mpr fun h => hs.2 (eq_of_isUp_encode (inSegment_percent special) h)
  have hhere : isHere (encode (inSegment special) (clean s)) = false :=
    Bool.eq_false_iff.mpr fun h => hs.1 (eq_of_isHere_encode (inSegment_percent special) h)
  simp [addSegment, hdots, hne, hbehind, Step.ofSegment, hup, hhere, land]

theorem foldl_addSegment {ofFile special : Bool} {path : List Char} (hpath : 1 < path.length)
    {segments : List (List Char)} (h : ∀ s ∈ segments, IsPlain s) :
    (segments.map String.ofList).foldl (addSegment ofFile special) path =
      path ++ addedText special segments := by
  induction segments generalizing path with
  | nil => exact (List.append_nil path).symm
  | cons s segments ih =>
    rw [List.map_cons, List.foldl_cons, addSegment_of_plain hpath (h s List.mem_cons_self),
      ih (by simp; omega) fun s hs => h s (List.mem_cons_of_mem _ hs), addedText, addedText,
      List.flatMap_cons, List.append_assoc]

theorem not_mem_encode {special : Bool} {c : Char} (hkeeps : inSegment special c = false)
    (hescape : inEscape c = false) (cs : List Char) : c ∉ encode (inSegment special) cs := by
  intro h
  obtain h | h := keeps_of_mem_encode h
  · rw [hkeeps] at h
    cases h
  · rw [hescape] at h
    cases h

/-- The encoded segments are the pieces behind the slashes that they are added with. -/
theorem pieces_addedText (special : Bool) (segments : List (List Char)) :
    Path.pieces '/' (addedText special segments) =
      [] :: (segments.map clean).map (encode (inSegment special)) := by
  have hslash (cs : List Char) : Path.pieces '/' ('/' :: cs) = [] :: Path.pieces '/' cs :=
    Path.pieces_append_cons List.not_mem_nil cs
  induction segments with
  | nil => rfl
  | cons s segments ih =>
    have hs : '/' ∉ encode (inSegment special) (clean s) :=
      not_mem_encode (inSegment_slash special) (by decide) (clean s)
    rw [addedText, List.flatMap_cons, List.cons_append, hslash, List.map_cons, List.map_cons]
    refine congrArg _ ?_
    cases segments with
    | nil =>
      rw [List.flatMap_nil, List.append_nil, Path.pieces_eq_splitOn,
        List.splitOn_eq_singleton hs]
      rfl
    | cons s' segments =>
      rw [addedText, List.flatMap_cons, List.cons_append, hslash] at ih
      rw [List.flatMap_cons, List.cons_append, Path.pieces_append_cons hs, (List.cons.inj ih).2]

/-- The segments, without the characters that are dropped, are read off the text that they add. -/
theorem addedText_inj {special : Bool} {segments segments' : List (List Char)} :
    addedText special segments = addedText special segments' ↔
      segments.map clean = segments'.map clean := by
  constructor
  · intro h
    have hpieces := congrArg (Path.pieces '/') h
    rw [pieces_addedText, pieces_addedText] at hpieces
    exact List.map_injective_iff.mpr (encode_injective (inSegment_percent special))
      (List.cons.inj hpieces).2
  · intro h
    have htext (segments : List (List Char)) : addedText special segments =
        (segments.map clean).flatMap fun s => '/' :: encode (inSegment special) s := by
      rw [addedText, List.flatMap_map]
    rw [htext, htext, h]

theorem question_not_mem_addedText (special : Bool) (segments : List (List Char)) :
    '?' ∉ addedText special segments := by
  intro h
  obtain ⟨s, -, hs⟩ := List.mem_flatMap.mp h
  cases hs with
  | tail _ hs =>
    exact not_mem_encode (inSegment_question special) (by decide) (clean s) hs

end Url

end ContextIndex
