import Mathlib
import ContextIndex.Extract.Model.Reply
import ContextIndex.Proofs.Json.Quotes
import ContextIndex.Proofs.Pattern.Search

/-!
# Fenced replies

A reply may stand in a fence, with words before it and anything behind it.  Such a reply is no JSON,
since a line ends right behind the backticks that open the fence.  The pattern for fences then finds
exactly what the reply would be without one (`fenced?_fenced`): nothing before the fence has a
backtick, the white space behind the tag ends where the body starts, and the first three backticks
behind that are those that close the fence.  Hence a fence changes nothing (`fenced_eq_bare`).
-/

namespace ContextIndex.Extract.Model

open Pattern

/-- The three backticks of a fence. -/
def ticks : List Char := "```".toList

/-! ## Trimming -/

section Trimming

variable {u v cs : List Char} {c d : Char}

theorem trimStart_append (hc : Text.isSpace c = false) :
    ∃ u', Text.trimStart (u ++ c :: v) = u' ++ c :: v := by
  unfold Text.trimStart
  rw [List.dropWhile_append]
  split
  · exact ⟨[], by simp [hc]⟩
  · exact ⟨_, rfl⟩

theorem trimEnd_append (hc : Text.isSpace c = false) :
    ∃ v', Text.trimEnd (u ++ c :: v) = u ++ c :: v' := by
  obtain ⟨w, hw⟩ := trimStart_append (u := v.reverse) (v := u.reverse) hc
  refine ⟨w.reverse, ?_⟩
  unfold Text.trimEnd
  unfold Text.trimStart at hw
  rw [List.reverse_append, List.reverse_cons, List.append_assoc, List.singleton_append, hw]
  simp

/-- What stands between two characters that are no white space is not trimmed. -/
theorem trim_append {m : List Char} (hc : Text.isSpace c = false) (hd : Text.isSpace d = false) :
    ∃ u' v', Text.trim (u ++ c :: (m ++ d :: v)) = u' ++ c :: (m ++ d :: v') := by
  obtain ⟨u', hu⟩ := trimStart_append (u := u) (v := m ++ d :: v) hc
  obtain ⟨v', hv⟩ := trimEnd_append (u := u' ++ c :: m) (v := v) hd
  refine ⟨u', v', ?_⟩
  unfold Text.trim
  rw [hu, show u' ++ c :: (m ++ d :: v) = u' ++ c :: m ++ d :: v by simp, hv]
  simp

theorem trimStart_of_head? (hc : Text.isSpace c = false) (hcs : cs.head? = some c) :
    Text.trimStart cs = cs := by
  obtain ⟨rest, rfl⟩ := List.head?_eq_some_iff.mp hcs
  exact List.dropWhile_cons_of_neg (by simp [hc])

theorem trim_of_ends (hc : Text.isSpace c = false) (hd : Text.isSpace d = false)
    (hfirst : cs.head? = some c) (hlast : cs.getLast? = some d) : Text.trim cs = cs := by
  have hrev : Text.trimStart cs.reverse = cs.reverse :=
    trimStart_of_head? hd (by rw [List.head?_reverse, hlast])
  unfold Text.trimStart at hrev
  unfold Text.trim Text.trimEnd
  rw [trimStart_of_head? hc hfirst, hrev, List.reverse_reverse]

/-- What is trimmed is white space. -/
theorem exists_trim (cs : List Char) : ∃ u v, cs = u ++ (Text.trim cs ++ v) ∧
    (∀ c ∈ u, Text.isSpace c = true) ∧ ∀ c ∈ v, Text.isSpace c = true := by
  refine ⟨cs.takeWhile Text.isSpace,
    ((Text.trimStart cs).reverse.takeWhile Text.isSpace).reverse, ?_, fun c hc => ?_, fun c hc => ?_⟩
  · unfold Text.trim Text.trimEnd
    rw [← List.reverse_append, List.takeWhile_append_dropWhile, List.reverse_reverse]
    exact List.takeWhile_append_dropWhile.symm
  · exact List.mem_takeWhile_imp hc
  · exact List.mem_takeWhile_imp (List.mem_reverse.mp hc)

end Trimming

/-! ## What may stand in a fence -/

/-- A text that starts and ends as an object or a list of JSON does, and that could not close a
fence. -/
structure Fenceable (body : List Char) : Prop where
  first : body.head? = some '\x7b' ∨ body.head? = some '['
  last : body.getLast? = some '\x7d' ∨ body.getLast? = some ']'
  unfenced : ¬ticks <:+: body

section Bodies

variable {body : List Char} {o : Nat} {b : Option Char}

theorem Fenceable.trim_eq (hbody : Fenceable body) : Text.trim body = body := by
  obtain ⟨hfirst | hfirst, hlast | hlast, -⟩ := hbody <;>
    exact trim_of_ends (by decide) (by decide) hfirst hlast

/-- A fence could start only at three backticks. -/
theorem search_fence_eq_none {cs : List Char} (hcs : ¬ticks <+: cs) :
    search fence stopHere o b cs = none := by
  have hnot : ticks.isPrefixOf cs = false := by
    rw [← Bool.not_eq_true, List.isPrefixOf_iff_prefix]
    exact hcs
  rw [fence, search_all_cons, search_text, show "```".toList = ticks from rfl, hnot]
  rfl

theorem Fenceable.fenced?_eq_none (hbody : Fenceable body) : fenced? body = none := by
  have hnone : fence.matches body = [] := by
    refine matches_eq_nil fun u v huv o b => search_fence_eq_none fun hv => hbody.unfenced ?_
    exact huv ▸ hv.isInfix.trans (List.suffix_append u v).isInfix
  rw [fenced?, hnone]
  rfl

/-! ## Where a fence closes -/

/-- The place where the body of a fence ends: an optional line break and three backticks. -/
def closing : Continuation :=
  search (all [.nameStop, .maybe (.char '\n'), .text "```"]) stopHere

/-- A fence ends at three backticks. -/
theorem ticks_prefix_of_search {k : Continuation} {cs : List Char} {r : Reach}
    (h : search (text "```") k o b cs = some r) : ticks <+: cs := by
  obtain ⟨rest, rfl, -⟩ := exists_of_search_text h
  exact List.prefix_append ticks rest

/-- Three backticks that begin in a text with another last character stand in it. -/
theorem ticks_prefix_of_append {v rest : List Char} (hv : v ≠ []) (hlast : v.getLast? ≠ some '\x60')
    (h : ticks <+: v ++ rest) : ticks <+: v := by
  refine (List.prefix_or_prefix_of_prefix h (List.prefix_append v rest)).resolve_right fun hle => ?_
  have hmem : v.getLast hv ∈ ticks := hle.subset (List.getLast_mem hv)
  have hticks : ∀ c ∈ ticks, c = '\x60' := by simp [ticks]
  exact hlast (by rw [List.getLast?_eq_some_getLast hv, hticks _ hmem])

/-- No fence closes before the body is over. -/
theorem Fenceable.closing_eq_none (hbody : Fenceable body) {u v rest : List Char}
    (huv : body = u ++ v) (hv : v ≠ []) : closing o b (v ++ rest) = none := by
  have hlast : v.getLast? = some '\x7d' ∨ v.getLast? = some ']' := by
    rw [← List.getLast?_append_of_ne_nil u hv, ← huv]
    exact hbody.last
  have hnot {w : List Char} (hw : w ≠ []) (hsuffix : w <:+ v) : ¬ticks <+: w ++ rest := by
    intro hticks
    have hend : w.getLast? ≠ some '\x60' := by
      obtain ⟨x, rfl⟩ := hsuffix
      rw [List.getLast?_append_of_ne_nil x hw] at hlast
      obtain hlast | hlast := hlast <;> rw [hlast] <;> decide
    refine hbody.unfenced ((ticks_prefix_of_append hw hend hticks).isInfix.trans ?_)
    exact huv ▸ (hsuffix.trans (List.suffix_append u v)).isInfix
  refine Option.eq_none_iff_forall_ne_some.mpr fun r hr => ?_
  rw [closing, search_all_cons, search_nameStop, Option.map_eq_some_iff] at hr
  obtain ⟨m, hm, -⟩ := hr
  obtain ⟨used, w, hsplit, rfl | rfl, b, hticks⟩ := exists_of_maybe_char hm
  · -- behind a line break, which is not the end of the body
    obtain ⟨c, v, rfl⟩ := List.exists_cons_of_ne_nil hv
    obtain ⟨rfl, rfl⟩ := List.cons.inj hsplit
    have hv : v ≠ [] := by
      rintro rfl
      simp at hlast
    exact hnot hv (List.suffix_cons _ v) (ticks_prefix_of_search (b := b) hticks)
  · rw [List.nil_append] at hsplit
    exact hnot hv (List.suffix_refl v) (hsplit ▸ ticks_prefix_of_search (b := b) hticks)

/-- A fence closes at a line break with three backticks behind it. -/
theorem closing_ticks (rest : List Char) :
    closing o b ('\n' :: ticks ++ rest) = some ⟨o + 4, o + 4, o⟩ := by
  simp [closing, char, CharClass.holds, search_text, ticks, List.isPrefixOf, stopHere]

/-! ## What a fence holds -/

/-- Behind the white space, a fence that closes behind its body holds that body. -/
theorem Fenceable.search_body (hbody : Fenceable body) (rest : List Char) :
    search (all [.maybe (.char '\n'), .nameStart, .few (.noneOf []), .nameStop,
      .maybe (.char '\n'), .text "```"]) stopHere o b (body ++ ('\n' :: ticks ++ rest)) =
      some ⟨o + body.length + 4, o, o + body.length⟩ := by
  have hfew : searchFew (.noneOf []) closing o b (body ++ ('\n' :: ticks ++ rest)) =
      some ⟨o + body.length + 4, o + body.length + 4, o + body.length⟩ :=
    searchFew_append (fun _ _ => rfl) (fun u v huv hv o b => hbody.closing_eq_none huv hv)
      (closing_ticks rest)
  have hbreak {k : Continuation} :
      search (.char '\n') k o b (body ++ ('\n' :: ticks ++ rest)) = none := by
    obtain ⟨hfirst | hfirst, -, -⟩ := hbody <;>
    · obtain ⟨more, rfl⟩ := List.head?_eq_some_iff.mp hfirst
      simp [char, CharClass.holds]
  rw [search_all_cons, search_maybe, hbreak, Option.none_or, search_all_cons, search_nameStart,
    search_all_cons, search_few, ← closing, hfew]
  rfl

/-- Behind its tag, a fence that closes behind its body holds that body. -/
theorem Fenceable.search_tagged (hbody : Fenceable body) (rest : List Char) :
    search (all [.many .space, .maybe (.char '\n'), .nameStart, .few (.noneOf []), .nameStop,
      .maybe (.char '\n'), .text "```"]) stopHere o b ('\n' :: body ++ ('\n' :: ticks ++ rest)) =
      some ⟨o + 1 + body.length + 4, o + 1, o + 1 + body.length⟩ := by
  have hspace : (body ++ ('\n' :: ticks ++ rest)).head?.any CharClass.space.holds = false := by
    obtain ⟨hfirst | hfirst, -, -⟩ := hbody <;>
    simp [List.head?_append, hfirst, CharClass.holds, Text.isSpace]
  rw [search_all_cons, search_many]
  change searchMany .space _ o b (['\n'] ++ (body ++ ('\n' :: ticks ++ rest))) = _
  exact searchMany_append (by simp [CharClass.holds, Text.isSpace]) hspace
    (hbody.search_body rest)

end Bodies

/-- A fence is opened by backticks, a tag, white space and a line break, the last three as far as they
are there, and then it holds what is marked. -/
theorem exists_of_search_fence {o : Nat} {b : Option Char} {cs : List Char} {r : Reach}
    (h : search fence stopHere o b cs = Option.some r) :
    ∃ tag space line held rest, cs = ticks ++ tag ++ space ++ line ++ (held ++ rest) ∧
      (tag = "json".toList ∨ tag = []) ∧ (∀ c ∈ space, Text.isSpace c = true) ∧
      (line = ['\n'] ∨ line = []) ∧
      r.nameStart = o + (ticks ++ tag ++ space ++ line).length ∧
      r.nameStop = r.nameStart + held.length := by
  rw [fence, search_all_cons] at h
  obtain ⟨cs, rfl, htagged⟩ := exists_of_search_text h
  obtain ⟨tag, cs, rfl, htag, _, hspaced⟩ := exists_of_maybe_text htagged
  obtain ⟨space, cs, rfl, hspace, hbroken⟩ := exists_of_searchMany hspaced
  obtain ⟨line, cs, rfl, hline, _, hmarked⟩ := exists_of_maybe_char hbroken
  rw [search_all_cons, search_nameStart, Option.map_eq_some_iff] at hmarked
  obtain ⟨m, hheld, rfl⟩ := hmarked
  obtain ⟨held, cs, rfl, -, hstopped⟩ := exists_of_searchFew hheld
  rw [search_all_cons, search_nameStop, Option.map_eq_some_iff] at hstopped
  obtain ⟨n, -, rfl⟩ := hstopped
  refine ⟨tag, space, line, held, cs, ?_, htag, hspace, hline, ?_, rfl⟩
  · simp only [ticks, List.append_assoc]
  · simp only [ticks, List.length_append, Nat.add_assoc]

/-- What a fence holds stands behind a backtick, with no quote and no backslash in between. -/
theorem exists_of_fenced? {cs body : List Char} (h : fenced? cs = Option.some body) :
    ∃ u v w, cs = u ++ '\x60' :: (v ++ (body ++ w)) ∧ '"' ∉ v ∧ '\\' ∉ v := by
  obtain ⟨m, hm, hbody⟩ := Option.map_eq_some_iff.mp h
  obtain ⟨u, v, rfl, -, hfence⟩ := exists_of_mem_matches (List.mem_of_head? hm)
  obtain ⟨tag, space, line, held, w, rfl, htag, hspace, hline, hstart, hstop⟩ :=
    exists_of_search_fence hfence
  rw [← List.length_append] at hstart
  rw [Layout.slice_ofText, ← List.append_assoc, List.drop_left' hstart.symm, hstop,
    Nat.add_sub_cancel_left, List.take_left] at hbody
  subst hbody
  have hno {c : Char} (hc : Text.isSpace c = false) (htags : c ∉ '\n' :: '\x60' :: "json".toList) :
      c ∉ '\x60' :: '\x60' :: (tag ++ space ++ line) := by
    have hnot : c ∉ space := fun hmem => by
      rw [hspace c hmem] at hc
      cases hc
    obtain rfl | rfl := htag <;> obtain rfl | rfl := hline <;> simp_all
  exact ⟨u, '\x60' :: '\x60' :: (tag ++ space ++ line), w, by simp [ticks], hno (by decide) (by simp),
    hno (by decide) (by simp)⟩

/-! ## Replies in a fence -/

/-- A text in a fence, and what comes behind it. -/
def inFence (tag body after : List Char) : List Char :=
  ticks ++ tag ++ ('\n' :: body ++ ('\n' :: ticks ++ after))

section Replies

variable {before body tag after : List Char}

/-- A fence is opened with the name of the language or without. -/
theorem Fenceable.search_fence (hbody : Fenceable body) (htag : tag = "json".toList ∨ tag = [])
    (o : Nat) (b : Option Char) (after : List Char) :
    search fence stopHere o b (inFence tag body after) =
      some ⟨o + 3 + tag.length + 1 + body.length + 4, o + 3 + tag.length + 1,
        o + 3 + tag.length + 1 + body.length⟩ := by
  have hopen : ticks.isPrefixOf (inFence tag body after) = true := by
    rw [List.isPrefixOf_iff_prefix, inFence, List.append_assoc]
    exact List.prefix_append ..
  rw [fence, search_all_cons, search_text, show "```".toList = ticks from rfl, if_pos hopen,
    inFence, List.append_assoc, List.drop_left, search_all_cons, search_maybe, search_text]
  obtain rfl | rfl := htag
  · rw [if_pos (List.isPrefixOf_iff_prefix.mpr (List.prefix_append ..)), List.drop_left,
      hbody.search_tagged, Option.some_or]
    rfl
  · rw [if_neg (by simp), Option.none_or, List.nil_append, hbody.search_tagged]
    rfl

/-- The first fence of a text is the one behind words without backticks. -/
theorem fenced?_fenced (hbefore : '\x60' ∉ before) (hbody : Fenceable body)
    (htag : tag = "json".toList ∨ tag = []) :
    fenced? (before ++ inFence tag body after) = some body := by
  have hnone : ∀ c ∈ before, ∀ o b cs, search fence stopHere o b (c :: cs) = none := by
    intro c hc o b cs
    refine search_fence_eq_none fun hticks => ?_
    obtain rfl : '\x60' = c := (List.cons_prefix_cons.mp hticks).1
    exact hbefore hc
  have hfirst := head?_matches (p := fence) hnone fun b =>
    hbody.search_fence htag before.length b after
  have hsplit : before ++ inFence tag body after =
      before ++ ticks ++ tag ++ ['\n'] ++ (body ++ ('\n' :: ticks ++ after)) := by simp [inFence]
  have hlength : (before ++ ticks ++ tag ++ ['\n']).length = before.length + 3 + tag.length + 1 := by
    simp [ticks]
    omega
  rw [fenced?, hfirst, Option.map_some, Layout.slice_ofText, hsplit, List.drop_left' hlength,
    Nat.add_sub_cancel_left, List.take_left]

/-- A text with a fence in it is no JSON. -/
theorem entriesOf?_fenced (htag : tag = "json".toList ∨ tag = []) :
    entriesOf? (Text.trim (before ++ inFence tag body after)) = none := by
  obtain ⟨u, v, htrim⟩ := trim_append (u := before) (c := '\x60') (d := '\x60')
    (m := '\x60' :: '\x60' :: (tag ++ '\n' :: (body ++ ['\n']))) (v := '\x60' :: '\x60' :: after)
    (by decide) (by decide)
  have hsplit : before ++ inFence tag body after =
      before ++ '\x60' :: ('\x60' :: '\x60' :: (tag ++ '\n' :: (body ++ ['\n'])) ++
        '\x60' :: '\x60' :: '\x60' :: after) := by simp [inFence, ticks]
  have hquote : '"' ∉ '\x60' :: '\x60' :: tag := by
    obtain rfl | rfl := htag <;> simp
  have hparse := Json.parseChars?_eq_none (u := u) (w := body ++ ['\n'] ++ '\x60' :: v) hquote
  have hjoin : u ++ '\x60' :: ('\x60' :: '\x60' :: (tag ++ '\n' :: (body ++ ['\n'])) ++ '\x60' :: v) =
      u ++ '\x60' :: ('\x60' :: '\x60' :: tag ++ '\n' :: (body ++ ['\n'] ++ '\x60' :: v)) := by simp
  rw [hsplit, htrim, hjoin, entriesOf?, hparse, Option.bind_none]

theorem listed?_fenced (hbefore : '\x60' ∉ before) (hbody : Fenceable body)
    (htag : tag = "json".toList ∨ tag = []) :
    listed? (before ++ inFence tag body after) = listed? body := by
  rw [listed?, entriesOf?_fenced htag, fenced?_fenced hbefore hbody htag, Option.none_or,
    Option.bind_some, listed?, hbody.trim_eq, hbody.fenced?_eq_none, Option.bind_none,
    Option.or_none]

/-- A reply means the same in a fence as it does without one, whatever is said before the fence
without backticks and whatever comes behind it. -/
theorem fenced_eq_bare {opening : List Char}
    (hopening : opening = "```json\n".toList ∨ opening = "```\n".toList)
    (hbefore : '\x60' ∉ before) (hfirst : body.head? = some '\x7b' ∨ body.head? = some '[')
    (hlast : body.getLast? = some '\x7d' ∨ body.getLast? = some ']')
    (hunfenced : ¬"```".toList <:+: body) :
    declarationsIn (before ++ opening ++ body ++ "\n```".toList ++ after) = declarationsIn body := by
  have htag : ∃ tag, opening = ticks ++ tag ++ ['\n'] ∧ (tag = "json".toList ∨ tag = []) := by
    obtain rfl | rfl := hopening
    · exact ⟨_, by simp [ticks], .inl rfl⟩
    · exact ⟨_, by simp [ticks], .inr rfl⟩
  obtain ⟨tag, rfl, htag⟩ := htag
  have hsplit : before ++ (ticks ++ tag ++ ['\n']) ++ body ++ "\n```".toList ++ after =
      before ++ inFence tag body after := by simp [inFence, ticks]
  rw [hsplit, declarationsIn, listed?_fenced hbefore ⟨hfirst, hlast, hunfenced⟩ htag, declarationsIn]

end Replies

/-- A reply with backticks in a string. -/
def tickedReply : List Char :=
  ("\x7b\"symbols\": [\x7b\"name\": \"run\", \"kind\": \"method\", \"startLine\": 4, " ++
    "\"signature\": \"``run\"\x7d]\x7d").toList

/-- The words before it open a string, and there is another fence behind it. -/
theorem fenced_eq_bare_ticked :
    '\x60' ∉ "Here \x7b\"name\": \"".toList ∧
    tickedReply.head? = some '\x7b' ∧ tickedReply.getLast? = some '\x7d' ∧
    ¬"```".toList <:+: tickedReply ∧
    declarationsIn ("Here \x7b\"name\": \"".toList ++ "```json\n".toList ++ tickedReply ++
      "\n```".toList ++ "\n```\n[]\n```".toList) = declarationsIn tickedReply ∧
    declarationsIn tickedReply = [⟨"run", .method, 4, 4, some "``run", none⟩] := by
  have hbefore : '\x60' ∉ "Here \x7b\"name\": \"".toList := by decide +kernel
  have hfirst : tickedReply.head? = some '\x7b' := by decide +kernel
  have hlast : tickedReply.getLast? = some '\x7d' := by decide +kernel
  have hunfenced : ¬"```".toList <:+: tickedReply := by decide +kernel
  exact ⟨hbefore, hfirst, hlast, hunfenced,
    fenced_eq_bare (.inl rfl) hbefore (.inl hfirst) (.inl hlast) hunfenced, by decide +kernel⟩

end ContextIndex.Extract.Model
