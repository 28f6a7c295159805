import Mathlib
import ContextIndex.Proofs.Extract.Fences

/-!
# Fences in strings

A reply that is JSON may have a fence in its strings, and if the reply is no list of symbols, that
fence is looked at.  What it holds is cut out of the reply between two strings or inside of one, so
it has its own strings where the reply has none.  Those spell no kind of symbol
(`parse?_eq_none_of_bare`).  Hence nothing is declared there, and what a reply in JSON declares
depends on its value alone (`declarationsIn_of_parseChars?`).
-/

namespace ContextIndex

/-! ## Words for kinds -/

namespace SymbolKind

/-- The words that stand for a kind. -/
def kindWords : List String :=
  ["function", "fn", "func", "def", "method", "class", "struct", "interface", "trait", "protocol",
    "type", "typedef", "enum"]

theorem mem_kindWords {w : String} {k : SymbolKind} (h : ofWord? w = some k) : w ∈ kindWords := by
  unfold ofWord? at h
  split at h <;> simp_all [kindWords]

/-- A letter is the lower case of itself and of its capital only. -/
theorem eq_of_toLower {x c d : Char} (h : x.toLower = c) (hd : d.toNat + 32 = c.toNat) :
    x = c ∨ x = d := by
  unfold Char.toLower at h
  split at h
  · next hx =>
    right
    subst h
    have hfirst : 65 ≤ x.val.toNat := hx.1
    have hlast : x.val.toNat ≤ 90 := hx.2
    have hgap : ('a'.val - 'A'.val).toNat = 32 := by decide
    refine Char.ext (UInt32.toNat_inj.mp ?_)
    simp only [Char.toNat, UInt32.toNat_add] at hd
    omega
  · exact .inl h

/-- Letters of which no word of JSON has one, in either case. -/
theorem isBare_eq_false {x : Char} (h : x.toLower ∈ ['c', 'd', 'i', 'm', 'y']) :
    Json.isBare x = false := by
  simp only [List.mem_cons, List.not_mem_nil, or_false] at h
  obtain h | h | h | h | h := h
  · obtain rfl | rfl := eq_of_toLower (d := 'C') h (by decide) <;> decide
  · obtain rfl | rfl := eq_of_toLower (d := 'D') h (by decide) <;> decide
  · obtain rfl | rfl := eq_of_toLower (d := 'I') h (by decide) <;> decide
  · obtain rfl | rfl := eq_of_toLower (d := 'M') h (by decide) <;> decide
  · obtain rfl | rfl := eq_of_toLower (d := 'Y') h (by decide) <;> decide

/-- What may stand outside of the strings of a JSON text is no word for a kind. -/
theorem parse?_eq_none_of_bare {s : String} (h : Json.Bare s) : parse? s = none := by
  refine Option.eq_none_iff_forall_ne_some.mpr fun k hk => ?_
  have hchars : (Text.asciiLower s).toList = s.toList.map Char.toLower := by
    simp [Text.asciiLower]
  have hletters : ∀ w ∈ kindWords, w ≠ "fn" → ∃ c ∈ w.toList, c ∈ ['c', 'd', 'i', 'm', 'y'] := by
    simp [kindWords]
  by_cases hfn : Text.asciiLower s = "fn"
  · -- the letters of this word occur, but not one behind the other
    rw [hfn, show "fn".toList = ['f', 'n'] by simp] at hchars
    obtain ⟨x, xs, hs, hx, hxs⟩ := List.map_eq_cons_iff.mp hchars.symm
    obtain ⟨y, ys, rfl, hy, -⟩ := List.map_eq_cons_iff.mp hxs
    have hbare := h.isBare
    rw [hs] at hbare
    obtain rfl | rfl := eq_of_toLower (d := 'F') hx (by decide)
    · obtain rfl | rfl := eq_of_toLower (d := 'N') hy (by decide)
      · have hlexical := h.1
        rw [hs, Json.lexical_outside_cons (by decide)] at hlexical
        exact hlexical.1.2 ⟨rfl, rfl⟩
      · exact absurd (hbare 'N' (by simp)) (by decide)
    · exact absurd (hbare 'F' (by simp)) (by decide)
  · obtain ⟨c, hc, hletter⟩ := hletters _ (mem_kindWords hk) hfn
    rw [hchars] at hc
    obtain ⟨x, hx, rfl⟩ := List.mem_map.mp hc
    have hbare := h.isBare x hx
    rw [isBare_eq_false hletter] at hbare
    cases hbare

end SymbolKind

namespace Extract.Model

open Json (Part Within)

/-! ## Kinds in a list of symbols -/

/-- The kind of an entry is a string of that entry. -/
theorem part_of_kind {v : Json} {e : Entry} {w : String} (h : entry? v = some e)
    (hw : e.kind = some w) : Part (.string w) v := by
  simp only [Option.bind_eq_bind, entry?, Option.bind_eq_some_iff] at h
  obtain ⟨slots, hslots, h⟩ := h
  split at h
  · simp only [Option.bind_eq_some_iff] at h
    obtain ⟨_, -, word, hkind, _, -, _, -, _, -, hend⟩ := h
    cases hend
    subst hw
    rw [Json.eq_of_optional_text? hkind] at hslots
    exact Json.part_of_slots? hslots (by simp)
  · cases h

theorem within_of_entries? {v : Json} {es : List Entry} {e : Entry} {w : String}
    (h : entries? v = some es) (he : e ∈ es) (hw : e.kind = some w) : Within w v := by
  simp only [entries?, Option.bind_eq_bind, Option.bind_eq_some_iff] at h
  obtain ⟨slots, hslots, h⟩ := h
  split at h
  · next symbols =>
    cases symbols with
    | value l =>
      obtain ⟨items, rfl, hitems⟩ := Json.list?_eq_some h
      obtain ⟨item, hitem, hentry⟩ := exists_of_mem_mapM hitems he
      have hinside : Within w (.array items) := .item hitem ((part_of_kind hentry hw).within .here)
      exact (Json.part_of_slots? hslots List.mem_cons_self).within hinside
    | absent =>
      cases h
      cases he
    | ended =>
      cases h
      cases he
  · cases h

theorem declaration?_eq_none {e : Entry}
    (h : ∀ w, e.kind = some w → SymbolKind.parse? w = none) : e.declaration? = none := by
  refine Option.eq_none_iff_forall_ne_some.mpr fun d hd => ?_
  simp only [Entry.declaration?, Option.bind_eq_bind, Option.bind_eq_some_iff] at hd
  obtain ⟨_, -, w, hw, k, hk, -⟩ := hd
  rw [h w hw] at hk
  cases hk

/-! ## Replies in JSON -/

/-- Nothing is declared in a fence in a reply that is JSON. -/
theorem declaration?_of_fenced? {reply body : List Char} {v : Json} {es : List Entry}
    (h : Json.parseChars? (Text.trim reply) = some v) (hbody : fenced? reply = some body)
    (hes : entriesOf? body = some es) : ∀ e ∈ es, e.declaration? = none := by
  obtain ⟨x, hx, hentries⟩ := Option.bind_eq_some_iff.mp hes
  obtain ⟨u, w, hreply, hu, hw⟩ := exists_trim reply
  have hlexical := Json.lexical_of_parseChars? h hu hw
  rw [← hreply] at hlexical
  obtain ⟨a, b, c, rfl, hquote, hbackslash⟩ := exists_of_fenced? hbody
  have hinside : Json.Lexical .inside body := Json.lexical_of_append
    ((Json.lexical_inside_append hquote hbackslash).mp (Json.lexical_behind_backtick hlexical))
  intro e he
  refine declaration?_eq_none fun k hk => SymbolKind.parse?_eq_none_of_bare ?_
  exact Json.bare_of_parseChars? hx hinside k (within_of_entries? hentries he hk)

/-- What a reply in JSON declares depends on its value alone. -/
theorem declarationsIn_of_parseChars? {reply : List Char} {v : Json}
    (h : Json.parseChars? (Text.trim reply) = some v) :
    declarationsIn reply = ((entries? v).getD []).filterMap Entry.declaration? := by
  rw [declarationsIn, listed?, entriesOf?, h, Option.bind_some]
  cases hentries : entries? v with
  | some es => rw [Option.some_or]
  | none =>
    rw [Option.none_or]
    cases hfence : (fenced? reply).bind entriesOf? with
    | none => rfl
    | some es =>
      obtain ⟨body, hbody, hes⟩ := Option.bind_eq_some_iff.mp hfence
      exact List.filterMap_eq_nil_iff.mpr (declaration?_of_fenced? h hbody hes)

end Extract.Model

end ContextIndex
