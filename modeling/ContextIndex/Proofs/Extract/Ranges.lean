import Mathlib
import ContextIndex.Extract.Model
import ContextIndex.Proofs.Extract.Kept

/-!
# Ranges in a reply

An entry of a reply may leave out its last line, or give one before its first; either way its range
is just the first line.  A last line behind the end of the file is not put right.  The filter drops
such an entry, so it is as if the reply had not listed it, and keeps every other one that is in order
and the first with its name and first line, with the range it came with (`declarations_ranges`).
-/

namespace ContextIndex.Extract.Model

variable {lineCount : Nat}

/-! ## Entries and declarations -/

/-- An entry has a name that the filter accepts, a known kind, and a first line in a file with this
many lines. -/
structure Entry.Locates (lineCount : Nat) (e : Entry) (name : String) (kind : SymbolKind)
    (first : Nat) : Prop where
  name_eq : e.name = some name
  identifier : isIdentifier name = true
  allowed : isDenied name = false
  kind_eq : e.kind.bind SymbolKind.parse? = some kind
  first_eq : e.first = some first
  inside : 1 ≤ first ∧ first ≤ lineCount

/-- The declaration that such an entry stands for. -/
def Entry.located (e : Entry) (name : String) (kind : SymbolKind) (first : Nat) : Declaration where
  name := name
  kind := kind
  first := first
  last := max (e.last.getD first) first
  signature := e.signature.filter (· ≠ "")

section Entries

variable {e : Entry} {name : String} {kind : SymbolKind} {first : Nat}

theorem Entry.Locates.declaration? (h : e.Locates lineCount name kind first) :
    e.declaration? = some (e.located name kind first) := by
  obtain ⟨word, hword, hkind⟩ := Option.bind_eq_some_iff.mp h.kind_eq
  simp [Entry.declaration?, h.name_eq, hword, hkind, h.first_eq, Entry.located]

theorem Entry.Locates.fits_iff (h : e.Locates lineCount name kind first) :
    Fits lineCount (e.located name kind first) ↔ max (e.last.getD first) first ≤ lineCount := by
  constructor
  · intro hfits
    exact hfits.range.2.2
  · intro hlast
    exact ⟨h.identifier, h.allowed, h.inside.1, le_max_right _ _, hlast⟩

/-- A declaration has the name and the first line of its entry. -/
theorem Entry.head_of_declaration? {d : Declaration} (h : e.declaration? = some d) :
    e.name = some d.name ∧ e.first = some d.first := by
  simp only [Entry.declaration?, Option.bind_eq_bind, Option.bind_eq_some_iff] at h
  obtain ⟨name, hname, _, -, _, -, first, hfirst, hend⟩ := h
  cases hend
  exact ⟨hname, hfirst⟩

end Entries

/-! ## Entries among others -/

theorem kind_placeIn (containers : List Declaration) (d : Declaration) :
    (placeIn containers d).kind = d.kind ∨
      d.kind = .function ∧ (placeIn containers d).kind = .method := by
  unfold placeIn
  split
  · exact .inl rfl
  · by_cases hkind : d.kind = .function
    · exact .inr ⟨hkind, if_pos hkind⟩
    · exact .inl (if_neg hkind)

/-- What does not count may as well not be there. -/
theorem settle_append_cons {ds es : List Declaration} {d : Declaration}
    (h : ¬Fits lineCount d) : settle (ds ++ d :: es) lineCount = settle (ds ++ es) lineCount := by
  have hd : isAcceptable lineCount d = false := by
    rw [← Bool.not_eq_true, isAcceptable_iff]
    exact h
  unfold settle
  rw [List.filter_append, List.filter_append, List.filter_cons, hd]
  rfl

/-- A declaration that counts leads if none before it has its name and its first line. -/
theorem leads_append_cons {ds : List Declaration} {d : Declaration} (es : List Declaration)
    (h : Fits lineCount d) (hfirst : ∀ c ∈ ds, ¬(c.name = d.name ∧ c.first = d.first)) :
    Leads lineCount (ds ++ d :: es) d ds.length := by
  refine ⟨by simp, h, fun j c hj hc _ => hfirst c ?_⟩
  rw [List.getElem?_append_left hj] at hc
  exact List.mem_of_getElem? hc

section Replies

variable {t : Http.Transport} {a : Access} {content language reply : String}
  {before after : List Entry} {e : Entry} {name : String} {kind : SymbolKind} {first : Nat}

theorem declarations_of_listed {es : List Entry}
    (hreply : (request? a content language).bind (complete? t) = some reply)
    (hlisted : listed? reply.toList = some es) : declarations t a content language =
      settle (es.filterMap Entry.declaration?) (Text.countLines content.toList) := by
  rw [declarations, rawDeclarations, hreply]
  dsimp only
  rw [declarationsIn, hlisted, Option.getD_some]

/-- An entry in order that is the first with its name and first line is kept with its range if that
ends in the file, and then a function may have become a method.  If its range goes on behind the end
of the file, all is as if the reply had not listed it. -/
theorem declarations_ranges (hreply : (request? a content language).bind (complete? t) = some reply)
    (hlisted : listed? reply.toList = some (before ++ e :: after))
    (he : e.Locates (Text.countLines content.toList) name kind first)
    (hfirst : ∀ x ∈ before, ¬(x.name = some name ∧ x.first = some first)) :
    (max (e.last.getD first) first ≤ Text.countLines content.toList →
      ∃ d ∈ declarations t a content language, d.name = name ∧ d.first = first ∧
        d.last = max (e.last.getD first) first ∧ d.signature = e.signature.filter (· ≠ "") ∧
        (d.kind = kind ∨ kind = .function ∧ d.kind = .method)) ∧
    (Text.countLines content.toList < max (e.last.getD first) first →
      declarations t a content language =
        settle ((before ++ after).filterMap Entry.declaration?) (Text.countLines content.toList)) := by
  rw [declarations_of_listed hreply hlisted, List.filterMap_append, List.filterMap_append,
    List.filterMap_cons, he.declaration?]
  dsimp only
  constructor
  · intro hlast
    have hbefore : ∀ c ∈ before.filterMap Entry.declaration?,
        ¬(c.name = (e.located name kind first).name ∧ c.first = (e.located name kind first).first) := by
      intro c hc
      obtain ⟨x, hx, hxc⟩ := List.mem_filterMap.mp hc
      obtain ⟨hname, hline⟩ := Entry.head_of_declaration? hxc
      rintro ⟨hcname, hcline⟩
      exact hfirst x hx ⟨hname.trans (congrArg some hcname), hline.trans (congrArg some hcline)⟩
    have hkept := mem_kept.mpr ⟨_, leads_append_cons (after.filterMap Entry.declaration?)
      (he.fits_iff.mpr hlast) hbefore⟩
    exact ⟨_, List.mem_map_of_mem hkept, placeIn_name _ _, (placeIn_range _ _).1,
      (placeIn_range _ _).2, placeIn_signature _ _, kind_placeIn _ _⟩
  · intro hlast
    exact settle_append_cons fun hfits => absurd (he.fits_iff.mp hfits) (Nat.not_le_of_lt hlast)

end Replies

/-! ## A range that goes on behind the file -/

/-- A reply about a file of one line, with an entry that says two. -/
def overrunReply : String :=
  "\x7b\"symbols\":[\x7b\"name\":\"a\",\"kind\":\"fn\",\"startLine\":1,\"endLine\":2\x7d," ++
    "\x7b\"name\":\"b\",\"kind\":\"fn\",\"startLine\":1\x7d]\x7d"

/-- A server that gives this reply to everything. -/
def overrunServer : Http.Transport := fun _ => some ⟨200,
  "\x7b\"choices\":[\x7b\"message\":\x7b\"content\":\"\x7b\\\"symbols\\\":[" ++
    "\x7b\\\"name\\\":\\\"a\\\",\\\"kind\\\":\\\"fn\\\",\\\"startLine\\\":1,\\\"endLine\\\":2\x7d," ++
    "\x7b\\\"name\\\":\\\"b\\\",\\\"kind\\\":\\\"fn\\\",\\\"startLine\\\":1\x7d]\x7d\"\x7d\x7d]\x7d"⟩

/-- How it is reached. -/
def overrunAccess : Access := ⟨"https://api.openai.com/v1/chat/completions", "k", "m"⟩

/-- The entry that says two lines. -/
def overrun : Entry := ⟨some "a", some "fn", some 1, some 2, none⟩

/-- The entry that says one. -/
def fitting : Entry := ⟨some "b", some "fn", some 1, none, none⟩

theorem overrun_locates : overrun.Locates 1 "a" .function 1 :=
  ⟨rfl, by decide +kernel, by decide +kernel, by decide +kernel, rfl, by decide⟩

theorem fitting_locates : fitting.Locates 1 "b" .function 1 :=
  ⟨rfl, by decide +kernel, by decide +kernel, by decide +kernel, rfl, by decide⟩

-- the texts are evaluated character by character, and each character is a level of recursion
set_option maxRecDepth 20000 in
theorem complete?_overrun :
    (request? overrunAccess "x" "rust").bind (complete? overrunServer) = some overrunReply := by
  have hasked : (request? overrunAccess "x" "rust").isSome := by decide +kernel
  obtain ⟨request, hrequest⟩ := Option.isSome_iff_exists.mp hasked
  rw [hrequest, Option.bind_some]
  cbv

theorem listed?_overrun : listed? overrunReply.toList = some [overrun, fitting] := by
  cbv

theorem countLines_overrun : Text.countLines "x".toList = 1 := by decide +kernel

theorem declarations_ranges_overrun :
    (∃ d ∈ declarations overrunServer overrunAccess "x" "rust", d.name = "b" ∧ d.first = 1 ∧
      d.last = 1) ∧
    declarations overrunServer overrunAccess "x" "rust" =
      settle ([fitting].filterMap Entry.declaration?) 1 := by
  have hsecond : listed? overrunReply.toList = some ([overrun] ++ fitting :: []) := listed?_overrun
  have hfirst : listed? overrunReply.toList = some ([] ++ overrun :: [fitting]) := listed?_overrun
  have hkept := (declarations_ranges complete?_overrun hsecond
    (countLines_overrun.symm ▸ fitting_locates) (by simp [overrun])).1
  have hdropped := (declarations_ranges complete?_overrun hfirst
    (countLines_overrun.symm ▸ overrun_locates) (by simp)).2
  rw [countLines_overrun] at hkept hdropped
  obtain ⟨d, hd, hname, hline, hlast, -⟩ := hkept (by decide)
  exact ⟨⟨d, hd, hname, hline, hlast⟩, hdropped (by decide)⟩

/-- An entry that goes on behind the end of the file is not cut off there. -/
theorem declarations_overrun :
    (request? overrunAccess "x" "rust").bind (complete? overrunServer) = some overrunReply ∧
      listed? overrunReply.toList = some [overrun, fitting] ∧
      overrun.Locates 1 "a" .function 1 ∧ Text.countLines "x".toList = 1 ∧
      declarations overrunServer overrunAccess "x" "rust" =
        [⟨"b", .function, 1, 1, none, none⟩] := by
  refine ⟨complete?_overrun, listed?_overrun, overrun_locates, countLines_overrun, ?_⟩
  rw [declarations_of_listed complete?_overrun listed?_overrun, countLines_overrun]
  cbv

end ContextIndex.Extract.Model
