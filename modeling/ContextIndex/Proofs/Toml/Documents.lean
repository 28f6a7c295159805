import ContextIndex.Proofs.Toml.Values
import ContextIndex.Toml.Decode
import Mathlib.Data.List.Forall2
import Mathlib.Data.List.TakeDrop

/-!
# Printed documents are parsed

A document that is printed is parsed to its pairs and tables, in their order (`parse_print?`), if its
names need no quotes and no table has two values under one name (`WellNamed`).

The parser goes through the lines with a draft of the document.  A pair goes to the table of the last
header, which is the last field of the draft, or to the draft itself while there is no header
(`Draft.At`).  Each printed line is a statement that adds what it writes and leaves the lines behind it
(`Leads`), with fuel for as many more as there are characters.

The fields of a document that is parsed are read into a record one after the other
(`ShowsPair.readField`, `ShowsSection.readField`).
-/

namespace ContextIndex.Toml

/-! ## Names -/

/-- A name that stands without quotes. -/
def IsBare (name : String) : Prop :=
  name ≠ "" ∧ name.toList.all isNameChar = true

instance (name : String) : Decidable (IsBare name) :=
  inferInstanceAs (Decidable (_ ∧ _))

theorem skipBlanks_cons {c : Char} (h : isBlank c = false) (cs : List Char) :
    skipBlanks (c :: cs) = c :: cs :=
  List.dropWhile_cons_of_neg (by simp [h])

theorem isBlank_of_isNameChar {c : Char} (h : isNameChar c = true) : isBlank c = false := by
  have hspace : c ≠ ' ' := ne_of_test h (by decide)
  have htab : c ≠ '\t' := ne_of_test h (by decide)
  simp [isBlank, hspace, htab]

namespace IsBare

variable {name : String} (h : IsBare name) (rest : List Char)

include h

theorem isNameChar_of_mem : ∀ c ∈ name.toList, isNameChar c = true :=
  List.all_eq_true.mp h.2

theorem cons : ∃ c cs, name.toList = c :: cs ∧ isNameChar c = true := by
  cases hname : name.toList with
  | nil => exact absurd (String.toList_eq_nil_iff.mp hname) h.1
  | cons c cs => exact ⟨c, cs, rfl, h.isNameChar_of_mem c (hname ▸ List.mem_cons_self)⟩

theorem takeNameText (hrest : ∀ c ∈ rest.head?, isNameChar c = false) :
    Toml.takeNameText (name.toList ++ rest) = .ok (name.toList, rest) := by
  have hspan : (name.toList ++ rest).span isNameChar = (name.toList, rest) := by
    rw [List.span_eq_takeWhile_dropWhile, List.takeWhile_append_of_pos h.isNameChar_of_mem,
      List.dropWhile_append_of_pos h.isNameChar_of_mem]
    cases rest with
    | nil => simp
    | cons c cs => simp [hrest c rfl]
  obtain ⟨c, cs, hname, hc⟩ := h.cons
  rw [hname, List.cons_append] at hspan ⊢
  unfold Toml.takeNameText
  split
  · next heq => exact absurd (List.cons.inj heq).1 (ne_of_test hc (by decide))
  · next heq => exact absurd (List.cons.inj heq).1 (ne_of_test hc (by decide))
  · rw [hspan]

/-- A key without points is one name. -/
theorem takeKey (hrest : ∀ c ∈ rest.head?, isNameChar c = false)
    (hpoint : (skipBlanks rest).head? ≠ some '.') :
    Toml.takeKey (name.toList ++ rest) =
      .ok (⟨[], ⟨name, ⟨name.toList ++ rest, rest⟩⟩⟩, skipBlanks rest) := by
  have hskip : skipBlanks (name.toList ++ rest) = name.toList ++ rest := by
    obtain ⟨c, cs, hname, hc⟩ := h.cons
    rw [hname, List.cons_append, skipBlanks_cons (isBlank_of_isNameChar hc)]
  have hnames (fuel : Nat) : takeNames (fuel + 1) (name.toList ++ rest) =
      .ok ([⟨name, ⟨name.toList ++ rest, rest⟩⟩], skipBlanks rest) := by
    rw [takeNames, hskip, takeName, h.takeNameText rest hrest]
    simp only [String.ofList_toList]
    split
    · next heq => exact absurd (by rw [heq]; rfl) hpoint
    · rfl
  rw [Toml.takeKey, hnames]
  rfl

end IsBare

/-! ## Statements -/

section Statements

variable {name : String} (hname : IsBare name) (rest : List Char)

include hname

theorem takeLinePair_line {v : Plain} {w : List Char} (hv : v.chars? = some w) :
    ∃ place place', takeLinePair (name.toList ++ " = ".toList ++ w ++ ['\n'] ++ rest) =
      .ok (.pair ⟨[], ⟨name, place⟩⟩ (place', v.value), rest) := by
  have hline : name.toList ++ " = ".toList ++ w ++ ['\n'] ++ rest =
      name.toList ++ ' ' :: '=' :: ' ' :: (w ++ '\n' :: rest) := by
    simp
  have hkey := hname.takeKey (' ' :: '=' :: ' ' :: (w ++ '\n' :: rest))
    (fun c hc => by obtain rfl := Option.some.inj hc; decide) (fun hpoint => nomatch hpoint)
  refine ⟨⟨name.toList ++ ' ' :: '=' :: ' ' :: (w ++ '\n' :: rest),
    ' ' :: '=' :: ' ' :: (w ++ '\n' :: rest)⟩, some ⟨w ++ '\n' :: rest, '\n' :: rest⟩, ?_⟩
  rw [hline, takeLinePair, hkey]
  show (takeValue _ depthLimit (skipBlanks (' ' :: (w ++ '\n' :: rest)))).bind _ = _
  rw [v.skipBlanks_chars hv, v.takeValue_chars hv]
  rfl

theorem takeHeader_line : ∃ place place',
    takeHeader ('[' :: name.toList ++ ']' :: '\n' :: rest) =
      .ok (.header ⟨[], ⟨name, place⟩⟩ place', rest) := by
  have hkey := hname.takeKey (']' :: '\n' :: rest)
    (fun c hc => by obtain rfl := Option.some.inj hc; decide) (fun hpoint => nomatch hpoint)
  obtain ⟨c, cs, hcons, hc⟩ := hname.cons
  have hbracket : c ≠ '[' := ne_of_test hc (by decide)
  refine ⟨⟨name.toList ++ ']' :: '\n' :: rest, ']' :: '\n' :: rest⟩,
    ⟨'[' :: name.toList ++ ']' :: '\n' :: rest, '\n' :: rest⟩, ?_⟩
  rw [hcons] at hkey ⊢
  simp only [List.cons_append] at hkey ⊢
  rw [takeHeader.eq_2 _ _ (by simp [hbracket]), takeHeaderKey, hkey]
  rfl

end Statements

/-! ## Drafts -/

namespace Fields

/-- The names in a table. -/
def names (fields : Fields) : List String :=
  fields.map fun f => f.1.text

variable {name : String} {front back : Fields}

theorem find?_append (h : name ∉ names front) : find? name (front ++ back) = find? name back := by
  induction front with
  | nil => rfl
  | cons f fs ih =>
    rw [names, List.map_cons, List.mem_cons, not_or] at h
    have hne : ¬(f.1.text == name) = true := by simpa using Ne.symm h.1
    rw [List.cons_append, find?, if_neg hne]
    exact ih h.2

theorem find?_eq_none (h : name ∉ names front) : front.find? name = none := by
  rw [← List.append_nil front]
  exact find?_append h

theorem replace_append (h : name ∉ names front) (v : Placed) :
    replace name v (front ++ back) = front ++ replace name v back := by
  induction front with
  | nil => rfl
  | cons f fs ih =>
    rw [names, List.map_cons, List.mem_cons, not_or] at h
    have hne : ¬(f.1.text == name) = true := by simpa using Ne.symm h.1
    rw [List.cons_append, replace, if_neg hne, List.cons_append]
    exact congrArg _ (ih h.2)

end Fields

@[simp] theorem Scope.fields_reach (v : Placed) (t : Scope) : (t.reach v).fields = t.fields := by
  unfold Scope.reach
  split <;> rfl

@[simp] theorem Scope.opening_reach (v : Placed) (t : Scope) : (t.reach v).opening = t.opening := by
  unfold Scope.reach
  split <;> rfl

/-- A pair under a new name is the last field of its table. -/
theorem put_new {t : Scope} {name : Name} (h : name.text ∉ t.fields.names) (braced : Bool)
    (clash : String → Cause) (v : Placed) :
    put braced clash ⟨[], name⟩ v t = .ok { t with fields := t.fields ++ [(name, v)] } := by
  simp [put, Fields.find?_eq_none h]

/-- Where a draft takes pairs: the fields before the table they go to, the name of that table unless
it is the draft itself, and the fields of the table. -/
inductive Draft.At : Draft → Fields → Option Name → Fields → Prop
  | top {root : Scope} : At ⟨root, []⟩ [] none root.fields
  | inside {root : Scope} {front inner : Fields} {k : Name} {place : Option Stretch} :
    root.fields = front ++ [(k, place, .table .header inner)] → k.text ∉ front.names →
    At ⟨root, [k]⟩ front (some k) inner

namespace Draft

variable {d : Draft} {name : Name}

theorem At.fields_of_top {front inner : Fields} (h : d.At front none inner) :
    d.root.fields = inner := by
  cases h with
  | top => rfl

theorem At.fields_of_inside {front inner : Fields} (h : d.At front (some name) inner) :
    ∃ place, d.root.fields = front ++ [(name, place, .table .header inner)] := by
  cases h with
  | @inside _ _ _ _ place hroot => exact ⟨place, hroot⟩

theorem At.add_pair {front inner : Fields} {k : Option Name} (h : d.At front k inner)
    (name : Name) (hnew : name.text ∉ inner.names) (v : Placed) :
    ∃ d', d.add (.pair ⟨[], name⟩ v) = .ok d' ∧ d'.At front k (inner ++ [(name, v)]) := by
  cases h with
  | @top root =>
    refine ⟨⟨{ root.reach v with fields := root.fields ++ [(name, v)] }, []⟩, ?_, .top⟩
    simp [add, within, put_new (t := root.reach v) (by simpa using hnew), bind, Except.bind, pure,
      Except.pure]
  | @inside root _ _ k place hroot hk =>
    have hfind : root.fields.find? k.text = some (place, .table .header inner) := by
      rw [hroot, Fields.find?_append hk]
      simp [Fields.find?]
    let t := Scope.reach v ⟨.header, place, inner⟩
    have hreplace : root.fields.replace k.text (t.place, .table .header (inner ++ [(name, v)])) =
        front ++ [(k, t.place, .table .header (inner ++ [(name, v)]))] := by
      rw [hroot, Fields.replace_append hk]
      simp [Fields.replace]
    have hput (clash : String → Cause) : put false clash ⟨[], name⟩ v t =
        .ok { t with fields := inner ++ [(name, v)] } := by
      rw [put_new (by simpa [t] using hnew), Scope.fields_reach]
    refine ⟨⟨{ root with fields := _ }, [k]⟩, ?_, .inside hreplace hk⟩
    simp [add, within, hfind, hput, t, Scope.value, bind, Except.bind, pure, Except.pure]

theorem add_header (name : Name) (hnew : name.text ∉ d.root.fields.names) (place : Stretch) :
    ∃ d', d.add (.header ⟨[], name⟩ place) = .ok d' ∧ d'.At d.root.fields (some name) [] := by
  refine ⟨⟨{ d.root with fields := d.root.fields ++ [(name, some place, .table .header [])] }, [name]⟩,
    ?_, .inside rfl hnew⟩
  simp [add, within, openTable, Fields.find?_eq_none hnew, bind, Except.bind, pure, Except.pure,
    Key.path]

end Draft

/-! ## Lines -/

/-- The statements at the front of a text make one draft of another and leave the rest of the text,
and with it enough fuel. -/
def Leads (d : Draft) (cs : List Char) (d' : Draft) (rest : List Char) : Prop :=
  ∀ fuel, cs.length < fuel →
    ∃ fuel', rest.length < fuel' ∧ takeStatements fuel d cs = takeStatements fuel' d' rest

namespace Leads

variable {d d' d'' : Draft} {cs cs' cs'' rest : List Char}

theorem refl (d : Draft) (cs : List Char) : Leads d cs d cs :=
  fun fuel h => ⟨fuel, h, rfl⟩

theorem trans (h : Leads d cs d' cs') (h' : Leads d' cs' d'' cs'') : Leads d cs d'' cs'' := by
  intro fuel hfuel
  obtain ⟨fuel', hfuel', heq⟩ := h fuel hfuel
  obtain ⟨fuel'', hfuel'', heq'⟩ := h' fuel' hfuel'
  exact ⟨fuel'', hfuel'', heq.trans heq'⟩

/-- One statement takes one fuel and a character at least. -/
theorem of_step (hlength : rest.length < cs.length)
    (h : ∀ fuel, takeStatements (fuel + 1) d cs = takeStatements fuel d' rest) :
    Leads d cs d' rest := by
  intro fuel hfuel
  obtain ⟨fuel, rfl⟩ := Nat.exists_eq_succ_of_ne_zero (Nat.ne_zero_of_lt hfuel)
  exact ⟨fuel, by omega, h fuel⟩

theorem emptyLine (d : Draft) (rest : List Char) : Leads d ('\n' :: rest) d rest :=
  of_step (Nat.lt_succ_self _) fun _ => rfl

theorem pair {name : String} (hname : IsBare name) {v : Plain} {w : List Char}
    (hv : v.chars? = some w) {front inner : Fields} {k : Option Name} (h : d.At front k inner)
    (hnew : name ∉ inner.names) (rest : List Char) :
    ∃ d' place place', d'.At front k (inner ++ [(⟨name, place⟩, place', v.value)]) ∧
      Leads d (name.toList ++ " = ".toList ++ w ++ ['\n'] ++ rest) d' rest := by
  obtain ⟨place, place', hline⟩ := takeLinePair_line hname rest hv
  obtain ⟨d', hadd, hat⟩ := h.add_pair ⟨name, place⟩ hnew (place', v.value)
  have hlength : rest.length < (name.toList ++ " = ".toList ++ w ++ ['\n'] ++ rest).length := by
    simp only [List.length_append, List.length_cons]
    omega
  refine ⟨d', place, place', hat, of_step hlength fun fuel => ?_⟩
  obtain ⟨c, cs, hcons, hc⟩ := hname.cons
  rw [hcons] at hline ⊢
  simp only [List.cons_append] at hline ⊢
  rw [takeStatements, skipBlanks_cons (isBlank_of_isNameChar hc)]
  split
  · next heq => cases heq
  · next heq => exact absurd (List.cons.inj heq).1 (ne_of_test hc (by decide))
  · next heq => exact absurd (List.cons.inj heq).1 (ne_of_test hc (by decide))
  · next heq => exact absurd (List.cons.inj heq).1 (ne_of_test hc (by decide))
  · next heq => exact absurd (List.cons.inj heq).1 (ne_of_test hc (by decide))
  · next heq => exact absurd (List.cons.inj heq).1 (ne_of_test hc (by decide))
  · rw [hline, Draft.addAt]
    simp only [hadd]
    rfl

theorem header {name : String} (hname : IsBare name) (hnew : name ∉ d.root.fields.names)
    (rest : List Char) :
    ∃ d' place, d'.At d.root.fields (some ⟨name, place⟩) [] ∧
      Leads d ('[' :: name.toList ++ ']' :: '\n' :: rest) d' rest := by
  obtain ⟨place, place', hline⟩ := takeHeader_line hname rest
  obtain ⟨d', hadd, hat⟩ := Draft.add_header ⟨name, place⟩ hnew place'
  have hlength : rest.length < ('[' :: name.toList ++ ']' :: '\n' :: rest).length := by
    simp only [List.length_append, List.length_cons]
    omega
  refine ⟨d', place, hat, of_step hlength fun fuel => ?_⟩
  rw [List.cons_append] at hline ⊢
  rw [takeStatements, skipBlanks_cons (by decide)]
  simp only [hline, Draft.addAt, hadd]
  rfl

end Leads

/-! ## Documents -/

/-- A field that holds a pair. -/
structure ShowsPair (pair : String × Plain) (f : Name × Placed) : Prop where
  name : f.1.text = pair.1
  value : f.2.2 = pair.2.value

/-- A field that holds a table. -/
structure ShowsSection (s : Section) (f : Name × Placed) : Prop where
  name : f.1.text = s.name
  pairs : ∃ fields, f.2.2 = .table .header fields ∧ List.Forall₂ ShowsPair s.pairs fields

/-- The fields of a document: its pairs, and its tables behind them. -/
def Shows (top : List (String × Plain)) (sections : List Section) (fields : Fields) : Prop :=
  ∃ pairs tables, fields = pairs ++ tables ∧ List.Forall₂ ShowsPair top pairs ∧
    List.Forall₂ ShowsSection sections tables

/-- Names that need no quotes, and none of them twice. -/
def AreBare (names : List String) : Prop :=
  (∀ name ∈ names, IsBare name) ∧ names.Nodup

instance (names : List String) : Decidable (AreBare names) :=
  inferInstanceAs (Decidable (_ ∧ _))

/-- A document in which no name needs quotes and none is taken twice. -/
structure WellNamed (top : List (String × Plain)) (sections : List Section) : Prop where
  names : AreBare (top.map Prod.fst ++ sections.map Section.name)
  pairs : ∀ s ∈ sections, AreBare (s.pairs.map Prod.fst)

namespace WellNamed

variable {top : List (String × Plain)} {sections : List Section} (h : WellNamed top sections)

include h

theorem bare_top : ∀ p ∈ top, IsBare p.1 :=
  List.forall_mem_map.mp (List.forall_mem_append.mp h.names.1).1

theorem bare_sections : ∀ s ∈ sections, IsBare s.name :=
  List.forall_mem_map.mp (List.forall_mem_append.mp h.names.1).2

end WellNamed

theorem names_of_showsPair {pairs : List (String × Plain)} {fields : Fields}
    (h : List.Forall₂ ShowsPair pairs fields) : fields.names = pairs.map Prod.fst := by
  induction h with
  | nil => rfl
  | cons hshows _ ih => exact congrArg₂ List.cons hshows.name ih

theorem pairLines?_cons {name : String} {v : Plain} {pairs : List (String × Plain)} {cs : List Char}
    (h : pairLines? ((name, v) :: pairs) = some cs) :
    ∃ w more, v.chars? = some w ∧ pairLines? pairs = some more ∧
      cs = name.toList ++ " = ".toList ++ w ++ ['\n'] ++ more := by
  obtain ⟨lines, hlines, rfl⟩ := Option.map_eq_some_iff.mp h
  obtain ⟨line, ls, hline, hls, rfl⟩ := mapM_cons_eq_some.mp hlines
  obtain ⟨w, hw, rfl⟩ := Option.map_eq_some_iff.mp hline
  exact ⟨w, ls.flatten, hw, by rw [pairLines?, hls, Option.map_some], List.flatten_cons⟩

theorem leads_pairLines {pairs : List (String × Plain)} (hbare : ∀ p ∈ pairs, IsBare p.1)
    {cs : List Char} (hcs : pairLines? pairs = some cs) (rest : List Char) {d : Draft}
    {front inner : Fields} {k : Option Name} (h : d.At front k inner)
    (hnodup : (inner.names ++ pairs.map Prod.fst).Nodup) :
    ∃ d' fields, d'.At front k (inner ++ fields) ∧ List.Forall₂ ShowsPair pairs fields ∧
      Leads d (cs ++ rest) d' rest := by
  induction pairs generalizing cs d inner with
  | nil =>
    obtain rfl : [] = cs := Option.some.inj hcs
    exact ⟨d, [], by rwa [List.append_nil], .nil, .refl d rest⟩
  | cons p ps ih =>
    obtain ⟨name, v⟩ := p
    obtain ⟨hname, hnames⟩ := List.forall_mem_cons.mp hbare
    obtain ⟨w, more, hw, hmore, rfl⟩ := pairLines?_cons hcs
    have hnew : name ∉ inner.names := by
      rw [List.map_cons, List.nodup_append] at hnodup
      exact fun hmem => hnodup.2.2 name hmem name List.mem_cons_self rfl
    obtain ⟨d', place, place', hat, hfirst⟩ := Leads.pair hname hw h hnew (more ++ rest)
    have hnodup' : (Fields.names (inner ++ [(⟨name, place⟩, place', v.value)]) ++
        ps.map Prod.fst).Nodup := by
      simpa [Fields.names] using hnodup
    obtain ⟨d'', fields, hat', hshows, hmany⟩ := ih hnames hmore hat hnodup'
    refine ⟨d'', (⟨name, place⟩, place', v.value) :: fields, ?_, .cons ⟨rfl, rfl⟩ hshows, ?_⟩
    · rwa [List.append_assoc] at hat'
    · rw [List.append_assoc]
      exact hfirst.trans hmany

theorem leads_section {s : Section} (hname : IsBare s.name) (hpairs : AreBare (s.pairs.map Prod.fst))
    {cs : List Char} (hcs : s.lines? = some cs) (rest : List Char) {d : Draft}
    (hnew : s.name ∉ d.root.fields.names) :
    ∃ d' f, d'.root.fields = d.root.fields ++ [f] ∧ ShowsSection s f ∧
      Leads d (cs ++ rest) d' rest := by
  obtain ⟨body, hbody, rfl⟩ := Option.map_eq_some_iff.mp hcs
  obtain ⟨d', place, hat, hheader⟩ := Leads.header hname hnew (body ++ rest)
  obtain ⟨d'', fields, hat', hshows, hlines⟩ :=
    leads_pairLines (List.forall_mem_map.mp hpairs.1) hbody rest hat hpairs.2
  obtain ⟨place', hroot⟩ := hat'.fields_of_inside
  have htext : '\n' :: '[' :: s.name.toList ++ ']' :: '\n' :: body ++ rest =
      '\n' :: ('[' :: s.name.toList ++ ']' :: '\n' :: (body ++ rest)) := by
    simp
  rw [htext]
  exact ⟨d'', _, hroot, ⟨rfl, fields, rfl, hshows⟩, ((Leads.emptyLine d _).trans hheader).trans hlines⟩

theorem leads_sections {sections : List Section} (hbare : ∀ s ∈ sections, IsBare s.name)
    (hpairs : ∀ s ∈ sections, AreBare (s.pairs.map Prod.fst)) {bodies : List (List Char)}
    (hbodies : sections.mapM Section.lines? = some bodies) {d : Draft}
    (hnodup : (d.root.fields.names ++ sections.map Section.name).Nodup) :
    ∃ d' tables, d'.root.fields = d.root.fields ++ tables ∧
      List.Forall₂ ShowsSection sections tables ∧ Leads d bodies.flatten d' [] := by
  induction sections generalizing bodies d with
  | nil =>
    obtain rfl : [] = bodies := Option.some.inj hbodies
    exact ⟨d, [], (List.append_nil _).symm, .nil, .refl d []⟩
  | cons s ss ih =>
    obtain ⟨hname, hnames⟩ := List.forall_mem_cons.mp hbare
    obtain ⟨hfirst, hmore⟩ := List.forall_mem_cons.mp hpairs
    obtain ⟨cs, rest, hcs, hrest, rfl⟩ := mapM_cons_eq_some.mp hbodies
    have hnew : s.name ∉ d.root.fields.names := by
      rw [List.map_cons, List.nodup_append] at hnodup
      exact fun hmem => hnodup.2.2 s.name hmem s.name List.mem_cons_self rfl
    obtain ⟨d', f, hroot, hshows, hlead⟩ := leads_section hname hfirst hcs rest.flatten hnew
    have hnodup' : (d'.root.fields.names ++ ss.map Section.name).Nodup := by
      rw [hroot]
      simpa [Fields.names, hshows.name] using hnodup
    obtain ⟨d'', tables, hroot', hshows', hleads⟩ := ih hnames hmore hrest hnodup'
    refine ⟨d'', f :: tables, ?_, .cons hshows hshows', ?_⟩
    · rw [hroot', hroot, List.append_assoc]
      rfl
    · rw [List.flatten_cons]
      exact hlead.trans hleads

/-! ### What is printed -/

/-- A value that has a form. -/
def Plain.Fits : Plain → Prop
  | .text _ => True
  | .number n => n < signedBound

@[simp] theorem Plain.fits_text (s : String) : (text s).Fits :=
  trivial

@[simp] theorem Plain.fits_number {n : Nat} : (number n).Fits ↔ n < signedBound :=
  .rfl

theorem Plain.exists_chars? {v : Plain} : (∃ w, v.chars? = some w) ↔ v.Fits := by
  cases v with
  | text s => exact iff_of_true ⟨_, rfl⟩ (fits_text s)
  | number n =>
    simp only [chars?, fits_number]
    split <;> simp_all

theorem exists_pairLines? {pairs : List (String × Plain)} :
    (∃ cs, pairLines? pairs = some cs) ↔ ∀ p ∈ pairs, p.2.Fits := by
  have hline (p : String × Plain) : (∃ line, pairLine? p = some line) ↔ p.2.Fits := by
    simp only [pairLine?, Option.map_eq_some_iff, ← Plain.exists_chars?]
    exact ⟨fun ⟨_, w, hw, _⟩ => ⟨w, hw⟩, fun ⟨w, hw⟩ => ⟨_, w, hw, rfl⟩⟩
  simp only [← hline, ← exists_mapM_eq_some, pairLines?, Option.map_eq_some_iff]
  exact ⟨fun ⟨_, lines, h, _⟩ => ⟨lines, h⟩, fun ⟨lines, h⟩ => ⟨_, lines, h, rfl⟩⟩

/-- A document is printed if all its numbers have a form. -/
theorem exists_print? {top : List (String × Plain)} {sections : List Section} :
    (∃ text, print? top sections = some text) ↔
      (∀ p ∈ top, p.2.Fits) ∧ ∀ s ∈ sections, ∀ p ∈ s.pairs, p.2.Fits := by
  have hlines (s : Section) : (∃ cs, s.lines? = some cs) ↔ ∀ p ∈ s.pairs, p.2.Fits := by
    simp only [Section.lines?, Option.map_eq_some_iff, ← exists_pairLines?]
    exact ⟨fun ⟨_, body, h, _⟩ => ⟨body, h⟩, fun ⟨body, h⟩ => ⟨_, body, h, rfl⟩⟩
  simp only [← hlines, ← exists_pairLines?, ← exists_mapM_eq_some, print?, Option.bind_eq_bind,
    Option.bind_eq_some_iff, Option.pure_def, Option.some.injEq]
  exact ⟨fun ⟨_, head, hhead, bodies, hbodies, _⟩ => ⟨⟨head, hhead⟩, bodies, hbodies⟩,
    fun ⟨⟨head, hhead⟩, bodies, hbodies⟩ => ⟨_, head, hhead, bodies, hbodies, rfl⟩⟩

/-! ### What is parsed -/

theorem dropMark_eq_self {cs : List Char} (h : cs.head? ≠ some '\ufeff') : dropMark cs = cs := by
  unfold dropMark
  split
  · exact absurd rfl h
  · rfl

/-- A document starts with a name or with the empty line before a header. -/
theorem head_print?_ne {top : List (String × Plain)} {sections : List Section}
    (h : WellNamed top sections) {head : List Char} (hhead : pairLines? top = some head)
    {bodies : List (List Char)} (hbodies : sections.mapM Section.lines? = some bodies) :
    (head ++ bodies.flatten).head? ≠ some '\ufeff' := by
  cases top with
  | cons p ps =>
    obtain ⟨name, v⟩ := p
    obtain ⟨w, more, -, -, rfl⟩ := pairLines?_cons hhead
    obtain ⟨c, cs, hname, hc⟩ := (h.bare_top _ List.mem_cons_self).cons
    have hne := ne_of_test hc (b := '\ufeff') (by decide)
    simpa [hname] using hne
  | nil =>
    obtain rfl : [] = head := Option.some.inj hhead
    cases sections with
    | nil =>
      obtain rfl : [] = bodies := Option.some.inj hbodies
      simp
    | cons s ss =>
      obtain ⟨cs, rest, hcs, -, rfl⟩ := mapM_cons_eq_some.mp hbodies
      obtain ⟨body, -, rfl⟩ := Option.map_eq_some_iff.mp hcs
      simp

/-- A document that is printed is parsed to its pairs and its tables. -/
theorem parse_print? {top : List (String × Plain)} {sections : List Section}
    (h : WellNamed top sections) {text : String} (htext : print? top sections = some text) :
    ∃ fields, parse text.toList = .ok fields ∧ Shows top sections fields := by
  simp only [print?, Option.bind_eq_bind, Option.bind_eq_some_iff, Option.pure_def,
    Option.some.injEq] at htext
  obtain ⟨head, hhead, bodies, hbodies, rfl⟩ := htext
  rw [String.toList_ofList]
  obtain ⟨d, pairs, hat, hshows, hpairs⟩ := leads_pairLines h.bare_top hhead bodies.flatten
    (.top : Draft.At ⟨{ opening := .header }, []⟩ [] none []) (List.nodup_append.mp h.names.2).1
  have htop : d.root.fields = pairs := hat.fields_of_top
  obtain ⟨d', tables, hroot, hshows', htables⟩ := leads_sections h.bare_sections h.pairs hbodies (d := d)
    (by rw [htop, names_of_showsPair hshows]; exact h.names.2)
  obtain ⟨fuel, hfuel, hrun⟩ := hpairs.trans htables _ (Nat.lt_succ_self _)
  obtain ⟨fuel, rfl⟩ := Nat.exists_eq_succ_of_ne_zero (Nat.ne_zero_of_lt hfuel)
  refine ⟨d'.root.fields, ?_, pairs, tables, by rw [hroot, htop], hshows, hshows'⟩
  rw [parse, dropMark_eq_self (head_print?_ne h hhead hbodies), hrun]
  rfl

/-! ## Records -/

section Records

variable {α : Type} {r : Record α} {a b : α} {f : Name × Placed}

theorem ofFields_cons (h : readField r a f = .ok b) (fields : Fields) :
    ofFields r a (f :: fields) = ofFields r b fields := by
  rw [ofFields, List.foldlM_cons, h]
  rfl

theorem ofFields_append {front : Fields} (h : ofFields r a front = .ok b) (fields : Fields) :
    ofFields r a (front ++ fields) = ofFields r b fields := by
  rw [ofFields, List.foldlM_append]
  show (ofFields r a front).bind _ = _
  rw [h]
  rfl

theorem readField_of_lookup {read : Placed → α → Except Misfit α}
    (hread : r.lookup f.1.text = some read) (h : read f.2 a = .ok b) : readField r a f = .ok b := by
  simp only [readField, hread, h]
  rfl

theorem ShowsPair.readField {pair : String × Plain} (h : ShowsPair pair f)
    {read : Placed → α → Except Misfit α} (hread : r.lookup pair.1 = some read)
    (hvalue : read (f.2.1, pair.2.value) a = .ok b) : readField r a f = .ok b := by
  refine readField_of_lookup (h.name ▸ hread) ?_
  rw [← hvalue, ← h.value]

/-- A table is read into the record that its pairs are read into. -/
theorem ShowsSection.readField {s : Section} (h : ShowsSection s f) {β : Type} {inner : Record β}
    {fallback x : β} {expected : String} {set : β → α → α}
    (hread : r.lookup s.name =
      some fun v a => return set (← asRecord expected inner fallback v) a)
    (hinner : ∀ fields, List.Forall₂ ShowsPair s.pairs fields → ofFields inner fallback fields = .ok x) :
    readField r a f = .ok (set x a) := by
  obtain ⟨fields, htable, hpairs⟩ := h.pairs
  have hrecord : asRecord expected inner fallback f.2 = .ok x := by
    obtain ⟨name, place, v⟩ := f
    obtain rfl : v = .table .header fields := htable
    rw [asRecord, hinner fields hpairs]
    rfl
  refine readField_of_lookup (h.name ▸ hread) ?_
  rw [hrecord]
  rfl

end Records

end ContextIndex.Toml
