import Mathlib
import ContextIndex.Proofs.Extract.Settled
import ContextIndex.Proofs.Store.Rows
import ContextIndex.Query.Outline

/-!
# Where symbols lie in an outline

There are two opinions on where a symbol belongs.  The shared filter gives it the innermost
container that encloses it as parent (`InnermostIn`).  The outline of a file keeps a stack of
containers and only looks at where they end: a symbol comes to lie in the last container before it
that reaches down to its first line (`reaching?`, `links_buildOutline`), whether or not that
container encloses it.

For declarations found by rules the two agree when the ranges are well nested, and if no two
containers have one name then only so (`outlineQuery_links`).  Two classes of which one starts on
the line where the other ends are not well nested, and the outline puts one into the other
(`outline_of_neighbours`).
-/

namespace ContextIndex

/-- Whether the range of a symbol holds that of another and differs from it. -/
def Symbol.encloses (c y : Symbol) : Bool :=
  rangeEncloses c.first c.last y.first y.last

theorem Symbol.encloses_iff {c y : Symbol} : c.encloses y = true ↔
    c.first ≤ y.first ∧ y.last ≤ c.last ∧ ¬(c.first = y.first ∧ c.last = y.last) := by
  simp only [Symbol.encloses, rangeEncloses, Bool.and_eq_true, decide_eq_true_eq,
    Bool.not_eq_true', Bool.and_eq_false_iff, beq_eq_false_iff_ne]
  omega

theorem Symbol.encloses_trans {a b c : Symbol} (hab : a.encloses b = true)
    (hbc : b.encloses c = true) : a.encloses c = true := by
  rw [Symbol.encloses_iff] at *
  omega

namespace Query

/-! ## Links of a tree -/

mutual

/-- The symbols of a node from top to bottom, each with the one that it is directly inside of. -/
def OutlineNode.links (up : Option Symbol) : OutlineNode → List (Symbol × Option Symbol)
  | .node y children => (y, up) :: linksIn (some y) children

/-- The symbols of nodes from top to bottom, each with the one that it is directly inside of. -/
def linksIn (up : Option Symbol) : List OutlineNode → List (Symbol × Option Symbol)
  | [] => []
  | n :: ns => n.links up ++ linksIn up ns

end

theorem linksIn_append (up : Option Symbol) (ns ms : List OutlineNode) :
    linksIn up (ns ++ ms) = linksIn up ns ++ linksIn up ms := by
  induction ns with
  | nil => simp [linksIn]
  | cons n ns ih => simp [linksIn, ih]

/-- The last of some symbols, given from the last to the first, that is a container and reaches
down to the first line of another one. -/
def reaching? (before : List Symbol) (y : Symbol) : Option Symbol :=
  before.find? fun c => c.kind.isContainer && decide (y.first ≤ c.last)

/-- Symbols in order, each with the container before it that reaches down to it. -/
def hang : List Symbol → List Symbol → List (Symbol × Option Symbol)
  | _, [] => []
  | before, y :: ys => (y, reaching? before y) :: hang (y :: before) ys

theorem hang_append (before ys zs : List Symbol) :
    hang before (ys ++ zs) = hang before ys ++ hang (ys.reverse ++ before) zs := by
  induction ys generalizing before with
  | nil => rfl
  | cons y ys ih => simp [hang, ih]

theorem mem_hang {before ys : List Symbol} {y : Symbol} {up : Option Symbol}
    (h : (y, up) ∈ hang before ys) :
    ∃ front back, ys = front ++ y :: back ∧ up = reaching? (front.reverse ++ before) y := by
  induction ys generalizing before with
  | nil => cases h
  | cons z ys ih =>
    cases h with
    | head => exact ⟨[], ys, rfl, rfl⟩
    | tail _ h =>
      obtain ⟨front, back, rfl, rfl⟩ := ih h
      exact ⟨z :: front, back, rfl, by simp⟩

theorem hang_mem (front back : List Symbol) (y : Symbol) :
    (y, reaching? front.reverse y) ∈ hang [] (front ++ y :: back) := by
  rw [hang_append, List.append_nil]
  exact List.mem_append_right _ (.head _)

/-- The symbol that reaches down to another one, as a place in the list before that. -/
theorem reaching?_eq_some {front : List Symbol} {y c : Symbol}
    (h : reaching? front.reverse y = some c) :
    ∃ outer inner, front = outer ++ c :: inner ∧ c.kind.isContainer = true ∧ y.first ≤ c.last ∧
      ∀ x ∈ inner, x.kind.isContainer = true → x.last < y.first := by
  obtain ⟨hc, inner, outer, hsplit, hpast⟩ := List.find?_eq_some_iff_append.mp h
  simp only [Bool.and_eq_true, decide_eq_true_eq] at hc
  refine ⟨outer.reverse, inner.reverse, ?_, hc.1, hc.2, fun x hx hcontainer => ?_⟩
  · rw [← List.reverse_reverse front, hsplit]
    simp
  · simpa [hcontainer] using hpast x (List.mem_reverse.mp hx)

theorem reaching?_eq_none {front : List Symbol} {y : Symbol}
    (h : reaching? front.reverse y = none) :
    ∀ x ∈ front, x.kind.isContainer = true → x.last < y.first := by
  intro x hx hcontainer
  simpa [hcontainer] using List.find?_eq_none.mp h x (List.mem_reverse.mpr hx)

/-! ## The outline as it is built -/

namespace Outliner

/-- The links of open containers and of what is inside them so far, the outermost first. -/
def stackLinks : List OpenContainer → List (Symbol × Option Symbol)
  | [] => []
  | c :: cs => stackLinks cs ++
      (c.symbol, cs.head?.map OpenContainer.symbol) :: linksIn (some c.symbol) c.children

/-- The links of an outline that is being built. -/
def links (o : Outliner) : List (Symbol × Option Symbol) :=
  linksIn none o.roots ++ stackLinks o.stack

/-- Closing containers changes no link. -/
theorem links_closeWhile (done : OpenContainer → Bool) (roots : List OutlineNode)
    (stack : List OpenContainer) :
    (closeWhile done roots stack).links = links ⟨stack, roots⟩ := by
  fun_induction closeWhile done roots stack with
  | case1 => rfl
  | case2 top h =>
    simp [links, stackLinks, linksIn_append, linksIn, OpenContainer.close, OutlineNode.links]
  | case3 top h => rfl
  | case4 top next rest h ih =>
    rw [ih]
    simp [links, stackLinks, linksIn_append, linksIn, OpenContainer.close, OutlineNode.links]
  | case5 top next rest h => rfl

/-- The containers that stay open are the outer ones from the first that is not done. -/
theorem stack_closeWhile (done : Symbol → Bool) (roots : List OutlineNode)
    (stack : List OpenContainer) :
    (closeWhile (fun c => done c.symbol) roots stack).stack.map OpenContainer.symbol =
      (stack.map OpenContainer.symbol).dropWhile done := by
  generalize hp : (fun c : OpenContainer => done c.symbol) = p
  fun_induction closeWhile p roots stack with
  | case1 => rfl
  | case2 top h | case3 top h => subst hp; simp_all
  | case4 top next rest h ih => subst hp; simp_all
  | case5 top next rest h => subst hp; simp_all

/-- The open containers, the innermost first. -/
def opened (o : Outliner) : List Symbol :=
  o.stack.map OpenContainer.symbol

/-- A symbol comes after all others, inside the innermost open container that reaches down to it. -/
theorem links_add (o : Outliner) (y : Symbol) :
    (o.add y).links = o.links ++ [(y, o.opened.find? fun c => y.first ≤ c.last)] := by
  have hlinks := links_closeWhile (fun c => decide (c.symbol.last < y.first)) o.roots o.stack
  have hstack := stack_closeWhile (fun c => decide (c.last < y.first)) o.roots o.stack
  have hreach : (fun c : Symbol => decide (c.last < y.first)) =
      fun c => !decide (y.first ≤ c.last) :=
    funext fun c => by rw [← decide_not, decide_eq_decide, Nat.not_le]
  rw [hreach] at hstack
  rw [List.find?_eq_head?_dropWhile_not, opened, ← hstack, ← hlinks, List.head?_map]
  unfold add
  generalize closeWhile _ o.roots o.stack = closed
  split
  · simp [links, stackLinks, linksIn]
  · cases hs : closed.stack <;>
      simp [links, attach, hs, stackLinks, linksIn, linksIn_append, OutlineNode.links]

theorem opened_add (o : Outliner) (y : Symbol) :
    (o.add y).opened = (if y.kind.isContainer then [y] else []) ++
      o.opened.dropWhile fun c => decide (c.last < y.first) := by
  have hstack := stack_closeWhile (fun c => decide (c.last < y.first)) o.roots o.stack
  rw [opened, opened, ← hstack]
  unfold add
  generalize closeWhile _ o.roots o.stack = closed
  split
  · rfl
  · cases hs : closed.stack <;> simp [attach, hs]

theorem links_close (o : Outliner) : linksIn none o.close = o.links := by
  have hlinks := links_closeWhile (fun _ => true) o.roots o.stack
  have hstack := stack_closeWhile (fun _ => true) o.roots o.stack
  rw [List.dropWhile_eq_nil_iff.mpr fun _ _ => rfl, List.map_eq_nil_iff] at hstack
  unfold links at hlinks
  rw [hstack, stackLinks, List.append_nil] at hlinks
  exact hlinks

/-- The open containers are, as far as lines from one on can tell, the containers so far. -/
def Knows (o : Outliner) (before : List Symbol) (line : Nat) : Prop :=
  ∀ y : Symbol, line ≤ y.first → o.opened.find? (fun c => y.first ≤ c.last) = reaching? before y

theorem knows_nothing : Knows {} [] 0 :=
  fun _ _ => rfl

theorem knows_add {o : Outliner} {before : List Symbol} {line : Nat} (h : o.Knows before line)
    {y : Symbol} (hy : line ≤ y.first) : (o.add y).Knows (y :: before) y.first := by
  intro z hz
  -- what is closed for `y` ends before `z` starts
  have hclosed : ∀ c ∈ o.opened.takeWhile (fun c => decide (c.last < y.first)),
      ¬decide (z.first ≤ c.last) = true := by
    intro c hc
    have hlast : c.last < y.first := by simpa using List.mem_takeWhile_imp hc
    simp only [decide_eq_true_eq]
    omega
  have hopen : (o.opened.dropWhile fun c => decide (c.last < y.first)).find?
      (fun c => z.first ≤ c.last) = reaching? before z := by
    have hall := h z (Nat.le_trans hy hz)
    rw [← List.takeWhile_append_dropWhile (p := fun c => decide (c.last < y.first)) (l := o.opened),
      List.find?_append, List.find?_eq_none.mpr hclosed, Option.none_or] at hall
    exact hall
  rw [opened_add, List.find?_append, hopen]
  unfold reaching?
  rw [List.find?_cons]
  cases y.kind.isContainer
  · rfl
  · by_cases hlast : z.first ≤ y.last <;> simp [hlast]

theorem links_foldl {ys : List Symbol} (hsorted : ys.Pairwise fun a b => a.first ≤ b.first)
    {o : Outliner} {before : List Symbol} {line : Nat} (h : o.Knows before line)
    (hline : ∀ y ∈ ys, line ≤ y.first) :
    (ys.foldl add o).links = o.links ++ hang before ys := by
  induction ys generalizing o before line with
  | nil => simp [hang]
  | cons y ys ih =>
    obtain ⟨hfirst, hsorted⟩ := List.pairwise_cons.mp hsorted
    have hy := hline y List.mem_cons_self
    rw [List.foldl_cons, ih hsorted (knows_add h hy) hfirst, links_add, h y hy, hang]
    simp

end Outliner

/-- In the outline of symbols that are ordered by first line, each lies in the last container before
it that reaches down to its first line, and on top if there is none. -/
theorem links_buildOutline {ys : List Symbol}
    (hsorted : ys.Pairwise fun a b => a.first ≤ b.first) :
    linksIn none (buildOutline ys) = hang [] ys := by
  rw [buildOutline, Outliner.links_close,
    Outliner.links_foldl hsorted Outliner.knows_nothing fun _ _ => Nat.zero_le _]
  rfl

/-! ## Parents -/

/-- The parent of a symbol is the innermost container around it, if there is one. -/
inductive InnermostIn (ys : List Symbol) (y : Symbol) : Prop
  | top : y.parent = none → (∀ c ∈ ys, c.kind.isContainer = true → c.encloses y = false) →
      InnermostIn ys y
  | inside (c : Symbol) : c ∈ ys → c.kind.isContainer = true → c.encloses y = true →
      y.parent = some c.name →
      (∀ d ∈ ys, d.kind.isContainer = true → d.encloses y = true →
        c.last - c.first ≤ d.last - d.first) →
      InnermostIn ys y

/-- Where a symbol lies in an outline and what its parent says go together: it is on top exactly if
it has no parent, and it lies in a container of that name around it if it has one. -/
def AsStored (outline : List OutlineNode) : Prop :=
  ∀ y up, (y, up) ∈ linksIn none outline →
    (y.parent = none → up = none) ∧
    ∀ p, y.parent = some p → ∃ c, up = some c ∧ c.kind.isContainer = true ∧ c.name = p ∧
      c.encloses y = true

/-- A container encloses what starts in its lines and comes after it, and nothing that comes before
it. -/
structure WellNested (ys : List Symbol) : Prop where
  meeting : ys.Pairwise fun x y => x.kind.isContainer = true → y.first ≤ x.last →
    x.encloses y = true
  leading : ys.Pairwise fun x y => y.kind.isContainer = true → y.encloses x = false

section Agreement

variable {ys : List Symbol}

/-- In well-nested ranges the parent of a symbol is the container that reaches down to it. -/
theorem parent_of_wellNested {front back : List Symbol} {y : Symbol}
    (hnested : WellNested (front ++ y :: back))
    (hsorted : (front ++ y :: back).Pairwise fun a b => a.first ≤ b.first)
    (hy : y.first ≤ y.last) (hinner : InnermostIn (front ++ y :: back) y) :
    (reaching? front.reverse y = none → y.parent = none) ∧
    ∀ c, reaching? front.reverse y = some c →
      c.kind.isContainer = true ∧ c.encloses y = true ∧ y.parent = some c.name := by
  have hfront {c : Symbol} (hc : c ∈ front ++ y :: back) (hcontainer : c.kind.isContainer = true)
      (hencloses : c.encloses y = true) : c ∈ front := by
    obtain hc | hc := List.mem_append.mp hc
    · exact hc
    obtain rfl | hc := List.mem_cons.mp hc
    · simp [Symbol.encloses, rangeEncloses] at hencloses
    · have hlead := (List.pairwise_append.mp hnested.leading).2.1
      rw [(List.pairwise_cons.mp hlead).1 c hc hcontainer] at hencloses
      cases hencloses
  have hreach {c : Symbol} (hencloses : c.encloses y = true) : y.first ≤ c.last := by
    rw [Symbol.encloses_iff] at hencloses
    omega
  constructor
  · intro hnone
    cases hinner with
    | top hparent => exact hparent
    | inside c hc hcontainer hencloses =>
      have := reaching?_eq_none hnone c (hfront hc hcontainer hencloses) hcontainer
      have := hreach hencloses
      omega
  · intro c hsome
    obtain ⟨outer, inner, rfl, hcontainer, hlast, hpast⟩ := reaching?_eq_some hsome
    have hmeet := (List.pairwise_append.mp hnested.meeting).2.2
    have hencloses : c.encloses y = true :=
      hmeet c (by simp) y List.mem_cons_self hcontainer hlast
    refine ⟨hcontainer, hencloses, ?_⟩
    cases hinner with
    | top _ hnot =>
      rw [hnot c (by simp) hcontainer] at hencloses
      cases hencloses
    | inside m hm hmcontainer hmencloses hparent hleast =>
      have hle := hleast c (by simp) hcontainer hencloses
      obtain hm | hm := List.mem_append.mp (hfront hm hmcontainer hmencloses)
      · -- a container outside of `c` has a longer range
        rw [List.append_assoc, List.cons_append] at hnested
        have hmeet := (List.pairwise_append.mp hnested.meeting).2.2
        have hfirst : c.first ≤ y.first := (Symbol.encloses_iff.mp hencloses).1
        have hmc := hmeet m hm c List.mem_cons_self hmcontainer
          (Nat.le_trans hfirst (hreach hmencloses))
        rw [Symbol.encloses_iff] at hmc hencloses
        omega
      · obtain rfl | hm := List.mem_cons.mp hm
        · exact hparent
        · have := hpast m hm hmcontainer
          have := hreach hmencloses
          omega

theorem asStored_of_wellNested (hnested : WellNested ys)
    (hsorted : ys.Pairwise fun a b => a.first ≤ b.first) (hrange : ∀ y ∈ ys, y.first ≤ y.last)
    (hinner : ∀ y ∈ ys, InnermostIn ys y) : AsStored (buildOutline ys) := by
  intro y up hlink
  rw [links_buildOutline hsorted] at hlink
  obtain ⟨front, back, rfl, rfl⟩ := mem_hang hlink
  rw [List.append_nil]
  obtain ⟨htop, hinside⟩ := parent_of_wellNested hnested hsorted (hrange y (by simp))
    (hinner y (by simp))
  cases hup : reaching? front.reverse y with
  | none =>
    refine ⟨fun _ => rfl, fun p hp => ?_⟩
    rw [htop hup] at hp
    cases hp
  | some c =>
    obtain ⟨hcontainer, hencloses, hparent⟩ := hinside c hup
    refine ⟨fun hp => ?_, fun p hp => ⟨c, rfl, hcontainer, ?_, hencloses⟩⟩
    · rw [hp] at hparent
      cases hparent
    · rw [hp] at hparent
      exact (Option.some.inj hparent).symm

/-- A relation between what stands before and what stands after holds pairwise. -/
theorem pairwise_of_splits {R : Symbol → Symbol → Prop}
    (h : ∀ front y back, ys = front ++ y :: back → ∀ x ∈ front, R x y) : ys.Pairwise R := by
  induction ys with
  | nil => exact .nil
  | cons x ys ih =>
    refine List.pairwise_cons.mpr ⟨fun y hy => ?_, ih fun front y back hsplit z hz => ?_⟩
    · obtain ⟨front, back, rfl⟩ := List.append_of_mem hy
      exact h (x :: front) y back rfl x List.mem_cons_self
    · subst hsplit
      exact h (x :: front) y back rfl z (List.mem_cons_of_mem _ hz)

/-- What an outline that goes with the parents says of the container that reaches down to a
symbol. -/
theorem AsStored.reaching (h : AsStored (buildOutline ys))
    (hsorted : ys.Pairwise fun a b => a.first ≤ b.first) {front back : List Symbol} {y : Symbol}
    (hsplit : ys = front ++ y :: back) :
    (reaching? front.reverse y = none → y.parent = none) ∧
    ∀ c, reaching? front.reverse y = some c →
      c.encloses y = true ∧ y.parent = some c.name := by
  have hlink := h y (reaching? front.reverse y) (by
    rw [links_buildOutline hsorted, hsplit]
    exact hang_mem front back y)
  cases hparent : y.parent with
  | none =>
    rw [hlink.1 hparent]
    exact ⟨fun _ => rfl, nofun⟩
  | some p =>
    obtain ⟨c, hc, -, hname, hencloses⟩ := hlink.2 p hparent
    rw [hc]
    refine ⟨nofun, ?_⟩
    rintro _ ⟨⟩
    exact ⟨hencloses, congrArg some hname.symm⟩

/-- If an outline goes with the parents, containers enclose what starts in their lines after
them. -/
theorem AsStored.meeting (h : AsStored (buildOutline ys))
    (hsorted : ys.Pairwise fun a b => a.first ≤ b.first) :
    ∀ n front y back, front.length = n → ys = front ++ y :: back → ∀ x ∈ front,
      x.kind.isContainer = true → y.first ≤ x.last → x.encloses y = true := by
  intro n
  induction n using Nat.strongRecOn with
  | ind n ih =>
    intro front y back hlength hsplit x hx hcontainer hlast
    cases hreach : reaching? front.reverse y with
    | none => exact absurd (reaching?_eq_none hreach x hx hcontainer) (Nat.not_lt.mpr hlast)
    | some c =>
      have hencloses := ((h.reaching hsorted hsplit).2 c hreach).1
      obtain ⟨outer, inner, rfl, -, -, hpast⟩ := reaching?_eq_some hreach
      obtain hx | hx := List.mem_append.mp hx
      · -- `x` reaches down to `c`, and so encloses it
        have hfirst : c.first ≤ y.first := (Symbol.encloses_iff.mp hencloses).1
        have hshort : outer.length < n := by
          rw [← hlength, List.length_append, List.length_cons]
          omega
        have hxc := ih outer.length hshort outer c (inner ++ y :: back) rfl (by simp [hsplit]) x hx
          hcontainer (Nat.le_trans hfirst hlast)
        exact Symbol.encloses_trans hxc hencloses
      · obtain rfl | hx := List.mem_cons.mp hx
        · exact hencloses
        · exact absurd (hpast x hx hcontainer) (Nat.not_lt.mpr hlast)

/-- If an outline goes with the parents and containers have different names, the ranges are well
nested. -/
theorem AsStored.wellNested (h : AsStored (buildOutline ys))
    (hsorted : ys.Pairwise fun a b => a.first ≤ b.first) (hrange : ∀ y ∈ ys, y.first ≤ y.last)
    (hinner : ∀ y ∈ ys, InnermostIn ys y)
    (hnames : ∀ c ∈ ys, ∀ d ∈ ys, c.kind.isContainer = true → d.kind.isContainer = true →
      c.name = d.name → c = d) : WellNested ys := by
  refine ⟨pairwise_of_splits fun front y back hsplit x hx =>
    h.meeting hsorted front.length front y back rfl hsplit x hx,
    pairwise_of_splits fun front d back hsplit y hy hcontainer => ?_⟩
  rw [← Bool.not_eq_true]
  intro hencloses
  obtain ⟨before, between, rfl⟩ := List.append_of_mem hy
  have hplace : ys = before ++ y :: (between ++ d :: back) := by simp [hsplit]
  have hmem : y ∈ ys := by simp [hplace]
  have hd : d ∈ ys := by simp [hsplit]
  cases hinner y hmem with
  | top _ hnot =>
    rw [hnot d hd hcontainer] at hencloses
    cases hencloses
  | inside m hm hmcontainer hmencloses hparent hleast =>
    obtain ⟨htop, hinside⟩ := h.reaching hsorted hplace
    cases hreach : reaching? before.reverse y with
    | none =>
      rw [htop hreach] at hparent
      cases hparent
    | some c =>
      -- the container above `y` is its parent, and encloses the shorter range of `d`
      obtain ⟨hcy, hname⟩ := hinside c hreach
      obtain ⟨outer, inner, rfl, hccontainer, -, -⟩ := reaching?_eq_some hreach
      have hc : c ∈ ys := by simp [hplace]
      have hsame : m = c := by
        refine hnames m hm c hc hmcontainer hccontainer ?_
        rw [hparent] at hname
        exact Option.some.inj hname
      have hle := hleast d hd hcontainer hencloses
      have hylast := hrange y hmem
      have hcd : c.encloses d = true := by
        refine h.meeting hsorted _ _ d back rfl hsplit c (by simp) hccontainer ?_
        rw [Symbol.encloses_iff] at hencloses hcy
        omega
      have hdlast := hrange d hd
      rw [hsame] at hle
      rw [Symbol.encloses_iff] at hcd
      omega

end Agreement

end Query

/-! ## Declarations found by rules -/

namespace Extract

theorem parent_of_mem_rawDeclarations {content language : String} {d : Declaration}
    (h : d ∈ rawDeclarations content language) : d.parent = none := by
  obtain ⟨table, rule, m, -, -, -, rfl⟩ := exists_match_of_mem h
  rfl

theorem encloses_placeIn (containers : List Declaration) (text : List Char) (c d : Declaration) :
    (Store.symbolOf text (placeIn containers c)).encloses
      (Store.symbolOf text (placeIn containers d)) = c.encloses d := by
  simp [Symbol.encloses, Declaration.encloses, Store.symbolOf, placeIn_range]

/-- The parents of declarations that had none are their innermost containers. -/
theorem innermostIn_settle {ds : List Declaration} (hds : ∀ d ∈ ds, d.parent = none)
    (lineCount : Nat) (text : List Char) :
    ∀ y ∈ (settle ds lineCount).map (Store.symbolOf text),
      Query.InnermostIn ((settle ds lineCount).map (Store.symbolOf text)) y := by
  have hkept : ∀ d ∈ (firstOfEach (ds.filter (isAcceptable lineCount))).mergeSort
      (fun d e => d.first ≤ e.first), d.parent = none := fun d hd =>
    hds d (List.mem_filter.mp (mem_of_mem_firstOfEach ((List.mergeSort_perm _ _).mem_iff.mp hd))).1
  unfold settle assignParents
  generalize (firstOfEach (ds.filter (isAcceptable lineCount))).mergeSort
    (fun d e => d.first ≤ e.first) = kept at hkept ⊢
  generalize hcontainers : kept.filter (fun d => d.kind.isContainer) = containers
  have hmem (c : Declaration) : c ∈ containers ↔ c ∈ kept ∧ c.kind.isContainer = true := by
    rw [← hcontainers, List.mem_filter]
  simp only [List.map_map, List.forall_mem_map, Function.comp]
  intro d hd
  have hparent : (placeIn containers d).parent = (innermost? containers d).map Declaration.name :=
    parent_placeIn (hkept d hd)
  cases hinner : innermost? containers d with
  | none =>
    rw [hinner] at hparent
    refine .top hparent ?_
    simp only [List.forall_mem_map, Function.comp, encloses_placeIn]
    intro c hc hcontainer
    rw [show (Store.symbolOf text (placeIn containers c)).kind =
        (placeIn containers c).kind from rfl,
      isContainer_placeIn] at hcontainer
    simpa using
      List.filter_eq_nil_iff.mp (leastBy?_eq_none hinner) c ((hmem c).mpr ⟨hc, hcontainer⟩)
  | some m =>
    rw [hinner] at hparent
    obtain ⟨hm, hleast⟩ := leastBy?_eq_some hinner
    obtain ⟨hm, hencloses⟩ := List.mem_filter.mp hm
    obtain ⟨hmkept, hmcontainer⟩ := (hmem m).mp hm
    refine .inside (Store.symbolOf text (placeIn containers m)) (List.mem_map_of_mem hmkept) ?_ ?_
      ?_ ?_
    · exact (isContainer_placeIn containers m).trans hmcontainer
    · rw [encloses_placeIn]
      exact hencloses
    · exact hparent.trans (congrArg some (placeIn_name containers m).symm)
    · simp only [List.forall_mem_map, Function.comp, encloses_placeIn]
      intro e he hcontainer hencloses
      have hcontainer := (isContainer_placeIn containers e).symm.trans hcontainer
      have hle := hleast e (List.mem_filter.mpr ⟨(hmem e).mpr ⟨he, hcontainer⟩, hencloses⟩)
      simpa only [Store.symbolOf, placeIn_range] using hle

end Extract

namespace Query

theorem getRepo_putRow (s : Store) (id : Nat) (f : FileRow) (next : Nat) (repo : RepoId) :
    (s.putRow id f next).getRepo repo = s.getRepo repo := by
  have hnamed : (s.putRow id f next).entryNamed? repo.fullName = (s.entryNamed? repo.fullName).map
      fun e => if e.row.id = id then { e with files := Store.putFile f e.files } else e :=
    Store.entryNamed?_modify s id repo.fullName (Store.keepsIdentity_put f)
  unfold Store.getRepo
  rw [hnamed]
  cases s.entryNamed? repo.fullName with
  | none => rfl
  | some e =>
    simp only [Option.map_some]
    split <;> rfl

/-- A row that is put is what an outline is made of. -/
theorem outlineQuery_putRow {s : Store} {repo : RepoId} {row : RepoRow} {e : RepoEntry}
    (hrepo : requireRepo s repo = .ok row) (he : s.entry? row.id = some e) (f : FileRow)
    (next : Nat) : ∃ o, outlineQuery (s.putRow row.id f next) repo f.path = .ok o ∧
      o.data.outline = buildOutline (Store.sortedSymbols f) := by
  have hkept : requireRepo (s.putRow row.id f next) repo = .ok row := by
    unfold requireRepo
    rw [getRepo_putRow]
    exact hrepo
  have hfile : requireFile (s.putRow row.id f next) row f.path = .ok f := by
    simp [requireFile, Store.file?_putRow he]
  unfold outlineQuery
  simp only [hkept, hfile]
  exact ⟨_, rfl, rfl⟩

/-- The outline of a file whose declarations the rules have found, after it has been written.  Each
symbol lies in the last container before it that reaches down to its first line.  That is what its
parent says if the ranges are well nested, and as long as no two containers have one name only if
they are. -/
theorem outlineQuery_nesting {s s' : Store} {repo : RepoId} {row : RepoRow}
    (hrepo : requireRepo s repo = .ok row) {x : Store.FileWrite} {language : String}
    (hx : x.symbols = Extract.declarations x.content language) {now : Instant} {force : Bool}
    {n : Nat} (h : s.writeFile row.id x now force = (.ok (.written n), s')) :
    ∃ o ys, outlineQuery s' repo x.path = .ok o ∧ s'.symbolsIn row.id x.path = ys ∧
      ys = x.symbols.map (Store.symbolOf x.content.toList) ∧
      linksIn none o.data.outline = hang [] ys ∧
      (WellNested ys → AsStored o.data.outline) ∧
      ((∀ c ∈ ys, ∀ d ∈ ys, c.kind.isContainer = true → d.kind.isContainer = true →
        c.name = d.name → c = d) → AsStored o.data.outline → WellNested ys) := by
  obtain ⟨-, -, hr, -⟩ | ⟨-, ⟨-, hr, -⟩ | ⟨e, id, next, he, -, rfl⟩⟩ := Store.writeFile_cases h
  · cases hr
  · cases hr
  obtain ⟨o, hanswer, houtline⟩ := outlineQuery_putRow hrepo he (x.row id now) next
  have hsymbols := Store.sortedSymbols_row hx id now
  have hstored : (s.putRow row.id (x.row id now) next).symbolsIn row.id x.path =
      x.symbols.map (Store.symbolOf x.content.toList) := by
    rw [← hsymbols, Store.symbolsIn, Store.file?_putRow he, if_pos ⟨rfl, rfl⟩]
  have hinner : ∀ y ∈ x.symbols.map (Store.symbolOf x.content.toList),
      InnermostIn (x.symbols.map (Store.symbolOf x.content.toList)) y := by
    rw [hx]
    exact Extract.innermostIn_settle (fun d hd => Extract.parent_of_mem_rawDeclarations hd) _ _
  have hsorted : (x.symbols.map (Store.symbolOf x.content.toList)).Pairwise
      fun a b => a.first ≤ b.first := by
    rw [List.pairwise_map, hx]
    exact Extract.pairwise_settle _ _
  have hrange : ∀ y ∈ x.symbols.map (Store.symbolOf x.content.toList), y.first ≤ y.last := by
    rw [List.forall_mem_map, hx]
    exact fun d hd => (Extract.mem_settle hd).2.1
  refine ⟨o, _, hanswer, hstored, rfl, ?_⟩
  rw [houtline, hsymbols]
  exact ⟨links_buildOutline hsorted,
    fun hnested => asStored_of_wellNested hnested hsorted hrange hinner,
    fun hnames h => h.wellNested hsorted hrange hinner hnames⟩

/-- A store with one repository and no file. -/
def emptyShelf : Store :=
  (Store.insertRepo {} ⟨"octo", "widgets"⟩ {}).2

theorem requireRepo_emptyShelf : requireRepo emptyShelf ⟨"octo", "widgets"⟩ =
    .ok ⟨1, "octo", "widgets", none, none, none, none⟩ := rfl

/-- A class in a class, with a method. -/
def nestedClasses : Store.FileWrite :=
  { path := "a.py", content := "class A:\n  class B:\n    def f(x): 1", contentId := "v1"
    extractor := Extract.byRules.tag
    symbols := [⟨"A", .classType, 1, 3, some "class A", none⟩,
      ⟨"B", .classType, 2, 3, some "class B", some "A"⟩,
      ⟨"f", .method, 3, 3, some "def f(", some "B"⟩] }

theorem symbols_nestedClasses :
    nestedClasses.symbols = Extract.declarations nestedClasses.content "python" := by
  unfold nestedClasses
  cbv

theorem outlineQuery_nesting_nestedClasses :
    requireRepo emptyShelf ⟨"octo", "widgets"⟩ =
      .ok ⟨1, "octo", "widgets", none, none, none, none⟩ ∧
    nestedClasses.symbols = Extract.declarations nestedClasses.content "python" ∧
    ∃ s' o, emptyShelf.writeFile 1 nestedClasses ⟨0⟩ false = (.ok (.written 3), s') ∧
      outlineQuery s' ⟨"octo", "widgets"⟩ "a.py" = .ok o ∧
      WellNested (s'.symbolsIn 1 "a.py") ∧ AsStored o.data.outline ∧
      (linksIn none o.data.outline).map (fun x => (x.1.name, x.2.map Symbol.name)) =
        [("A", none), ("B", some "A"), ("f", some "B")] := by
  have hwrite : ∃ s', emptyShelf.writeFile 1 nestedClasses ⟨0⟩ false = (.ok (.written 3), s') :=
    ⟨_, rfl⟩
  obtain ⟨s', hwrite⟩ := hwrite
  obtain ⟨o, ys, hanswer, hys, rfl, hlinks, hnests, -⟩ :=
    outlineQuery_nesting requireRepo_emptyShelf symbols_nestedClasses hwrite
  have hnested : WellNested
      (nestedClasses.symbols.map (Store.symbolOf nestedClasses.content.toList)) :=
    ⟨by decide +kernel, by decide +kernel⟩
  refine ⟨requireRepo_emptyShelf, symbols_nestedClasses, s', o, hwrite, hanswer, ?_,
    hnests hnested, ?_⟩
  · rw [← hys] at hnested
    exact hnested
  · rw [hlinks]
    decide +kernel

/-- Two classes, of which one starts on the line where the other ends. -/
def neighbours : Store.FileWrite :=
  { path := "a.js", content := "class A \x7b\n\x7d class B \x7b\n\x7d", contentId := "v1"
    extractor := Extract.byRules.tag
    symbols := [⟨"A", .classType, 1, 2, some "class A", none⟩,
      ⟨"B", .classType, 2, 3, some "class B", none⟩] }

theorem symbols_neighbours :
    neighbours.symbols = Extract.declarations neighbours.content "javascript" := by
  unfold neighbours
  cbv

/-- The outline puts the second class into the first one, which does not enclose it and is not its
parent. -/
theorem outline_of_neighbours :
    neighbours.symbols = Extract.declarations neighbours.content "javascript" ∧
    ∃ s' o y c, emptyShelf.writeFile 1 neighbours ⟨0⟩ false = (.ok (.written 2), s') ∧
      outlineQuery s' ⟨"octo", "widgets"⟩ "a.js" = .ok o ∧
      (y, some c) ∈ linksIn none o.data.outline ∧ y.parent = none ∧ c.encloses y = false ∧
      ¬AsStored o.data.outline := by
  have hentry : emptyShelf.entry? 1 =
      some ⟨⟨1, "octo", "widgets", none, none, none, none⟩, []⟩ := rfl
  obtain ⟨o, hanswer, houtline⟩ :=
    outlineQuery_putRow requireRepo_emptyShelf hentry (neighbours.row 1 ⟨0⟩) 2
  rw [Store.sortedSymbols_row symbols_neighbours] at houtline
  have hlink : (⟨"B", .classType, 2, 3, some "class B", 4, none⟩,
      some ⟨"A", .classType, 1, 2, some "class A", 6, none⟩) ∈ linksIn none o.data.outline := by
    rw [houtline, links_buildOutline (by decide +kernel)]
    decide +kernel
  refine ⟨symbols_neighbours, _, o, _, _, rfl, hanswer, hlink, rfl, rfl, fun h => ?_⟩
  cases (h _ _ hlink).1 rfl

end Query

end ContextIndex
