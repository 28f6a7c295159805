import ContextIndex.Proofs.Query.Nesting

/-!
# The nodes of an outline from top to bottom

An outline is built from symbols in any order and with any ranges, also ranges that overlap or end
before they start.  None of them is lost and nothing else comes in: read from top to bottom, its
nodes are the symbols as they came, each once (`buildOutline_preorder`).  Where a symbol lies can be
surprising then, but what has children is a container.

Both are read off the links of the outline.  While it is built they are spread over the open
containers and the finished nodes, and `Outliner.Holds` says what they are after some of the symbols.
-/

namespace ContextIndex.Query

/-! ## From top to bottom -/

/-- The symbol of a node. -/
def OutlineNode.symbol : OutlineNode → Symbol
  | .node y _ => y

/-- The nodes directly inside a node. -/
def OutlineNode.children : OutlineNode → List OutlineNode
  | .node _ children => children

mutual

/-- A node and all nodes inside it, from top to bottom. -/
def OutlineNode.preorder : OutlineNode → List OutlineNode
  | .node y children => .node y children :: preorderIn children

/-- Nodes and all nodes inside them, from top to bottom. -/
def preorderIn : List OutlineNode → List OutlineNode
  | [] => []
  | n :: ns => n.preorder ++ preorderIn ns

end

mutual

/-- The links of a node go through its symbols from top to bottom. -/
theorem OutlineNode.map_fst_links (up : Option Symbol) :
    ∀ n : OutlineNode, (n.links up).map Prod.fst = n.preorder.map OutlineNode.symbol
  | .node y children => by
    simp [OutlineNode.links, OutlineNode.preorder, OutlineNode.symbol,
      map_fst_linksIn (some y) children]

theorem map_fst_linksIn (up : Option Symbol) :
    ∀ ns : List OutlineNode, (linksIn up ns).map Prod.fst = (preorderIn ns).map OutlineNode.symbol
  | [] => rfl
  | n :: ns => by
    simp [linksIn, preorderIn, OutlineNode.map_fst_links up n, map_fst_linksIn up ns]

end

/-- A node has a link to each of its children, whatever comes after the first. -/
theorem OutlineNode.link_mem_linksIn (c : OutlineNode) (up : Option Symbol)
    (cs : List OutlineNode) : (c.symbol, up) ∈ linksIn up (c :: cs) := by
  cases c with
  | node y children => simp [linksIn, OutlineNode.links, OutlineNode.symbol]

mutual

/-- What has children is what some symbol is directly inside of. -/
theorem OutlineNode.exists_link {n : OutlineNode} (hn : n.children ≠ []) (up : Option Symbol) :
    ∀ m : OutlineNode, n ∈ m.preorder → ∃ y, (y, some n.symbol) ∈ m.links up
  | .node z children, h => by
    simp only [OutlineNode.preorder, List.mem_cons] at h
    obtain rfl | h := h
    · cases children with
      | nil => exact absurd rfl hn
      | cons c cs => exact ⟨c.symbol, List.mem_cons_of_mem _ (c.link_mem_linksIn (some z) cs)⟩
    · obtain ⟨y, hy⟩ := exists_link_in hn (some z) children h
      exact ⟨y, by simp [OutlineNode.links, hy]⟩

theorem exists_link_in {n : OutlineNode} (hn : n.children ≠ []) (up : Option Symbol) :
    ∀ ns : List OutlineNode, n ∈ preorderIn ns → ∃ y, (y, some n.symbol) ∈ linksIn up ns
  | [], h => by simp [preorderIn] at h
  | m :: ms, h => by
    simp only [preorderIn, List.mem_append] at h
    obtain h | h := h
    · obtain ⟨y, hy⟩ := OutlineNode.exists_link hn up m h
      exact ⟨y, by simp [linksIn, hy]⟩
    · obtain ⟨y, hy⟩ := exists_link_in hn up ms h
      exact ⟨y, by simp [linksIn, hy]⟩

end

/-! ## The outline as it is built -/

namespace Outliner

/-- What an outline holds after some symbols: each of them in its order, inside containers only. -/
structure Holds (o : Outliner) (before : List Symbol) : Prop where
  listed : o.links.map Prod.fst = before
  inside : ∀ y c, (y, some c) ∈ o.links → c.kind.isContainer = true
  opened : ∀ c ∈ o.opened, c.kind.isContainer = true

theorem holds_nothing : Holds {} [] :=
  ⟨rfl, fun _ _ h => (nomatch h), fun _ h => (nomatch h)⟩

/-- One more symbol comes last, and only a container is open after it. -/
theorem Holds.add {o : Outliner} {before : List Symbol} (h : o.Holds before) (y : Symbol) :
    (o.add y).Holds (before ++ [y]) where
  listed := by
    rw [links_add, List.map_append, h.listed]
    rfl
  inside := by
    intro z c hlink
    rw [links_add, List.mem_append, List.mem_singleton, Prod.mk.injEq] at hlink
    obtain hold | ⟨-, hfound⟩ := hlink
    · exact h.inside z c hold
    · exact h.opened c (List.mem_of_find?_eq_some hfound.symm)
  opened := by
    intro c hc
    rw [opened_add, List.mem_append] at hc
    obtain hnew | hold := hc
    · by_cases hcontainer : y.kind.isContainer = true
      · simp only [hcontainer, if_true, List.mem_singleton] at hnew
        rw [hnew]
        exact hcontainer
      · simp [hcontainer] at hnew
    · exact h.opened c ((List.dropWhile_sublist _).subset hold)

theorem Holds.foldl {o : Outliner} {before : List Symbol} (h : o.Holds before)
    (ys : List Symbol) : (ys.foldl Outliner.add o).Holds (before ++ ys) := by
  induction ys generalizing o before with
  | nil => simpa using h
  | cons y ys ih => simpa using ih (h.add y)

end Outliner

/-- An outline holds the symbols that it is built from, from top to bottom and each once, and what
has children is a container. -/
theorem buildOutline_preorder (ys : List Symbol) :
    (preorderIn (buildOutline ys)).map OutlineNode.symbol = ys ∧
      ∀ n ∈ preorderIn (buildOutline ys), n.children ≠ [] → n.symbol.kind.isContainer = true := by
  have hholds : (ys.foldl Outliner.add {}).Holds ys := Outliner.holds_nothing.foldl ys
  have hlinks : linksIn none (buildOutline ys) = (ys.foldl Outliner.add {}).links :=
    Outliner.links_close _
  refine ⟨?_, fun n hn hchildren => ?_⟩
  · rw [← map_fst_linksIn none, hlinks]
    exact hholds.listed
  · obtain ⟨y, hy⟩ := exists_link_in hchildren none _ hn
    rw [hlinks] at hy
    exact hholds.inside y _ hy

end ContextIndex.Query
