import Mathlib
import ContextIndex.Proofs.Query.Tiers
import ContextIndex.Proofs.Store.Integrity
import ContextIndex.Query.Context

/-!
# The accounting of a context

A context spends on the source of the symbol, on the types that it mentions and on the functions that
it calls, in this order.  `Accounted` says what it spends on each and what it lists, and
`contextQuery_accounted` says it of every context that a query answers with.

The types and the functions are picks of two tiers (`typePicks`, `calleePicks`).  A pick is the first
symbol of its name and a fitting kind (`resolveType_eq_some`, `resolveCallee_eq_some`), and all
functions cost the same, so their number is a quotient (`length_picks_flat`).
-/

namespace ContextIndex

namespace Query

open Allocator (Pick picks takePrimary fillTier_induction)

/-! ## Candidate names -/

theorem nodup_eraseDups (names : List String) : names.eraseDups.Nodup := by
  -- the tail is filtered before it goes on, so the induction is on the length
  induction hn : names.length using Nat.strongRecOn generalizing names with
  | ind n ih =>
    cases names with
    | nil => exact List.nodup_nil
    | cons a as =>
      have hshorter : (as.filter fun b => !b == a).length < n := by
        rw [← hn, List.length_cons]
        exact Nat.lt_succ_of_le (List.length_filter_le _ as)
      rw [List.eraseDups_cons, List.nodup_cons]
      refine ⟨?_, ih _ hshorter _ rfl⟩
      intro ha
      rw [List.mem_eraseDups, List.mem_filter] at ha
      simp at ha

theorem nodup_distinctNames (exclude : String) (limit : Nat) (names : List String) :
    (distinctNames exclude limit names).Nodup :=
  (nodup_eraseDups _).sublist (List.take_sublist _ _)

theorem exclude_not_mem_distinctNames (exclude : String) (limit : Nat) (names : List String) :
    exclude ∉ distinctNames exclude limit names := by
  intro h
  have hmem := List.mem_eraseDups.mp (List.mem_of_mem_take h)
  rw [List.mem_filter] at hmem
  simp at hmem

/-- Some of the candidates, in order, each once, and without the name that is asked for. -/
structure Listed (listed candidates : List String) (name : String) : Prop where
  ordered : listed.Sublist candidates
  distinct : listed.Nodup
  others : name ∉ listed

theorem Listed.of_sublist {listed names : List String} {name : String} {limit : Nat}
    (h : listed.Sublist (distinctNames name limit names)) :
    Listed listed (distinctNames name limit names) name where
  ordered := h
  distinct := (nodup_distinctNames name limit names).sublist h
  others := fun hmem => exclude_not_mem_distinctNames name limit names (h.subset hmem)

/-! ## Symbols of a name -/

/-- The first symbol of a file with a name and a fitting kind, in the order in which symbols are
read. -/
def FirstNamed (f : FileRow) (name : String) (fits : SymbolKind → Prop) (y : Symbol) : Prop :=
  ∃ before after, Store.sortedSymbols f = before ++ y :: after ∧ y.name = name ∧ fits y.kind ∧
    ∀ z ∈ before, ¬(z.name = name ∧ fits z.kind)

theorem firstNamed_of_findSymbol {f : FileRow} {name : String} {kinds : List SymbolKind}
    {y : Symbol} (h : Store.findSymbol f name kinds = some y) :
    FirstNamed f name (fun k => kinds = [] ∨ k ∈ kinds) y := by
  obtain ⟨hy, before, after, hsorted, hbefore⟩ := List.find?_eq_some_iff_append.mp h
  simp only [Bool.and_eq_true, Bool.or_eq_true, beq_iff_eq, List.isEmpty_iff,
    List.contains_iff_mem] at hy
  refine ⟨before, after, hsorted, hy.1, hy.2, ?_⟩
  intro z hz hfits
  have hnot := hbefore z hz
  simp only [Bool.not_eq_true', Bool.and_eq_false_imp, beq_iff_eq, Bool.or_eq_false_iff] at hnot
  obtain ⟨hempty, hcontains⟩ := hnot hfits.1
  cases hfits.2 with
  | inl hnil => simp [hnil] at hempty
  | inr hmem => simp [hmem] at hcontains

theorem FirstNamed.imp {f : FileRow} {name : String} {fits fits' : SymbolKind → Prop} {y : Symbol}
    (h : FirstNamed f name fits y) (hiff : ∀ k, fits k ↔ fits' k) : FirstNamed f name fits' y := by
  obtain ⟨before, after, hsorted, hname, hfits, hbefore⟩ := h
  refine ⟨before, after, hsorted, hname, (hiff _).mp hfits, ?_⟩
  exact fun z hz hboth => hbefore z hz ⟨hboth.1, (hiff _).mpr hboth.2⟩

theorem FirstNamed.mem {f : FileRow} {name : String} {fits : SymbolKind → Prop} {y : Symbol}
    (h : FirstNamed f name fits y) : y ∈ f.symbols := by
  obtain ⟨before, after, hsorted, -⟩ := h
  have hmem : y ∈ Store.sortedSymbols f := by
    rw [hsorted]
    exact List.mem_append_right before List.mem_cons_self
  exact (List.mergeSort_perm _ _).mem_iff.mp hmem

section Resolving

variable {f : FileRow} {name : String} {cost : Nat}

/-- A type that is found is the first symbol of its name that is a type, and costs its source. -/
theorem resolveType_eq_some {t : ReferencedType} (h : resolveType f name = some (cost, t)) :
    (∃ z, FirstNamed f name (· ∈ SymbolKind.types) z ∧
      t = ⟨name, z.kind, String.ofList (linesOf f z.first z.last)⟩) ∧
        cost = Token.cost t.content := by
  obtain ⟨z, hz, heq⟩ := Option.map_eq_some_iff.mp h
  cases heq
  have hfirst := (firstNamed_of_findSymbol hz).imp fun k =>
    show (SymbolKind.types = [] ∨ k ∈ SymbolKind.types) ↔ k ∈ SymbolKind.types by
      simp [SymbolKind.types]
  have hname : z.name = name := hfirst.choose_spec.choose_spec.2.1
  exact ⟨⟨z, hfirst, by rw [hname]⟩, (Token.cost_ofList _).symm⟩

/-- A function that is found is the first symbol of its name that can be called, and costs what any
signature costs. -/
theorem resolveCallee_eq_some {c : CalledFunction} (h : resolveCallee f name = some (cost, c)) :
    (∃ z, FirstNamed f name (· ∈ SymbolKind.callables) z ∧ c = ⟨name, f.path, z.signature⟩) ∧
      cost = signatureCost := by
  obtain ⟨z, hz, heq⟩ := Option.map_eq_some_iff.mp h
  cases heq
  have hfirst := (firstNamed_of_findSymbol hz).imp fun k =>
    show (SymbolKind.callables = [] ∨ k ∈ SymbolKind.callables) ↔ k ∈ SymbolKind.callables by
      simp [SymbolKind.callables]
  have hname : z.name = name := hfirst.choose_spec.choose_spec.2.1
  exact ⟨⟨z, hfirst, by rw [hname]⟩, rfl⟩

end Resolving

/-! ## Tiers that cannot fail -/

section Surely

variable {C T : Type} {tier : Tier} {resolve : C → Option (Nat × T)} {a : Allocator} {cs : List C}

theorem fillSurely_eq : fillSurely tier resolve a cs =
    (a.charge (total ((picks tier (neverFails resolve) a cs).map Pick.cost)),
      (picks tier (neverFails resolve) a cs).map Pick.piece) := by
  rw [fillSurely, Allocator.fillTier_allocator, Allocator.fillTier_taken]

theorem resolve_of_mem_surePicks {p : Pick C T}
    (hp : p ∈ picks tier (neverFails resolve) a cs) : resolve p.candidate = some (p.cost, p.piece) :=
  Except.ok.inj (Allocator.resolve_of_mem_picks hp)

/-- If all pieces cost the same and the floor is no higher, the tier takes as many as there are, up to
the quotient. -/
theorem length_picks_flat (tier : Tier) {price : Nat} (hpos : 0 < price) (hfloor : tier.floor ≤ price)
    (hprice : ∀ c x, resolve c = some x → x.1 = price) (a : Allocator) (cs : List C) :
    (picks tier (neverFails resolve) a cs).length =
      min (cs.countP fun c => (resolve c).isSome) (a.remaining / price) := by
  induction a, cs using fillTier_induction tier (neverFails resolve) with
  | nil a => rfl
  | under a c cs h =>
    rw [Allocator.picks_under h, Nat.div_eq_of_lt (Nat.lt_of_lt_of_le h hfloor), Nat.min_zero]
    rfl
  | error a c cs e h hc => exact e.elim
  | none a c cs h hc ih =>
    have hnone : resolve c = none := Except.ok.inj hc
    rw [Allocator.picks_none h hc, List.countP_cons_of_neg (by simp [hnone])]
    exact ih
  | take a c cs cost piece h hc hcost ih =>
    have hsome : resolve c = some (cost, piece) := Except.ok.inj hc
    have hflat : cost = price := hprice c _ hsome
    subst hflat
    rw [Allocator.picks_take h hc hcost, List.countP_cons_of_pos (by simp [hsome]),
      List.length_cons, ih, Allocator.remaining_charge, Nat.div_eq_sub_div hpos hcost,
      Nat.add_min_add_right]
  | skip a c cs cost piece h hc hcost ih =>
    have hflat : cost = price := hprice c _ (Except.ok.inj hc)
    have hzero : a.remaining / price = 0 := Nat.div_eq_of_lt (hflat ▸ hcost)
    rw [Allocator.picks_skip h hc hcost, ih, hzero, Nat.min_zero, Nat.min_zero]

end Surely

/-! ## The two tiers of a context -/

section Picks

variable (f : FileRow) (y : Symbol) (name : String) (budget : Nat)

/-- The budget after the source of the symbol. -/
def afterSource : Allocator :=
  (takePrimary { budget } (linesOf f y.first y.last) (contextHint y)).1

/-- The types that are taken. -/
def typePicks : List (Pick String ReferencedType) :=
  picks .secondary (neverFails (resolveType f)) (afterSource f y budget)
    (referencedTypeNames (String.ofList (linesOf f y.first y.last)) name)

/-- The budget after the types. -/
def afterTypes : Allocator :=
  (afterSource f y budget).charge (total ((typePicks f y name budget).map Pick.cost))

/-- The functions that are taken. -/
def calleePicks : List (Pick String CalledFunction) :=
  picks .tertiary (neverFails (resolveCallee f)) (afterTypes f y name budget)
    (calleeNames (String.ofList (linesOf f y.first y.last)) name)

/-- The budget after the functions. -/
def afterCallees : Allocator :=
  (afterTypes f y name budget).charge (total ((calleePicks f y name budget).map Pick.cost))

/-- A context lists its picks and spends what they cost. -/
theorem contextOf_eq : contextOf f y name budget =
    ⟨{ target := ⟨y.name, y.kind, String.ofList (takePrimary { budget }
          (linesOf f y.first y.last) (contextHint y)).2, y.first, y.last⟩
       types := (typePicks f y name budget).map Pick.piece
       callees := (calleePicks f y name budget).map Pick.piece },
      (afterCallees f y name budget).spent, (afterCallees f y name budget).truncated,
      (afterCallees f y name budget).hint⟩ := by
  simp only [contextOf, fillSurely_eq]
  rfl

variable {f y name budget}

theorem typePicks_cost : (typePicks f y name budget).map Pick.cost =
    ((typePicks f y name budget).map Pick.piece).map fun t => Token.cost t.content := by
  rw [List.map_map]
  exact List.map_congr_left fun p hp => (resolveType_eq_some (resolve_of_mem_surePicks hp)).2

theorem typePicks_name : ((typePicks f y name budget).map Pick.piece).map ReferencedType.name =
    (typePicks f y name budget).map Pick.candidate := by
  rw [List.map_map]
  refine List.map_congr_left fun p hp => ?_
  obtain ⟨⟨z, -, hpiece⟩, -⟩ := resolveType_eq_some (resolve_of_mem_surePicks hp)
  exact congrArg ReferencedType.name hpiece

theorem calleePicks_cost : total ((calleePicks f y name budget).map Pick.cost) =
    signatureCost * (calleePicks f y name budget).length := by
  have hflat : (calleePicks f y name budget).map Pick.cost =
      List.replicate (calleePicks f y name budget).length signatureCost := by
    rw [List.eq_replicate_iff, List.length_map]
    refine ⟨rfl, fun n hn => ?_⟩
    obtain ⟨p, hp, rfl⟩ := List.mem_map.mp hn
    exact (resolveCallee_eq_some (resolve_of_mem_surePicks hp)).2
  rw [hflat, total_replicate]

theorem calleePicks_name :
    ((calleePicks f y name budget).map Pick.piece).map CalledFunction.name =
      (calleePicks f y name budget).map Pick.candidate := by
  rw [List.map_map]
  refine List.map_congr_left fun p hp => ?_
  obtain ⟨⟨z, -, hpiece⟩, -⟩ := resolveCallee_eq_some (resolve_of_mem_surePicks hp)
  exact congrArg CalledFunction.name hpiece

end Picks

/-! ## Accounting -/

/-- Whether a file has a symbol of a name that can be called. -/
def hasCallee (f : FileRow) (name : String) : Bool :=
  f.symbols.any fun z => z.name == name && SymbolKind.callables.contains z.kind

theorem isSome_resolveCallee (f : FileRow) (name : String) :
    (resolveCallee f name).isSome = hasCallee f name := by
  have hany := (List.mergeSort_perm f.symbols fun a b => decide (a.first ≤ b.first)).any_eq
    (f := fun z => z.name == name && SymbolKind.callables.contains z.kind)
  rw [resolveCallee, Option.isSome_map, Store.findSymbol, List.isSome_find?, hasCallee, ← hany]
  rfl

/-- What a context of symbol `y` of file `f`, which was asked for by `name`, spends and lists. -/
structure Accounted (f : FileRow) (y : Symbol) (name : String) (budget : Nat)
    (e : Envelope SymbolContext) : Prop where
  /-- The target is the symbol, with its source or the beginning that fits. -/
  target : e.data.target =
    ⟨y.name, y.kind, String.ofList (Token.truncate (linesOf f y.first y.last) budget), y.first,
      y.last⟩
  /-- The tokens are those of the texts, and a hundred for each function. -/
  sum : e.totalTokens = Token.cost e.data.target.content +
    total (e.data.types.map fun t => Token.cost t.content) + 100 * e.data.callees.length
  /-- No more than the budget is spent. -/
  bounded : e.totalTokens ≤ budget
  /-- It is cut if the source alone costs more than the budget. -/
  truncated : e.truncated = true ↔ budget < Token.estimate (linesOf f y.first y.last)
  /-- A source that is cut takes the whole budget. -/
  alone : e.truncated = true →
    e.totalTokens = budget ∧ e.data.types = [] ∧ e.data.callees = []
  /-- The types are some of those that the whole source mentions. -/
  types : Listed (e.data.types.map ReferencedType.name)
    (referencedTypeNames (String.ofList (linesOf f y.first y.last)) name) name
  /-- Each is the first type of its name in the file. -/
  types_first : ∀ t ∈ e.data.types, ∃ z, FirstNamed f t.name (· ∈ SymbolKind.types) z ∧
    t = ⟨t.name, z.kind, String.ofList (linesOf f z.first z.last)⟩
  /-- The functions are some of those that the whole source calls. -/
  callees : Listed (e.data.callees.map CalledFunction.name)
    (calleeNames (String.ofList (linesOf f y.first y.last)) name) name
  /-- Each is the first function of its name in the file. -/
  callees_first : ∀ c ∈ e.data.callees, ∃ z, FirstNamed f c.name (· ∈ SymbolKind.callables) z ∧
    c = ⟨c.name, f.path, z.signature⟩
  /-- There are as many as the file has, up to a hundredth of what the texts leave. -/
  callees_count : e.data.callees.length =
    min ((calleeNames (String.ofList (linesOf f y.first y.last)) name).countP (hasCallee f))
      ((budget - (Token.cost e.data.target.content +
        total (e.data.types.map fun t => Token.cost t.content))) / 100)

section Accounting

variable {f : FileRow} {y : Symbol} {name : String} {budget : Nat}

/-- What is spent on the source is the cost of the text that is handed back. -/
theorem spent_afterSource : (afterSource f y budget).spent =
    Token.estimate (takePrimary { budget } (linesOf f y.first y.last) (contextHint y)).2 :=
  (Allocator.spent_takePrimary _ _ _).trans (Nat.zero_add _)

theorem budget_afterSource : (afterSource f y budget).budget = budget :=
  Allocator.budget_takePrimary _ _ _

theorem remaining_afterTypes : (afterTypes f y name budget).remaining =
    budget - (Token.estimate (takePrimary { budget } (linesOf f y.first y.last)
        (contextHint y)).2 + total ((typePicks f y name budget).map Pick.cost)) := by
  rw [Allocator.remaining, afterTypes, Allocator.charge_budget, Allocator.charge_spent,
    budget_afterSource, spent_afterSource]

theorem within_afterTypes : (afterTypes f y name budget).Within := by
  have hsource : (afterSource f y budget).Within := by
    rw [Allocator.Within, spent_afterSource, budget_afterSource]
    exact Allocator.estimate_takePrimary_le { budget } (linesOf f y.first y.last) (contextHint y)
  exact hsource.charge (Allocator.total_picks_le _ _ _ _)

/-- If the source is cut, nothing is left for the tiers. -/
theorem picks_of_cut (name : String) (hfits : (linesOf f y.first y.last).length < wordBound)
    (hcut : budget < Token.estimate (linesOf f y.first y.last)) :
    typePicks f y name budget = [] ∧ calleePicks f y name budget = [] := by
  have hsource : (afterSource f y budget).remaining = 0 := by
    rw [afterSource, Allocator.remaining_takePrimary_fresh hfits]
    exact Nat.sub_eq_zero_of_le (Nat.le_of_lt hcut)
  have htypes : typePicks f y name budget = [] :=
    Allocator.picks_under (by rw [hsource]; decide)
  have hrest : (afterTypes f y name budget).remaining = 0 := by
    rw [afterTypes, htypes]
    exact hsource
  exact ⟨htypes, Allocator.picks_under (by rw [hrest]; decide)⟩

/-- As many functions are taken as the file has, up to a hundredth of what the texts leave. -/
theorem length_calleePicks : (calleePicks f y name budget).length =
    min ((calleeNames (String.ofList (linesOf f y.first y.last)) name).countP (hasCallee f))
      ((budget - (Token.estimate (takePrimary { budget } (linesOf f y.first y.last)
        (contextHint y)).2 + total ((typePicks f y name budget).map Pick.cost))) / 100) := by
  have hflat : ∀ c x, resolveCallee f c = some x → x.1 = signatureCost := by
    intro c x hx
    obtain ⟨cost, piece⟩ := x
    exact (resolveCallee_eq_some hx).2
  have hcount := length_picks_flat .tertiary (by decide) (Nat.le_refl signatureCost)
    hflat (afterTypes f y name budget)
    (calleeNames (String.ofList (linesOf f y.first y.last)) name)
  simp only [isSome_resolveCallee, remaining_afterTypes] at hcount
  exact hcount

theorem spent_afterCallees : (afterCallees f y name budget).spent =
    Token.estimate (takePrimary { budget } (linesOf f y.first y.last) (contextHint y)).2 +
      total ((typePicks f y name budget).map Pick.cost) +
        100 * (calleePicks f y name budget).length := by
  rw [afterCallees, Allocator.charge_spent, calleePicks_cost, afterTypes, Allocator.charge_spent,
    spent_afterSource, signatureCost]

theorem spent_afterCallees_le : (afterCallees f y name budget).spent ≤ budget := by
  have hwithin : (afterCallees f y name budget).Within :=
    within_afterTypes.charge (Allocator.total_picks_le _ _ _ _)
  rw [Allocator.Within, afterCallees, Allocator.charge_budget, afterTypes, Allocator.charge_budget,
    budget_afterSource] at hwithin
  exact hwithin

theorem truncated_afterCallees : (afterCallees f y name budget).truncated = true ↔
    budget < Token.estimate (linesOf f y.first y.last) := by
  rw [afterCallees, Allocator.charge_truncated, afterTypes, Allocator.charge_truncated, afterSource,
    Allocator.truncated_takePrimary]

/-- The tokens of a context are those of its texts, and a hundred for each function. -/
theorem totalTokens_contextOf (f : FileRow) (y : Symbol) (name : String) (budget : Nat) :
    (contextOf f y name budget).totalTokens =
      Token.cost (contextOf f y name budget).data.target.content +
        total ((contextOf f y name budget).data.types.map fun t => Token.cost t.content) +
          100 * (contextOf f y name budget).data.callees.length := by
  simp only [contextOf_eq, spent_afterCallees, Token.cost_ofList, typePicks_cost, List.length_map]

theorem totalTokens_contextOf_le (f : FileRow) (y : Symbol) (name : String) (budget : Nat) :
    (contextOf f y name budget).totalTokens ≤ budget := by
  simp only [contextOf_eq]
  exact spent_afterCallees_le

/-- A function of a context is the first one of its name in the file. -/
theorem callees_contextOf (f : FileRow) (y : Symbol) (name : String) (budget : Nat) :
    ∀ c ∈ (contextOf f y name budget).data.callees, ∃ z,
      FirstNamed f c.name (· ∈ SymbolKind.callables) z ∧ c = ⟨c.name, f.path, z.signature⟩ := by
  intro c hc
  simp only [contextOf_eq] at hc
  obtain ⟨p, hp, rfl⟩ := List.mem_map.mp hc
  obtain ⟨⟨z, hfirst, hpiece⟩, -⟩ := resolveCallee_eq_some (resolve_of_mem_surePicks hp)
  rw [hpiece]
  exact ⟨z, hfirst, rfl⟩

theorem contextOf_accounted (hfits : (linesOf f y.first y.last).length < wordBound) :
    Accounted f y name budget (contextOf f y name budget) := by
  have hsum := totalTokens_contextOf f y name budget
  have hbounded := totalTokens_contextOf_le f y name budget
  have hcallees := callees_contextOf f y name budget
  simp only [contextOf_eq] at hsum hbounded hcallees
  rw [contextOf_eq]
  constructor <;> dsimp only
  case target =>
    simp only [Allocator.kept_takePrimary hfits]
  case sum => exact hsum
  case bounded => exact hbounded
  case truncated => exact truncated_afterCallees
  case alone =>
    intro htruncated
    have hcut := truncated_afterCallees.mp htruncated
    obtain ⟨htypes, hcallees⟩ := picks_of_cut name hfits hcut
    simp only [spent_afterCallees, htypes, hcallees,
      Allocator.kept_takePrimary hfits, Token.estimate_truncate hfits, List.map_nil,
      List.length_nil, total, Nat.add_zero, Nat.mul_zero, and_self, and_true]
    exact Nat.min_eq_right (Nat.le_of_lt hcut)
  case types =>
    refine Listed.of_sublist ?_
    simp only [typePicks_name]
    exact Allocator.picks_sublist _ _ _ _
  case types_first =>
    intro t ht
    obtain ⟨p, hp, rfl⟩ := List.mem_map.mp ht
    obtain ⟨⟨z, hfirst, hpiece⟩, -⟩ := resolveType_eq_some (resolve_of_mem_surePicks hp)
    rw [hpiece]
    exact ⟨z, hfirst, rfl⟩
  case callees =>
    refine Listed.of_sublist ?_
    simp only [calleePicks_name]
    exact Allocator.picks_sublist _ _ _ _
  case callees_first => exact hcallees
  case callees_count =>
    simp only [List.length_map, Token.cost_ofList, ← typePicks_cost]
    exact length_calleePicks

end Accounting

/-! ## Answers -/

/-- A query that is answered has found the repository, the file and the symbol. -/
theorem contextQuery_cases {s : Store} {repo : RepoId} {path name : String} {budget : Nat}
    {e : Envelope SymbolContext} (h : contextQuery s repo path name budget = .ok e) :
    ∃ row f y, s.getRepo repo = .ok (some row) ∧ s.file? row.id path = some f ∧
      FirstNamed f name (fun _ => True) y ∧ e = contextOf f y name budget := by
  cases hrow : requireRepo s repo with
  | error e => simp [contextQuery, hrow] at h
  | ok row =>
    cases hfile : requireFile s row path with
    | error e => simp [contextQuery, hrow, hfile] at h
    | ok f =>
      cases hfind : Store.findSymbol f name [] with
      | none => simp [contextQuery, hrow, hfile, hfind] at h
      | some y =>
        simp only [contextQuery, hrow, hfile, hfind] at h
        exact ⟨row, f, y, getRepo_of_requireRepo hrow, file?_of_requireFile hfile,
          (firstNamed_of_findSymbol hfind).imp fun k => by simp, (Except.ok.inj h).symm⟩

/-- A context that a query answers with is accounted for, whatever the store has gone through: the
file is one at the path, and the symbol is the first of the name in it.  The texts of the store are
of a length that is a 64-bit quantity. -/
theorem contextQuery_accounted {s : Store}
    (hsize : s.AllRows fun f => f.content.length < wordBound) {repo : RepoId} {path name : String}
    {budget : Nat} {e : Envelope SymbolContext}
    (h : contextQuery s repo path name budget = .ok e) :
    ∃ row f y, s.getRepo repo = .ok (some row) ∧ s.file? row.id path = some f ∧ f.path = path ∧
      FirstNamed f name (fun _ => True) y ∧ Accounted f y name budget e := by
  obtain ⟨row, f, y, hrow, hfile, hfirst, rfl⟩ := contextQuery_cases h
  obtain ⟨hpath, hlength⟩ := hsize.file? hfile
  refine ⟨row, f, y, hrow, hfile, hpath, hfirst, contextOf_accounted ?_⟩
  refine Nat.lt_of_le_of_lt (Text.length_lineRange_le _ _ _) ?_
  rwa [String.length_toList]

/-- A file with a function, the type that it mentions and the function that it calls. -/
def mentioning : List Store.Operation :=
  [.insertRepo ⟨"octo", "widgets"⟩ {},
    .writeFile 1 ⟨"a.py", "def f(x: P): g(x)\nclass P: pass\ndef g(y): 0\n", "v1", "regex@1",
      [⟨"f", .function, 1, 1, some "f(x: P)", none⟩, ⟨"P", .classType, 2, 2, none, none⟩,
        ⟨"g", .function, 3, 3, some "g(y)", none⟩]⟩ ⟨0⟩ false]

/-- The row of that file. -/
def mentioningRow : FileRow :=
  { id := 1, path := "a.py", content := "def f(x: P): g(x)\nclass P: pass\ndef g(y): 0\n"
    language := "python", lineCount := 4, tokens := 11, contentId := "v1", extractor := "regex@1"
    updatedAt := ⟨0⟩
    symbols := [⟨"f", .function, 1, 1, some "f(x: P)", 5, none⟩,
      ⟨"P", .classType, 2, 2, none, 4, none⟩, ⟨"g", .function, 3, 3, some "g(y)", 3, none⟩] }

/-- The context of the function: five tokens of source, four of the type and the flat hundred. -/
def mentioningContext : Envelope SymbolContext :=
  { data := ⟨⟨"f", .function, "def f(x: P): g(x)", 1, 1⟩,
      [⟨"P", .classType, "class P: pass"⟩], [⟨"g", "a.py", some "g(y)"⟩]⟩
    totalTokens := 109
    truncated := false
    hint := none }

theorem repos_after_mentioning : (Store.after mentioning).repos =
    [⟨⟨1, "octo", "widgets", none, none, none, none⟩, [mentioningRow]⟩] := by
  rw [mentioningRow]
  cbv

theorem contextOf_mentioning :
    contextOf mentioningRow ⟨"f", .function, 1, 1, some "f(x: P)", 5, none⟩ "f" 1000 =
      mentioningContext := by
  have hsource : linesOf mentioningRow 1 1 = "def f(x: P): g(x)".toList := by decide +kernel
  have hcost : Token.estimate "def f(x: P): g(x)".toList = 5 := by cbv
  have htypes : referencedTypeNames "def f(x: P): g(x)" "f" = ["P"] := by cbv
  have htype : resolveType mentioningRow "P" = some (4, ⟨"P", .classType, "class P: pass"⟩) := by
    cbv
  have hcallees : calleeNames "def f(x: P): g(x)" "f" = ["g"] := by cbv
  have hcallee : resolveCallee mentioningRow "g" = some (100, ⟨"g", "a.py", some "g(y)"⟩) := by
    cbv
  simp only [contextOf, fillSurely, takePrimary, hsource, hcost, String.ofList_toList, htypes,
    hcallees]
  simp [Allocator.fillTier, neverFails, htype, hcallee, Allocator.offer, Allocator.remaining,
    Allocator.charge, Tier.floor, Allocator.finish, mentioningContext]

theorem contextQuery_mentioning :
    contextQuery (Store.after mentioning) ⟨"octo", "widgets"⟩ "a.py" "f" 1000 =
      .ok mentioningContext := by
  have hrepo : (Store.after mentioning).getRepo ⟨"octo", "widgets"⟩ =
      .ok (some ⟨1, "octo", "widgets", none, none, none, none⟩) := rfl
  have hfile : (Store.after mentioning).file? 1 "a.py" = some mentioningRow := by
    simp only [Store.file?, Store.files, Store.entry?, repos_after_mentioning]
    rfl
  have hsymbol : Store.findSymbol mentioningRow "f" [] =
      some ⟨"f", .function, 1, 1, some "f(x: P)", 5, none⟩ := by
    cbv
  simp only [contextQuery, requireRepo, hrepo, requireFile, hfile, hsymbol, contextOf_mentioning]

theorem contextQuery_accounted_mentioning :
    ((Store.after mentioning).AllRows fun f => f.content.length < wordBound) ∧
      contextQuery (Store.after mentioning) ⟨"octo", "widgets"⟩ "a.py" "f" 1000 =
        .ok mentioningContext ∧
      ∃ row f y, (Store.after mentioning).getRepo ⟨"octo", "widgets"⟩ = .ok (some row) ∧
        (Store.after mentioning).file? row.id "a.py" = some f ∧
        FirstNamed f "f" (fun _ => True) y ∧ Accounted f y "f" 1000 mentioningContext := by
  have hsize : (Store.after mentioning).AllRows fun f => f.content.length < wordBound := by
    rw [Store.AllRows, repos_after_mentioning]
    simp only [List.forall_mem_singleton]
    decide +kernel
  obtain ⟨row, f, y, hrow, hfile, -, hfirst, haccounted⟩ :=
    contextQuery_accounted hsize contextQuery_mentioning
  exact ⟨hsize, contextQuery_mentioning, row, f, y, hrow, hfile, hfirst, haccounted⟩

end Query

end ContextIndex
