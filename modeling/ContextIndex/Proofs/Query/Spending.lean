import ContextIndex.Proofs.Query.Tiers

/-!
# Spending within a budget

An `Operation` is one request to an allocator, and `after` is the allocator that a list of them
leaves.  `bill` lists what they charge, read off their answers: the cost of the text that is handed
back, the cost that is granted, the costs of the pieces that a tier takes.

`spending_bounded` holds of every list of requests.  No more than the budget is spent, what is spent
is the sum of the bill, and a hint is there exactly when something was cut off.  So the requests can
be done in 64 bits (`afterInWords?`): no difference goes below zero and no sum passes the bound.
-/

namespace ContextIndex

namespace Query

namespace Allocator

/-! ## Sixty-four bits -/

section Words

variable {C T E : Type}

/-- What is left to spend, unless more than the budget is spent. -/
def remaining? (a : Allocator) : Option Nat :=
  if a.spent ≤ a.budget then some (a.budget - a.spent) else none

/-- The same budget with `cost` spent on top, unless the sum is no 64-bit quantity. -/
def charge? (a : Allocator) (cost : Nat) : Option Allocator :=
  (addWord? a.spent cost).map fun spent => { a with spent }

/-- `takePrimary` in 64 bits. -/
def takePrimary? (a : Allocator) (text : List Char) (hint : Nat → String) :
    Option (Allocator × List Char) :=
  a.remaining?.bind fun left =>
    if Token.estimate text ≤ left then (a.charge? (Token.estimate text)).map fun b => (b, text)
    else
      let kept := Token.truncate text left
      (a.charge? (Token.estimate kept)).map fun b =>
        ({ b with truncated := true, hint := some (hint b.budget) }, kept)

/-- `trySpend` in 64 bits. -/
def trySpend? (a : Allocator) (cost : Nat) : Option (Option Allocator) :=
  a.remaining?.bind fun left => if left < cost then some none else (a.charge? cost).map some

/-- `offer` in 64 bits. -/
def offer? (a : Allocator) (tier : Tier) (cost : Nat) : Option (Offer × Allocator) :=
  a.remaining?.bind fun left =>
    if left < tier.floor then some (.stop, a)
    else if left < cost then some (.skip, a)
    else (a.charge? cost).map fun b => (.take, b)

/-- `fillTier` in 64 bits. -/
def fillTier? (tier : Tier) (resolve : C → Except E (Option (Nat × T))) :
    Allocator → List C → Option (Filled C T E)
  | a, [] => some ⟨a, [], [], none⟩
  | a, c :: cs =>
    a.remaining?.bind fun left =>
      if left < tier.floor then some ⟨a, [], [], none⟩
      else match resolve c with
        | .error e => some ⟨a, [], [c], some e⟩
        | .ok none =>
          (fillTier? tier resolve a cs).map fun rest =>
            { rest with resolved := c :: rest.resolved }
        | .ok (some (cost, piece)) =>
          (a.offer? tier cost).bind fun answer =>
            match answer with
            | (.take, a) =>
              (fillTier? tier resolve a cs).map fun rest =>
                { rest with taken := piece :: rest.taken, resolved := c :: rest.resolved }
            | (.skip, a) =>
              (fillTier? tier resolve a cs).map fun rest =>
                { rest with resolved := c :: rest.resolved }
            | (.stop, a) => some ⟨a, [], [c], none⟩

variable {a : Allocator}

theorem remaining?_eq (h : a.Within) : a.remaining? = some a.remaining :=
  if_pos h

/-- A charge that fits the rest of a 64-bit budget is a 64-bit sum. -/
theorem charge?_eq (h : a.Within) (hbudget : a.budget < wordBound) {cost : Nat}
    (hcost : cost ≤ a.remaining) : a.charge? cost = some (a.charge cost) := by
  have hsum : a.spent + cost < wordBound := by
    simp only [Within, remaining] at h hcost
    omega
  rw [charge?, addWord?, if_pos hsum]
  rfl

theorem takePrimary?_eq (h : a.Within) (hbudget : a.budget < wordBound) (text : List Char)
    (hint : Nat → String) : a.takePrimary? text hint = some (a.takePrimary text hint) := by
  simp only [takePrimary?, takePrimary, remaining?_eq h, Option.bind_some]
  by_cases hfits : Token.estimate text ≤ a.remaining
  · rw [if_pos hfits, if_pos hfits, charge?_eq h hbudget hfits]
    rfl
  · rw [if_neg hfits, if_neg hfits,
      charge?_eq h hbudget (Token.estimate_truncate_le text a.remaining)]
    rfl

theorem trySpend?_eq (h : a.Within) (hbudget : a.budget < wordBound) (cost : Nat) :
    a.trySpend? cost = some (a.trySpend cost) := by
  simp only [trySpend?, trySpend, remaining?_eq h, Option.bind_some]
  by_cases hcost : a.remaining < cost
  · rw [if_pos hcost, if_pos hcost]
  · rw [if_neg hcost, if_neg hcost, charge?_eq h hbudget (Nat.not_lt.mp hcost)]
    rfl

theorem offer?_eq (h : a.Within) (hbudget : a.budget < wordBound) (tier : Tier) (cost : Nat) :
    a.offer? tier cost = some (a.offer tier cost) := by
  simp only [offer?, offer, remaining?_eq h, Option.bind_some]
  by_cases hfloor : a.remaining < tier.floor
  · rw [if_pos hfloor, if_pos hfloor]
  · rw [if_neg hfloor, if_neg hfloor]
    by_cases hcost : a.remaining < cost
    · rw [if_pos hcost, if_pos hcost]
    · rw [if_neg hcost, if_neg hcost, charge?_eq h hbudget (Nat.not_lt.mp hcost)]
      rfl

theorem fillTier?_eq (tier : Tier) (resolve : C → Except E (Option (Nat × T))) (cs : List C)
    (h : a.Within) (hbudget : a.budget < wordBound) :
    fillTier? tier resolve a cs = some (fillTier tier resolve a cs) := by
  induction a, cs using fillTier_induction tier resolve with
  | nil a => rfl
  | under a c cs hfloor =>
    rw [fillTier_under hfloor, fillTier?, remaining?_eq h, Option.bind_some, if_pos hfloor]
  | error a c cs e hfloor hc =>
    rw [fillTier_error hfloor hc, fillTier?, remaining?_eq h, Option.bind_some,
      if_neg (Nat.not_lt.mpr hfloor), hc]
  | none a c cs hfloor hc ih =>
    rw [fillTier_none hfloor hc, fillTier?, remaining?_eq h, Option.bind_some,
      if_neg (Nat.not_lt.mpr hfloor), hc]
    simp only [ih h hbudget, Option.map_some]
  | take a c cs cost piece hfloor hc hcost ih =>
    have hoffer : a.offer? tier cost = some (.take, a.charge cost) := by
      rw [offer?_eq h hbudget, offer, if_neg (Nat.not_lt.mpr hfloor),
        if_neg (Nat.not_lt.mpr hcost)]
    rw [fillTier_take hfloor hc hcost, fillTier?, remaining?_eq h, Option.bind_some,
      if_neg (Nat.not_lt.mpr hfloor), hc]
    simp only [hoffer, Option.bind_some, ih (h.charge hcost) hbudget, Option.map_some]
  | skip a c cs cost piece hfloor hc hcost ih =>
    have hoffer : a.offer? tier cost = some (.skip, a) := by
      rw [offer?_eq h hbudget, offer, if_neg (Nat.not_lt.mpr hfloor), if_pos hcost]
    rw [fillTier_skip hfloor hc hcost, fillTier?, remaining?_eq h, Option.bind_some,
      if_neg (Nat.not_lt.mpr hfloor), hc]
    simp only [hoffer, Option.bind_some, ih h hbudget, Option.map_some]

end Words

/-! ## Runs of requests -/

/-- A request to an allocator.  Candidates may be of any type, so a look that depends on the looks
before it is one whose candidates say what it finds. -/
inductive Operation : Type 1
  | takePrimary (text : List Char) (hint : Nat → String)
  | trySpend (cost : Nat)
  | fillTier {C T E : Type} (tier : Tier) (resolve : C → Except E (Option (Nat × T)))
    (candidates : List C)
  | markTruncated (hint : String)

namespace Operation

/-- The allocator after a request, also after one that fails or is refused. -/
def run (a : Allocator) : Operation → Allocator
  | takePrimary text hint => (a.takePrimary text hint).1
  | trySpend cost => (a.trySpend cost).getD a
  | fillTier tier resolve candidates => (Allocator.fillTier tier resolve a candidates).allocator
  | markTruncated hint => a.markTruncated hint

/-- The allocator after a request that is done in 64 bits. -/
def runInWords? (a : Allocator) : Operation → Option Allocator
  | takePrimary text hint => (a.takePrimary? text hint).map Prod.fst
  | trySpend cost => (a.trySpend? cost).map fun answer => answer.getD a
  | fillTier tier resolve candidates =>
    (Allocator.fillTier? tier resolve a candidates).map Filled.allocator
  | markTruncated hint => some (a.markTruncated hint)

/-- What is charged for the answer to a request. -/
def charges (a : Allocator) : Operation → List Nat
  | takePrimary text hint => [Token.estimate (a.takePrimary text hint).2]
  | trySpend cost => if (a.trySpend cost).isSome then [cost] else []
  | fillTier tier resolve candidates => (picks tier resolve a candidates).map Pick.cost
  | markTruncated _ => []

end Operation

/-- The allocator of a budget after requests. -/
def after (budget : Nat) (ops : List Operation) : Allocator :=
  ops.foldl Operation.run { budget }

/-- The allocator of a budget after requests that are done in 64 bits. -/
def afterInWords? (budget : Nat) (ops : List Operation) : Option Allocator :=
  ops.foldlM Operation.runInWords? { budget }

/-- What requests charge, one after another. -/
def bill (a : Allocator) : List Operation → List Nat
  | [] => []
  | o :: ops => o.charges a ++ bill (o.run a) ops

/-- What every request keeps. -/
structure Sound (a : Allocator) : Prop where
  within : a.Within
  hinted : a.hint.isSome = a.truncated

theorem Sound.fresh (budget : Nat) : Sound { budget } :=
  ⟨Nat.zero_le _, rfl⟩

theorem Sound.charge {a : Allocator} (h : a.Sound) {n : Nat} (hn : n ≤ a.remaining) :
    (a.charge n).Sound :=
  ⟨h.within.charge hn, h.hinted⟩

variable {a : Allocator}

theorem Sound.run (h : a.Sound) (o : Operation) : (o.run a).Sound := by
  cases o with
  | takePrimary text hint =>
    by_cases hfits : Token.estimate text ≤ a.remaining
    · show (a.takePrimary text hint).1.Sound
      rw [takePrimary_of_le hfits]
      exact h.charge hfits
    · show (a.takePrimary text hint).1.Sound
      rw [takePrimary_of_lt (Nat.not_le.mp hfits)]
      exact ⟨h.within.charge (Token.estimate_truncate_le text a.remaining), rfl⟩
  | trySpend cost =>
    show ((a.trySpend cost).getD a).Sound
    by_cases hcost : a.remaining < cost
    · rw [trySpend, if_pos hcost]
      exact h
    · rw [trySpend, if_neg hcost]
      exact h.charge (Nat.not_lt.mp hcost)
  | fillTier tier resolve candidates =>
    show (Allocator.fillTier tier resolve a candidates).allocator.Sound
    rw [fillTier_allocator]
    exact h.charge (total_picks_le tier resolve a candidates)
  | markTruncated hint => exact ⟨h.within, rfl⟩

/-- A request spends what it charges. -/
theorem spent_run (a : Allocator) (o : Operation) :
    (o.run a).spent = a.spent + total (o.charges a) := by
  cases o with
  | takePrimary text hint => exact spent_takePrimary a text hint
  | trySpend cost =>
    by_cases hcost : a.remaining < cost
    · simp [Operation.run, Operation.charges, trySpend, hcost, total]
    · simp [Operation.run, Operation.charges, trySpend, hcost, total]
  | fillTier tier resolve candidates =>
    show (Allocator.fillTier tier resolve a candidates).allocator.spent = _
    rw [fillTier_allocator]
    rfl
  | markTruncated hint => rfl

theorem budget_run (a : Allocator) (o : Operation) : (o.run a).budget = a.budget := by
  cases o with
  | takePrimary text hint => exact budget_takePrimary a text hint
  | trySpend cost =>
    by_cases hcost : a.remaining < cost
    · simp [Operation.run, trySpend, hcost]
    · simp [Operation.run, trySpend, hcost]
  | fillTier tier resolve candidates =>
    show (Allocator.fillTier tier resolve a candidates).allocator.budget = _
    rw [fillTier_allocator]
    rfl
  | markTruncated hint => rfl

theorem runInWords?_eq (h : a.Within) (hbudget : a.budget < wordBound) (o : Operation) :
    o.runInWords? a = some (o.run a) := by
  cases o with
  | takePrimary text hint =>
    rw [Operation.runInWords?, takePrimary?_eq h hbudget]
    rfl
  | trySpend cost =>
    rw [Operation.runInWords?, trySpend?_eq h hbudget]
    rfl
  | fillTier tier resolve candidates =>
    rw [Operation.runInWords?, fillTier?_eq tier resolve candidates h hbudget]
    rfl
  | markTruncated hint => rfl

section Runs

variable (ops : List Operation)

theorem Sound.foldl (h : a.Sound) : (ops.foldl Operation.run a).Sound := by
  induction ops generalizing a with
  | nil => exact h
  | cons o ops ih => exact ih (h.run o)

theorem budget_foldl : (ops.foldl Operation.run a).budget = a.budget := by
  induction ops generalizing a with
  | nil => rfl
  | cons o ops ih => exact ih.trans (budget_run a o)

theorem spent_foldl : (ops.foldl Operation.run a).spent = a.spent + total (bill a ops) := by
  induction ops generalizing a with
  | nil => rfl
  | cons o ops ih =>
    rw [List.foldl_cons, ih, spent_run, bill, total_append, Nat.add_assoc]

theorem foldlM_runInWords? (h : a.Sound) (hbudget : a.budget < wordBound) :
    ops.foldlM Operation.runInWords? a = some (ops.foldl Operation.run a) := by
  induction ops generalizing a with
  | nil => rfl
  | cons o ops ih =>
    rw [List.foldlM_cons, runInWords?_eq h.within hbudget]
    exact ih (h.run o) ((budget_run a o).symm ▸ hbudget)

end Runs

/-- Whatever is asked of the allocator of a 64-bit budget, in any order and whatever fails, can be
done in 64 bits: nothing is subtracted from less, and no sum passes the bound.  Never more than the
budget is spent, what is spent is the sum of the bill, and the answer has a hint if and only if it
says that something was cut off. -/
theorem spending_bounded (budget : Nat) (hbudget : budget < wordBound) (ops : List Operation) :
    afterInWords? budget ops = some (after budget ops) ∧
      (after budget ops).budget = budget ∧
      (after budget ops).spent ≤ budget ∧
      (after budget ops).spent = total (bill { budget } ops) ∧
      ∀ {α : Type} (data : α),
        ((after budget ops).finish data).totalTokens = total (bill { budget } ops) ∧
          (((after budget ops).finish data).hint.isSome = true ↔
            ((after budget ops).finish data).truncated = true) := by
  have hfresh := Sound.fresh budget
  have hsound : (after budget ops).Sound := hfresh.foldl ops
  have hkept : (after budget ops).budget = budget := budget_foldl ops
  have hspent : (after budget ops).spent = total (bill { budget } ops) := by
    rw [after, spent_foldl]
    exact Nat.zero_add _
  refine ⟨foldlM_runInWords? ops hfresh hbudget, hkept, ?_, hspent, ?_⟩
  · have hwithin : (after budget ops).spent ≤ (after budget ops).budget := hsound.within
    rwa [hkept] at hwithin
  · intro α data
    refine ⟨hspent, ?_⟩
    show (after budget ops).hint.isSome = true ↔ (after budget ops).truncated = true
    rw [hsound.hinted]

/-- A run in which a look at a candidate fails, a cost is refused and the last text is cut. -/
def crowded : List Operation :=
  [.takePrimary (List.replicate 200 'x') fun _ => "none",
    .fillTier .tertiary (fun c : Except String (Option (Nat × String)) => c)
      [.ok (some (500, "dear")), .ok (some (9, "cheap")), .ok none, .error "lost",
        .ok (some (1, "late"))],
    .trySpend 102, .trySpend 1, .takePrimary (List.replicate 401 'y') fun _ => "cut",
    .markTruncated "late"]

theorem spending_bounded_crowded :
    160 < wordBound ∧ bill { budget := 160 } crowded = [50, 9, 1, 100] ∧
      afterInWords? 160 crowded = some (after 160 crowded) ∧
      (after 160 crowded).spent = 160 ∧
      (((after 160 crowded).finish ()).hint.isSome = true ↔
        ((after 160 crowded).finish ()).truncated = true) := by
  have hbudget : 160 < wordBound := by decide
  have hbill : bill { budget := 160 } crowded = [50, 9, 1, 100] := by decide +kernel
  obtain ⟨hwords, -, -, hspent, hhint⟩ := spending_bounded 160 hbudget crowded
  rw [hbill] at hspent
  exact ⟨hbudget, hbill, hwords, hspent, (hhint ()).2⟩

end Allocator

end Query

end ContextIndex
