import ContextIndex.Proofs.Query.Tiers

/-!
# Larger budgets

`serve` takes a primary piece and fills one tier.  If the candidates of the tier come cheapest first,
a larger budget takes all that a smaller one takes, in the same order and perhaps more of it, and
cuts the primary piece only if the smaller one does (`serve_monotone`).

The two runs go alike until the smaller budget leaves a candidate out.  All later candidates are at
least as dear, so from there on the smaller budget takes nothing (`picks_eq_nil`), whatever the larger
one does.  Without the order this fails: a larger budget may take a dear candidate early and stop
under the floor before the cheap ones.
-/

namespace ContextIndex

namespace Query

namespace Allocator

variable {C T E : Type} {tier : Tier} {resolve : C → Except E (Option (Nat × T))}
  {a b : Allocator} {c : C} {cs : List C} {cost : Nat} {piece : T}

/-! ## Prices -/

/-- What a candidate costs, if there is something to offer. -/
def price? (resolve : C → Except E (Option (Nat × T))) (c : C) : Option Nat :=
  match resolve c with
  | .ok (some (cost, _)) => some cost
  | _ => none

/-- What the candidates cost that have something to offer, in order. -/
def prices (resolve : C → Except E (Option (Nat × T))) (cs : List C) : List Nat :=
  cs.filterMap (price? resolve)

theorem prices_cons_some (hc : resolve c = .ok (some (cost, piece))) :
    prices resolve (c :: cs) = cost :: prices resolve cs := by
  rw [prices, List.filterMap_cons_some (b := cost) (by rw [price?, hc]), prices]

theorem prices_sublist (c : C) (cs : List C) :
    (prices resolve cs).Sublist (prices resolve (c :: cs)) :=
  (List.sublist_cons_self c cs).filterMap (price? resolve)

/-- Nothing is taken if every candidate costs more than what remains. -/
theorem picks_eq_nil (h : ∀ n ∈ prices resolve cs, a.remaining < n) :
    picks tier resolve a cs = [] := by
  induction a, cs using fillTier_induction tier resolve with
  | nil a => rfl
  | under a c cs hfloor => exact picks_under hfloor
  | error a c cs e hfloor hc => exact picks_error hfloor hc
  | none a c cs hfloor hc ih =>
    rw [picks_none hfloor hc]
    exact ih fun n hn => h n ((prices_sublist c cs).subset hn)
  | take a c cs cost piece hfloor hc hcost ih =>
    have hdear : a.remaining < cost := by
      refine h cost ?_
      rw [prices_cons_some hc]
      exact List.mem_cons_self
    exact absurd hcost (Nat.not_le.mpr hdear)
  | skip a c cs cost piece hfloor hc hcost ih =>
    rw [picks_skip hfloor hc hcost]
    exact ih fun n hn => h n ((prices_sublist c cs).subset hn)

/-- Of candidates that come cheapest first, what remains less takes a beginning of what remains more
takes. -/
theorem picks_prefix (tier : Tier) (hle : a.remaining ≤ b.remaining)
    (hascending : (prices resolve cs).Pairwise (· ≤ ·)) :
    picks tier resolve a cs <+: picks tier resolve b cs := by
  induction a, cs using fillTier_induction tier resolve generalizing b with
  | nil a => exact List.prefix_rfl
  | under a c cs hfloor => rw [picks_under hfloor]; exact List.nil_prefix
  | error a c cs e hfloor hc => rw [picks_error hfloor hc]; exact List.nil_prefix
  | none a c cs hfloor hc ih =>
    rw [picks_none hfloor hc, picks_none (Nat.le_trans hfloor hle) hc]
    exact ih hle (hascending.sublist (prices_sublist c cs))
  | take a c cs cost piece hfloor hc hcost ih =>
    have hrest : (a.charge cost).remaining ≤ (b.charge cost).remaining := by
      rw [remaining_charge, remaining_charge]
      exact Nat.sub_le_sub_right hle cost
    rw [picks_take hfloor hc hcost,
      picks_take (Nat.le_trans hfloor hle) hc (Nat.le_trans hcost hle)]
    exact List.cons_prefix_cons.mpr
      ⟨rfl, ih hrest (hascending.sublist (prices_sublist c cs))⟩
  | skip a c cs cost piece hfloor hc hcost ih =>
    rw [prices_cons_some hc, List.pairwise_cons] at hascending
    rw [picks_skip hfloor hc hcost,
      picks_eq_nil fun n hn => Nat.lt_of_lt_of_le hcost (hascending.1 n hn)]
    exact List.nil_prefix

/-! ## One tier -/

/-- A primary piece and one tier from a fresh budget: what is kept of the text, and the tier. -/
def serve (budget : Nat) (text : List Char) (hint : Nat → String) (tier : Tier)
    (resolve : C → Except E (Option (Nat × T))) (candidates : List C) :
    List Char × Filled C T E :=
  let start := takePrimary { budget } text hint
  (start.2, fillTier tier resolve start.1 candidates)

/-- Of a text whose length is a 64-bit quantity and candidates that come cheapest first, a smaller
budget takes a beginning of what a larger one takes: of the text and of the pieces.  It spends no
more, and if the larger budget cuts the text, so does the smaller. -/
theorem serve_monotone (text : List Char) (hfits : text.length < wordBound) (hint : Nat → String)
    (tier : Tier) (resolve : C → Except E (Option (Nat × T))) (cs : List C)
    (hascending : (prices resolve cs).Pairwise (· ≤ ·)) {small large : Nat}
    (hle : small ≤ large) :
    (serve small text hint tier resolve cs).1 <+: (serve large text hint tier resolve cs).1 ∧
      (serve small text hint tier resolve cs).2.taken <+:
        (serve large text hint tier resolve cs).2.taken ∧
      (serve small text hint tier resolve cs).2.allocator.spent ≤
        (serve large text hint tier resolve cs).2.allocator.spent ∧
      ((serve large text hint tier resolve cs).2.allocator.truncated = true →
        (serve small text hint tier resolve cs).2.allocator.truncated = true) := by
  have hremaining : (takePrimary { budget := small } text hint).1.remaining ≤
      (takePrimary { budget := large } text hint).1.remaining := by
    rw [remaining_takePrimary_fresh hfits, remaining_takePrimary_fresh hfits]
    exact Nat.sub_le_sub_right hle _
  have hpicks := picks_prefix tier hremaining hascending
  simp only [serve, fillTier_taken, fillTier_allocator, charge_spent, charge_truncated,
    kept_takePrimary hfits, spent_takePrimary_fresh hfits, truncated_takePrimary]
  refine ⟨?_, hpicks.map Pick.piece, ?_, Nat.lt_of_le_of_lt hle⟩
  · refine List.take_prefix_take_left ?_
    simp only [saturatingMul, Token.charsPerToken]
    omega
  · have htotal := total_le_of_sublist (hpicks.map Pick.cost).sublist
    omega

/-- A candidate with its cost, of which there always is something to offer. -/
def priced (c : Nat × String) : Except Empty (Option (Nat × String)) :=
  .ok (some c)

theorem serve_monotone_oneMore :
    let text := List.replicate 80 'x'
    let candidates := [(5, "a"), (600, "b"), (700, "c")]
    let first := serve 530 text (fun _ => "cut") .secondary priced candidates
    let second := serve 1125 text (fun _ => "cut") .secondary priced candidates
    text.length < wordBound ∧ (prices priced candidates).Pairwise (· ≤ ·) ∧
      first.2.taken = ["a"] ∧ second.2.taken = ["a", "b"] ∧
      first.2.taken <+: second.2.taken ∧
      first.2.allocator.spent ≤ second.2.allocator.spent ∧
      (second.2.allocator.truncated = true → first.2.allocator.truncated = true) := by
  intro text candidates first second
  have hfits : text.length < wordBound := by decide +kernel
  have hascending : (prices priced candidates).Pairwise (· ≤ ·) := by decide
  obtain ⟨-, htaken, hspent, hcut⟩ := serve_monotone text hfits (fun _ => "cut") .secondary priced
    candidates hascending (show 530 ≤ 1125 by decide)
  exact ⟨hfits, hascending, by decide +kernel, by decide +kernel, htaken, hspent, hcut⟩

/-- Without the order, the larger budget takes the dear piece and stops, and loses the cheap ones. -/
example :
    let candidates := [(600, "dear"), (10, "one"), (10, "two")]
    (serve 599 [] (fun _ => "cut") .secondary priced candidates).2.taken = ["one", "two"] ∧
      (serve 1000 [] (fun _ => "cut") .secondary priced candidates).2.taken = ["dear"] := by
  decide +kernel

end Allocator

end Query

end ContextIndex
