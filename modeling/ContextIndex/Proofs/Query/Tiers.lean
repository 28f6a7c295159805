import ContextIndex.Query.Budget

/-!
# What a primary piece and a tier take

Everything about a tier follows from its `picks`: the pieces that it takes, each with its candidate
and its cost.  There is one equation for each thing that can become of a candidate, and
`fillTier_induction` puts them in the order in which a tier is filled.

What a tier charges is what its picks cost (`fillTier_allocator`), and what it hands out are their
pieces (`fillTier_taken`).  Together they cost no more than remains (`total_picks_le`).
-/

namespace ContextIndex

namespace Query

namespace Allocator

/-! ## Charges -/

section Charges

variable {a : Allocator}

@[simp] theorem charge_budget (a : Allocator) (n : Nat) : (a.charge n).budget = a.budget := rfl

@[simp] theorem charge_spent (a : Allocator) (n : Nat) : (a.charge n).spent = a.spent + n := rfl

@[simp] theorem charge_truncated (a : Allocator) (n : Nat) :
    (a.charge n).truncated = a.truncated := rfl

@[simp] theorem charge_hint (a : Allocator) (n : Nat) : (a.charge n).hint = a.hint := rfl

@[simp] theorem charge_zero (a : Allocator) : a.charge 0 = a := rfl

theorem charge_charge (a : Allocator) (m n : Nat) : (a.charge m).charge n = a.charge (m + n) := by
  simp only [charge, Nat.add_assoc]

theorem remaining_charge (a : Allocator) (n : Nat) :
    (a.charge n).remaining = a.remaining - n :=
  (Nat.sub_sub _ _ _).symm

/-- No more is spent than there is. -/
def Within (a : Allocator) : Prop :=
  a.spent ≤ a.budget

theorem Within.charge (h : a.Within) {n : Nat} (hn : n ≤ a.remaining) : (a.charge n).Within := by
  simp only [Within, remaining, charge_spent, charge_budget] at *
  omega

end Charges

/-! ## The primary piece -/

section Primary

variable {a : Allocator} {text : List Char} {hint : Nat → String}

theorem takePrimary_of_le (h : Token.estimate text ≤ a.remaining) :
    a.takePrimary text hint = (a.charge (Token.estimate text), text) :=
  if_pos h

theorem takePrimary_of_lt (h : a.remaining < Token.estimate text) :
    a.takePrimary text hint =
      ({ a.charge (Token.estimate (Token.truncate text a.remaining)) with
          truncated := true, hint := some (hint a.budget) },
        Token.truncate text a.remaining) :=
  if_neg (Nat.not_le.mpr h)

theorem budget_takePrimary (a : Allocator) (text : List Char) (hint : Nat → String) :
    (a.takePrimary text hint).1.budget = a.budget := by
  unfold takePrimary
  split <;> rfl

/-- What is charged for the primary piece is the cost of the text that is handed back. -/
theorem spent_takePrimary (a : Allocator) (text : List Char) (hint : Nat → String) :
    (a.takePrimary text hint).1.spent =
      a.spent + Token.estimate (a.takePrimary text hint).2 := by
  unfold takePrimary
  split <;> rfl

theorem estimate_takePrimary_le (a : Allocator) (text : List Char) (hint : Nat → String) :
    Token.estimate (a.takePrimary text hint).2 ≤ a.remaining := by
  unfold takePrimary
  split
  · next h => exact h
  · exact Token.estimate_truncate_le text a.remaining

/-- What is handed back is a beginning of the primary piece. -/
theorem takePrimary_prefix (a : Allocator) (text : List Char) (hint : Nat → String) :
    (a.takePrimary text hint).2 <+: text := by
  unfold takePrimary
  split
  · exact List.prefix_rfl
  · exact List.take_prefix _ text

/-! What a fresh budget does with a text whose length is a 64-bit quantity. -/

theorem truncated_takePrimary (budget : Nat) (text : List Char) (hint : Nat → String) :
    (takePrimary { budget } text hint).1.truncated = true ↔ budget < Token.estimate text := by
  by_cases h : Token.estimate text ≤ budget
  · rw [takePrimary_of_le h]
    exact ⟨nofun, fun hlt => absurd h (Nat.not_le.mpr hlt)⟩
  · rw [takePrimary_of_lt (Nat.not_le.mp h)]
    exact ⟨fun _ => Nat.not_le.mp h, fun _ => rfl⟩

theorem kept_takePrimary (hfits : text.length < wordBound) (budget : Nat) (hint : Nat → String) :
    (takePrimary { budget } text hint).2 = Token.truncate text budget := by
  by_cases h : Token.estimate text ≤ budget
  · rw [takePrimary_of_le h, Token.truncate_eq_self hfits h]
  · rw [takePrimary_of_lt (Nat.not_le.mp h)]
    rfl

theorem spent_takePrimary_fresh (hfits : text.length < wordBound) (budget : Nat)
    (hint : Nat → String) :
    (takePrimary { budget } text hint).1.spent = min (Token.estimate text) budget := by
  rw [spent_takePrimary, kept_takePrimary hfits, Token.estimate_truncate hfits]
  exact Nat.zero_add _

theorem remaining_takePrimary_fresh (hfits : text.length < wordBound) (budget : Nat)
    (hint : Nat → String) :
    (takePrimary { budget } text hint).1.remaining = budget - Token.estimate text := by
  rw [remaining, budget_takePrimary, spent_takePrimary_fresh hfits]
  show budget - min (Token.estimate text) budget = budget - Token.estimate text
  omega

end Primary

/-! ## Tiers, candidate by candidate -/

section Tier

variable {C T E : Type} {tier : Tier} {resolve : C → Except E (Option (Nat × T))}
  {a : Allocator} {c : C} {cs : List C} {cost : Nat} {piece : T} {e : E}

theorem fillTier_under (h : a.remaining < tier.floor) :
    fillTier tier resolve a cs = ⟨a, [], [], none⟩ := by
  cases cs with
  | nil => rfl
  | cons c cs => rw [fillTier, if_pos h]

theorem fillTier_error (h : tier.floor ≤ a.remaining) (hc : resolve c = .error e) :
    fillTier tier resolve a (c :: cs) = ⟨a, [], [c], some e⟩ := by
  rw [fillTier, if_neg (Nat.not_lt.mpr h), hc]

theorem fillTier_none (h : tier.floor ≤ a.remaining) (hc : resolve c = .ok none) :
    fillTier tier resolve a (c :: cs) =
      { fillTier tier resolve a cs with
        resolved := c :: (fillTier tier resolve a cs).resolved } := by
  rw [fillTier, if_neg (Nat.not_lt.mpr h), hc]

theorem fillTier_take (h : tier.floor ≤ a.remaining) (hc : resolve c = .ok (some (cost, piece)))
    (hcost : cost ≤ a.remaining) :
    fillTier tier resolve a (c :: cs) =
      { fillTier tier resolve (a.charge cost) cs with
        taken := piece :: (fillTier tier resolve (a.charge cost) cs).taken
        resolved := c :: (fillTier tier resolve (a.charge cost) cs).resolved } := by
  have hoffer : a.offer tier cost = (.take, a.charge cost) := by
    rw [offer, if_neg (Nat.not_lt.mpr h), if_neg (Nat.not_lt.mpr hcost)]
  rw [fillTier, if_neg (Nat.not_lt.mpr h), hc]
  simp only [hoffer]

theorem fillTier_skip (h : tier.floor ≤ a.remaining) (hc : resolve c = .ok (some (cost, piece)))
    (hcost : a.remaining < cost) :
    fillTier tier resolve a (c :: cs) =
      { fillTier tier resolve a cs with
        resolved := c :: (fillTier tier resolve a cs).resolved } := by
  have hoffer : a.offer tier cost = (.skip, a) := by
    rw [offer, if_neg (Nat.not_lt.mpr h), if_pos hcost]
  rw [fillTier, if_neg (Nat.not_lt.mpr h), hc]
  simp only [hoffer]

/-- What can become of a tier: it has no candidates, too little remains, looking at the first one
fails or finds nothing, or the first one is taken or left out. -/
theorem fillTier_induction {motive : Allocator → List C → Prop} (tier : Tier)
    (resolve : C → Except E (Option (Nat × T)))
    (nil : ∀ a, motive a [])
    (under : ∀ a c cs, a.remaining < tier.floor → motive a (c :: cs))
    (error : ∀ a c cs e, tier.floor ≤ a.remaining → resolve c = .error e → motive a (c :: cs))
    (none : ∀ a c cs, tier.floor ≤ a.remaining → resolve c = .ok none → motive a cs →
      motive a (c :: cs))
    (take : ∀ a c cs cost piece, tier.floor ≤ a.remaining →
      resolve c = .ok (some (cost, piece)) → cost ≤ a.remaining → motive (a.charge cost) cs →
      motive a (c :: cs))
    (skip : ∀ a c cs cost piece, tier.floor ≤ a.remaining →
      resolve c = .ok (some (cost, piece)) → a.remaining < cost → motive a cs →
      motive a (c :: cs))
    (a : Allocator) (cs : List C) : motive a cs := by
  induction cs generalizing a with
  | nil => exact nil a
  | cons c cs ih =>
    by_cases hfloor : a.remaining < tier.floor
    · exact under a c cs hfloor
    · have hfloor := Nat.not_lt.mp hfloor
      cases hc : resolve c with
      | error e => exact error a c cs e hfloor hc
      | ok found =>
        cases found with
        | none => exact none a c cs hfloor hc (ih a)
        | some x =>
          by_cases hcost : a.remaining < x.1
          · exact skip a c cs x.1 x.2 hfloor hc hcost (ih a)
          · exact take a c cs x.1 x.2 hfloor hc (Nat.not_lt.mp hcost) (ih (a.charge x.1))

/-! ## What a tier takes -/

/-- A piece, the candidate it comes from and what it costs. -/
structure Pick (C T : Type) where
  /-- The candidate. -/
  candidate : C
  /-- The cost. -/
  cost : Nat
  /-- The piece. -/
  piece : T
deriving DecidableEq, Repr

/-- The same looks at candidates, with every piece labelled. -/
def labelled (resolve : C → Except E (Option (Nat × T))) (c : C) :
    Except E (Option (Nat × Pick C T)) :=
  match resolve c with
  | .error e => .error e
  | .ok none => .ok none
  | .ok (some (cost, piece)) => .ok (some (cost, ⟨c, cost, piece⟩))

theorem labelled_error (hc : resolve c = .error e) : labelled resolve c = .error e := by
  rw [labelled, hc]

theorem labelled_none (hc : resolve c = .ok none) : labelled resolve c = .ok none := by
  rw [labelled, hc]

theorem labelled_some (hc : resolve c = .ok (some (cost, piece))) :
    labelled resolve c = .ok (some (cost, ⟨c, cost, piece⟩)) := by
  rw [labelled, hc]

/-- The pieces that a tier takes, in order. -/
def picks (tier : Tier) (resolve : C → Except E (Option (Nat × T))) (a : Allocator)
    (cs : List C) : List (Pick C T) :=
  (fillTier tier (labelled resolve) a cs).taken

theorem picks_under (h : a.remaining < tier.floor) : picks tier resolve a cs = [] := by
  rw [picks, fillTier_under h]

theorem picks_error (h : tier.floor ≤ a.remaining) (hc : resolve c = .error e) :
    picks tier resolve a (c :: cs) = [] := by
  rw [picks, fillTier_error h (labelled_error hc)]

theorem picks_none (h : tier.floor ≤ a.remaining) (hc : resolve c = .ok none) :
    picks tier resolve a (c :: cs) = picks tier resolve a cs := by
  rw [picks, fillTier_none h (labelled_none hc), picks]

theorem picks_take (h : tier.floor ≤ a.remaining) (hc : resolve c = .ok (some (cost, piece)))
    (hcost : cost ≤ a.remaining) :
    picks tier resolve a (c :: cs) =
      ⟨c, cost, piece⟩ :: picks tier resolve (a.charge cost) cs := by
  rw [picks, fillTier_take h (labelled_some hc) hcost, picks]

theorem picks_skip (h : tier.floor ≤ a.remaining) (hc : resolve c = .ok (some (cost, piece)))
    (hcost : a.remaining < cost) :
    picks tier resolve a (c :: cs) = picks tier resolve a cs := by
  rw [picks, fillTier_skip h (labelled_some hc) hcost, picks]

variable (tier resolve a cs)

/-- What is charged for a tier is what its picks cost, also if a look at a candidate fails. -/
theorem fillTier_allocator : (fillTier tier resolve a cs).allocator =
    a.charge (total ((picks tier resolve a cs).map Pick.cost)) := by
  induction a, cs using fillTier_induction tier resolve with
  | nil a => rfl
  | under a c cs h => rw [fillTier_under h, picks_under h]; rfl
  | error a c cs e h hc => rw [fillTier_error h hc, picks_error h hc]; rfl
  | none a c cs h hc ih => rw [fillTier_none h hc, picks_none h hc]; exact ih
  | take a c cs cost piece h hc hcost ih =>
    rw [fillTier_take h hc hcost, picks_take h hc hcost, List.map_cons, total, ← charge_charge]
    exact ih
  | skip a c cs cost piece h hc hcost ih =>
    rw [fillTier_skip h hc hcost, picks_skip h hc hcost]
    exact ih

/-- What a tier takes are the pieces of its picks. -/
theorem fillTier_taken : (fillTier tier resolve a cs).taken =
    (picks tier resolve a cs).map Pick.piece := by
  induction a, cs using fillTier_induction tier resolve with
  | nil a => rfl
  | under a c cs h => rw [fillTier_under h, picks_under h]; rfl
  | error a c cs e h hc => rw [fillTier_error h hc, picks_error h hc]; rfl
  | none a c cs h hc ih => rw [fillTier_none h hc, picks_none h hc]; exact ih
  | take a c cs cost piece h hc hcost ih =>
    rw [fillTier_take h hc hcost, picks_take h hc hcost, List.map_cons, ← ih]
  | skip a c cs cost piece h hc hcost ih =>
    rw [fillTier_skip h hc hcost, picks_skip h hc hcost]
    exact ih

/-- The picks together cost no more than what remains. -/
theorem total_picks_le : total ((picks tier resolve a cs).map Pick.cost) ≤ a.remaining := by
  induction a, cs using fillTier_induction tier resolve with
  | nil a => exact Nat.zero_le _
  | under a c cs h => rw [picks_under h]; exact Nat.zero_le _
  | error a c cs e h hc => rw [picks_error h hc]; exact Nat.zero_le _
  | none a c cs h hc ih => rw [picks_none h hc]; exact ih
  | take a c cs cost piece h hc hcost ih =>
    rw [remaining_charge] at ih
    rw [picks_take h hc hcost]
    show cost + total _ ≤ a.remaining
    omega
  | skip a c cs cost piece h hc hcost ih => rw [picks_skip h hc hcost]; exact ih

/-- The candidates of the picks are some of the candidates, in order. -/
theorem picks_sublist : ((picks tier resolve a cs).map Pick.candidate).Sublist cs := by
  induction a, cs using fillTier_induction tier resolve with
  | nil a => exact .slnil
  | under a c cs h => rw [picks_under h]; exact List.nil_sublist _
  | error a c cs e h hc => rw [picks_error h hc]; exact List.nil_sublist _
  | none a c cs h hc ih => rw [picks_none h hc]; exact ih.cons c
  | take a c cs cost piece h hc hcost ih => rw [picks_take h hc hcost]; exact ih.cons_cons c
  | skip a c cs cost piece h hc hcost ih => rw [picks_skip h hc hcost]; exact ih.cons c

variable {tier resolve a cs}

/-- A pick is what looking at its candidate gives. -/
theorem resolve_of_mem_picks {p : Pick C T} (hp : p ∈ picks tier resolve a cs) :
    resolve p.candidate = .ok (some (p.cost, p.piece)) := by
  induction a, cs using fillTier_induction tier resolve with
  | nil a => cases hp
  | under a c cs h => rw [picks_under h] at hp; cases hp
  | error a c cs e h hc => rw [picks_error h hc] at hp; cases hp
  | none a c cs h hc ih => rw [picks_none h hc] at hp; exact ih hp
  | take a c cs cost piece h hc hcost ih =>
    rw [picks_take h hc hcost] at hp
    cases hp with
    | head => exact hc
    | tail _ hp => exact ih hp
  | skip a c cs cost piece h hc hcost ih => rw [picks_skip h hc hcost] at hp; exact ih hp

end Tier

end Allocator

end Query

end ContextIndex
