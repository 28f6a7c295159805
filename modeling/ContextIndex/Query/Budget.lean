import ContextIndex.Query.Envelope
import ContextIndex.Token

/-!
# Spending a budget

A budget is spent from the most to the least important piece.  The primary piece is taken whole or
cut to fit.  Further pieces come in tiers; those of a tier are offered in order, one that costs more
than what remains is left out, and once the remainder is below the floor of the tier no more are
looked at.  Looking at a candidate may fail, and what was spent until then stays spent.

Taking whatever still fits is not monotone in the budget: with costs 600, 10 and 10, a budget of 599
takes the last two and a budget of 1000 takes the first and then stops under the floor.
-/

namespace ContextIndex.Query

/-- The importance of a piece. -/
inductive Tier
  | primary
  | secondary
  | tertiary
deriving DecidableEq, Repr

/-- The remainder below which no more pieces of a tier are offered. -/
def Tier.floor : Tier → Nat
  | primary => 0
  | secondary => 500
  | tertiary => 100

/-- The cost of a signature, whatever its length. -/
def signatureCost : Nat := 100

/-- A budget and what happened to it so far. -/
structure Allocator where
  /-- What may be spent. -/
  budget : Nat
  /-- What has been spent. -/
  spent : Nat := 0
  /-- Whether anything was cut off. -/
  truncated : Bool := false
  /-- How to get the rest. -/
  hint : Option String := none
deriving DecidableEq, Repr

/-- What becomes of an offered piece. -/
inductive Offer
  /-- It is taken and paid for. -/
  | take
  /-- It does not fit; a cheaper one may. -/
  | skip
  /-- Too little remains for this tier. -/
  | stop
deriving DecidableEq, Repr

namespace Allocator

/-- What is left to spend. -/
def remaining (a : Allocator) : Nat :=
  a.budget - a.spent

/-- The same budget with `cost` spent on top. -/
def charge (a : Allocator) (cost : Nat) : Allocator :=
  { a with spent := a.spent + cost }

/-- Takes the primary piece, whole if it fits and cut to the remainder otherwise. -/
def takePrimary (a : Allocator) (text : List Char) (hint : Nat → String) : Allocator × List Char :=
  if Token.estimate text ≤ a.remaining then (a.charge (Token.estimate text), text)
  else
    let kept := Token.truncate text a.remaining
    ({ a.charge (Token.estimate kept) with truncated := true, hint := some (hint a.budget) }, kept)

/-- Spends `cost` if it fits. -/
def trySpend (a : Allocator) (cost : Nat) : Option Allocator :=
  if a.remaining < cost then none else some (a.charge cost)

/-- Offers a piece of a tier. -/
def offer (a : Allocator) (tier : Tier) (cost : Nat) : Offer × Allocator :=
  if a.remaining < tier.floor then (.stop, a)
  else if a.remaining < cost then (.skip, a)
  else (.take, a.charge cost)

/-- What became of the candidates of a tier. -/
structure Filled (C T E : Type) where
  /-- The budget afterwards. -/
  allocator : Allocator
  /-- The pieces taken, in order. -/
  taken : List T
  /-- The candidates looked at, in order. -/
  resolved : List C
  /-- The failure that ended it, if any. -/
  failure : Option E

/-- Offers the candidates of a tier in order.  A candidate is looked at only while the remainder is
not below the floor; `resolve` gives its cost and the piece, or nothing if there is none. -/
def fillTier {C T E : Type} (tier : Tier) (resolve : C → Except E (Option (Nat × T))) :
    Allocator → List C → Filled C T E
  | a, [] => ⟨a, [], [], none⟩
  | a, c :: cs =>
    if a.remaining < tier.floor then ⟨a, [], [], none⟩
    else match resolve c with
      | .error e => ⟨a, [], [c], some e⟩
      | .ok none =>
        let rest := fillTier tier resolve a cs
        { rest with resolved := c :: rest.resolved }
      | .ok (some (cost, piece)) =>
        match a.offer tier cost with
        | (.take, a) =>
          let rest := fillTier tier resolve a cs
          { rest with taken := piece :: rest.taken, resolved := c :: rest.resolved }
        | (.skip, a) =>
          let rest := fillTier tier resolve a cs
          { rest with resolved := c :: rest.resolved }
        | (.stop, a) => ⟨a, [], [c], none⟩

/-- Marks the answer as incomplete; a hint that is there already stays. -/
def markTruncated (a : Allocator) (hint : String) : Allocator :=
  { a with truncated := true, hint := some (a.hint.getD hint) }

/-- The answer with the accounting of this budget. -/
def finish {α : Type} (a : Allocator) (data : α) : Envelope α :=
  ⟨data, a.spent, a.truncated, a.hint⟩

end Allocator

end ContextIndex.Query
