import ContextIndex.Proofs.Query.Tiers

/-!
# How a tier is filled

An `Account` tells a tier by the looks at its candidates, one after the other from the first on.  A
look is made only while no less than the floor remains.  What is found costs more than what remains
and is left out, or it fits and is taken.  No candidate is passed over before too little remains,
unless a look fails, and then that is the last one.

`fillTier_greedy` says that an account leaves nothing open: the answer of `fillTier` has one, and no
other answer has.  So a failing look leaves the budget as the candidates before it leave it.

A look may also change what the looks after it find.  Candidates are looked at in order and without
gaps, so such a tier is one whose candidates bring along what is found (`fillTierFrom_eq`).
-/

namespace ContextIndex

namespace Query

namespace Allocator

variable {C T E : Type}

/-! ## Looks -/

/-- What becomes of a candidate that is looked at. -/
inductive Fate (T : Type)
  /-- There is nothing to offer. -/
  | absent
  /-- It does not fit. -/
  | left (cost : Nat)
  /-- It is taken and paid for. -/
  | taken (cost : Nat) (piece : T)
deriving DecidableEq, Repr

/-- What is charged. -/
def Fate.charge : Fate T → Nat
  | taken cost _ => cost
  | _ => 0

/-- The piece that is taken, if any. -/
def Fate.piece? : Fate T → Option T
  | taken _ piece => some piece
  | _ => none

/-- A candidate that is looked at, and what becomes of it. -/
structure Look (C T : Type) where
  /-- The candidate. -/
  candidate : C
  /-- What becomes of it. -/
  fate : Fate T
deriving DecidableEq, Repr

/-- What is charged for candidates together. -/
def charged (looks : List (Look C T)) : Nat :=
  total (looks.map fun l => l.fate.charge)

/-- What becomes of a candidate at which a look does not fail, while this much remains. -/
inductive Decides (resolve : C → Except E (Option (Nat × T))) (remaining : Nat) (c : C) :
    Fate T → Prop
  | absent : resolve c = .ok none → Decides resolve remaining c .absent
  | left {cost : Nat} {piece : T} : resolve c = .ok (some (cost, piece)) → remaining < cost →
    Decides resolve remaining c (.left cost)
  | taken {cost : Nat} {piece : T} : resolve c = .ok (some (cost, piece)) → cost ≤ remaining →
    Decides resolve remaining c (.taken cost piece)

/-- A tier told by the looks at its candidates. -/
structure Account (tier : Tier) (resolve : C → Except E (Option (Nat × T))) (a : Allocator)
    (cs : List C) (looks : List (Look C T)) (f : Filled C T E) : Prop where
  /-- At every look no less than the floor remains, and what remains decides. -/
  offered : ∀ before l after, looks = before ++ l :: after →
    tier.floor ≤ a.remaining - charged before ∧
      Decides resolve (a.remaining - charged before) l.candidate l.fate
  taken : f.taken = looks.filterMap fun l => l.fate.piece?
  /-- What is taken is paid for, and the rest of the budget stays as it is. -/
  allocator : f.allocator = { a with spent := a.spent + charged looks }
  /-- If no look fails, none is missing but those under the floor. -/
  finished : f.failure = none → f.resolved = looks.map Look.candidate ∧
    ∃ rest, cs = f.resolved ++ rest ∧ (rest ≠ [] → f.allocator.remaining < tier.floor)
  /-- A look that fails is the last one. -/
  failed : ∀ e, f.failure = some e → tier.floor ≤ f.allocator.remaining ∧
    ∃ c rest, f.resolved = looks.map Look.candidate ++ [c] ∧ cs = f.resolved ++ rest ∧
      resolve c = .error e

/-! ## From one look to the next -/

section Step

variable {tier : Tier} {resolve : C → Except E (Option (Nat × T))} {a : Allocator} {c : C}
  {cs : List C} {fate : Fate T}

@[simp] theorem charged_nil : charged ([] : List (Look C T)) = 0 := rfl

@[simp] theorem charged_cons (l : Look C T) (looks : List (Look C T)) :
    charged (l :: looks) = l.fate.charge + charged looks := rfl

theorem Decides.ne_error {n : Nat} (h : Decides resolve n c fate) (e : E) :
    resolve c ≠ .error e := by
  cases h with
  | absent hc => rw [hc]; exact nofun
  | left hc => rw [hc]; exact nofun
  | taken hc => rw [hc]; exact nofun

/-- It does not matter where what is found comes from. -/
theorem Decides.congr {D : Type} {resolve' : D → Except E (Option (Nat × T))} {d : D} {n : Nat}
    (h : Decides resolve n c fate) (hd : resolve' d = resolve c) : Decides resolve' n d fate := by
  cases h with
  | absent hc => exact .absent (hd.trans hc)
  | left hc hcost => exact .left (hd.trans hc) hcost
  | taken hc hcost => exact .taken (hd.trans hc) hcost

/-- A look at a candidate fails, or what remains decides. -/
theorem error_or_decides (resolve : C → Except E (Option (Nat × T))) (n : Nat) (c : C) :
    (∃ e, resolve c = .error e) ∨ ∃ fate, Decides resolve n c fate := by
  cases hc : resolve c with
  | error e => exact .inl ⟨e, rfl⟩
  | ok found =>
    cases found with
    | none => exact .inr ⟨_, .absent hc⟩
    | some x =>
      obtain hcost | hcost := Nat.lt_or_ge n x.1
      · exact .inr ⟨_, .left hc hcost⟩
      · exact .inr ⟨_, .taken hc hcost⟩

/-- The answer for a tier with one more candidate in front, at which a look is made. -/
def Filled.behind (c : C) (fate : Fate T) (f : Filled C T E) : Filled C T E :=
  { f with taken := fate.piece?.toList ++ f.taken, resolved := c :: f.resolved }

theorem fillTier_of_decides (hfloor : tier.floor ≤ a.remaining)
    (h : Decides resolve a.remaining c fate) : fillTier tier resolve a (c :: cs) =
      (fillTier tier resolve (a.charge fate.charge) cs).behind c fate := by
  cases h with
  | absent hc => exact fillTier_none hfloor hc
  | left hc hcost => exact fillTier_skip hfloor hc hcost
  | taken hc hcost => exact fillTier_take hfloor hc hcost

/-- An account of the candidates behind one goes on an account from that one on. -/
theorem Account.cons {looks : List (Look C T)} {f : Filled C T E}
    (hfloor : tier.floor ≤ a.remaining) (h : Decides resolve a.remaining c fate)
    (hrest : Account tier resolve (a.charge fate.charge) cs looks f) :
    Account tier resolve a (c :: cs) (⟨c, fate⟩ :: looks) (f.behind c fate) where
  offered before l after hsplit := by
    cases before with
    | nil =>
      obtain ⟨rfl, -⟩ := List.cons.inj hsplit
      exact ⟨hfloor, h⟩
    | cons l' before =>
      obtain ⟨rfl, hlooks⟩ := List.cons.inj hsplit
      have hoffered := hrest.offered before l after hlooks
      rwa [remaining_charge, Nat.sub_sub] at hoffered
  taken := by
    simp only [Filled.behind, hrest.taken, List.filterMap_cons]
    cases fate <;> rfl
  allocator := by
    simp only [Filled.behind, hrest.allocator, charge, charged_cons, Nat.add_assoc]
  finished hnone := by
    obtain ⟨hresolved, rest, hcs, hunder⟩ := hrest.finished hnone
    exact ⟨congrArg (c :: ·) hresolved, rest, congrArg (c :: ·) hcs, hunder⟩
  failed e he := by
    obtain ⟨hover, c', rest, hresolved, hcs, herror⟩ := hrest.failed e he
    exact ⟨hover, c', rest, congrArg (c :: ·) hresolved, congrArg (c :: ·) hcs, herror⟩

/-- An account that has a look starts with the one at the first candidate. -/
theorem Account.of_cons {l : Look C T} {looks : List (Look C T)} {f : Filled C T E}
    (h : Account tier resolve a cs (l :: looks) f) : ∃ cs' f', cs = l.candidate :: cs' ∧
      f = Filled.behind l.candidate l.fate f' ∧ tier.floor ≤ a.remaining ∧
      Decides resolve a.remaining l.candidate l.fate ∧
      Account tier resolve (a.charge l.fate.charge) cs' looks f' := by
  obtain ⟨allocator, taken, resolved, failure⟩ := f
  obtain ⟨hoffered, htaken, hallocator, hfinished, hfailed⟩ := h
  dsimp only at *
  -- Whether a look fails or not, the first candidate is the one of this look.
  obtain ⟨later, rest, hcs, rfl⟩ : ∃ later rest, cs = l.candidate :: (later ++ rest) ∧
      resolved = l.candidate :: later := by
    cases failure with
    | none =>
      obtain ⟨rfl, rest, rfl, -⟩ := hfinished rfl
      exact ⟨_, rest, rfl, rfl⟩
    | some e =>
      obtain ⟨-, c, rest, rfl, rfl, -⟩ := hfailed e rfl
      exact ⟨_, rest, rfl, rfl⟩
  subst hcs
  obtain ⟨hfloor, hdecides⟩ := hoffered [] l looks rfl
  refine ⟨later ++ rest, ⟨allocator, looks.filterMap fun l => l.fate.piece?, later, failure⟩, rfl,
    ?_, hfloor, hdecides, ?_⟩
  · rw [Filled.behind, htaken, List.filterMap_cons]
    cases l.fate <;> rfl
  · constructor
    case offered =>
      intro before l' after hsplit
      rw [remaining_charge, Nat.sub_sub, ← charged_cons]
      exact hoffered (l :: before) l' after (congrArg (l :: ·) hsplit)
    case taken => rfl
    case allocator => rw [hallocator, charged_cons, ← Nat.add_assoc]; rfl
    case finished =>
      intro hnone
      obtain ⟨hresolved, rest', hsplit, hunder⟩ := hfinished hnone
      exact ⟨(List.cons.inj hresolved).2, rest', (List.cons.inj hsplit).2, hunder⟩
    case failed =>
      intro e he
      obtain ⟨hover, c, rest', hresolved, hsplit, herror⟩ := hfailed e he
      exact ⟨hover, c, rest', (List.cons.inj hresolved).2, (List.cons.inj hsplit).2, herror⟩

end Step

/-! ## Tiers -/

section Tier

variable (tier : Tier) (resolve : C → Except E (Option (Nat × T))) (a : Allocator) (cs : List C)

/-- A tier at whose candidates no look is made. -/
theorem account_nil (h : cs ≠ [] → a.remaining < tier.floor) :
    Account tier resolve a cs [] ⟨a, [], [], none⟩ where
  offered before l after hsplit := by simp at hsplit
  taken := rfl
  allocator := rfl
  finished _ := ⟨rfl, cs, rfl, h⟩
  failed _ he := nomatch he

theorem exists_account : ∃ looks, Account tier resolve a cs looks (fillTier tier resolve a cs) := by
  induction a, cs using fillTier_induction tier resolve with
  | nil a => exact ⟨[], account_nil tier resolve a [] fun h => absurd rfl h⟩
  | under a c cs hfloor =>
    rw [fillTier_under hfloor]
    exact ⟨[], account_nil tier resolve a (c :: cs) fun _ => hfloor⟩
  | error a c cs e hfloor hc =>
    rw [fillTier_error hfloor hc]
    refine ⟨[], ⟨fun before l after hsplit => ?_, rfl, rfl, nofun, fun e' he => ?_⟩⟩
    · simp at hsplit
    · cases he
      exact ⟨hfloor, c, cs, rfl, rfl, hc⟩
  | none a c cs hfloor hc ih =>
    obtain ⟨looks, h⟩ := ih
    have hdecides : Decides resolve a.remaining c .absent := .absent hc
    rw [fillTier_of_decides hfloor hdecides]
    exact ⟨_, .cons hfloor hdecides h⟩
  | take a c cs cost piece hfloor hc hcost ih =>
    obtain ⟨looks, h⟩ := ih
    have hdecides : Decides resolve a.remaining c (.taken cost piece) := .taken hc hcost
    rw [fillTier_of_decides hfloor hdecides]
    exact ⟨_, .cons hfloor hdecides h⟩
  | skip a c cs cost piece hfloor hc hcost ih =>
    obtain ⟨looks, h⟩ := ih
    have hdecides : Decides resolve a.remaining c (.left cost) := .left hc hcost
    rw [fillTier_of_decides hfloor hdecides]
    exact ⟨_, .cons hfloor hdecides h⟩

variable {tier resolve a cs}

/-- An account leaves nothing open. -/
theorem Account.eq_fillTier {looks : List (Look C T)} {f : Filled C T E}
    (h : Account tier resolve a cs looks f) : f = fillTier tier resolve a cs := by
  induction looks generalizing a cs f with
  | nil =>
    obtain ⟨allocator, taken, resolved, failure⟩ := f
    obtain ⟨-, rfl, rfl, hfinished, hfailed⟩ := h
    cases failure with
    | none =>
      obtain ⟨rfl, rest, hcs, hunder⟩ := hfinished rfl
      obtain rfl : cs = rest := hcs
      cases cs with
      | nil => rfl
      | cons c cs => exact (fillTier_under (hunder (List.cons_ne_nil c cs))).symm
    | some e =>
      obtain ⟨hfloor, c, rest, rfl, rfl, hc⟩ := hfailed e rfl
      exact (fillTier_error hfloor hc).symm
  | cons l looks ih =>
    obtain ⟨cs, f, rfl, rfl, hfloor, hdecides, hrest⟩ := h.of_cons
    rw [fillTier_of_decides hfloor hdecides, ih hrest]

/-- The looks of an account did not fail. -/
theorem Account.ne_error {looks : List (Look C T)} {f : Filled C T E}
    (h : Account tier resolve a cs looks f) {c : C} (hc : c ∈ looks.map Look.candidate) (e : E) :
    resolve c ≠ .error e := by
  obtain ⟨l, hl, rfl⟩ := List.mem_map.mp hc
  obtain ⟨before, after, hsplit⟩ := List.append_of_mem hl
  exact (h.offered before l after hsplit).2.ne_error e

/-- Before the look that fails, a tier is filled as if the candidates before that were all. -/
theorem Account.before_failure {looks : List (Look C T)} {f : Filled C T E}
    (h : Account tier resolve a cs looks f) :
    { f with resolved := looks.map Look.candidate, failure := none } =
      fillTier tier resolve a (looks.map Look.candidate) :=
  Account.eq_fillTier ⟨h.offered, h.taken, h.allocator,
    fun _ => ⟨rfl, [], (List.append_nil _).symm, fun hne => absurd rfl hne⟩, nofun⟩

/-- The look that fails is reported. -/
theorem Account.failure_of_error {looks : List (Look C T)} {f : Filled C T E}
    (h : Account tier resolve a cs looks f) {before : List C} {c : C} {e : E}
    (hresolved : f.resolved = before ++ [c]) (hc : resolve c = .error e) : f.failure = some e := by
  cases hfailure : f.failure with
  | none =>
    obtain ⟨hlooks, -⟩ := h.finished hfailure
    rw [hresolved] at hlooks
    exact absurd hc (h.ne_error (by simp [← hlooks]) e)
  | some e' =>
    obtain ⟨-, c', -, hlooks, -, hc'⟩ := h.failed e' hfailure
    rw [hresolved] at hlooks
    obtain ⟨-, hlast⟩ := List.append_inj' hlooks rfl
    obtain rfl : c = c' := List.singleton_inj.mp hlast
    exact congrArg some (Except.error.inj (hc'.symm.trans hc))

end Tier

/-! ## Looks that change what later ones find -/

section Changing

variable {σ : Type} (tier : Tier) (look : C → σ → Except E (Option (Nat × T)) × σ)

/-- `fillTier` with looks that may change what later ones find. -/
def fillTierFrom : σ → Allocator → List C → Filled C T E
  | _, a, [] => ⟨a, [], [], none⟩
  | s, a, c :: cs =>
    if a.remaining < tier.floor then ⟨a, [], [], none⟩
    else match look c s with
      | (.error e, _) => ⟨a, [], [c], some e⟩
      | (.ok none, s) => (fillTierFrom s a cs).behind c .absent
      | (.ok (some (cost, piece)), s) =>
        match a.offer tier cost with
        | (.take, a) => (fillTierFrom s a cs).behind c (.taken cost piece)
        | (.skip, a) => (fillTierFrom s a cs).behind c (.left cost)
        | (.stop, a) => ⟨a, [], [c], none⟩

/-- Candidates with what looks at them find, one after the other. -/
def found : σ → List C → List (C × Except E (Option (Nat × T)))
  | _, [] => []
  | s, c :: cs => (c, (look c s).1) :: found (look c s).2 cs

/-- The answer for a tier whose candidates bring along what is found at them. -/
def Filled.plain {F : Type} (f : Filled (C × F) T E) : Filled C T E :=
  ⟨f.allocator, f.taken, f.resolved.map Prod.fst, f.failure⟩

theorem Filled.plain_behind {F : Type} (x : C × F) (fate : Fate T) (f : Filled (C × F) T E) :
    (f.behind x fate).plain = f.plain.behind x.1 fate := rfl

section Look

variable {tier look} {s : σ} {a : Allocator} {c : C} {cs : List C}

theorem fillTierFrom_error {e : E} (hfloor : tier.floor ≤ a.remaining)
    (hc : (look c s).1 = .error e) : fillTierFrom tier look s a (c :: cs) = ⟨a, [], [c], some e⟩ := by
  rw [fillTierFrom, if_neg (Nat.not_lt.mpr hfloor)]
  generalize look c s = found at hc
  obtain ⟨answer, s'⟩ := found
  obtain rfl : answer = .error e := hc
  rfl

theorem fillTierFrom_of_decides {fate : Fate T} (hfloor : tier.floor ≤ a.remaining)
    (h : Decides (fun c => (look c s).1) a.remaining c fate) :
    fillTierFrom tier look s a (c :: cs) =
      (fillTierFrom tier look (look c s).2 (a.charge fate.charge) cs).behind c fate := by
  have hover := Nat.not_lt.mpr hfloor
  have hfound : Decides id a.remaining (look c s).1 fate := h.congr rfl
  rw [fillTierFrom, if_neg hover]
  generalize look c s = found at hfound
  obtain ⟨answer, s'⟩ := found
  cases hfound with
  | absent hc =>
    obtain rfl : answer = .ok none := hc
    rfl
  | @left cost piece hc hcost =>
    obtain rfl : answer = .ok (some (cost, piece)) := hc
    simp only [offer, if_neg hover, if_pos hcost]
    rfl
  | @taken cost piece hc hcost =>
    obtain rfl : answer = .ok (some (cost, piece)) := hc
    simp only [offer, if_neg hover, if_neg (Nat.not_lt.mpr hcost)]
    rfl

end Look

/-- A tier whose looks change what later ones find is one whose candidates bring that along. -/
theorem fillTierFrom_eq (s : σ) (a : Allocator) (cs : List C) :
    fillTierFrom tier look s a cs = (fillTier tier Prod.snd a (found look s cs)).plain := by
  induction cs generalizing s a with
  | nil => rfl
  | cons c cs ih =>
    rw [found]
    by_cases hfloor : a.remaining < tier.floor
    · rw [fillTierFrom, if_pos hfloor, fillTier_under hfloor]
      rfl
    · have hover := Nat.not_lt.mp hfloor
      obtain ⟨e, hc⟩ | ⟨fate, h⟩ := error_or_decides (fun c => (look c s).1) a.remaining c
      · have hbrought : (c, (look c s).1).2 = .error e := hc
        rw [fillTierFrom_error hover hc, fillTier_error hover hbrought]
        rfl
      · have hbrought : Decides Prod.snd a.remaining (c, (look c s).1) fate := h.congr rfl
        rw [fillTierFrom_of_decides hover h, fillTier_of_decides hover hbrought,
          Filled.plain_behind, ih]

end Changing

/-! ## All tiers -/

/-- For every budget, tier, list of candidates and outcome of the looks at them, the answer of
`fillTier` is the one with an account.  A look that fails is reported and is the last one, and the
budget is left as the candidates before it alone leave it.  All this goes for looks that change what
later ones find, since the candidates can bring along what is found at them. -/
theorem fillTier_greedy (tier : Tier) (resolve : C → Except E (Option (Nat × T))) (a : Allocator)
    (cs : List C) :
    (∀ f, f = fillTier tier resolve a cs ↔ ∃ looks, Account tier resolve a cs looks f) ∧
      (∀ e, (fillTier tier resolve a cs).failure = some e ↔ ∃ before c rest,
        cs = before ++ c :: rest ∧ resolve c = .error e ∧
          (fillTier tier resolve a cs).resolved = before ++ [c] ∧
          (fillTier tier resolve a cs).allocator = (fillTier tier resolve a before).allocator) ∧
      ∀ {σ : Type} (look : C → σ → Except E (Option (Nat × T)) × σ) (s : σ),
        fillTierFrom tier look s a cs = (fillTier tier Prod.snd a (found look s cs)).plain := by
  obtain ⟨looks, haccount⟩ := exists_account tier resolve a cs
  refine ⟨fun f => ⟨?_, ?_⟩, fun e => ⟨fun hfailure => ?_, ?_⟩,
    fun look s => fillTierFrom_eq tier look s a cs⟩
  · rintro rfl
    exact ⟨looks, haccount⟩
  · rintro ⟨looks, h⟩
    exact h.eq_fillTier
  · obtain ⟨-, c, rest, hresolved, hcs, hc⟩ := haccount.failed e hfailure
    rw [hresolved, List.append_assoc] at hcs
    refine ⟨looks.map Look.candidate, c, rest, hcs, hc, hresolved, ?_⟩
    rw [← haccount.before_failure]
  · rintro ⟨before, c, rest, -, hc, hresolved, -⟩
    exact haccount.failure_of_error hresolved hc

/-- A candidate that costs too much is left out, and a later one fits; what is found at another costs
nothing.  The look that fails is the last one. -/
example :
    let found : List (Except String (Option (Nat × String))) :=
      [.ok (some (150, "first")), .ok (some (900, "dear")), .ok none, .ok (some (0, "free")),
        .ok (some (100, "last")), .error "lost", .ok (some (1, "late"))]
    let filled := fillTier .secondary id { budget := 1000, spent := 200 } found
    filled.taken = ["first", "free", "last"] ∧ filled.allocator.spent = 450 ∧
      filled.resolved = found.take 6 ∧ filled.failure = some "lost" := by
  refine ⟨?_, ?_, ?_, ?_⟩ <;> rfl

end Allocator

end Query

end ContextIndex
