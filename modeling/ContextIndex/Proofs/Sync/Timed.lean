import ContextIndex.Proofs.Sync.Script

/-!
# Scripts on time

Here a script runs in surroundings where calls take no time and are not refused and pauses last
exactly as long as they should, while others do what they like with the world (`Timed.Step`).  The
times at which it tries to take a lease are written down on the way.

What holds all along such a run and at its end can be read off the script, without a look at its
runs (`Script.Lasts`): every step keeps it (`Lasts.step`), so a run does (`Lasts.steps`), and a
script of which it holds never gets stuck (`Lasts.cases`) and comes to its end (`Timed.acc_step`,
`Lasts.exists_end`).
-/

namespace ContextIndex.Sync

namespace Script

variable {σ α β : Type}

/-! ## Steps on time -/

/-- A script under way. -/
structure Timed (σ α : Type) where
  /-- What is still to be done. -/
  script : Script σ α
  /-- The world as the last call left it. -/
  world : World σ
  /-- When it tried to take a lease. -/
  attempts : List Nat := []

/-- The attempts to take a lease after a call.  An attempt uses up the number of a holder, and no
other call does. -/
def noted (before after : World σ) (attempts : List Nat) : List Nat :=
  if after.serial = before.serial then attempts else attempts ++ [before.clock]

namespace Timed

/-- When the next step is due. -/
def due (x : Timed σ α) : Nat :=
  match x.script with
  | .sleep wake _ => wake
  | _ => x.world.clock

theorem due_of_ended (x : Timed σ α) {a : α} (h : x.script = .ended a) :
    x.due = x.world.clock := by
  unfold due
  rw [h]

/-- The next step of a script whose calls take no time and are not refused and whose waits last
exactly as long as they should.  It finds the world as others have left it, which is such. -/
inductive Step (Left : World σ → Prop) : Timed σ α → Timed σ α → Prop
  | call (world : Option Error → World σ → World σ) (next : Option Error → World σ → Script σ α)
    (w w' : World σ) (attempts : List Nat) : w'.clock = w.clock → Left w' →
    Step Left ⟨.call world next, w, attempts⟩
      ⟨next none w', world none w', noted w' (world none w') attempts⟩
  | wake (wake : Nat) (next : Script σ α) (w w' : World σ) (attempts : List Nat) :
    w'.clock = wake → Left w' → Step Left ⟨.sleep wake next, w, attempts⟩ ⟨next, w', attempts⟩

/-- Steps one after another. -/
abbrev Steps (Left : World σ → Prop) : Timed σ α → Timed σ α → Prop :=
  Relation.ReflTransGen (Step Left)

variable {Left : World σ → Prop} {x y : Timed σ α}

/-- Others change the world, and then the script takes one of its steps. -/
theorem Step.script (h : Step Left x y) (c : Setup σ) : ∃ w, w.clock = x.due ∧ Left w ∧
    Script.Step c (x.script, w) (y.script, y.world) := by
  cases h with
  | call world next w w' attempts hclock hleft =>
    exact ⟨w', hclock, hleft, .call world next none w'⟩
  | wake wake next w w' attempts hclock hleft =>
    exact ⟨w', hclock, hleft, .wake wake next w' (Nat.le_of_eq hclock.symm)⟩

/-- No script goes on forever. -/
theorem acc_step (Left : World σ → Prop) (x : Timed σ α) :
    Acc (fun y x => Step Left x y) x := by
  obtain ⟨s, w, attempts⟩ := x
  induction s generalizing w attempts with
  | ended a => exact ⟨_, nofun⟩
  | call world next ih =>
    refine ⟨_, fun y h => ?_⟩
    cases h
    exact ih none _ _ _
  | sleep wake next ih =>
    refine ⟨_, fun y h => ?_⟩
    cases h
    exact ih _ _
  | crew run workers done next ih => exact ⟨_, nofun⟩

end Timed

/-! ## What scripts come to -/

/-- As long as a script goes on in such surroundings, the time and the attempts so far are such at
each of its steps, and it ends with such an answer, world and attempts. -/
def Lasts (Left : World σ → Prop) (during : Nat → List Nat → Prop)
    (post : α → World σ → List Nat → Prop) : Script σ α → World σ → List Nat → Prop
  | .ended a, w, attempts => post a w attempts
  | .call world next, w, attempts => during w.clock attempts ∧
    ∀ w', w'.clock = w.clock → Left w' → (next none w').Lasts Left during post (world none w')
      (noted w' (world none w') attempts)
  | .sleep wake next, _, attempts => during wake attempts ∧
    ∀ w', w'.clock = wake → Left w' → next.Lasts Left during post w' attempts
  | .crew _ _ _ _, _, _ => False

section Lasts

variable {Left : World σ → Prop} {during : Nat → List Nat → Prop}
  {post : α → World σ → List Nat → Prop} {s : Script σ α} {w : World σ} {attempts : List Nat}
  {x y : Timed σ α}

theorem Lasts.bind {k : α → Script σ β} {last : β → World σ → List Nat → Prop}
    (hs : s.Lasts Left during post w attempts)
    (hk : ∀ a w attempts, post a w attempts → (k a).Lasts Left during last w attempts) :
    (s.bind k).Lasts Left during last w attempts := by
  induction s generalizing w attempts with
  | ended a => exact hk a w attempts hs
  | call world next ih =>
    exact ⟨hs.1, fun w' hclock hleft => ih none w' (hs.2 w' hclock hleft)⟩
  | sleep wake next ih => exact ⟨hs.1, fun w' hclock hleft => ih (hs.2 w' hclock hleft)⟩
  | crew run workers done next ih => exact hs.elim

theorem lasts_askStore {f : World σ → Except Error α × World σ}
    {post : Except Error α → World σ → List Nat → Prop} (hduring : during w.clock attempts)
    (h : ∀ w', w'.clock = w.clock → Left w' →
      post (f w').1 (f w').2 (noted w' (f w').2 attempts)) :
    (askStore f).Lasts Left during post w attempts :=
  ⟨hduring, h⟩

/-- A script that lasts does so after a step. -/
theorem Lasts.step (hs : x.script.Lasts Left during post x.world x.attempts)
    (h : Timed.Step Left x y) : y.script.Lasts Left during post y.world y.attempts := by
  cases h with
  | call world next w w' attempts hclock hleft => exact hs.2 w' hclock hleft
  | wake wake next w w' attempts hclock hleft => exact hs.2 w' hclock hleft

theorem Lasts.steps (hs : x.script.Lasts Left during post x.world x.attempts)
    (h : Timed.Steps Left x y) : y.script.Lasts Left during post y.world y.attempts := by
  induction h with
  | refl => exact hs
  | tail _ hstep ih => exact ih.step hstep

/-- A script that lasts has ended, or it is in time and goes on. -/
theorem Lasts.cases (hs : x.script.Lasts Left during post x.world x.attempts) :
    (∃ a, x.script = .ended a ∧ post a x.world x.attempts) ∨
    (during x.due x.attempts ∧
      ∀ w, w.clock = x.due → Left w → ∃ y, Timed.Step Left x y) := by
  obtain ⟨s, w, attempts⟩ := x
  cases s with
  | ended a => exact .inl ⟨a, rfl, hs⟩
  | call world next =>
    exact .inr ⟨hs.1, fun w' hclock hleft => ⟨_, .call world next w w' attempts hclock hleft⟩⟩
  | sleep wake next =>
    exact .inr ⟨hs.1, fun w' hclock hleft => ⟨_, .wake wake next w w' attempts hclock hleft⟩⟩
  | crew run workers done next => exact hs.elim

/-- A script that lasts comes to its end if others do not hold it up. -/
theorem Lasts.exists_end (hs : s.Lasts Left during post w attempts)
    (hleft : ∀ t, ∃ w : World σ, w.clock = t ∧ Left w) :
    ∃ a w' attempts', Timed.Steps Left ⟨s, w, attempts⟩ ⟨.ended a, w', attempts'⟩ ∧
      post a w' attempts' := by
  induction s generalizing w attempts with
  | ended a => exact ⟨a, w, attempts, .refl, hs⟩
  | call world next ih =>
    obtain ⟨w', hclock, hw'⟩ := hleft w.clock
    obtain ⟨a, w'', attempts', hsteps, hpost⟩ := ih none w' (hs.2 w' hclock hw')
    exact ⟨a, w'', attempts', .head (.call world next w w' attempts hclock hw') hsteps, hpost⟩
  | sleep wake next ih =>
    obtain ⟨w', hclock, hw'⟩ := hleft wake
    obtain ⟨a, w'', attempts', hsteps, hpost⟩ := ih (hs.2 w' hclock hw')
    exact ⟨a, w'', attempts', .head (.wake wake next w w' attempts hclock hw') hsteps, hpost⟩
  | crew run workers done next ih => exact hs.elim

end Lasts

end Script

end ContextIndex.Sync
