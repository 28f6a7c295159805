import ContextIndex.Proofs.Remote.InMemory
import ContextIndex.Proofs.Store.Expiry
import ContextIndex.Proofs.Sync.Program
import ContextIndex.Proofs.Sync.Timed
import Mathlib.Data.List.Chain

/-!
# Waiting for a lease

Whoever waits for a lease that others have asks for it at the start and after each pause.  The times
of these attempts follow from the wait alone (`Wait.attempts`): they go up to the deadline, no more
than `maxPause` apart.  If the lease is free from some time on, then the first attempt at or after
that time gets it, and none is made later (`upTo`).

Others do what they like with the world meanwhile, but the lease is free from some time on and not
before, calls take no time, and pauses last exactly as long as they should.  Then a wait ends with
the lease exactly if the lease is free at the deadline (`Script.awaitLease_within`).
-/

namespace ContextIndex.Sync

open ContextIndex.Remote (Memory memorySetup trading worldOf)

/-! ## Times of attempts -/

/-- The times up to the first one at or after `f`. -/
def upTo (f : Nat) : List Nat → List Nat
  | [] => []
  | t :: ts => if f ≤ t then [t] else t :: upTo f ts

theorem upTo_isPrefix (f : Nat) (ts : List Nat) : upTo f ts <+: ts := by
  induction ts with
  | nil => exact List.prefix_refl _
  | cons t ts ih =>
    unfold upTo
    split
    · exact ⟨ts, rfl⟩
    · exact (List.prefix_cons_inj t).mpr ih

theorem upTo_cons (f t : Nat) (ts : List Nat) : ∃ us, upTo f (t :: ts) = t :: us := by
  unfold upTo
  split
  · exact ⟨[], rfl⟩
  · exact ⟨upTo f ts, rfl⟩

/-- Only times before `f` are followed by others. -/
theorem upTo_chain (f : Nat) {R : Nat → Nat → Prop} {ts : List Nat} (h : ts.IsChain R) :
    (upTo f ts).IsChain fun t u => t < f ∧ R t u := by
  induction h with
  | nil => exact .nil
  | singleton t =>
    rw [upTo]
    split
    · exact .singleton t
    · exact .singleton t
  | @cons_cons t u ts hR _ ih =>
    rw [upTo]
    split
    · exact .singleton t
    · next hlt =>
      obtain ⟨us, hus⟩ := upTo_cons f u ts
      rw [hus] at ih ⊢
      exact .cons_cons ⟨Nat.lt_of_not_le hlt, hR⟩ ih

/-- The last one of some times of which only those before `f` are followed by others, no more than
`g` later. -/
theorem getLast_lt {f g : Nat} {ts : List Nat}
    (h : ts.IsChain fun t u => t < f ∧ t < u ∧ u ≤ t + g) {s : Nat} (hhead : ts.head? = some s)
    (hs : s < f + g) {t : Nat} (hlast : ts.getLast? = some t) : t < f + g := by
  induction h generalizing s with
  | nil => cases hlast
  | singleton u =>
    cases hhead
    cases hlast
    exact hs
  | cons_cons hstep _ ih =>
    rw [List.getLast?_cons_cons] at hlast
    exact ih rfl (by omega) hlast

namespace Wait

theorem attempts_eq_cons (w : Wait) (now : Nat) : ∃ ts, w.attempts now = now :: ts := by
  fun_cases attempts w now with
  | case1 => exact ⟨[], rfl⟩
  | case2 t => exact ⟨w.grow.attempts t, rfl⟩

theorem pause_grow_le (w : Wait) : w.grow.pause ≤ maxPause :=
  Nat.min_le_right _ _

theorem le_pause_grow {w : Wait} (h : minPause ≤ w.pause) : minPause ≤ w.grow.pause := by
  unfold grow minPause maxPause at *
  simp only
  omega

/-- A pause that would end after the deadline is cut. -/
theorem eq_min_of_next? {w : Wait} {now t : Nat} (h : w.next? now = some t) :
    t = min (now + w.pause) w.deadline := by
  unfold next? at h
  split at h
  · cases h
    omega
  · cases h

/-- The attempts follow each other, and no more than the longest pause lies between two of them. -/
theorem attempts_chain (w : Wait) (now : Nat) (hpause : w.pause ≤ maxPause) :
    (w.attempts now).IsChain fun t u => t < u ∧ u ≤ t + maxPause := by
  fun_induction attempts w now with
  | case1 w now hnext => exact .singleton now
  | case2 w now t hnext ih =>
    have hchain := ih w.pause_grow_le
    have hlt := (lt_of_next? hnext).1
    have hle := eq_min_of_next? hnext
    obtain ⟨ts, hts⟩ := w.grow.attempts_eq_cons t
    rw [hts] at hchain ⊢
    exact .cons_cons ⟨hlt, by omega⟩ hchain

/-- No attempt is after the deadline. -/
theorem le_of_mem_attempts (w : Wait) (now : Nat) (hnow : now ≤ w.deadline) {t : Nat}
    (h : t ∈ w.attempts now) : t ≤ w.deadline := by
  fun_induction attempts w now with
  | case1 w now hnext => exact List.mem_singleton.mp h ▸ hnow
  | case2 w now u hnext ih =>
    rcases List.mem_cons.mp h with rfl | h
    · exact hnow
    · exact ih (lt_of_next? hnext).2 h

/-- What is free already is got at once. -/
theorem upTo_attempts_of_le (w : Wait) {f now : Nat} (h : f ≤ now) :
    upTo f (w.attempts now) = [now] := by
  obtain ⟨ts, hts⟩ := w.attempts_eq_cons now
  rw [hts, upTo, if_pos h]

/-- What is not free yet is waited for. -/
theorem upTo_attempts_of_lt (w : Wait) {f now : Nat} (h : now < f) : upTo f (w.attempts now) =
    match w.next? now with
    | none => [now]
    | some t => now :: upTo f (w.grow.attempts t) := by
  fun_cases attempts w now with
  | case1 hnext => rw [hnext, upTo, if_neg (Nat.not_le.mpr h), upTo]
  | case2 t hnext => rw [hnext, upTo, if_neg (Nat.not_le.mpr h)]

/-- The pauses are no shorter than the shortest one, except for the last of them. -/
theorem length_attempts (w : Wait) (now : Nat) (hpause : minPause ≤ w.pause)
    (hnow : now ≤ w.deadline) :
    minPause * (w.attempts now).length < w.deadline - now + 2 * minPause := by
  fun_induction attempts w now with
  | case1 w now hnext =>
    rw [List.length_singleton]
    unfold minPause
    omega
  | case2 w now t hnext ih =>
    obtain ⟨hlt, hle⟩ := lt_of_next? hnext
    have hlen := ih (le_pause_grow hpause) hle
    have ht := eq_min_of_next? hnext
    rw [List.length_cons]
    unfold minPause at *
    have hdeadline : w.grow.deadline = w.deadline := rfl
    omega

end Wait

namespace Script

variable {σ : Type}

/-! ## Attempts -/

/-- Nobody has the lease of a repository, or it gives way. -/
def IsFree (w : World σ) (key : String) : Prop :=
  ∀ l, w.store.lease? key = some l → l.givesWay w.now = true

/-- The lease of a repository is free from this time on, and not before. -/
def FreeFrom (key : String) (f : Nat) (w : World σ) : Prop :=
  IsFree w key ↔ f ≤ w.clock

/-- An attempt takes the lease if it is free, and is refused otherwise. -/
theorem takeLease_tries (w : World σ) (key label : String) {leaseTime : Nat}
    (hlease : leaseTime ≤ maxLeaseTime) :
    (IsFree w key ∧ ∃ store : Store,
      takeLease w key label leaseTime =
        (.ok (some (holderName label w.serial)), { w with serial := w.serial + 1, store }) ∧
      store.lease? key =
        some ⟨key, holderName label w.serial, w.now, w.now.plus leaseTime⟩) ∨
    (¬IsFree w key ∧
      takeLease w key label leaseTime = (.ok none, { w with serial := w.serial + 1 })) := by
  unfold takeLease
  simp only [if_neg (Nat.not_lt.mpr hlease)]
  rcases hcall : w.store.acquireLease key (holderName label w.serial) w.now
    (w.now.plus leaseTime) with ⟨granted, store⟩
  rcases Store.acquireLease_cases hcall with ⟨rfl, rfl⟩ | ⟨rfl, hfree, hleases, -⟩
  · refine .inr ⟨fun hfree => ?_, rfl⟩
    obtain ⟨l, hl, hway⟩ := Store.exists_lease_of_refused (congrArg Prod.fst hcall)
    rw [hfree l hl] at hway
    cases hway
  · exact .inl ⟨hfree, store, rfl, (hleases key).trans (if_pos rfl)⟩

/-- An attempt is noted. -/
theorem noted_attempt (w : World σ) (store : Store) (attempts : List Nat) :
    noted w { w with serial := w.serial + 1, store } attempts = attempts ++ [w.clock] :=
  if_neg (Nat.succ_ne_self _)

/-- What a wait for a lease answers. -/
abbrev LeaseAnswer : Type :=
  Except Error (Except (Refusal × Nat) String)

section Waits

variable (c : Setup σ) (key : String) (f : Nat)

/-- The holder has the lease in a world. -/
def HasLease (holder : String) (w : World σ) : Prop :=
  w.store.lease? key = some ⟨key, holder, w.now, w.now.plus c.options.leaseTime⟩

/-- What comes of an attempt at time `t`. -/
inductive Tried (t : Nat) : Except Error (Except Refusal String) → World σ → Prop
  /-- The lease is free and has been taken. -/
  | taken (holder : String) (w : World σ) : f ≤ t → w.clock = t → HasLease c key holder w →
    Tried t (.ok (.ok holder)) w
  /-- The lease is not free. -/
  | refused (refusal : Refusal) (w : World σ) : t < f → w.clock = t →
    Tried t (.ok (.error refusal)) w

/-- What comes of a wait. -/
inductive Waited (deadline : Nat) : LeaseAnswer → World σ → Prop
  /-- The lease is free and has been taken. -/
  | taken (holder : String) (w : World σ) : f ≤ w.clock → w.clock ≤ deadline →
    HasLease c key holder w → Waited deadline (.ok (.ok holder)) w
  /-- The lease is not free at the deadline. -/
  | refused (refusal : Refusal) (w : World σ) : deadline < f → w.clock = deadline →
    Waited deadline (.ok (.error (refusal, deadline))) w

variable {c key f}

theorem Waited.clock_le {deadline : Nat} {a : LeaseAnswer} {w : World σ}
    (h : Waited c key f deadline a w) : w.clock ≤ deadline := by
  cases h with
  | taken holder w hle hin hhas => exact hin
  | refused refusal w hlt hclock => exact Nat.le_of_eq hclock

variable {during : Nat → List Nat → Prop} {w : World σ} {attempts : List Nat}

theorem lasts_askLease (hlease : c.options.leaseTime ≤ maxLeaseTime)
    (hduring : during w.clock attempts) :
    (askLease c key).Lasts (FreeFrom key f) during
      (fun a w' ts => Tried c key f w.clock a w' ∧ ts = attempts ++ [w.clock]) w attempts := by
  refine lasts_askStore hduring fun w' hclock hfree => ?_
  rcases takeLease_tries w' key c.label hlease with ⟨hyes, store, htake, hhas⟩ | ⟨hno, htake⟩
  · rw [htake]
    exact ⟨.taken _ _ (hclock ▸ hfree.mp hyes) hclock hhas,
      hclock ▸ noted_attempt w' store attempts⟩
  · rw [htake]
    exact ⟨.refused _ _ (hclock ▸ Nat.lt_of_not_le fun hle => hno (hfree.mpr hle)) hclock,
      hclock ▸ noted_attempt w' w'.store attempts⟩

/-- A wait for a lease that is free from some time on makes the attempts up to then.  It does not go
on after its deadline. -/
theorem lasts_awaitLease (hlease : c.options.leaseTime ≤ maxLeaseTime) (wait : Wait) (since : Nat)
    {all : List Nat} (hclock : w.clock = since) (hin : since ≤ wait.deadline)
    (hall : attempts ++ upTo f (wait.attempts since) = all) :
    (awaitLease c key wait since).Lasts (FreeFrom key f)
      (fun due ts => due ≤ wait.deadline ∧ ts <+: all)
      (fun a w' ts => Waited c key f wait.deadline a w' ∧ ts = all ∧ ts.getLast? = some w'.clock)
      w attempts := by
  induction wait, since using awaitLease.induct generalizing w attempts with
  | case1 wait since ih =>
    rw [awaitLease]
    subst hclock
    refine (lasts_askLease hlease ⟨hin, ⟨_, hall⟩⟩).bind ?_
    rintro _ w₁ _ ⟨htried, rfl⟩
    cases htried with
    | taken holder w₁ hle hclock hhas =>
      rw [wait.upTo_attempts_of_le hle] at hall
      exact ⟨.taken holder w₁ (hclock ▸ hle) (hclock ▸ hin) hhas, hall, by simp [hclock]⟩
    | refused refusal w₁ hlt hclock =>
      rw [wait.upTo_attempts_of_lt hlt] at hall
      have hprefix : attempts ++ [w.clock] <+: all := by
        rw [← hall, List.prefix_append_right_inj]
        split
        · exact List.prefix_refl _
        · exact ⟨_, rfl⟩
      refine ⟨⟨hclock ▸ hin, hprefix⟩, fun w₂ hclock₂ _ => ?_⟩
      rw [hclock] at hclock₂
      have htime : max w.clock w₂.clock = w.clock := by omega
      have hnoted : noted w₂ w₂ (attempts ++ [w.clock]) = attempts ++ [w.clock] := if_pos rfl
      simp only [ended_bind]
      split
      · next hnext =>
        rw [htime] at hnext ⊢
        rw [hnext] at hall
        have hend : w.clock = wait.deadline :=
          Nat.le_antisymm hin (Wait.deadline_le_of_next? hnext)
        rw [hnoted]
        refine ⟨?_, hall, by simp [hclock₂]⟩
        rw [hend]
        exact .refused refusal w₂ (hend ▸ hlt) (hclock₂.trans hend)
      · next wake hnext =>
        rw [htime] at hnext
        rw [hnext] at hall
        rw [hnoted]
        have hle : wake ≤ wait.deadline := (Wait.lt_of_next? hnext).2
        refine ⟨⟨hle, hprefix⟩, fun w₃ hclock₃ _ => ?_⟩
        refine ih w.clock wake ?_ hclock₃ hle ?_
        · rw [Nat.max_self]
          exact hnext
        · rw [List.append_assoc]
          exact hall

/-- A lease that would last too long is refused at once. -/
theorem lasts_awaitLease_overlong (hlease : maxLeaseTime < c.options.leaseTime) (wait : Wait)
    (since : Nat) {all : List Nat} {Left : World σ → Prop} (hclock : w.clock = since)
    (hall : attempts ++ [since] = all) (hduring : during since attempts) :
    (awaitLease c key wait since).Lasts Left during
      (fun a w' ts => a = .error .badLeaseTime ∧ w'.clock = since ∧ ts = all) w attempts := by
  subst hclock hall
  rw [awaitLease]
  have hask : (askLease c key).Lasts Left during (fun a w' ts => a = .error .badLeaseTime ∧
      w'.clock = w.clock ∧ ts = attempts ++ [w.clock]) w attempts := by
    refine lasts_askStore hduring fun w' hclock _ => ?_
    have htake : takeLease w' key c.label c.options.leaseTime =
        (.error .badLeaseTime, { w' with serial := w'.serial + 1 }) := if_pos hlease
    rw [htake]
    exact ⟨rfl, hclock, hclock ▸ noted_attempt w' w'.store attempts⟩
  refine hask.bind ?_
  rintro _ w' _ ⟨rfl, hclock, rfl⟩
  exact ⟨rfl, hclock, rfl⟩

end Waits

/-! ## Waits on time -/

section OnTime

variable {c : Setup σ} {key : String} {f limit : Nat} {w : World σ}

/-- The beginning of a wait for a lease. -/
def waitFrom (c : Setup σ) (key : String) (limit : Nat) (w : World σ) : Timed σ LeaseAnswer where
  script := awaitLease c key (.start w.clock limit) w.clock
  world := w

/-- A wait is on time.  It is not due after its deadline.  Its attempts follow each other, no more
than two seconds apart, an attempt follows another one only if the lease was not free then, and
there are no more of them than come of pauses of fifty milliseconds. -/
structure Timed.OnTime {α : Type} (x : Timed σ α) (start limit f : Nat) : Prop where
  due_le : x.due ≤ start + limit
  attempts_le : ∀ t ∈ x.attempts, t ≤ start + limit
  chain : x.attempts.IsChain fun t u => t < start + f ∧ t < u ∧ u ≤ t + maxPause
  few : minPause * x.attempts.length < limit + 2 * minPause

/-- How a wait has ended, at its last attempt.  It has the lease exactly if that is free at the
deadline, less than two seconds after it is free, and else it has been refused at the deadline. -/
structure Timed.Ends (x : Timed σ LeaseAnswer) (c : Setup σ) (key : String)
    (start limit f : Nat) (a : LeaseAnswer) : Prop where
  attempts_eq : x.attempts = upTo (start + f) ((Wait.start start limit).attempts start)
  last : x.attempts.getLast? = some x.due
  taken_iff : (∃ holder, a = .ok (.ok holder)) ↔ f ≤ limit
  taken : ∀ holder, a = .ok (.ok holder) →
    HasLease c key holder x.world ∧ start + f ≤ x.due ∧ x.due < start + f + maxPause
  refused : limit < f →
    x.due = start + limit ∧ ∃ refusal, a = .ok (.error (refusal, start + limit))

/-- What a wait comes to that lasts as long as it makes these attempts. -/
theorem onTime_of_lasts {Left : World σ → Prop} {all : List Nat}
    {post : LeaseAnswer → World σ → List Nat → Prop} {x : Timed σ LeaseAnswer}
    (hlasts : (waitFrom c key limit w).script.Lasts Left
      (fun due ts => due ≤ w.clock + limit ∧ ts <+: all) post w [])
    (hpost : ∀ a w' ts, post a w' ts → w'.clock ≤ w.clock + limit ∧ ts <+: all)
    (hall : all <+: (Wait.start w.clock limit).attempts w.clock)
    (hchain : all.IsChain fun t u => t < w.clock + f ∧ t < u ∧ u ≤ t + maxPause)
    (hrun : Timed.Steps Left (waitFrom c key limit w) x) :
    x.OnTime w.clock limit f ∧
    ((∃ a, x.script = .ended a) ∨
      ∀ w' : World σ, w'.clock = x.due → Left w' → ∃ y, Timed.Step Left x y) ∧
    ∀ a, x.script = .ended a → post a x.world x.attempts := by
  have hx := Lasts.steps (x := waitFrom c key limit w) hlasts hrun
  have hdue : x.due ≤ w.clock + limit ∧ x.attempts <+: all := by
    rcases hx.cases with ⟨a, hend, ha⟩ | ⟨hdue, -⟩
    · rw [x.due_of_ended hend]
      exact hpost a x.world x.attempts ha
    · exact hdue
  refine ⟨⟨hdue.1, fun t ht => ?_, hchain.prefix hdue.2, ?_⟩, ?_, fun a hend => ?_⟩
  · exact Wait.le_of_mem_attempts (.start w.clock limit) w.clock (Nat.le_add_right _ _)
      ((hdue.2.trans hall).subset ht)
  · have hlen := (hdue.2.trans hall).length_le
    have hfew := (Wait.start w.clock limit).length_attempts w.clock (Nat.le_refl _)
      (Nat.le_add_right _ _)
    have hlimit : (Wait.start w.clock limit).deadline - w.clock = limit :=
      Nat.add_sub_cancel_left _ _
    unfold minPause at *
    omega
  · rcases hx.cases with ⟨a, hend, -⟩ | ⟨-, hstep⟩
    · exact .inl ⟨a, hend⟩
    · exact .inr hstep
  · rw [hend] at hx
    exact hx

/-- How a wait has ended that made all the attempts up to the time from which the lease is free. -/
theorem ends_of_waited {x : Timed σ LeaseAnswer} {start : Nat} {a : LeaseAnswer}
    (hend : x.script = .ended a)
    (hwaited : Waited c key (start + f) (start + limit) a x.world)
    (hattempts : x.attempts = upTo (start + f) ((Wait.start start limit).attempts start))
    (hlast : x.attempts.getLast? = some x.world.clock)
    (hchain : x.attempts.IsChain fun t u => t < start + f ∧ t < u ∧ u ≤ t + maxPause) :
    x.Ends c key start limit f a := by
  have hdue := x.due_of_ended hend
  have hhead : x.attempts.head? = some start := by
    obtain ⟨ts, hts⟩ := (Wait.start start limit).attempts_eq_cons start
    obtain ⟨us, hus⟩ := upTo_cons (start + f) start ts
    rw [hattempts, hts, hus, List.head?_cons]
  have hsoon : x.due < start + f + maxPause := by
    refine getLast_lt hchain hhead ?_ (hdue ▸ hlast)
    unfold maxPause
    omega
  cases hwaited with
  | taken holder w hle hin hhas =>
    exact
      { attempts_eq := hattempts
        last := hdue ▸ hlast
        taken_iff := ⟨fun _ => by omega, fun _ => ⟨holder, rfl⟩⟩
        taken := fun holder' h => by
          cases h
          exact ⟨hhas, hdue ▸ hle, hsoon⟩
        refused := fun hlt => absurd hlt (by omega) }
  | refused refusal w hlt hclock =>
    exact
      { attempts_eq := hattempts
        last := hdue ▸ hlast
        taken_iff := ⟨nofun, fun hle => absurd hle (by omega)⟩
        taken := nofun
        refused := fun _ => ⟨hdue.trans hclock, refusal, rfl⟩ }

end OnTime

/-- A lease that somebody has for a minute. -/
def held : Lease :=
  ⟨"octo/widgets", "other", ⟨1700000000000⟩, ⟨1700000060000⟩⟩

/-- The world at a time.  The holder gives its lease up after 120 milliseconds. -/
def releasing (t : Nat) : World Memory :=
  { worldOf (trading 0) (if t < 120 then { leases := [held] } else {}) with
    now := ⟨1700000000000 + t⟩, clock := t }

theorem held_not_givesWay {t : Nat} (ht : t < 120) :
    held.givesWay ⟨1700000000000 + t⟩ = false := by
  -- All of this happens on one day.
  have hreadable (n : Int) (hn : 1700000000000 ≤ n ∧ n ≤ 1700000060000) :
      (⟨n⟩ : Instant).isReadable = true := by
    have hday : n / Instant.millisPerDay = 19675 := by
      unfold Instant.millisPerDay
      omega
    unfold Instant.isReadable Instant.date
    rw [hday]
    decide
  rw [Lease.givesWay_eq_isExpired (l := held) (hreadable _ (by decide)) (hreadable _ (by omega))]
  refine decide_eq_false fun hle => ?_
  have hend : (1700000060000 : Int) ≤ 1700000000000 + t := hle
  omega

theorem releasing_freeFrom (t : Nat) : FreeFrom "octo/widgets" 120 (releasing t) := by
  unfold FreeFrom IsFree releasing
  by_cases ht : t < 120
  · simp only [if_pos ht]
    refine ⟨fun hfree => ?_, fun hle => absurd hle (by omega)⟩
    have hway := hfree held rfl
    rw [held_not_givesWay ht] at hway
    cases hway
  · simp only [if_neg ht]
    exact ⟨fun _ => Nat.le_of_not_lt ht, fun _ => nofun⟩

/-- Leases are to last longer than a lease can. -/
def overlong : Setup Memory :=
  { memorySetup with options := { leaseTime := 18446744073709551615 } }

end Script

end ContextIndex.Sync
