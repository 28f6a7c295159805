import ContextIndex.Proofs.Sync.Calls
import ContextIndex.Proofs.Sync.Desk
import Mathlib.Data.List.Perm.Basic

/-!
# The queue at a desk

The queue always takes the first activity that is ready and lets time pass when there is none.  A
desk may do so, too: it can follow the queue, whatever is done with the queue
(`Queue.exists_shows`).  So what holds of every desk holds of the queue.

An activity goes on for several calls, and what is left of it is a script of its own
(`Next.script`).  A desk shows a queue if its jobs have to do what the activities and the waits of
the queue leave to be done, in any order (`Desk.Has`).
-/

namespace ContextIndex

theorem Remote.Service.shields_unit {σ : Type} (s : Remote.Service σ) :
    s.Shields fun _ => () :=
  ⟨fun _ _ => rfl, fun _ _ _ => rfl, fun _ _ _ => rfl, fun _ _ _ _ => rfl⟩

namespace Sync

/-! ## Answers that are forgotten -/

namespace Script

variable {σ α β : Type} {c : Setup σ}

/-- A script takes the steps that it takes with another answer. -/
theorem Step.of_map {f : α → β} {s : Script σ α} {t : Script σ β} {w w' : World σ}
    (h : Step c (s.map f, w) (t, w')) : ∃ s', t = s'.map f ∧ Step c (s, w) (s', w') := by
  cases s with
  | ended a => cases h
  | call world next =>
    cases h with
    | call _ _ refusal => exact ⟨next refusal w, rfl, .call world next refusal w⟩
  | sleep wake next =>
    cases h with
    | wake _ _ _ hwake => exact ⟨next, rfl, .wake wake next w hwake⟩
  | crew run workers done next =>
    cases h with
    | turn _ k k' _ hk => exact ⟨.crew run k'.workers k'.done next, rfl, .turn run k k' next hk⟩
    | refuse _ k before after x e _ hk hcalls hpermit =>
      exact ⟨_, rfl, .refuse run k before after x e next hk hcalls hpermit⟩
    | join _ _ _ _ => exact ⟨_, rfl, .join run done next w⟩

/-- What holds of single steps holds of runs. -/
theorem of_map_run {R : Script σ α × World σ → Script σ α × World σ → Prop}
    {R' : Script σ β × World σ → Script σ β × World σ → Prop} {f : α → β}
    (hR : ∀ s w t w', R' (s.map f, w) (t, w') → ∃ s', t = s'.map f ∧ R (s, w) (s', w'))
    {s : Script σ α} {w : World σ} {y : Script σ β × World σ}
    (h : Relation.ReflTransGen R' (s.map f, w) y) :
    ∃ s', y.1 = s'.map f ∧ Relation.ReflTransGen R (s, w) (s', y.2) := by
  induction h with
  | refl => exact ⟨s, rfl, .refl⟩
  | @tail y z _ hstep ih =>
    obtain ⟨s₁, hs₁, hsteps⟩ := ih
    have hstep' : R' (s₁.map f, y.2) z := hs₁ ▸ hstep
    obtain ⟨s', hs', hlast⟩ := hR s₁ y.2 z.1 z.2 hstep'
    exact ⟨s', hs', hsteps.tail hlast⟩

theorem Steps.of_map {f : α → β} {s : Script σ α} {t : Script σ β} {w w' : World σ}
    (h : Steps c (s.map f, w) (t, w')) : ∃ s', t = s'.map f ∧ Steps c (s, w) (s', w') :=
  of_map_run (fun _ _ _ _ hstep => hstep.of_map) h

theorem Alone.of_map {f : α → β} {s : Script σ α} {t : Script σ β} {w w' : World σ}
    (h : Alone c (s.map f, w) (t, w')) : ∃ s', t = s'.map f ∧ Alone c (s, w) (s', w') := by
  refine of_map_run (fun s w t w' hstep => ?_) h
  rcases hstep with hstep | ⟨clock, hle, heq⟩
  · obtain ⟨s', hs', hstep⟩ := hstep.of_map
    exact ⟨s', hs', .inl hstep⟩
  · cases heq
    exact ⟨s, rfl, .inr ⟨clock, hle, rfl⟩⟩

theorem eq_ended_of_map {f : α → β} {s : Script σ α} {b : β} (h : s.map f = .ended b) :
    ∃ a, s = .ended a ∧ f a = b := by
  cases s with
  | ended a => exact ⟨a, rfl, ended.inj h⟩
  | call => cases h
  | sleep => cases h
  | crew => cases h

/-- A script whose calls do not turn the clock. -/
abbrev Timeless (s : Script σ α) : Prop :=
  s.Calls (Spares fun _ => ()) fun _ _ => True

theorem Timeless.step {s s' : Script σ α} {w w' : World σ} (hs : s.Timeless)
    (h : Step c (s, w) (s', w')) : s'.Timeless ∧ w'.clock = w.clock := by
  refine ⟨Calls.step hs h, ?_⟩
  cases h with
  | call world next refusal => exact (hs refusal w).1.clock
  | wake => rfl
  | turn run k k' next hk => exact hk.clock_eq.1
  | refuse => rfl
  | join => rfl

theorem Timeless.steps {x y : Script σ α × World σ} (hx : x.1.Timeless) (h : Steps c x y) :
    y.1.Timeless ∧ y.2.clock = x.2.clock := by
  induction h with
  | refl => exact ⟨hx, rfl⟩
  | tail _ hstep ih =>
    obtain ⟨hscript, hclock⟩ := ih.1.step hstep
    exact ⟨hscript, hclock.trans ih.2⟩

end Script

/-! ## What a desk has to do -/

namespace Desk

variable {σ : Type} {c : Setup σ} {x : Desk σ}

/-- No job turns the clock. -/
def Timeless (x : Desk σ) : Prop :=
  ∀ r ∈ x.running, r.2.Timeless

/-- What the jobs that run still have to do. -/
def threads (x : Desk σ) : List (Script σ Unit) :=
  x.running.map fun r => r.2.map fun _ => ()

/-- The jobs that run have to do this, in any order. -/
def Has (c : Setup σ) (x : Desk σ) (left : List Next) : Prop :=
  x.threads.Perm (left.map (Next.script c))

/-- A job goes on while time passes and nothing else happens. -/
theorem steps_alone {before after : List (Ticket × Script σ (List Exit))} {t : Ticket}
    {s : Script σ (List Exit)} {y : Script σ (List Exit) × World σ}
    (hrunning : x.running = before ++ (t, s) :: after) (h : Script.Alone c (s, x.world) y) :
    x.Steps c { x with world := y.2, running := before ++ (t, y.1) :: after } := by
  induction h with
  | refl => rw [← hrunning]
  | @tail y z _ hstep ih =>
    rcases hstep with hstep | ⟨clock, hle, rfl⟩
    · exact ih.tail (.work before after t y.1 z.1 z.2 rfl hstep)
    · exact ih.tail (.others y.2.store y.2.host y.2.now clock y.2.serial hle)

theorem Has.perm {left left' : List Next} (hx : x.Has c left) (h : left.Perm left') :
    x.Has c left' :=
  hx.trans (h.map _)

/-- The job that has to do the first of these things. -/
theorem Has.split {n : Next} {left : List Next} (hx : x.Has c (n :: left)) :
    ∃ before t s after, x.running = before ++ (t, s) :: after ∧ s.map (fun _ => ()) = n.script c ∧
      ((before ++ after).map fun r => r.2.map fun _ => ()).Perm (left.map (Next.script c)) := by
  have hmem : n.script c ∈ x.threads := hx.mem_iff.mpr List.mem_cons_self
  obtain ⟨⟨t, s⟩, hr, hs⟩ := List.mem_map.mp hmem
  obtain ⟨before, after, hrunning⟩ := List.append_of_mem hr
  refine ⟨before, t, s, after, hrunning, hs, ?_⟩
  have hperm : (n.script c :: (before ++ after).map fun r => r.2.map fun _ => ()).Perm
      (n.script c :: left.map (Next.script c)) := by
    refine List.Perm.trans ?_ hx
    rw [threads, hrunning, List.map_append, List.map_append, List.map_cons, ← hs]
    exact List.perm_middle.symm
  exact hperm.cons_inv

/-- A job goes on. -/
theorem Has.work {n n' : Next} {left : List Next} {w : World σ} (hx : x.Has c (n :: left))
    (htimeless : x.Timeless) (h : Script.Steps c (n.script c, x.world) (n'.script c, w)) :
    ∃ y, x.Steps c y ∧ y.world = w ∧ y.inbox = x.inbox ∧ y.Timeless ∧
      w.clock = x.world.clock ∧ y.Has c (n' :: left) := by
  obtain ⟨before, t, s, after, hrunning, hs, hothers⟩ := hx.split
  rw [← hs] at h
  obtain ⟨s', hs', hsteps⟩ := h.of_map
  have hmem {r} (hr : r = (t, s) ∨ r ∈ before ++ after) : r ∈ x.running :=
    hrunning ▸ mem_middle.mpr hr
  obtain ⟨hscript, hclock⟩ := (htimeless (t, s) (hmem (.inl rfl))).steps hsteps
  refine ⟨_, steps_alone hrunning hsteps.alone, rfl, rfl, fun r hr => ?_, hclock, ?_⟩
  · rcases mem_middle.mp hr with rfl | hr
    · exact hscript
    · exact htimeless r (hmem (.inr hr))
  · unfold Has threads
    simp only [List.map_append, List.map_cons]
    rw [hs']
    rw [List.map_append] at hothers
    exact List.perm_middle.trans (hothers.cons _)

/-- A job ends. -/
theorem Has.finish {left : List Next} (hx : x.Has c (.done :: left)) (htimeless : x.Timeless) :
    ∃ y, x.Steps c y ∧ y.world = x.world ∧ y.inbox = x.inbox ∧ y.Timeless ∧ y.Has c left := by
  obtain ⟨before, t, s, after, hrunning, hs, hothers⟩ := hx.split
  obtain ⟨exits, rfl, -⟩ := Script.eq_ended_of_map hs
  refine ⟨_, .single (.finish before after t exits hrunning), rfl, rfl, fun r hr => ?_, hothers⟩
  exact htimeless r (hrunning ▸ mem_middle.mpr (.inr hr))

/-- The first job starts. -/
theorem Has.start {left : List Next} {t : Ticket} {inbox : List Ticket} (hx : x.Has c left)
    (htimeless : x.Timeless) (hinbox : x.inbox = t :: inbox) :
    ∃ y, x.Steps c y ∧ y.world = x.world ∧ y.inbox = inbox ∧ y.Timeless ∧
      y.Has c (left ++ [.ready (.start t.job)]) := by
  refine ⟨_, .single (.start t inbox hinbox), rfl, rfl, fun r hr => ?_, ?_⟩
  · rcases List.mem_append.mp hr with hr | hr
    · exact htimeless r hr
    · cases List.mem_singleton.mp hr
      exact Script.calls_job c c.service.shields_unit t.job
  · unfold Has threads
    simp only [List.map_append]
    exact hx.append_right _

theorem Has.running {x : Desk σ} (hx : x.Has c []) : x.running = [] :=
  List.map_eq_nil_iff.mp hx.eq_nil

end Desk

/-! ## Times of waits -/

/-- The wait at whose end there is something to do. -/
def Next.waiting? : Next → Option Waiting
  | .done => none
  | .ready (.start _) => none
  | .ready (.retry z) => some z
  | .ready (.index _ _) => none
  | .ready (.finish _ _ _) => none
  | .sleep z => some z

/-- What is left to be done at the end of a wait is not due before this time. -/
def Next.NotBefore (clock : Nat) (n : Next) : Prop :=
  ∀ z, n.waiting? = some z → clock ≤ z.wake

theorem notBefore_of_none {clock : Nat} {n : Next} (h : n.waiting? = none) : n.NotBefore clock :=
  fun _ hz => absurd (h.symm.trans hz) (Option.some_ne_none _).symm

theorem notBefore_sleep {clock : Nat} {z : Waiting} (h : clock ≤ z.wake) :
    (Next.sleep z).NotBefore clock :=
  fun _ hz => Option.some.inj hz ▸ h

section NotBefore

variable {σ : Type} (c : Setup σ)

theorem notBefore_next {clock : Nat} (p : Phase) {rows : List RepoRow} (w : World σ)
    (hrows : ∀ w : World σ, (sweepFrom c rows w).1.NotBefore clock) :
    (p.next c rows w).1.NotBefore clock := by
  cases p with
  | «over» result => exact hrows w
  | indexing run =>
    unfold Phase.next
    simp only
    split
    · exact hrows _
    · exact notBefore_of_none rfl

theorem notBefore_sweepFrom {clock : Nat} (rows : List RepoRow) (w : World σ) :
    (sweepFrom c rows w).1.NotBefore clock := by
  induction rows generalizing w with
  | nil => exact notBefore_of_none rfl
  | cons row rows ih =>
    rw [sweepFrom_cons]
    exact notBefore_next c _ _ ih

/-- A partial sync that waits asks again later. -/
theorem notBefore_attempt (row : RepoRow) (changes : ChangeSet) (wait : Wait) (time : Nat)
    (w w' : World σ) :
    ((attemptPartial c row changes wait time w).1.next c w').1.NotBefore time := by
  unfold attemptPartial
  simp only
  split
  · exact notBefore_sweepFrom c [] w'
  · exact notBefore_next c _ w' (notBefore_sweepFrom c [])
  · split
    · next wake hnext =>
      exact notBefore_sleep (Nat.le_of_lt (Wait.lt_of_next? hnext).1)
    · exact notBefore_sweepFrom c [] w'

theorem Activity.notBefore_step {a : Activity} {w : World σ}
    (ha : (Next.ready a).NotBefore w.clock) : (a.step c w).1.NotBefore w.clock := by
  cases a with
  | start j =>
    cases j with
    | full repo force => exact notBefore_next c _ _ (notBefore_sweepFrom c [])
    | push repo changes =>
      simp only [Activity.step, startPartial]
      split
      · exact notBefore_sweepFrom c [] _
      · exact notBefore_attempt c _ _ _ _ _ _
    | sweep =>
      simp only [Activity.step]
      split
      · exact notBefore_of_none rfl
      · exact notBefore_sweepFrom c _ _
  | retry z =>
    have hwake := ha z rfl
    exact fun z' h => Nat.le_trans hwake (notBefore_attempt c _ _ _ _ _ _ z' h)
  | index run rows => exact notBefore_of_none rfl
  | finish run results rows => exact notBefore_sweepFrom c _ _

end NotBefore

/-! ## Queues -/

namespace Queue

variable {σ : Type} {c : Setup σ} {q : Queue} {w : World σ} {x : Desk σ}

/-- What the activities and the waits leave to be done. -/
def left (q : Queue) : List Next :=
  q.ready.map .ready ++ q.waits.map .sleep

/-- A desk shows a queue. -/
structure Shows (c : Setup σ) (q : Queue) (w : World σ) (x : Desk σ) : Prop where
  world : x.world = w
  inbox : x.inbox.map Ticket.job = q.inbox
  timeless : x.Timeless
  has : x.Has c q.left
  notBefore : ∀ n ∈ q.left, n.NotBefore w.clock

theorem shows_fresh (c : Setup σ) (w : World σ) : Shows c {} w (Desk.fresh w) :=
  ⟨rfl, rfl, nofun, .nil, fun _ hn => absurd hn List.not_mem_nil⟩

/-- The queue that has nothing to do. -/
theorem Shows.idle (hx : q.Shows c w x) (hinbox : q.inbox = []) (hready : q.ready = [])
    (hwaits : q.waits = []) : x.inbox = [] ∧ x.running = [] := by
  have hhas := hx.has
  unfold left at hhas
  rw [hready, hwaits] at hhas
  exact ⟨List.map_eq_nil_iff.mp (hx.inbox.trans hinbox), hhas.running⟩

theorem left_put (q : Queue) (n : Next) (hn : n ≠ .done) : (q.put n).left.Perm (n :: q.left) := by
  cases n with
  | done => exact absurd rfl hn
  | ready a =>
    simp only [put, left, List.map_append, List.map_cons, List.map_nil, List.append_assoc]
    exact List.perm_middle
  | sleep z =>
    simp only [put, left, List.map_append, List.map_cons, List.map_nil, ← List.append_assoc]
    exact List.perm_append_singleton _ _

theorem left_eraseIdx {q : Queue} {place : Nat} {a : Activity} (h : q.ready[place]? = some a) :
    q.left.Perm (.ready a :: ({ q with ready := q.ready.eraseIdx place } : Queue).left) := by
  obtain ⟨hplace, hget⟩ := List.getElem?_eq_some_iff.mp h
  have hready := (List.getElem_cons_eraseIdx_perm hplace).symm
  rw [hget] at hready
  exact (hready.map Next.ready).append_right _

theorem left_append_waits (due : List Waiting) (q : Queue) :
    ({ q with waits := due ++ q.waits } : Queue).left.Perm (due.map .sleep ++ q.left) := by
  simp only [left, List.map_append]
  rw [← List.append_assoc, ← List.append_assoc]
  exact List.perm_append_comm.append_right _

/-- Something that is left to be done goes on. -/
theorem Shows.work (hx : q.Shows c w x) {n n' : Next} {rest : Queue} {w' : World σ}
    (hinbox : rest.inbox = q.inbox) (hsplit : q.left.Perm (n :: rest.left))
    (h : Script.Steps c (n.script c, w) (n'.script c, w')) (hlater : n'.NotBefore w.clock) :
    ∃ y, x.Steps c y ∧ (rest.put n').Shows c w' y := by
  obtain ⟨rfl, hjobs, htimeless, hhas, hbefore⟩ := hx
  obtain ⟨y, hy, rfl, hinbox', htimeless', hclock, hhas'⟩ := (hhas.perm hsplit).work htimeless h
  have hothers (m) (hm : m ∈ rest.left) : m.NotBefore y.world.clock :=
    hclock ▸ hbefore m (hsplit.mem_iff.mpr (List.mem_cons_of_mem _ hm))
  by_cases hn : n' = .done
  · subst hn
    obtain ⟨y', hy', hworld, hinbox'', htimeless'', hhas''⟩ := hhas'.finish htimeless'
    refine ⟨y', hy.trans hy', hworld, ?_, htimeless'', hhas'', hothers⟩
    rw [hinbox'', hinbox', hjobs]
    exact hinbox.symm
  · refine ⟨y, hy, rfl, ?_, htimeless', hhas'.perm (left_put rest n' hn).symm, fun m hm => ?_⟩
    · rw [hinbox', hjobs, ← hinbox]
      cases n' <;> rfl
    · rcases List.mem_cons.mp ((left_put rest n' hn).mem_iff.mp hm) with rfl | hm
      · exact hclock ▸ hlater
      · exact hothers m hm

/-- Any activity that is ready may take its step. -/
theorem Shows.step (hx : q.Shows c w x) (place : Nat) :
    ∃ y, x.Steps c y ∧ (q.step c place w).1.Shows c (q.step c place w).2 y := by
  unfold Queue.step
  cases ha : q.ready[place]? with
  | none => exact ⟨x, .refl, hx⟩
  | some a =>
    have hsplit := left_eraseIdx ha
    have hbefore := hx.notBefore (.ready a) (hsplit.mem_iff.mpr List.mem_cons_self)
    have hrun := a.steps_step c w fun z hz => hbefore z (hz ▸ rfl)
    have hinbox : ({ q with ready := q.ready.eraseIdx place } : Queue).inbox = q.inbox := rfl
    exact hx.work (n := .ready a) hinbox hsplit hrun (Activity.notBefore_step c hbefore)

/-- Time passes. -/
theorem Shows.wait {clock : Nat} (hx : q.Shows c w x) (hle : w.clock ≤ clock)
    (hbefore : ∀ n ∈ q.left, n.NotBefore clock) :
    ∃ y, x.Steps c y ∧ q.Shows c { w with clock } y := by
  obtain ⟨rfl, hinbox, htimeless, hhas, -⟩ := hx
  exact ⟨_, .single (.others x.world.store x.world.host x.world.now clock x.world.serial hle),
    rfl, hinbox, htimeless, hhas, hbefore⟩

/-- Waits that are over become ready. -/
theorem Shows.wake (hx : q.Shows c w x) {due : List Waiting} {rest : Queue}
    (hinbox : rest.inbox = q.inbox) (hsplit : q.left.Perm (due.map .sleep ++ rest.left))
    (hdue : ∀ z ∈ due, z.wake ≤ w.clock) :
    ∃ y, x.Steps c y ∧
      ({ rest with ready := rest.ready ++ due.map .retry } : Queue).Shows c w y := by
  induction due generalizing x q rest with
  | nil =>
    refine ⟨x, .refl, hx.world, hx.inbox.trans hinbox.symm, hx.timeless, ?_, fun n hn => ?_⟩
    · simpa using hx.has.perm hsplit
    · exact hx.notBefore n (hsplit.mem_iff.mpr (by simpa using hn))
  | cons z due ih =>
    -- The first one wakes, and the others that are due still wait.
    let others : Queue := { rest with waits := due ++ rest.waits }
    have hothers : q.left.Perm (.sleep z :: others.left) :=
      hsplit.trans ((left_append_waits due rest).symm.cons _)
    have hwake : Script.Steps c (Next.script c (.sleep z), w)
        (Next.script c (.ready (.retry z)), w) := .single (.wake _ _ _ (hdue z List.mem_cons_self))
    have hbefore := hx.notBefore (.sleep z) (hothers.mem_iff.mpr List.mem_cons_self)
    have hinbox' : others.inbox = q.inbox := hinbox
    obtain ⟨y, hy, hshows⟩ := hx.work hinbox' hothers hwake hbefore
    let later : Queue := { rest with ready := rest.ready ++ [.retry z] }
    have hlater : later.inbox = (others.put (.ready (.retry z))).inbox := rfl
    obtain ⟨y', hy', hshows'⟩ := ih hshows hlater (left_append_waits due later)
      fun z' hz' => hdue z' (List.mem_cons_of_mem _ hz')
    refine ⟨y', hy.trans hy', ?_⟩
    simpa [later] using hshows'

theorem Shows.wakeDue (hx : q.Shows c w x) :
    ∃ y, x.Steps c y ∧ (q.wakeDue w.clock).Shows c w y := by
  let due := q.waits.filter fun z => decide (z.wake ≤ w.clock)
  let rest : Queue := { q with waits := q.waits.filter fun z => !decide (z.wake ≤ w.clock) }
  have hparts : q.waits.Perm (due ++ rest.waits) :=
    (List.filter_append_perm (fun z => decide (z.wake ≤ w.clock)) q.waits).symm
  have hsplit : q.left.Perm (due.map .sleep ++ rest.left) :=
    ((hparts.map Next.sleep).append_left _).trans (left_append_waits due rest)
  have hinbox : rest.inbox = q.inbox := rfl
  exact hx.wake hinbox hsplit fun z hz => of_decide_eq_true (List.mem_filter.mp hz).2

/-- The jobs of the inbox start. -/
theorem Shows.openInbox (hx : q.Shows c w x) :
    ∃ y, x.Steps c y ∧ q.openInbox.Shows c w y := by
  rcases q with ⟨inbox, ready, waits⟩
  induction inbox generalizing x ready with
  | nil => exact ⟨x, .refl, by simpa [Queue.openInbox] using hx⟩
  | cons job inbox ih =>
    obtain ⟨t, tickets, hinbox, rfl, htickets⟩ := List.map_eq_cons_iff.mp hx.inbox
    obtain ⟨y, hy, hworld, hinbox', htimeless, hhas⟩ := hx.has.start hx.timeless hinbox
    have hleft : (left ⟨t.job :: inbox, ready, waits⟩ ++ [Next.ready (.start t.job)]).Perm
        (left ⟨inbox, ready ++ [Activity.start t.job], waits⟩) := by
      simp only [left, List.map_append, List.map_cons, List.map_nil, List.append_assoc]
      exact List.perm_append_comm.append_left _
    have hshows : (⟨inbox, ready ++ [.start t.job], waits⟩ : Queue).Shows c w y := by
      refine ⟨hworld.trans hx.world, hinbox' ▸ htickets, htimeless, hhas.perm hleft, ?_⟩
      intro n hn
      rcases List.mem_append.mp (hleft.mem_iff.mpr hn) with hn | hn
      · exact hx.notBefore n hn
      · cases List.mem_singleton.mp hn
        exact notBefore_of_none rfl
    obtain ⟨y', hy', hshows'⟩ := ih _ hshows
    refine ⟨y', hy.trans hy', ?_⟩
    simpa [Queue.openInbox] using hshows'

/-- The first wait is over no earlier than now, and no wait is over before it. -/
theorem Shows.nextWake {clock : Nat} (hx : q.Shows c w x) (hready : q.ready = [])
    (hnext : q.nextWake = some clock) :
    w.clock ≤ clock ∧ ∀ n ∈ q.left, n.NotBefore clock := by
  obtain ⟨hmem, hle⟩ := List.min?_eq_some_iff.mp hnext
  obtain ⟨z, hz, rfl⟩ := List.mem_map.mp hmem
  have hleft : q.left = q.waits.map .sleep := by
    unfold left
    rw [hready]
    rfl
  refine ⟨hx.notBefore (.sleep z) (hleft ▸ List.mem_map_of_mem hz) z rfl, ?_⟩
  rw [hleft]
  intro n hn
  obtain ⟨z', hz', rfl⟩ := List.mem_map.mp hn
  exact notBefore_sleep (hle _ (List.mem_map_of_mem hz'))

/-- A desk can do what the queue does. -/
theorem Shows.runFor (hx : q.Shows c w x) (stop : Option Nat) (fuel : Nat) :
    ∃ y, x.Steps c y ∧ (q.runFor c stop fuel w).1.Shows c (q.runFor c stop fuel w).2 y := by
  induction fuel generalizing q w x with
  | zero => exact ⟨x, .refl, hx⟩
  | succ fuel ih =>
    unfold Queue.runFor
    split
    · next hready =>
      split
      · exact ⟨x, .refl, hx⟩
      · next clock hnext =>
        split
        · exact ⟨x, .refl, hx⟩
        · obtain ⟨hle, hbefore⟩ := hx.nextWake (List.isEmpty_iff.mp hready) hnext
          obtain ⟨y₁, h₁, hy₁⟩ := hx.wait hle hbefore
          obtain ⟨y₂, h₂, hy₂⟩ := hy₁.wakeDue
          obtain ⟨y₃, h₃, hy₃⟩ := ih hy₂
          exact ⟨y₃, h₁.trans (h₂.trans h₃), hy₃⟩
    · obtain ⟨y₁, h₁, hy₁⟩ := hx.step 0
      obtain ⟨y₂, h₂, hy₂⟩ := ih hy₁
      exact ⟨y₂, h₁.trans h₂, hy₂⟩

/-- A desk can do what the queue does until it is shut down. -/
theorem Shows.drain (hx : q.Shows c w x) : ∃ y, x.Steps c y ∧ y.world = q.drain c w := by
  obtain ⟨y₁, h₁, hy₁⟩ := hx.wakeDue
  obtain ⟨y₂, h₂, hy₂⟩ := hy₁.openInbox
  obtain ⟨y₃, h₃, hy₃⟩ := hy₂.runFor none (totalEffort c (q.wakeDue w.clock).openInbox w)
  exact ⟨y₃, h₁.trans (h₂.trans h₃), hy₃.world⟩

/-! ## Triggers -/

theorem Shows.accept (hx : q.Shows c w x) (jobs : List Job) {w' : World σ}
    (hclock : w'.clock = w.clock) :
    ({ q with inbox := q.inbox ++ jobs } : Queue).Shows c w' (x.accept jobs w') where
  world := rfl
  inbox := by
    simp only [Desk.accept, List.map_append, hx.inbox, List.map_map]
    rw [show Ticket.job ∘ (fun job => (⟨job, x.world.clock⟩ : Ticket)) = id from rfl, List.map_id]
  timeless := hx.timeless
  has := hx.has
  notBefore n hn := hclock ▸ hx.notBefore n hn

/-- A full sync that the queue accepts is accepted at the desk. -/
theorem Shows.triggerFull (hx : q.Shows c w x) {repo : RepoId} {force : Bool} {key : String}
    {q' : Queue} {w' : World σ} (h : Queue.triggerFull repo force q w = (.accepted key, q', w')) :
    ∃ y, x.Step c y ∧ q'.Shows c w' y := by
  unfold Queue.triggerFull at h
  simp only at h
  split at h
  · cases h
  · next status hmark =>
    cases h
    refine ⟨_, .full repo force repo.fullName ⟨[.full repo force], [], []⟩ { w with status } ?_,
      hx.accept [.full repo force] rfl⟩
    unfold Queue.triggerFull
    simp only [hx.world, hmark]
    rfl

/-- A push that the queue accepts is accepted at the desk. -/
theorem Shows.triggerPush (hx : q.Shows c w x) {e : PushEvent} {key : String} {q' : Queue}
    (h : Queue.triggerPush c e q = .ok (.accepted key, q')) :
    ∃ y, x.Step c y ∧ q'.Shows c w y := by
  unfold Queue.triggerPush at h
  split at h
  · cases h
  · next repo hrepo =>
    simp only at h
    split at h
    · cases h
    · split at h
      · cases h
      · next hbranch hempty =>
        cases h
        refine ⟨_, .push e repo.fullName ⟨[.push repo e.changeSet], [], []⟩ ?_,
          hx.world ▸ hx.accept [.push repo e.changeSet] (hx.world ▸ rfl)⟩
        unfold Queue.triggerPush
        simp only [hrepo, hbranch, hempty]
        rfl

/-- A sweep is accepted at the desk. -/
theorem Shows.triggerAll (hx : q.Shows c w x) :
    ∃ y, x.Step c y ∧ (Queue.triggerAll q).2.Shows c w y :=
  ⟨_, .sweep "*" ⟨[.sweep], [], []⟩ rfl, hx.world ▸ hx.accept [.sweep] (hx.world ▸ rfl)⟩

/-! ## Everything that is done with a queue -/

/-- What can be done with a queue: it is triggered, its inbox is opened, a ready activity takes its
step, or it runs for a while. -/
inductive Move (c : Setup σ) : Queue × World σ → Queue × World σ → Prop
  | full (repo : RepoId) (force : Bool) (key : String) (q q' : Queue) (w w' : World σ) :
    triggerFull repo force q w = (.accepted key, q', w') → Move c (q, w) (q', w')
  | push (e : PushEvent) (key : String) (q q' : Queue) (w : World σ) :
    triggerPush c e q = .ok (.accepted key, q') → Move c (q, w) (q', w)
  | sweep (q : Queue) (w : World σ) : Move c (q, w) ((triggerAll q).2, w)
  | openInbox (q : Queue) (w : World σ) : Move c (q, w) (q.openInbox, w)
  | step (place : Nat) (q : Queue) (w : World σ) : Move c (q, w) (q.step c place w)
  | run (stop : Option Nat) (fuel : Nat) (q : Queue) (w : World σ) :
    Move c (q, w) (q.runFor c stop fuel w)

theorem Shows.move {y z : Queue × World σ} (hx : y.1.Shows c y.2 x) (h : Move c y z) :
    ∃ x', x.Steps c x' ∧ z.1.Shows c z.2 x' := by
  cases h with
  | full repo force key q q' w w' h =>
    obtain ⟨x', hstep, hx'⟩ := hx.triggerFull h
    exact ⟨x', .single hstep, hx'⟩
  | push e key q q' w h =>
    obtain ⟨x', hstep, hx'⟩ := hx.triggerPush h
    exact ⟨x', .single hstep, hx'⟩
  | sweep q w =>
    obtain ⟨x', hstep, hx'⟩ := hx.triggerAll
    exact ⟨x', .single hstep, hx'⟩
  | openInbox q w => exact hx.openInbox
  | step place q w => exact hx.step place
  | run stop fuel q w => exact hx.runFor stop fuel

/-- Whatever is done with a queue is done at some desk. -/
theorem exists_shows {w : World σ} {y : Queue × World σ}
    (h : Relation.ReflTransGen (Move c) ({}, w) y) :
    ∃ x, (Desk.fresh w).Steps c x ∧ y.1.Shows c y.2 x := by
  induction h with
  | refl => exact ⟨_, .refl, shows_fresh c w⟩
  | tail _ hmove ih =>
    obtain ⟨x, hsteps, hx⟩ := ih
    obtain ⟨x', hsteps', hx'⟩ := hx.move hmove
    exact ⟨x', hsteps.trans hsteps', hx'⟩

end Queue

end Sync

end ContextIndex
