import ContextIndex.Proofs.Sync.Crew
import Mathlib.Logic.Relation

/-!
# Syncs call by call

A script is what a sync still has to do: calls to the store, to the host and to the register of
statuses, waits, and files for a crew of workers.  A call is one step.  Between any two steps the
rest of the world may do what it likes, and the store may refuse what it is asked (`Script.Step`).
When nobody refuses or disturbs its calls a script comes to where `Script.advance` says.

Two things can be said of a script without a look at its runs.  Its calls change the world in
certain ways only (`Script.Calls`), and in surroundings that change in certain ways only it ends in
a certain way, if it ends (`Script.Meets`).  Steps keep both, and two scripts one after the other
have them if each of the two has.
-/

namespace ContextIndex.Sync

/-- Whether a worker is about to call the store. -/
def Worker.callsStore (x : Worker) (run : Run) : Bool :=
  match x.stage with
  | .waiting => !run.force && x.job.known.isSome
  | .fetching => false
  | .fetched _ => true

/-- The results of a crew, the last one last. -/
def fileResults (done : List (FileJob × Except Error FileOutcome)) : List FileResult :=
  done.map fun x => (x.1.path, x.2)

/-- A turn ends one file or none. -/
theorem Crew.Steps.length_eq {σ : Type} {c : Setup σ} {run : Run} {k k' : Crew σ}
    (h : k.Steps c run k') :
    k'.workers.length + k'.done.length = k.workers.length + k.done.length := by
  cases h with
  | idle => rfl
  | on before after x stage w hworkers hpermit hacts => simp [hworkers]
  | ended before after x result w hworkers hacts => simp [hworkers]; omega

/-- The elements of a list with one in the middle. -/
theorem mem_middle {α : Type} {a b : α} {before after : List α} :
    b ∈ before ++ a :: after ↔ b = a ∨ b ∈ before ++ after :=
  List.perm_middle.mem_iff.trans List.mem_cons

/-- An element in the middle of a list is the first one of a permutation of the list, or it is one
of the others. -/
theorem perm_middle_cases {α : Type} {a b : α} {before after rest : List α}
    (h : (before ++ a :: after).Perm (b :: rest)) :
    (a = b ∧ (before ++ after).Perm rest) ∨
      ∃ others, rest.Perm (a :: others) ∧ (before ++ after).Perm (b :: others) := by
  have hcons : (a :: (before ++ after)).Perm (b :: rest) := List.perm_middle.symm.trans h
  by_cases hab : a = b
  · subst hab
    exact .inl ⟨rfl, hcons.cons_inv⟩
  · have hmem : a ∈ rest :=
      (List.mem_cons.mp (hcons.mem_iff.mp List.mem_cons_self)).resolve_left hab
    obtain ⟨left, right, rfl⟩ := List.append_of_mem hmem
    refine .inr ⟨left ++ right, List.perm_middle, ?_⟩
    have hswap : (b :: (left ++ a :: right)).Perm (a :: b :: (left ++ right)) :=
      (List.perm_middle.cons b).trans (.swap a b _)
    exact (hcons.trans hswap).cons_inv

/-- What a sync still has to do until it ends with an answer. -/
inductive Script (σ α : Type)
  /-- Nothing. -/
  | ended (answer : α)
  /-- A call.  What it does and what comes after it depend on the world as it is then, and on the
  error with which the store refuses it, if it does. -/
  | call (world : Option Error → World σ → World σ)
    (next : Option Error → World σ → Script σ α)
  /-- A wait. -/
  | sleep (wake : Nat) (next : Script σ α)
  /-- The files of a run.  What became of them is passed on. -/
  | crew (run : Run) (workers : List Worker) (done : List (FileJob × Except Error FileOutcome))
    (next : List FileResult → Script σ α)

namespace Script

variable {σ α β : Type}

/-! ## Scripts one after the other -/

/-- A script and then another one, which depends on its answer. -/
def bind : Script σ α → (α → Script σ β) → Script σ β
  | .ended a, k => k a
  | .call world next, k => .call world fun refusal w => (next refusal w).bind k
  | .sleep wake next, k => .sleep wake (next.bind k)
  | .crew run workers done next, k => .crew run workers done fun results => (next results).bind k

instance : Monad (Script σ) where
  pure := .ended
  bind := .bind

@[simp] theorem pure_eq (a : α) : (pure a : Script σ α) = .ended a := rfl

@[simp] theorem bind_eq (s : Script σ α) (k : α → Script σ β) : s >>= k = s.bind k := rfl

@[simp] theorem ended_bind (a : α) (k : α → Script σ β) : (ended a).bind k = k a := rfl

theorem bind_assoc {γ : Type} (s : Script σ α) (k : α → Script σ β) (l : β → Script σ γ) :
    (s.bind k).bind l = s.bind fun a => (k a).bind l := by
  induction s with
  | ended a => rfl
  | call world next ih => exact congrArg (call world) (funext₂ ih)
  | sleep wake next ih => exact congrArg (sleep wake) ih
  | crew run workers done next ih => exact congrArg (crew run workers done) (funext ih)

/-- A script with another answer. -/
def map (f : α → β) (s : Script σ α) : Script σ β :=
  s.bind fun a => .ended (f a)

/-! ## Calls -/

/-- A call that is not refused. -/
def ask (f : World σ → α × World σ) : Script σ α :=
  .call (fun _ w => (f w).2) fun _ w => .ended (f w).1

/-- A look at the world. -/
def read (f : World σ → α) : Script σ α :=
  ask fun w => (f w, w)

/-- A change of status. -/
def note (f : Instant → Registry → Registry) : Script σ Unit :=
  ask fun w => ((), w.withStatus (f w.now))

/-- A question to the host. -/
def askHost (f : σ → Remote.Reply σ α) : Script σ (Except RemoteError α) :=
  ask fun w => ((f w.host).1, { w with host := (f w.host).2 })

/-- A call to the store.  One that is refused changes nothing. -/
def askStore (f : World σ → Except Error α × World σ) : Script σ (Except Error α) :=
  .call (fun refusal w => if refusal.isSome then w else (f w).2)
    fun refusal w => .ended (refusal.elim (f w).1 .error)

/-! ## Steps -/

/-- The next step of a script.  The store may refuse a call, of the script or of one of its workers,
and any worker that may take its turn may be the one that does. -/
inductive Step (c : Setup σ) : Script σ α × World σ → Script σ α × World σ → Prop
  | call (world : Option Error → World σ → World σ) (next : Option Error → World σ → Script σ α)
    (refusal : Option Error) (w : World σ) :
    Step c (.call world next, w) (next refusal w, world refusal w)
  | wake (wake : Nat) (next : Script σ α) (w : World σ) : wake ≤ w.clock →
    Step c (.sleep wake next, w) (next, w)
  | turn (run : Run) (k k' : Crew σ) (next : List FileResult → Script σ α) :
    k.Steps c run k' →
    Step c (.crew run k.workers k.done next, k.world) (.crew run k'.workers k'.done next, k'.world)
  | refuse (run : Run) (k : Crew σ) (before after : List Worker) (x : Worker) (e : Error)
    (next : List FileResult → Script σ α) : k.workers = before ++ x :: after →
    x.callsStore run = true →
    (x.stage.isActive || decide (k.active < max 1 c.options.concurrency)) = true →
    Step c (.crew run k.workers k.done next, k.world)
      (.crew run (before ++ after) (k.done ++ [(x.job, .error e)]) next, k.world)
  | join (run : Run) (done : List (FileJob × Except Error FileOutcome))
    (next : List FileResult → Script σ α) (w : World σ) :
    Step c (.crew run [] done next, w) (next (fileResults done), w)

/-- Steps one after another. -/
abbrev Steps (c : Setup σ) : Script σ α × World σ → Script σ α × World σ → Prop :=
  Relation.ReflTransGen (Step c)

section Bind

variable {c : Setup σ} {s s' : Script σ α} {w w' : World σ}

theorem Step.bind (h : Step c (s, w) (s', w')) (k : α → Script σ β) :
    Step c (s.bind k, w) (s'.bind k, w') := by
  cases h with
  | call world next refusal => exact .call world _ refusal w
  | wake wake next _ hwake => exact .wake wake _ w hwake
  | turn run k k' next hk => exact .turn run k k' _ hk
  | refuse run k before after x e next hk hcalls hpermit =>
    exact .refuse run k before after x e _ hk hcalls hpermit
  | join run done next => exact .join run done _ w

theorem Steps.bind (h : Steps c (s, w) (s', w')) (k : α → Script σ β) :
    Steps c (s.bind k, w) (s'.bind k, w') :=
  h.lift (fun x => (x.1.bind k, x.2)) fun _ _ hstep => hstep.bind k

end Bind

/-! ## Undisturbed calls -/

/-- Where a script and the world come to when nobody refuses or disturbs its calls, up to a wait, to
the files of a run, or to the end. -/
def advance : Script σ α → World σ → Script σ α × World σ
  | .ended a, w => (.ended a, w)
  | .call world next, w => (next none w).advance (world none w)
  | .sleep wake next, w => (.sleep wake next, w)
  | .crew run workers done next, w => (.crew run workers done next, w)

theorem steps_advance (c : Setup σ) (s : Script σ α) (w : World σ) :
    Steps c (s, w) (s.advance w) := by
  induction s generalizing w with
  | ended a => exact .refl
  | call world next ih => exact .head (.call world next none w) (ih none w (world none w))
  | sleep wake next ih => exact .refl
  | crew run workers done next ih => exact .refl

theorem steps_of_advance (c : Setup σ) {s s' : Script σ α} {w w' : World σ}
    (h : s.advance w = (s', w')) : Steps c (s, w) (s', w') :=
  h ▸ steps_advance c s w

@[simp] theorem advance_ended (a : α) (w : World σ) :
    (ended a : Script σ α).advance w = (.ended a, w) := rfl

theorem advance_bind (s : Script σ α) (k : α → Script σ β) (w : World σ) :
    (s.bind k).advance w = ((s.advance w).1.bind k).advance (s.advance w).2 := by
  induction s generalizing w with
  | ended a => rfl
  | call world next ih => exact ih none w (world none w)
  | sleep wake next ih => rfl
  | crew run workers done next ih => rfl

/-- A script whose first part has come to its end goes on with the rest. -/
theorem advance_bind_of_ended {s : Script σ α} {w w' : World σ} {a : α}
    (h : s.advance w = (.ended a, w')) (k : α → Script σ β) :
    (s.bind k).advance w = (k a).advance w' := by
  rw [advance_bind, h]
  rfl

/-! ## What calls do -/

/-- Every call that the script may come to changes the world in this way, and every run whose files
it may come to begins with such workers. -/
def Calls (G : World σ → World σ → Prop) (Begins : Run → List Worker → Prop) : Script σ α → Prop
  | .ended _ => True
  | .call world next => ∀ refusal w, G w (world refusal w) ∧ (next refusal w).Calls G Begins
  | .sleep _ next => next.Calls G Begins
  | .crew run workers _ next => Begins run workers ∧ ∀ results, (next results).Calls G Begins

section Calls

variable {G : World σ → World σ → Prop} {Begins : Run → List Worker → Prop}

theorem Calls.bind {s : Script σ α} (hs : s.Calls G Begins) {k : α → Script σ β}
    (hk : ∀ a, (k a).Calls G Begins) : (s.bind k).Calls G Begins := by
  induction s with
  | ended a => exact hk a
  | call world next ih => exact fun refusal w => ⟨(hs refusal w).1, ih refusal w (hs refusal w).2⟩
  | sleep wake next ih => exact ih hs
  | crew run workers done next ih => exact ⟨hs.1, fun results => ih results (hs.2 results)⟩

theorem Calls.mono {s : Script σ α} (hs : s.Calls G Begins) {B : Run → List Worker → Prop}
    (h : ∀ run workers, Begins run workers → B run workers) : s.Calls G B := by
  induction s with
  | ended a => trivial
  | call world next ih => exact fun refusal w => ⟨(hs refusal w).1, ih refusal w (hs refusal w).2⟩
  | sleep wake next ih => exact ih hs
  | crew run workers done next ih =>
    exact ⟨h run workers hs.1, fun results => ih results (hs.2 results)⟩

theorem Calls.step {c : Setup σ} {s s' : Script σ α} {w w' : World σ}
    (hs : s.Calls G fun _ _ => True) (h : Step c (s, w) (s', w')) :
    s'.Calls G fun _ _ => True := by
  cases h with
  | call world next refusal => exact (hs refusal w).2
  | wake wake next => exact hs
  | turn run k k' next hk => exact ⟨trivial, hs.2⟩
  | refuse run k before after x e next => exact ⟨trivial, hs.2⟩
  | join run done next => exact hs.2 _

theorem calls_ask {f : World σ → α × World σ} (h : ∀ w, G w (f w).2) : (ask f).Calls G Begins :=
  fun _ w => ⟨h w, trivial⟩

theorem calls_askStore {f : World σ → Except Error α × World σ} (hrefl : ∀ w, G w w)
    (h : ∀ w, G w (f w).2) : (askStore f).Calls G Begins := by
  refine fun refusal w => ⟨?_, trivial⟩
  cases refusal with
  | none => exact h w
  | some e => exact hrefl w

end Calls

/-! ## How a script ends -/

/-- What a script may count on. -/
structure Terms (σ : Type) where
  /-- How the world may change between two of its calls. -/
  rely : World σ → World σ → Prop
  /-- What holds of the workers of a run. -/
  crew : Run → List Worker → World σ → Prop

/-- Terms that a script does not break by its own steps. -/
structure Terms.Fair (t : Terms σ) (c : Setup σ) : Prop where
  refl : ∀ w, t.rely w w
  trans : ∀ {w₁ w₂ w₃}, t.rely w₁ w₂ → t.rely w₂ w₃ → t.rely w₁ w₃
  crew : ∀ {run workers w w'}, t.rely w w' → t.crew run workers w → t.crew run workers w'
  turn : ∀ {run} {k k' : Crew σ}, k.Steps c run k' → t.crew run k.workers k.world →
    t.rely k.world k'.world ∧ t.crew run k'.workers k'.world
  refuse : ∀ {run before after x w}, t.crew run (before ++ x :: after) w →
    t.crew run (before ++ after) w

/-- In surroundings that keep to the terms, the crews of a script are as the terms say, and if it
ends, then with such an answer in such a world. -/
def Meets (t : Terms σ) (post : α → World σ → Prop) : Script σ α → World σ → Prop
  | .ended a, w => post a w
  | .call world next, w =>
    ∀ refusal w', t.rely w w' → (next refusal w').Meets t post (world refusal w')
  | .sleep _ next, w => next.Meets t post w
  | .crew run workers done next, w => t.crew run workers w ∧
    ∀ results : List FileResult, results.length = workers.length + done.length →
      ∀ w', t.rely w w' → (next results).Meets t post w'

section Meets

variable {t : Terms σ} {c : Setup σ} {post : α → World σ → Prop} {s s' : Script σ α}
  {w w' : World σ}

/-- What others do within the terms does not matter. -/
theorem Meets.rely (hs : s.Meets t post w) (ht : t.Fair c)
    (hpost : ∀ {a w w'}, t.rely w w' → post a w → post a w') (h : t.rely w w') :
    s.Meets t post w' := by
  induction s with
  | ended a => exact hpost h hs
  | call world next ih => exact fun refusal w'' h' => hs refusal w'' (ht.trans h h')
  | sleep wake next ih => exact ih hs
  | crew run workers done next ih =>
    exact ⟨ht.crew h hs.1, fun results hlen w'' h' => hs.2 results hlen w'' (ht.trans h h')⟩

theorem Meets.bind {k : α → Script σ β} {last : β → World σ → Prop} (hs : s.Meets t post w)
    (hk : ∀ a w, post a w → (k a).Meets t last w) : (s.bind k).Meets t last w := by
  induction s generalizing w with
  | ended a => exact hk a w hs
  | call world next ih => exact fun refusal w' h => ih refusal w' (hs refusal w' h)
  | sleep wake next ih => exact ih hs
  | crew run workers done next ih =>
    exact ⟨hs.1, fun results hlen w' h => ih results (hs.2 results hlen w' h)⟩

theorem meets_ask {f : World σ → α × World σ}
    (h : ∀ w', t.rely w w' → post (f w').1 (f w').2) : (ask f).Meets t post w :=
  fun _ w' hw => h w' hw

theorem meets_askStore {f : World σ → Except Error α × World σ}
    {post : Except Error α → World σ → Prop} (herror : ∀ e w', t.rely w w' → post (.error e) w')
    (h : ∀ w', t.rely w w' → post (f w').1 (f w').2) : (askStore f).Meets t post w := by
  intro refusal w' hw
  cases refusal with
  | none => exact h w' hw
  | some e => exact herror e w' hw

theorem Meets.step (hs : s.Meets t post w) (ht : t.Fair c) (h : Step c (s, w) (s', w')) :
    s'.Meets t post w' := by
  cases h with
  | call world next refusal => exact hs refusal w (ht.refl w)
  | wake wake next => exact hs
  | turn run k k' next hk =>
    obtain ⟨hrely, hcrew⟩ := ht.turn hk hs.1
    refine ⟨hcrew, fun results hlen w'' h' => hs.2 results ?_ w'' (ht.trans hrely h')⟩
    rw [hlen, hk.length_eq]
  | refuse run k before after x e next hk hcalls hpermit =>
    rw [hk] at hs
    refine ⟨ht.refuse hs.1, fun results hlen w'' h' => hs.2 results ?_ w'' h'⟩
    rw [hlen]
    simp
    omega
  | join run done next => exact hs.2 _ (by simp [fileResults]) w (ht.refl w)

end Meets

end Script

end ContextIndex.Sync
