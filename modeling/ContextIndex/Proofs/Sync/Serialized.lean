import ContextIndex.Proofs.Sync.Accepted
import ContextIndex.Proofs.Sync.Push
import ContextIndex.Proofs.Sync.Tenure

/-!
# Pushes one after the other

The jobs of a queue run beside each other, but the pushes of one repository have their tenures one
after the other.  So what is stored of the repository is what its pushes make of it in some order,
each as a whole (`Desk.pushes_serialized`), and the last one in that order has the last word.

The order is that in which they get the lease.  A push whose job is over when another one is
accepted comes before it.  Pushes whose jobs overlap ask for the lease when their pauses are over,
and it need not be the first one that finds it free (`Desk.pushes_reordered`).
-/

namespace ContextIndex.Sync

open Remote (Tree Service widgets)

/-! ## Applied pushes -/

def Job.pushOf (key : String) : Job → Option ChangeSet
  | .push repo changes => if repo.fullName = key then some changes else none
  | _ => none

/-- The job was one sync, and its run is complete. -/
def isCompleted : List Exit → Bool
  | [.ran (.ok (.completed _))] => true
  | _ => false

/-- What a job has applied that is over, if it was a push of the repository. -/
def appliedPush (key : String) (r : Ticket × List Exit) : Option ChangeSet :=
  if isCompleted r.2 then r.1.job.pushOf key else none

/-- The pushes of the repository that are over and complete. -/
def Desk.applied {σ : Type} (key : String) (x : Desk σ) : List ChangeSet :=
  x.ended.filterMap (appliedPush key)

/-- The pushes of the repository that were accepted. -/
def Desk.pushed {σ : Type} (key : String) (x : Desk σ) : List ChangeSet :=
  x.accepted.filterMap fun t => t.job.pushOf key

/-- Where a function gives less it gives a part of the list. -/
theorem filterMap_sublist {α β : Type} {f g : α → Option β} {l : List α}
    (h : ∀ b, f b = none ∨ f b = g b) : (l.filterMap f).Sublist (l.filterMap g) := by
  induction l with
  | nil => exact .slnil
  | cons b l ih =>
    rcases h b with hb | hb
    · rw [List.filterMap_cons_none hb, List.filterMap_cons]
      split
      · exact ih
      · exact ih.cons _
    · rw [List.filterMap_cons, List.filterMap_cons, hb]
      split
      · exact ih
      · exact ih.cons_cons _

theorem pushOf_push {key : String} {repo : RepoId} (h : repo.fullName = key) (changes : ChangeSet) :
    (Job.push repo changes).pushOf key = some changes :=
  if_pos h

theorem pushOf_of_not_concerns {key : String} {j : Job} (h : ¬ j.Concerns key) :
    j.pushOf key = none := by
  cases j with
  | full repo force => rfl
  | push repo changes => exact if_neg h
  | sweep => rfl

namespace Archive

variable {σ : Type} (a : Archive σ) (c : Setup σ)

/-- What pushes make of the repository, one after the other. -/
def after (start : Contents) (log : List ChangeSet) : Contents :=
  log.foldl (fun v changes => v.apply c.source (a.files (c.reference changes)) changes) start

/-! ## Steps in order -/

/-- What can happen next while nobody but pushes works on the repository, and no call of a push of
it is refused.  Whatever else goes on leaves the repository alone. -/
inductive Orderly (x : Desk σ) : Desk σ → Prop
  | full (repo : RepoId) (force : Bool) (key : String) (q : Queue) (w : World σ) :
    repo.fullName ≠ a.repo.fullName →
    Queue.triggerFull repo force {} x.world = (.accepted key, q, w) →
    Orderly x (x.accept q.inbox w)
  | push (e : PushEvent) (key : String) (q : Queue) :
    Queue.triggerPush c e {} = .ok (.accepted key, q) →
    (key = a.repo.fullName → a.has x.world.host (c.reference e.changeSet)) →
    Orderly x (x.accept q.inbox x.world)
  | start (t : Ticket) (inbox : List Ticket) : x.inbox = t :: inbox →
    Orderly x { x with inbox, running := x.running ++ [(t, Script.job c t.job)] }
  | work (before after : List (Ticket × Script σ (List Exit))) (t : Ticket)
    (s s' : Script σ (List Exit)) (w : World σ) : x.running = before ++ (t, s) :: after →
    Script.Step c (s, x.world) (s', w) →
    (t.job.Concerns a.repo.fullName → Script.Served c (s, x.world) (s', w)) →
    Orderly x { x with world := w, running := before ++ (t, s') :: after }
  | finish (before after : List (Ticket × Script σ (List Exit))) (t : Ticket)
    (exits : List Exit) : x.running = before ++ (t, .ended exits) :: after →
    Orderly x { x with running := before ++ after, ended := x.ended ++ [(t, exits)] }
  | others (store : Store) (host : σ) (now : Instant) (clock serial : Nat) :
    x.world.clock ≤ clock → a.Aside c x.world { x.world with store, host, now, clock, serial } →
    Orderly x { x with world := { x.world with store, host, now, clock, serial } }

/-- Such steps one after another, while no lease of the coordinator runs out that it has of the
repository. -/
abbrev InOrder : Desk σ → Desk σ → Prop :=
  Relation.ReflTransGen fun x y => a.Orderly c x y ∧ a.Firm c y.world

variable {a c}

theorem Orderly.step {x y : Desk σ} (h : a.Orderly c x y) : x.Step c y := by
  cases h with
  | full repo force key q w hne htrigger => exact .full repo force key q w htrigger
  | push e key q htrigger => exact .push e key q htrigger
  | start t inbox hinbox => exact .start t inbox hinbox
  | work before after t s s' w hrunning hstep =>
    exact .work before after t s s' w hrunning hstep
  | finish before after t exits hrunning => exact .finish before after t exits hrunning
  | others store host now clock serial hclock =>
    exact .others store host now clock serial hclock

theorem InOrder.steps {x y : Desk σ} (h : a.InOrder c x y) : x.Steps c y :=
  h.lift id fun _ _ hstep => hstep.1.step

/-! ## Whose turn it is -/

variable (a c) in
/-- Nobody has the repository, and it is stored like this, or one push has it and found it like
this. -/
inductive InTurn (w : World σ) (now : Contents) (tenures : List Tenure) : Prop
  | free : (∀ t ∈ tenures, ¬ t.IsDuring) → (∀ n, ¬ a.Held w (holderName c.label n)) →
    Contents.of w.store a.repo = now → InTurn w now tenures
  | taken (n : Nat) (rest : List Tenure) :
    tenures.Perm (.during (holderName c.label n) now :: rest) → (∀ t ∈ rest, ¬ t.IsDuring) →
    a.Held w (holderName c.label n) → InTurn w now tenures

section InTurn

variable {w w' : World σ} {now : Contents} {tenures before after : List Tenure} {t t' : Tenure}

theorem InTurn.aside (h : a.InTurn c w now tenures) (hfit : a.Fit c.source w.store)
    (haside : a.Aside c w w') : a.InTurn c w' now tenures := by
  cases h with
  | free hnone hheld hcontents =>
    exact .free hnone (fun n => mt (haside.held n).mp (hheld n))
      ((haside.contents hfit).trans hcontents)
  | taken n rest hperm hrest hheld => exact .taken n rest hperm hrest ((haside.held n).mpr hheld)

theorem InTurn.perm (h : a.InTurn c w now tenures) {tenures' : List Tenure}
    (hperm : tenures'.Perm tenures) : a.InTurn c w now tenures' := by
  cases h with
  | free hnone hheld hcontents =>
    exact .free (fun t ht => hnone t (hperm.mem_iff.mp ht)) hheld hcontents
  | taken n rest hperm' hrest hheld => exact .taken n rest (hperm.trans hperm') hrest hheld

theorem inTurn_cons (ht : ¬ t.IsDuring) :
    a.InTurn c w now (t :: tenures) ↔ a.InTurn c w now tenures := by
  constructor
  · intro h
    cases h with
    | free hnone hheld hcontents =>
      exact .free (fun u hu => hnone u (List.mem_cons_of_mem _ hu)) hheld hcontents
    | taken n rest hperm hrest hheld =>
      rw [← List.nil_append (t :: tenures)] at hperm
      rcases perm_middle_cases hperm with ⟨rfl, -⟩ | ⟨others, hrest', hperm'⟩
      · exact absurd trivial ht
      · exact .taken n others hperm' (fun u hu =>
          hrest u (hrest'.mem_iff.mpr (List.mem_cons_of_mem _ hu))) hheld
  · intro h
    cases h with
    | free hnone hheld hcontents =>
      exact .free (List.forall_mem_cons.mpr ⟨ht, hnone⟩) hheld hcontents
    | taken n rest hperm hrest hheld =>
      exact .taken n (t :: rest) ((hperm.cons t).trans (.swap _ _ _))
        (List.forall_mem_cons.mpr ⟨ht, hrest⟩) hheld

theorem inTurn_middle (ht : ¬ t.IsDuring) :
    a.InTurn c w now (before ++ t :: after) ↔ a.InTurn c w now (before ++ after) :=
  ⟨fun h => (inTurn_cons ht).mp (h.perm List.perm_middle.symm),
    fun h => ((inTurn_cons ht).mpr h).perm List.perm_middle⟩

theorem InTurn.held (h : a.InTurn c w now tenures) {holder : String} {found : Contents}
    (ht : .during holder found ∈ tenures) : a.Held w holder := by
  cases h with
  | free hnone hheld hcontents => exact absurd trivial (hnone _ ht)
  | taken n rest hperm hrest hheld =>
    rcases List.mem_cons.mp (hperm.mem_iff.mp ht) with heq | ht
    · cases heq
      exact hheld
    · exact absurd trivial (hrest _ ht)

/-- The one whose turn it is is the only one. -/
theorem InTurn.taken_middle {holder : String} {found : Contents}
    (h : a.InTurn c w now (before ++ .during holder found :: after)) :
    found = now ∧ (∃ n, holder = holderName c.label n) ∧ ∀ t ∈ before ++ after, ¬ t.IsDuring := by
  cases h with
  | free hnone hheld hcontents => exact absurd trivial (hnone _ (mem_middle.mpr (.inl rfl)))
  | taken n rest hperm hrest hheld =>
    rcases perm_middle_cases hperm with ⟨heq, hrest'⟩ | ⟨others, hrest', -⟩
    · cases heq
      exact ⟨rfl, ⟨n, rfl⟩, fun t ht => hrest t (hrest'.mem_iff.mp ht)⟩
    · exact absurd trivial (hrest _ (hrest'.mem_iff.mpr List.mem_cons_self))

theorem InTurn.free_of_not_held (h : a.InTurn c w now tenures)
    (hfree : ∀ n, ¬ a.Held w (holderName c.label n)) :
    (∀ t ∈ tenures, ¬ t.IsDuring) ∧ Contents.of w.store a.repo = now := by
  cases h with
  | free hnone hheld hcontents => exact ⟨hnone, hcontents⟩
  | taken n rest hperm hrest hheld => exact absurd hheld (hfree n)

variable {changes : ChangeSet}

/-- While it is the turn of another one a push stays aside. -/
theorem InTurn.aside_of_move (h : a.InTurn c w now (before ++ t :: after))
    (hmove : a.Move c changes w w' t t') {u : Tenure} (hu : u ∈ before ++ after)
    (hduring : u.IsDuring) : a.Aside c w w' := by
  cases hmove with
  | before haside => exact haside
  | after haside => exact haside
  | take n hsteady hcontents hfree =>
    exact absurd hduring ((h.free_of_not_held hfree).1 u (mem_middle.mpr (.inr hu)))
  | work holder found => exact absurd hduring (h.taken_middle.2.2 u hu)
  | leave holder found => exact absurd hduring (h.taken_middle.2.2 u hu)

/-- A call of a push leaves it to whoever has the turn, or is the end of its own turn. -/
theorem InTurn.move (h : a.InTurn c w now (before ++ t :: after)) (hfit : a.Fit c.source w.store)
    (hmove : a.Move c changes w w' t t') :
    ((t = .after ↔ t' = .after) ∧ a.InTurn c w' now (before ++ t' :: after)) ∨
      (t ≠ .after ∧ t' = .after ∧ a.InTurn c w'
        (now.apply c.source (a.files (c.reference changes)) changes)
        (before ++ t' :: after)) := by
  cases hmove with
  | before haside => exact .inl ⟨Iff.rfl, h.aside hfit haside⟩
  | after haside => exact .inl ⟨Iff.rfl, h.aside hfit haside⟩
  | take n hsteady hcontents hfree hheld =>
    obtain ⟨hnone, rfl⟩ := h.free_of_not_held hfree
    exact .inl ⟨by simp, .taken n _ List.perm_middle
      (fun u hu => hnone u (mem_middle.mpr (.inr hu))) hheld⟩
  | work holder found hsteady hheld =>
    obtain ⟨rfl, ⟨n, rfl⟩, hothers⟩ := h.taken_middle
    have hmine := h.held (mem_middle.mpr (.inl rfl))
    exact .inl ⟨Iff.rfl, .taken n _ List.perm_middle hothers ((hheld n).mpr hmine)⟩
  | leave holder found hsteady hcontents hfree =>
    obtain ⟨rfl, -, hothers⟩ := h.taken_middle
    exact .inr ⟨by simp, rfl, (inTurn_middle id).mpr (.free hothers hfree hcontents)⟩

end InTurn

/-! ## Jobs in their tenure -/

/-- A job that runs, and where it is. -/
structure Player (σ : Type) where
  ticket : Ticket
  script : Script σ (List Exit)
  /-- Whether it has the lease of the repository, if it is a push of it. -/
  tenure : Tenure := .before

def Player.job (p : Player σ) : Ticket × Script σ (List Exit) :=
  (p.ticket, p.script)

/-- What a push has applied that is not over. -/
def Player.applied (key : String) (p : Player σ) : Option ChangeSet :=
  match p.tenure with
  | .after => p.ticket.job.pushOf key
  | _ => none

theorem Player.applied_of_ne {key : String} {p : Player σ} (h : p.tenure ≠ .after) :
    p.applied key = none := by
  unfold Player.applied
  split
  · next htenure => exact absurd htenure h
  · rfl

theorem Player.applied_of_after {key : String} {p : Player σ} (h : p.tenure = .after) :
    p.applied key = p.ticket.job.pushOf key := by
  unfold Player.applied
  rw [h]

theorem Player.applied_congr {key : String} {p p' : Player σ} (hticket : p'.ticket = p.ticket)
    (h : p.tenure = .after ↔ p'.tenure = .after) : p'.applied key = p.applied key := by
  by_cases hafter : p'.tenure = .after
  · rw [applied_of_after hafter, applied_of_after (h.mpr hafter), hticket]
  · rw [applied_of_ne hafter, applied_of_ne (mt h.mp hafter)]

variable (a c) in
/-- A job that may come: a push of the repository to a commit that the host has, or a job that is
not about it. -/
inductive Admitted (w : World σ) (j : Job) : Prop
  | push (repo : RepoId) (changes : ChangeSet) : j = .push repo changes →
    repo.fullName = a.repo.fullName → changes.changed.Nodup →
    a.has w.host (c.reference changes) → Admitted w j
  | other : ¬ j.Concerns a.repo.fullName → Admitted w j

variable (a c) in
/-- What is known of a job that runs. -/
inductive Plays (w : World σ) (p : Player σ) : Prop
  | push (repo : RepoId) (changes : ChangeSet) : p.ticket.job = .push repo changes →
    repo.fullName = a.repo.fullName → a.has w.host (c.reference changes) →
    p.script.InTenure a c changes
      (fun t exits _ => ∃ exit, exits = [exit] ∧ Script.Concluded t exit) p.tenure w →
    Plays w p
  | other : ¬ p.ticket.job.Concerns a.repo.fullName → p.tenure = .before →
    p.script.Within (fun w => a.Fit c.source w.store) (a.Aside c)
      (fun run => a.number ≠ run.repo.id) (fun _ => True) → Plays w p

section Plays

variable {w w' : World σ} {p : Player σ}

theorem Admitted.pass {j : Job} (h : a.Admitted c w j) (hsteady : a.Steady c w w') :
    a.Admitted c w' j := by
  cases h with
  | push repo changes hjob hrepo hnodup hhas =>
    exact .push repo changes hjob hrepo hnodup (hsteady.has _ hhas)
  | other h => exact .other h

theorem Admitted.plays (hserved : a.Served c.service) {t : Ticket} (h : a.Admitted c w t.job) :
    a.Plays c w { ticket := t, script := Script.job c t.job } := by
  cases h with
  | push repo changes hjob hrepo hnodup hhas =>
    refine .push repo changes hjob hrepo hhas ?_
    show (Script.job c t.job).InTenure a c changes _ _ _
    rw [hjob]
    exact Script.inTenure_job hserved hnodup hrepo
  | other h =>
    refine .other h rfl ?_
    refine (Script.within_job_other (fun _ => effects_aside hserved) (fun _ _ => ends_aside) h).mono
      (fun run hrun => ?_) fun _ h => h
    obtain ⟨name, -, -, hid⟩ := hrun
    exact hid

/-- What others do who leave the repository to a push during its tenure. -/
theorem Plays.pass (h : a.Plays c w p) (hsteady : a.Steady c w w') (hfit : a.Fit c.source w.store)
    (hfirm : a.Firm c w') (hduring : ∀ holder found, p.tenure = .during holder found →
      a.Aside c w w' ∧ a.Held w' holder) : a.Plays c w' p := by
  obtain ⟨ticket, script, tenure⟩ := p
  cases h with
  | push repo changes hjob hrepo hhas hscript =>
    have hready : a.Ready c changes w' := ⟨hsteady.fit hfit, hfirm, hsteady.has _ hhas⟩
    exact .push repo changes hjob hrepo (hsteady.has _ hhas)
      (hscript.rely (fun _ h => h) (.of_aside hready hduring))
  | other hjob htenure hscript => exact .other hjob htenure hscript

/-- A job that is over has no turn, and it has been applied if it is a complete push. -/
theorem Plays.ended {exits : List Exit} (h : a.Plays c w p) (hp : p.script = .ended exits) :
    ¬ p.tenure.IsDuring ∧
      p.applied a.repo.fullName = appliedPush a.repo.fullName (p.ticket, exits) := by
  obtain ⟨ticket, script, tenure⟩ := p
  cases hp
  cases h with
  | push repo changes hjob hrepo hhas hscript =>
    obtain ⟨exit, rfl, ⟨rfl, report, rfl⟩ | ⟨rfl, hexit⟩⟩ := hscript
    · exact ⟨id, rfl⟩
    · refine ⟨id, ?_⟩
      unfold appliedPush
      split
      · next hcompleted =>
        unfold isCompleted at hcompleted
        split at hcompleted
        · next report heq => exact absurd (List.singleton_injective heq) (hexit report)
        · cases hcompleted
      · rfl
  | other hjob htenure hscript =>
    obtain rfl : tenure = .before := htenure
    refine ⟨id, ?_⟩
    unfold appliedPush
    rw [pushOf_of_not_concerns hjob, ite_self]
    rfl

end Plays

/-! ## Desks with their players -/

variable (a c) in
/-- The pushes take turns, and so far they have done this. -/
structure Serial (start : Contents) (log : List ChangeSet) (players : List (Player σ))
    (x : Desk σ) : Prop where
  running : players.map Player.job = x.running
  fit : a.Fit c.source x.world.store
  firm : a.Firm c x.world
  waiting : ∀ t ∈ x.inbox, a.Admitted c x.world t.job
  plays : ∀ p ∈ players, a.Plays c x.world p
  turn : a.InTurn c x.world (a.after c start log) (players.map Player.tenure)
  done : log.Perm (players.filterMap (Player.applied a.repo.fullName) ++
    x.applied a.repo.fullName)

section Serial

variable {start : Contents} {log : List ChangeSet} {players : List (Player σ)} {x y : Desk σ}

theorem serial_fresh {w : World σ} (hfit : a.Fit c.source w.store)
    (hfree : ∀ n, ¬ a.Held w (holderName c.label n)) :
    a.Serial c (Contents.of w.store a.repo) [] [] (Desk.fresh w) where
  running := rfl
  fit := hfit
  firm l n hl hholder := absurd ⟨l, hl, hholder⟩ (hfree n)
  waiting _ ht := absurd ht List.not_mem_nil
  plays _ hp := absurd hp List.not_mem_nil
  turn := .free nofun hfree rfl
  done := .nil

theorem Serial.pass (hx : a.Serial c start log players x) {w : World σ}
    (haside : a.Aside c x.world w) (hfirm : a.Firm c w) :
    a.Serial c start log players { x with world := w } where
  running := hx.running
  fit := haside.fit hx.fit
  firm := hfirm
  waiting t ht := (hx.waiting t ht).pass haside.toSteady
  plays p hp := by
    refine (hx.plays p hp).pass haside.toSteady hx.fit hfirm fun holder found htenure => ?_
    have hmem := List.mem_map_of_mem (f := Player.tenure) hp
    rw [htenure] at hmem
    exact ⟨haside, (hx.turn.aside hx.fit haside).held hmem⟩
  turn := hx.turn.aside hx.fit haside
  done := hx.done

theorem Serial.accept (hx : a.Serial c start log players x) {jobs : List Job} {w : World σ}
    (hstore : w.store = x.world.store) (hhost : w.host = x.world.host) (hfirm : a.Firm c w)
    (hjobs : ∀ j ∈ jobs, a.Admitted c w j) :
    a.Serial c start log players (x.accept jobs w) := by
  have hpass := hx.pass (.of_eq hstore hhost) hfirm
  refine { hpass with waiting := fun t ht => ?_ }
  rcases List.mem_append.mp ht with ht | ht
  · exact hpass.waiting t ht
  · obtain ⟨job, hjob, rfl⟩ := List.mem_map.mp ht
    exact hjobs job hjob

theorem Serial.begin (hx : a.Serial c start log players x) (hserved : a.Served c.service)
    {t : Ticket} {inbox : List Ticket} (hinbox : x.inbox = t :: inbox) :
    a.Serial c start log (players ++ [{ ticket := t, script := Script.job c t.job }])
      { x with inbox, running := x.running ++ [(t, Script.job c t.job)] } where
  running := by
    rw [List.map_append, hx.running]
    rfl
  fit := hx.fit
  firm := hx.firm
  waiting u hu := hx.waiting u (hinbox ▸ List.mem_cons_of_mem _ hu)
  plays p hp := by
    rcases List.mem_append.mp hp with hp | hp
    · exact hx.plays p hp
    · cases List.mem_singleton.mp hp
      exact (hx.waiting t (hinbox ▸ List.mem_cons_self)).plays hserved
  turn := by
    have hturn := hx.turn
    rw [← List.append_nil (players.map Player.tenure)] at hturn
    rw [List.map_append]
    exact (inTurn_middle (t := .before) id).mpr hturn
  done := by
    rw [List.filterMap_append, List.filterMap_cons_none rfl, List.filterMap_nil, List.append_nil]
    exact hx.done

theorem Serial.split (hx : a.Serial c start log players x)
    {before after : List (Ticket × Script σ (List Exit))} {t : Ticket} {s : Script σ (List Exit)}
    (hrunning : x.running = before ++ (t, s) :: after) :
    ∃ tenure left right, players = left ++ ⟨t, s, tenure⟩ :: right ∧
      left.map Player.job = before ∧ right.map Player.job = after := by
  have hmap := hx.running.trans hrunning
  obtain ⟨left, rest, rfl, hleft, hrest⟩ := List.map_eq_append_iff.mp hmap
  obtain ⟨⟨ticket, script, tenure⟩, right, rfl, hp, hright⟩ := List.map_eq_cons_iff.mp hrest
  cases hp
  exact ⟨tenure, left, right, rfl, hleft, hright⟩

theorem Serial.finish (hx : a.Serial c start log players x)
    {before after : List (Ticket × Script σ (List Exit))} {t : Ticket} {exits : List Exit}
    (hrunning : x.running = before ++ (t, .ended exits) :: after) :
    ∃ players', a.Serial c start log players'
      { x with running := before ++ after, ended := x.ended ++ [(t, exits)] } := by
  obtain ⟨tenure, left, right, rfl, rfl, rfl⟩ := hx.split hrunning
  have hmem {p} (hp : p = ⟨t, .ended exits, tenure⟩ ∨ p ∈ left ++ right) :
      p ∈ left ++ ⟨t, .ended exits, tenure⟩ :: right := mem_middle.mpr hp
  obtain ⟨hturn, happlied⟩ := (hx.plays _ (hmem (.inl rfl))).ended rfl
  refine ⟨left ++ right, List.map_append, hx.fit, hx.firm, hx.waiting,
    fun p hp => hx.plays p (hmem (.inr hp)), ?_, ?_⟩
  · rw [List.map_append]
    refine (inTurn_middle hturn).mp ?_
    have hbefore := hx.turn
    rwa [List.map_append, List.map_cons] at hbefore
  · refine hx.done.trans ?_
    unfold Desk.applied
    rw [List.filterMap_append (l := x.ended), List.filterMap_append, List.filterMap_append]
    cases hexits : appliedPush a.repo.fullName (t, exits) with
    | none =>
      rw [List.filterMap_cons_none (happlied.trans hexits), List.filterMap_cons_none hexits,
        List.filterMap_nil, List.append_nil]
    | some changes =>
      rw [List.filterMap_cons_some (happlied.trans hexits), List.filterMap_cons_some hexits,
        List.filterMap_nil, ← List.append_assoc _ _ [changes]]
      exact (List.perm_middle.append_right _).trans (List.perm_append_singleton _ _).symm

theorem Serial.work (hx : a.Serial c start log players x) {left right : List (Player σ)}
    {p q : Player σ} (hplayers : players = left ++ p :: right) (hticket : q.ticket = p.ticket)
    {changes : ChangeSet} {w : World σ} (hmove : a.Move c changes x.world w p.tenure q.tenure)
    (hchanges : q.tenure = .after → q.ticket.job.pushOf a.repo.fullName = some changes)
    (hplays : a.Plays c w q) (hfirm : a.Firm c w) :
    ∃ log', log <+: log' ∧ a.Serial c start log' (left ++ q :: right)
      { x with world := w, running := left.map Player.job ++ q.job :: right.map Player.job } := by
  subst hplayers
  have hturn := hx.turn
  rw [List.map_append, List.map_cons] at hturn
  have hothers (r) (hr : r ∈ left ++ q :: right) : a.Plays c w r := by
    rcases mem_middle.mp hr with rfl | hr
    · exact hplays
    refine (hx.plays r (mem_middle.mpr (.inr hr))).pass hmove.steady hx.fit hfirm
      fun holder found htenure => ?_
    -- It is the turn of another one.
    have hmem := List.mem_map_of_mem (f := Player.tenure) hr
    rw [List.map_append, htenure] at hmem
    have haside := hturn.aside_of_move hmove hmem trivial
    exact ⟨haside, (hturn.aside hx.fit haside).held (mem_middle.mpr (.inr hmem))⟩
  have hwaiting (t) (ht : t ∈ x.inbox) := (hx.waiting t ht).pass hmove.steady
  have hrunning : (left ++ q :: right).map Player.job =
      left.map Player.job ++ q.job :: right.map Player.job := by
    rw [List.map_append, List.map_cons]
  have htenures : (left ++ q :: right).map Player.tenure =
      left.map Player.tenure ++ q.tenure :: right.map Player.tenure := by
    rw [List.map_append, List.map_cons]
  have hdone := hx.done
  rw [List.filterMap_append] at hdone
  rcases hturn.move hx.fit hmove with ⟨hsame, hturn'⟩ | ⟨hbefore, hafter, hturn'⟩
  · -- The tenure does not end here, so nothing is added to what the pushes have done.
    refine ⟨log, List.prefix_refl log, hrunning, hmove.steady.fit hx.fit, hfirm, hwaiting, hothers,
      htenures ▸ hturn', ?_⟩
    rw [List.filterMap_append, List.filterMap_cons, Player.applied_congr hticket hsame]
    rwa [List.filterMap_cons] at hdone
  · -- The push gives the lease up, and at this moment the whole of it counts.
    refine ⟨log ++ [changes], List.prefix_append _ _, hrunning, hmove.steady.fit hx.fit, hfirm,
      hwaiting, hothers, ?_, ?_⟩
    · rw [htenures]
      unfold Archive.after
      rw [List.foldl_append]
      exact hturn'
    · rw [List.filterMap_cons_none (Player.applied_of_ne hbefore)] at hdone
      rw [List.filterMap_append, List.filterMap_cons_some (q.applied_of_after hafter ▸
        hchanges hafter)]
      refine (List.perm_append_singleton _ _).trans ((hdone.cons changes).trans ?_)
      exact List.perm_middle.symm.append_right _

/-- Whatever happens next, the pushes take turns. -/
theorem Serial.step (hx : a.Serial c start log players x) (hserved : a.Served c.service)
    (h : a.Orderly c x y) (hfirm : a.Firm c y.world) :
    ∃ log' players', log <+: log' ∧ a.Serial c start log' players' y := by
  cases h with
  | full repo force key q w hne htrigger =>
    obtain ⟨hinbox, -⟩ := Desk.triggerFull_cases htrigger
    obtain ⟨status, hw⟩ := Desk.world_triggerFull repo force {} x.world
    rw [htrigger] at hw
    obtain rfl : w = { x.world with status } := hw
    refine ⟨log, players, List.prefix_refl log, hx.accept rfl rfl hfirm fun j hj => ?_⟩
    rw [hinbox] at hj
    cases List.mem_singleton.mp hj
    exact .other hne
  | push e key q htrigger hhas =>
    obtain ⟨repo, -, rfl, hinbox⟩ := Desk.inbox_triggerPush htrigger
    refine ⟨log, players, List.prefix_refl log, hx.accept rfl rfl hfirm fun j hj => ?_⟩
    rw [hinbox] at hj
    cases List.mem_singleton.mp hj
    by_cases hrepo : repo.fullName = a.repo.fullName
    · exact .push repo e.changeSet rfl hrepo (nodup_pathSet _) (hhas hrepo)
    · exact .other hrepo
  | start t inbox hinbox => exact ⟨log, _, List.prefix_refl log, hx.begin hserved hinbox⟩
  | work before after t s s' w hrunning hstep hcalls =>
    obtain ⟨tenure, left, right, rfl, rfl, rfl⟩ := hx.split hrunning
    have hmem : ⟨t, s, tenure⟩ ∈ left ++ ⟨t, s, tenure⟩ :: right := mem_middle.mpr (.inl rfl)
    cases hx.plays _ hmem with
    | push repo changes hjob hrepo hhas hscript =>
      replace hjob : t.job = .push repo changes := hjob
      have hself : a.Rely c changes tenure x.world x.world := by
        refine .of_aside ⟨hx.fit, hx.firm, hhas⟩ fun holder found htenure => ⟨.refl _, ?_⟩
        subst htenure
        exact hx.turn.held (List.mem_map_of_mem (f := Player.tenure) hmem)
      have hconcerns : t.job.Concerns a.repo.fullName := hjob ▸ hrepo
      have hpush : t.job.pushOf a.repo.fullName = some changes :=
        hjob ▸ pushOf_push hrepo changes
      obtain ⟨tenure', hmove, hscript'⟩ := hscript.step hself (hcalls hconcerns)
      obtain ⟨log', hprefix, hy⟩ := hx.work (q := ⟨t, s', tenure'⟩) rfl rfl hmove (fun _ => hpush)
        (.push repo changes hjob hrepo (hmove.steady.has _ hhas) hscript') hfirm
      exact ⟨log', _, hprefix, hy⟩
    | other hjob htenure hscript =>
      obtain rfl : tenure = .before := htenure
      obtain ⟨hscript', haside⟩ := hscript.step hx.fit Aside.refl (aside_of_turn hserved) hstep
      obtain ⟨log', hprefix, hy⟩ := hx.work (q := ⟨t, s', .before⟩) rfl rfl
        (.before haside : a.Move c {} x.world w .before .before) nofun (.other hjob rfl hscript')
        hfirm
      exact ⟨log', _, hprefix, hy⟩
  | finish before after t exits hrunning =>
    obtain ⟨players', hy⟩ := hx.finish hrunning
    exact ⟨log, players', List.prefix_refl log, hy⟩
  | others store host now clock serial hclock haside =>
    exact ⟨log, players, List.prefix_refl log, hx.pass haside hfirm⟩

theorem Serial.run (hx : a.Serial c start log players x) (hserved : a.Served c.service)
    (h : a.InOrder c x y) : ∃ log' players', log <+: log' ∧ a.Serial c start log' players' y := by
  induction h with
  | refl => exact ⟨log, players, List.prefix_refl log, hx⟩
  | tail _ hstep ih =>
    obtain ⟨log₁, players₁, hprefix, hy⟩ := ih
    obtain ⟨log', players', hprefix', hz⟩ := hy.step hserved hstep.1 hstep.2
    exact ⟨log', players', hprefix.trans hprefix', hz⟩

/-- What is over has been done, and only what was accepted. -/
theorem Serial.subperm (hx : a.Serial c start log players x) (hkept : x.Kept c) :
    (x.applied a.repo.fullName).Subperm log ∧ log.Subperm (x.pushed a.repo.fullName) := by
  refine ⟨(List.sublist_append_right _ _).subperm.trans hx.done.symm.subperm, ?_⟩
  have hrunning : (players.filterMap (Player.applied a.repo.fullName)).Sublist
      ((x.running.map Prod.fst).filterMap fun t => t.job.pushOf a.repo.fullName) := by
    rw [← hx.running, List.map_map, List.filterMap_map]
    refine filterMap_sublist fun p => ?_
    by_cases hafter : p.tenure = .after
    · exact .inr (Player.applied_of_after hafter)
    · exact .inl (Player.applied_of_ne hafter)
  have hended : (x.applied a.repo.fullName).Sublist
      ((x.ended.map Prod.fst).filterMap fun t => t.job.pushOf a.repo.fullName) := by
    rw [List.filterMap_map]
    refine filterMap_sublist fun r => ?_
    by_cases hcompleted : isCompleted r.2 = true
    · exact .inr (if_pos hcompleted)
    · exact .inl (if_neg hcompleted)
  have hpushed := hkept.tickets.filterMap fun t => t.job.pushOf a.repo.fullName
  rw [List.append_assoc, List.filterMap_append, List.filterMap_append] at hpushed
  exact hx.done.subperm.trans ((((hrunning.append hended).trans
    (List.sublist_append_right _ _)).subperm).trans hpushed.symm.subperm)

/-- While no push of the repository runs, it is stored as its pushes have made it. -/
theorem Serial.settled (hx : a.Serial c start log players x)
    (hrunning : ∀ r ∈ x.running, r.1.job.pushOf a.repo.fullName = none) :
    log.Perm (x.applied a.repo.fullName) ∧
      Contents.of x.world.store a.repo = a.after c start log := by
  have hpush {p} (hp : p ∈ players) : p.ticket.job.pushOf a.repo.fullName = none :=
    hrunning _ (hx.running ▸ List.mem_map_of_mem (f := Player.job) hp)
  constructor
  · have hdone := hx.done
    rwa [List.filterMap_eq_nil_iff.mpr fun p hp => ?_, List.nil_append] at hdone
    by_cases hafter : p.tenure = .after
    · exact (Player.applied_of_after hafter).trans (hpush hp)
    · exact Player.applied_of_ne hafter
  · cases hx.turn with
    | free hnone hheld hcontents => exact hcontents
    | taken n rest hperm hrest hheld =>
      -- The one whose turn it is would be a push.
      obtain ⟨p, hp, htenure⟩ := List.mem_map.mp (hperm.mem_iff.mpr List.mem_cons_self)
      cases hx.plays p hp with
      | push repo changes hjob hrepo hhas hscript =>
        have hsome : p.ticket.job.pushOf a.repo.fullName = some changes :=
          hjob ▸ pushOf_push hrepo changes
        cases hsome.symm.trans (hpush hp)
      | other hjob hbefore hscript => cases hbefore.symm.trans htenure

end Serial

/-- The last push has the last word. -/
theorem of_after_last {s : Store} {start : Contents} {log : List ChangeSet} {last : ChangeSet}
    (h : Contents.of s a.repo = a.after c start log) (hlast : log.getLast? = some last) :
    (∀ r, last.revision = some r → s.marker a.repo = some r) ∧
      (∀ p ∈ last.changed, Language.isIndexable p = true → (s.rowAt a.repo p).map FileRow.core =
        (a.files (c.reference last) p).map (c.source.rowOf p)) ∧
      ∀ p ∈ last.deleted, p ∉ last.changed → s.rowAt a.repo p = none := by
  obtain ⟨log', rfl⟩ := List.getLast?_eq_some_iff.mp hlast
  unfold after at h
  rw [List.foldl_append] at h
  have hmarker := congrArg Contents.marker h
  have hrow (p : String) := congrFun (congrArg Contents.row h) p
  refine ⟨fun r hr => ?_, fun p hp hindexable => ?_, fun p hp hchanged => ?_⟩
  · exact hmarker.trans (congrArg (Option.or · _) hr)
  · exact (hrow p).trans (if_pos ⟨hp, hindexable⟩)
  · have hnone := (hrow p).trans ((if_neg fun h => hchanged h.1).trans (if_pos hp))
    exact Option.map_eq_none_iff.mp hnone

end Archive

namespace Desk

variable {σ : Type} {a : Archive σ} {c : Setup σ} {x y : Desk σ}

/-- Pushes of a repository take effect one after the other, each as a whole.  Those that are over at
some time come before those that are accepted later, and the last one has the last word. -/
theorem pushes_serialized {w : World σ} (hserved : a.Served c.service)
    (hfit : a.Fit c.source w.store) (hfree : ∀ n, ¬ a.Held w (holderName c.label n))
    (hbefore : a.InOrder c (fresh w) x) (hafter : a.InOrder c x y)
    (hover : ∀ r ∈ y.running, r.1.job.pushOf a.repo.fullName = none) :
    ∃ first second : List ChangeSet,
      (x.applied a.repo.fullName).Subperm first ∧ first.Subperm (x.pushed a.repo.fullName) ∧
      (first ++ second).Perm (y.applied a.repo.fullName) ∧
      Contents.of y.world.store a.repo =
        a.after c (Contents.of w.store a.repo) (first ++ second) ∧
      ∀ last, (first ++ second).getLast? = some last →
        (∀ r, last.revision = some r → y.world.store.marker a.repo = some r) ∧
        (∀ p ∈ last.changed, Language.isIndexable p = true →
          (y.world.store.rowAt a.repo p).map FileRow.core =
            (a.files (c.reference last) p).map (c.source.rowOf p)) ∧
        ∀ p ∈ last.deleted, p ∉ last.changed → y.world.store.rowAt a.repo p = none := by
  obtain ⟨first, players, -, hx⟩ := (Archive.serial_fresh hfit hfree).run hserved hbefore
  obtain ⟨log, players', ⟨second, rfl⟩, hy⟩ := hx.run hserved hafter
  obtain ⟨happlied, hpushed⟩ := hx.subperm ((kept_fresh w).steps hbefore.steps)
  obtain ⟨hdone, hcontents⟩ := hy.settled hover
  exact ⟨first, second, happlied, hpushed, hdone, hcontents,
    fun last hlast => Archive.of_after_last hcontents hlast⟩

end Desk

/-! ## Jobs that nobody disturbs -/

namespace Script

variable {σ α : Type}

def answer? : Script σ α → Option α
  | .ended x => some x
  | _ => none

/-- The next step of a script, if nobody disturbs it and the first worker takes the next turn. -/
def serve (c : Setup σ) : Script σ α × World σ → Script σ α × World σ
  | (.ended x, w) => (.ended x, w)
  | (.call world next, w) => (next none w, world none w)
  | (.sleep wake next, w) => if wake ≤ w.clock then (next, w) else (.sleep wake next, w)
  | (.crew _ [] done next, w) => (next (fileResults done), w)
  | (.crew run (x :: workers) done next, w) =>
    let k := (⟨x :: workers, done, w⟩ : Crew σ).step c run 0
    (.crew run k.workers k.done next, k.world)

theorem served_serve (c : Setup σ) (x : Script σ α × World σ) :
    serve c x = x ∨ Served c x (serve c x) := by
  obtain ⟨s, w⟩ := x
  cases s with
  | ended x => exact .inl rfl
  | call world next => exact .inr (.call world next w)
  | sleep wake next =>
    by_cases hwake : wake ≤ w.clock
    · rw [serve, if_pos hwake]
      exact .inr (.wake wake next w hwake)
    · exact .inl (if_neg hwake)
  | crew run workers done next =>
    cases workers with
    | nil => exact .inr (.join run done next w)
    | cons x workers =>
      exact .inr (.turn run ⟨x :: workers, done, w⟩ _ next (Crew.steps_step c run _ 0))

theorem eq_ended_of_answer? {s : Script σ α} {x : α} (h : s.answer? = some x) : s = .ended x := by
  cases s with
  | ended y => exact congrArg ended (Option.some.inj h)
  | call => cases h
  | sleep => cases h
  | crew => cases h

end Script

def World.lasting {σ : Type} (w : World σ) : Bool :=
  w.store.leases.all fun l => !l.givesWay w.now

theorem Archive.firm_of_lasting {σ : Type} (a : Archive σ) (c : Setup σ) {w : World σ}
    (h : w.lasting = true) : a.Firm c w := by
  intro l n hl hholder
  simpa using List.all_eq_true.mp h l (Store.mem_of_lease? hl).1

namespace Desk

variable {σ : Type} {a : Archive σ} {c : Setup σ} {x : Desk σ}
  {before after : List (Ticket × Script σ (List Exit))} {t : Ticket} {s : Script σ (List Exit)}

/-- A job goes on while no lease runs out. -/
theorem inOrder_serve (hrunning : x.running = before ++ (t, s) :: after) {n : Nat}
    (hlasting : ∀ m ≤ n, ((Script.serve c)^[m] (s, x.world)).2.lasting = true)
    {y : Script σ (List Exit) × World σ} (hserve : (Script.serve c)^[n] (s, x.world) = y) :
    a.InOrder c x { x with world := y.2, running := before ++ (t, y.1) :: after } := by
  subst hserve
  induction n with
  | zero => rw [Function.iterate_zero, id, ← hrunning]
  | succ n ih =>
    have hlast := hlasting (n + 1) (Nat.le_refl _)
    refine (ih fun m hm => hlasting m (Nat.le_succ_of_le hm)).trans ?_
    rw [Function.iterate_succ_apply'] at hlast ⊢
    rcases Script.served_serve c ((Script.serve c)^[n] (s, x.world)) with heq | hserved
    · rw [heq]
    · exact .single ⟨.work before after t _ _ _ rfl hserved.step fun _ => hserved,
        a.firm_of_lasting c hlast⟩

end Desk

/-! ## Editions of a file -/

/-- A host that keeps the files of every commit. -/
def Remote.keeping (head : String) (paths : List String) (files : String → Tree) :
    Service Unit where
  metadata _ _ := (.ok {}, ())
  head _ _ _ := (.ok head, ())
  tree _ reference _ := (.ok (paths.filterMap fun path =>
    (files reference path).map fun file => ⟨path, file.sha, .blob⟩), ())
  fetch _ path reference _ := ((files reference path).elim (.error (.notFound path)) .ok, ())
  contentId _ path reference _ :=
    ((files reference path).elim (.error (.notFound path)) fun file => .ok file.sha, ())
  commitsSince _ _ _ _ := (.ok [], ())
  commitFiles _ _ _ := (.ok [], ())

theorem Remote.serves_keeping (head : String) (paths : List String) (files : String → Tree)
    (repo : RepoId) (reference : String) :
    (keeping head paths files).Serves repo reference (fun _ => True)
      fun _ path file => file = files reference path where
  keeps := ⟨fun _ h => h, fun _ _ h => h, fun _ _ h => h, fun _ _ _ h => h, fun _ _ _ h => h⟩
  stays _ _ := ⟨fun _ h => h, fun _ _ h => h, fun _ _ h => h, fun _ _ _ h => h, fun _ _ _ h => h⟩
  fetch path _ := by
    cases hfile : files reference path <;> simp [keeping, hfile]
  contentId path _ := by
    cases hfile : files reference path <;> simp [keeping, hfile, RemoteError.isNotFound]

/-- A file that has another content in each commit. -/
def editions (reference : String) : Tree := fun path =>
  if path = "a.py" then some ⟨"A = " ++ reference ++ "\n", reference⟩ else none

/-- A coordinator whose host has the editions of the file. -/
def editionSetup : Setup Unit :=
  { service := Remote.keeping "cccc" ["a.py"] editions }

def editionArchive : Archive Unit where
  repo := widgets
  number := 1
  files := editions
  has _ _ := True

/-- A world where the repository is stored and nothing of its files. -/
def shelved : World Unit :=
  { store := (({} : Store).insertRepo widgets {}).2, host := (), now := ⟨1700000000000⟩ }

def edition (revision : String) : ChangeSet :=
  { changed := ["a.py"], revision := some revision }

def editionEvent (revision : String) : PushEvent :=
  { repository := "octo/widgets"
    reference := some "refs/heads/main"
    after := some revision
    commits := [{ modified := ["a.py"] }] }

theorem editionArchive_served : editionArchive.Served editionSetup.service where
  serves repo _ reference := Remote.serves_keeping _ _ _ repo reference
  distinct := by
    have hgenuine {f : Remote.File} (hf : editionArchive.Genuine f) :
        f = ⟨"A = " ++ f.sha ++ "\n", f.sha⟩ := by
      obtain ⟨r, p, hf⟩ := hf
      replace hf : editions r p = some f := hf
      unfold editions at hf
      split at hf
      · cases hf
        rfl
      · cases hf
    intro f g hf hg hsha
    rw [hgenuine hf, hgenuine hg, hsha]

theorem shelved_fit : editionArchive.Fit editionSetup.source shelved.store where
  wellFormed := wellFormed_empty.insertRepo widgets {}
  named := ⟨⟨⟨1, "octo", "widgets", none, none, none, none⟩, []⟩, rfl, rfl⟩
  leases := List.nodup_nil
  traced p f hf := by
    have hnone : shelved.store.file? 1 p = none := Store.file?_insertRepo {} widgets {} 1 p
    cases hnone.symm.trans hf

theorem shelved_free (n : Nat) :
    ¬ editionArchive.Held shelved (holderName editionSetup.label n) := by
  rintro ⟨l, hl, -⟩
  cases hl

namespace Desk

/-- What the push of an edition comes to that nobody disturbs. -/
@[irreducible] def editionRun (revision : String) (n : Nat) (w : World Unit) :
    Script Unit (List Exit) × World Unit :=
  (Script.serve editionSetup)^[n] (Script.job editionSetup (.push widgets (edition revision)), w)

/-- The push of an edition completes, and no lease runs out meanwhile. -/
def Completes (revision : String) (w : World Unit) : Prop :=
  (editionRun revision 14 w).1.answer?.any isCompleted = true ∧
    ∀ n ≤ 14, (editionRun revision n w).2.lasting = true

theorem Completes.lasting {revision : String} {w : World Unit} (h : Completes revision w) :
    w.lasting = true := by
  have hstart := h.2 0 (Nat.zero_le _)
  unfold editionRun at hstart
  exact hstart

theorem inOrder_edition {x : Desk Unit} {revision : String} (h : Completes revision x.world)
    (before after : List (Ticket × Script Unit (List Exit))) {t : Ticket}
    (hjob : t.job = .push widgets (edition revision))
    (hrunning : x.running = before ++ (t, Script.job editionSetup t.job) :: after) :
    ∃ exits, isCompleted exits = true ∧ editionArchive.InOrder editionSetup x { x with
      world := (editionRun revision 14 x.world).2
      running := before ++ after
      ended := x.ended ++ [(t, exits)] } := by
  obtain ⟨hany, hlasting⟩ := h
  have hlast := hlasting 14 (Nat.le_refl _)
  rw [hjob] at hrunning
  rcases hserve : editionRun revision 14 x.world with ⟨s, w⟩
  rw [hserve] at hany hlast
  unfold editionRun at hlasting hserve
  obtain ⟨exits, hanswer, hcompleted⟩ := (Option.any_eq_true _ _).mp hany
  obtain rfl : s = .ended exits := Script.eq_ended_of_answer? hanswer
  have hrun := inOrder_serve (a := editionArchive) hrunning hlasting hserve
  exact ⟨exits, hcompleted, hrun.tail ⟨.finish before after t exits rfl,
    editionArchive.firm_of_lasting editionSetup hlast⟩⟩

theorem edition_accepted {revision : String} (h : revision ∈ ["cc", "ccc"]) :
    Queue.triggerPush editionSetup (editionEvent revision) {} =
      .ok (.accepted widgets.fullName, ⟨[.push widgets (edition revision)], [], []⟩) := by
  have hrepo : ∀ r ∈ ["cc", "ccc"], (editionEvent r).repoId = .ok widgets := by decide +kernel
  have hbranch : ∀ r ∈ ["cc", "ccc"], (editionEvent r).targetsBranch "main" = true := by
    decide +kernel
  have hchanges : ∀ r ∈ ["cc", "ccc"], (editionEvent r).changeSet = edition r := by
    decide +kernel
  replace hbranch : (editionEvent revision).targetsBranch editionSetup.options.branch = true :=
    hbranch revision h
  unfold Queue.triggerPush
  rw [hrepo revision h]
  simp only [hbranch, hchanges revision h]
  rfl

theorem inOrder_accept {x : Desk Unit} (hlasting : x.world.lasting = true) {revision : String}
    (h : revision ∈ ["cc", "ccc"]) : editionArchive.InOrder editionSetup x
      (x.accept [.push widgets (edition revision)] x.world) :=
  .single ⟨.push (editionEvent revision) _ _ (edition_accepted h) fun _ => trivial,
    editionArchive.firm_of_lasting editionSetup hlasting⟩

theorem inOrder_start {x : Desk Unit} (hlasting : x.world.lasting = true) {t : Ticket}
    {inbox : List Ticket} (hinbox : x.inbox = t :: inbox) :
    editionArchive.InOrder editionSetup x
      { x with inbox, running := x.running ++ [(t, Script.job editionSetup t.job)] } :=
  .single ⟨.start t inbox hinbox, editionArchive.firm_of_lasting editionSetup hlasting⟩

theorem appliedPush_edition {exits : List Exit} (h : isCompleted exits = true) (revision : String)
    (clock : Nat) :
    appliedPush widgets.fullName (⟨.push widgets (edition revision), clock⟩, exits) =
      some (edition revision) := by
  unfold appliedPush
  rw [if_pos h]
  exact pushOf_push rfl _

theorem inOrder_push {x : Desk Unit} (hinbox : x.inbox = []) (hrunning : x.running = [])
    {revision : String} (h : revision ∈ ["cc", "ccc"]) (hcompletes : Completes revision x.world) :
    ∃ y : Desk Unit, editionArchive.InOrder editionSetup x y ∧ y.inbox = [] ∧ y.running = [] ∧
      y.world = (editionRun revision 14 x.world).2 ∧
      y.applied widgets.fullName = x.applied widgets.fullName ++ [edition revision] ∧
      y.pushed widgets.fullName = x.pushed widgets.fullName ++ [edition revision] := by
  obtain ⟨world, inbox, running, ended, accepted⟩ := x
  obtain ⟨⟩ : inbox = [] := hinbox
  obtain ⟨⟩ : running = [] := hrunning
  let t : Ticket := ⟨.push widgets (edition revision), world.clock⟩
  have hlasting : world.lasting = true := hcompletes.lasting
  have haccept := inOrder_accept (x := ⟨world, [], [], ended, accepted⟩) hlasting h
  have hstart := haccept.trans (inOrder_start hlasting rfl)
  obtain ⟨exits, hexits, hrun⟩ := inOrder_edition
    (x := ⟨world, [], [(t, Script.job editionSetup t.job)], ended, accepted ++ [t]⟩) hcompletes
    [] [] rfl rfl
  refine ⟨_, hstart.trans hrun, rfl, rfl, rfl, ?_, ?_⟩
  · exact List.filterMap_append.trans (congrArg _
      (List.filterMap_cons_some (appliedPush_edition hexits revision _)))
  · exact List.filterMap_append.trans (congrArg _ (List.filterMap_cons_some (pushOf_push rfl _)))

/-- The pushes of two editions complete, one after the other. -/
theorem completes_in_turn :
    Completes "cc" shelved ∧ Completes "ccc" (editionRun "cc" 14 shelved).2 :=
  ⟨⟨by decide +kernel, by decide +kernel⟩, ⟨by decide +kernel, by decide +kernel⟩⟩

/-- They complete in the other order too, and the store then has what the older edition says. -/
theorem completes_overtaken :
    Completes "ccc" shelved ∧ Completes "cc" (editionRun "ccc" 14 shelved).2 ∧
    (editionRun "cc" 14 (editionRun "ccc" 14 shelved).2).2.store.marker widgets = some "cc" ∧
    ((editionRun "cc" 14 (editionRun "ccc" 14 shelved).2).2.store.rowAt widgets "a.py").map
      FileRow.content = some "A = cc\n" :=
  ⟨⟨by decide +kernel, by decide +kernel⟩, ⟨by decide +kernel, by decide +kernel⟩,
    by decide +kernel, by decide +kernel⟩

/-- The pushes of two editions, the second of which is accepted when the first is over. -/
theorem pushes_serialized_in_turn : ∃ x y : Desk Unit,
    editionArchive.InOrder editionSetup (fresh shelved) x ∧
    editionArchive.InOrder editionSetup x y ∧
    x.pushed widgets.fullName = [edition "cc"] ∧
    x.applied widgets.fullName = [edition "cc"] ∧
    y.applied widgets.fullName = [edition "cc", edition "ccc"] ∧
    y.world.store.marker widgets = some "ccc" ∧
    (y.world.store.rowAt widgets "a.py").map FileRow.core =
      (editions "ccc" "a.py").map (editionSetup.source.rowOf "a.py") := by
  obtain ⟨x, hx, hinbox, hrunning, hworld, happlied, hpushed⟩ :=
    inOrder_push (x := fresh shelved) rfl rfl (by decide) completes_in_turn.1
  obtain ⟨y, hy, -, hover, -, happlied', -⟩ :=
    inOrder_push hinbox hrunning (by decide) (hworld ▸ completes_in_turn.2)
  rw [happlied] at happlied'
  obtain ⟨first, second, hbefore, haccepted, hdone, -, hlast⟩ :=
    pushes_serialized editionArchive_served shelved_fit shelved_free hx hy
      (hover ▸ fun _ => nofun)
  -- The first push was over before the second one came.
  obtain rfl : first = [edition "cc"] :=
    List.perm_singleton.mp ((hpushed ▸ haccepted).antisymm (happlied ▸ hbefore))
  obtain rfl : second = [edition "ccc"] :=
    List.perm_singleton.mp (List.Perm.cons_inv (happlied' ▸ hdone))
  obtain ⟨hmarker, hrows, -⟩ := hlast (edition "ccc") rfl
  exact ⟨x, y, hx, hy, hpushed, happlied, happlied', hmarker _ rfl,
    hrows "a.py" (by decide) (by decide +kernel)⟩

/-- Two pushes are accepted and start, and the second one gets the lease first. -/
theorem push_overtaken : ∃ y : Desk Unit,
    editionArchive.InOrder editionSetup (fresh shelved) y ∧
    y.pushed widgets.fullName = [edition "cc", edition "ccc"] ∧ y.inbox = [] ∧ y.running = [] ∧
    y.applied widgets.fullName = [edition "ccc", edition "cc"] ∧
    y.world.store.marker widgets = some "cc" ∧
    (y.world.store.rowAt widgets "a.py").map FileRow.content = some "A = cc\n" := by
  obtain ⟨hsecond, hfirst, hmarker, hrow⟩ := completes_overtaken
  have hlasting : shelved.lasting = true := rfl
  let t : Ticket := ⟨.push widgets (edition "cc"), 0⟩
  let t' : Ticket := ⟨.push widgets (edition "ccc"), 0⟩
  let s := Script.job editionSetup t.job
  let s' := Script.job editionSetup t'.job
  have haccept : editionArchive.InOrder editionSetup (fresh shelved)
      ⟨shelved, [t], [], [], [t]⟩ := inOrder_accept hlasting (by decide)
  have haccept' : editionArchive.InOrder editionSetup ⟨shelved, [t], [], [], [t]⟩
      ⟨shelved, [t, t'], [], [], [t, t']⟩ := inOrder_accept hlasting (by decide)
  have hstart : editionArchive.InOrder editionSetup ⟨shelved, [t, t'], [], [], [t, t']⟩
      ⟨shelved, [t'], [(t, s)], [], [t, t']⟩ := inOrder_start hlasting rfl
  have hstart' : editionArchive.InOrder editionSetup ⟨shelved, [t'], [(t, s)], [], [t, t']⟩
      ⟨shelved, [], [(t, s), (t', s')], [], [t, t']⟩ := inOrder_start hlasting rfl
  obtain ⟨exits', hexits', hrun'⟩ := inOrder_edition
    (x := ⟨shelved, [], [(t, s), (t', s')], [], [t, t']⟩) hsecond [(t, s)] [] rfl rfl
  obtain ⟨exits, hexits, hrun⟩ := inOrder_edition
    (x := ⟨(editionRun "ccc" 14 shelved).2, [], [(t, s)], [(t', exits')], [t, t']⟩) hfirst
    [] [] rfl rfl
  have hsteps := (((haccept.trans haccept').trans hstart).trans hstart').trans (hrun'.trans hrun)
  refine ⟨_, hsteps, ?_, rfl, rfl, ?_, hmarker, hrow⟩
  · show [t, t'].filterMap (fun t => t.job.pushOf widgets.fullName) = _
    rfl
  · exact (List.filterMap_cons_some (appliedPush_edition hexits' "ccc" 0)).trans
      (congrArg _ (List.filterMap_cons_some (appliedPush_edition hexits "cc" 0)))

/-- Two pushes are over, and a full sync comes to the next commit. -/
theorem pushes_overwritten : ∃ z : Desk Unit, (fresh shelved).Steps editionSetup z ∧
    z.pushed widgets.fullName = [edition "cc", edition "ccc"] ∧ z.inbox = [] ∧ z.running = [] ∧
    z.applied widgets.fullName = [edition "cc", edition "ccc"] ∧
    z.world.store.marker widgets = some "cccc" := by
  obtain ⟨x, hx, hinbox, hrunning, hworld, happlied, hpushed⟩ :=
    inOrder_push (x := fresh shelved) rfl rfl (by decide) completes_in_turn.1
  obtain ⟨y, hy, hinbox', hrunning', hworld', happlied', hpushed'⟩ :=
    inOrder_push hinbox hrunning (by decide) (hworld ▸ completes_in_turn.2)
  rw [hworld] at hworld'
  rw [happlied] at happlied'
  rw [hpushed] at hpushed'
  have hidle : (y.world.status.get widgets.fullName).isActive = false := by
    rw [hworld']
    decide +kernel
  obtain ⟨exit, -, hfull⟩ := steps_full widgets false hinbox' hrunning' hidle
  refine ⟨_, (hx.steps.trans hy.steps).trans hfull, ?_, hinbox', hrunning', ?_, ?_⟩
  · exact List.filterMap_append.trans ((List.append_nil _).trans hpushed')
  · refine List.filterMap_append.trans ((congrArg _ (List.filterMap_cons_none ?_)).trans
      ((List.append_nil _).trans happlied'))
    exact ite_self none
  · simp only [hworld']
    decide +kernel

/-- Pushes whose jobs overlap take effect in the order in which they get the lease, so the one that
was accepted first may have the last word.  A full sync that comes after both has it in any case. -/
theorem pushes_reordered :
    (∃ y : Desk Unit, editionArchive.InOrder editionSetup (fresh shelved) y ∧
      y.pushed widgets.fullName = [edition "cc", edition "ccc"] ∧
      y.inbox = [] ∧ y.running = [] ∧
      y.applied widgets.fullName = [edition "ccc", edition "cc"] ∧
      y.world.store.marker widgets = some "cc" ∧
      (y.world.store.rowAt widgets "a.py").map FileRow.content = some "A = cc\n" ∧
      (editions "ccc" "a.py").map Remote.File.content = some "A = ccc\n") ∧
    ∃ z : Desk Unit, (fresh shelved).Steps editionSetup z ∧
      z.pushed widgets.fullName = [edition "cc", edition "ccc"] ∧
      z.inbox = [] ∧ z.running = [] ∧
      z.applied widgets.fullName = [edition "cc", edition "ccc"] ∧
      z.world.store.marker widgets = some "cccc" := by
  obtain ⟨y, hy, hpushed, hinbox, hrunning, happlied, hmarker, hrow⟩ := push_overtaken
  exact ⟨⟨y, hy, hpushed, hinbox, hrunning, happlied, hmarker, hrow, rfl⟩,
    pushes_overwritten⟩

end Desk

end ContextIndex.Sync
