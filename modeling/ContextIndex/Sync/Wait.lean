/-!
# Waiting with backoff

Whoever waits for a lease asks for it again and again.  The pauses double, from fifty milliseconds
up to two seconds, and the last one is cut so that the last attempt falls on the deadline.  Every
pause moves on, so a wait ends.
-/

namespace ContextIndex.Sync

/-- The first pause, in milliseconds. -/
def minPause : Nat := 50

/-- The longest pause, in milliseconds. -/
def maxPause : Nat := 2000

/-- A wait under way: when it has to end and how long the next pause is. -/
structure Wait where
  /-- When the last attempt is made. -/
  deadline : Nat
  /-- The next pause. -/
  pause : Nat := minPause
  /-- There is a pause. -/
  pause_pos : 0 < pause := by decide

namespace Wait

/-- A wait that starts now. -/
def start (now limit : Nat) : Wait :=
  { deadline := now + limit }

/-- The wait after a pause. -/
def grow (w : Wait) : Wait :=
  { deadline := w.deadline
    pause := min (2 * w.pause) maxPause
    pause_pos := Nat.lt_min.2 ⟨Nat.mul_pos (by decide) w.pause_pos, by decide⟩ }

/-- The time of the next attempt after one at `now` has failed, unless the deadline has come. -/
def next? (w : Wait) (now : Nat) : Option Nat :=
  if now < w.deadline then some (now + min w.pause (w.deadline - now)) else none

/-- The next attempt is later, and not after the deadline. -/
theorem lt_of_next? {w : Wait} {now t : Nat} (h : w.next? now = some t) :
    now < t ∧ t ≤ w.deadline := by
  have pos := w.pause_pos
  unfold next? at h
  split at h
  · injection h with h
    omega
  · cases h

/-- No attempt follows if the deadline has come. -/
theorem deadline_le_of_next? {w : Wait} {now : Nat} (h : w.next? now = none) :
    w.deadline ≤ now := by
  unfold next? at h
  split at h
  · cases h
  · next hlt => exact Nat.le_of_not_lt hlt

/-- The times of the attempts of a wait, given that all fail. -/
def attempts (w : Wait) (now : Nat) : List Nat :=
  match _next : w.next? now with
  | none => [now]
  | some t => now :: attempts w.grow t
termination_by w.deadline - now
decreasing_by
  have := lt_of_next? _next
  simp only [grow]
  omega

end Wait

end ContextIndex.Sync
