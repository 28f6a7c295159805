import ContextIndex.Store.Basic

/-!
# Leases

A lease on a repository keeps other syncs away until it is released or expires.  It is taken if the
repository has none or an expired one, whoever holds it, so a holder cannot take its own lease
again.  Renewing and releasing ask only for the holder.  Expiry is compared on the stored texts,
which are in the order of time for years from 0 to 9999.
-/

namespace ContextIndex

/-- Whether a lease has expired. -/
def Lease.isExpired (l : Lease) (now : Instant) : Bool :=
  decide (l.expiresAt.millis ≤ now.millis)

/-- Whether a stored lease gives way to one taken at `now`. -/
def Lease.givesWay (l : Lease) (now : Instant) : Bool :=
  decide (l.expiresAt.stamp ≤ now.stamp)

namespace Store

/-- The stored lease of a repository. -/
def lease? (s : Store) (key : String) : Option Lease :=
  s.leases.find? fun l => l.key == key

/-- Takes the lease of a repository, and says whether that worked. -/
def acquireLease (s : Store) (key holder : String) (now expiresAt : Instant) : Bool × Store :=
  match s.lease? key with
  | none => (true, { s with leases := s.leases ++ [⟨key, holder, now, expiresAt⟩] })
  | some l =>
    if l.givesWay now then
      (true, { s with
        leases := s.leases.map fun m => if m.key = key then ⟨key, holder, now, expiresAt⟩ else m })
    else (false, s)

/-- Moves the end of a lease, and says whether the holder still has it. -/
def renewLease (s : Store) (key holder : String) (expiresAt : Instant) : Bool × Store :=
  let held (l : Lease) : Bool := l.key == key && l.holder == holder
  (s.leases.any held,
    { s with leases := s.leases.map fun l => if held l then { l with expiresAt } else l })

/-- Gives a lease up, if the holder still has it. -/
def releaseLease (s : Store) (key holder : String) : Store :=
  { s with leases := s.leases.filter fun l => !(l.key == key && l.holder == holder) }

/-- The lease of a repository, expired or not, unless one of its times cannot be read. -/
def getLease (s : Store) (key : String) : Except Error (Option Lease) :=
  match s.lease? key with
  | none => .ok none
  | some l =>
    if !l.acquiredAt.isReadable then .error (.storage (.unreadableTime 2))
    else if !l.expiresAt.isReadable then .error (.storage (.unreadableTime 3))
    else .ok (some l)

end Store

end ContextIndex
