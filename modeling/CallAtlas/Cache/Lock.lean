/-!
# Fair locks

A fair lock, as it is held for the duration of a load (`ProjectSlot::load`), is owned in the order
in which it was asked for. A call that gives the lock back, or is dropped while it owns it, hands it
over to the first call that waits, which owns it at once; a call that is dropped while it waits
leaves the line.
-/

namespace CallAtlas

/-- The name of a call. -/
abbrev CallId := String

/-- A lock: the call that owns it, and the calls that wait for it in their order. -/
structure FairLock where
  owner : Option CallId := none
  waiters : List CallId := []
  deriving DecidableEq, Repr

namespace FairLock

/-- Asks for the lock: a free lock is owned at once, any other is waited for behind all others. -/
def request (lock : FairLock) (id : CallId) : FairLock :=
  match lock.owner with
  | none => { lock with owner := some id }
  | some _ => { lock with waiters := lock.waiters ++ [id] }

/-- Gives the lock back, or stops waiting for it. -/
def leave (lock : FairLock) (id : CallId) : FairLock :=
  if lock.owner = some id then ⟨lock.waiters.head?, lock.waiters.tail⟩
  else { lock with waiters := lock.waiters.filter fun waiter => waiter ≠ id }

end FairLock

end CallAtlas
