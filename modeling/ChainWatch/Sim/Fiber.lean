/-!
# Cooperative fibers over virtual time

A `Fiber σ α` is a program that works on a world of type `σ` and ends with a value of type `α`.
It reads the world, changes it, or blocks until a condition on the world holds (`Wait`). Between
two blocks a fiber runs alone, so each stretch of reads and updates is atomic. Time is part of
the world (`VirtualClock`): it stands still while some fiber can go on, and jumps to the earliest
timer when all are blocked (`Fiber.run`). The clock counts two ticks a millisecond: the timers
of the fibers fire on the even tick, and events from outside them, such as a cancellation, land
on the odd tick after it, so that they come after everything the fibers do at that millisecond.

Fibers are combined without threads:

* `Fiber.firstDone p q` runs `p` and `q` side by side until one of them ends, and gives back the
  value of that one with what is left of the other. When both can go on, `p` goes first.
* `Fiber.race` drops the one that did not end; dropping a blocked fiber gives back what it holds
  (`Wait.release`). `Fiber.both` waits for the other one; `Fiber.all` runs a list side by side,
  earlier ones first; `bothOrFail` waits for both values, but the first failure ends both.
* `Fiber.releasing` makes a fiber give something back when it ends or is dropped, which is how a
  lock is held; `FairLock` is a lock handed to its waiters in the order they came.
-/

namespace ChainWatch

/-- How a world tells and sets the virtual time, in ticks: millisecond `t` is ticks `2 * t`, for
the timers of the fibers, and `2 * t + 1`, for events from outside them. -/
class VirtualClock (σ : Type) where
  now : σ → Nat
  setNow : σ → Nat → σ

/-- What a blocked fiber waits for. -/
structure Wait (σ : Type) where
  /-- Whether the fiber can go on in this world. -/
  ready : σ → Bool
  /-- The tick at which a timer makes it ready, if one does. -/
  timer : Option Nat
  /-- What the world gets back when the fiber is dropped while it waits. -/
  release : σ → σ

/-- A cooperative program over a world `σ` that ends with a value of type `α`. -/
inductive Fiber (σ α : Type) where
  | done (a : α)
  /-- Reads the world and goes on with what it read. -/
  | read (k : σ → Fiber σ α)
  /-- Changes the world. -/
  | update (f : σ → σ) (next : Fiber σ α)
  /-- Blocks until the wait is over. -/
  | block (wait : Wait σ) (next : Fiber σ α)

/-- The end of a race of two fibers: the value of the one that ended, and the other as it stands. -/
inductive Finish (σ α β : Type) where
  | left (a : α) (rest : Fiber σ β)
  | right (rest : Fiber σ α) (b : β)

namespace Wait

/-- A wait that never ends and holds nothing. -/
def never : Wait σ := { ready := fun _ => false, timer := none, release := id }

/-- The earlier of two optional instants. -/
def earlier : Option Nat → Option Nat → Option Nat
  | some s, some t => some (min s t)
  | some s, none => some s
  | none, t => t

/-- Two waits as one: over when either is, woken by the earlier timer, and giving back what
both hold. -/
def either (a b : Wait σ) : Wait σ where
  ready w := a.ready w || b.ready w
  timer := earlier a.timer b.timer
  release w := b.release (a.release w)

end Wait

namespace Fiber

/-- Runs `f` on the value a fiber ends with. -/
def bind : Fiber σ α → (α → Fiber σ β) → Fiber σ β
  | done a, f => f a
  | read k, f => read fun w => bind (k w) f
  | update g n, f => update g (bind n f)
  | block wt n, f => block wt (bind n f)

instance : Monad (Fiber σ) where
  pure := done
  bind := bind

/-- The current world. -/
def world : Fiber σ σ := read done

/-- Changes the world. -/
def modify (f : σ → σ) : Fiber σ Unit := update f (done ())

/-- A fiber that never ends. -/
def hang [Inhabited α] : Fiber σ α := block Wait.never (done default)

/-- What dropping a fiber gives back: what it holds while blocked, nothing if it has not run. -/
def dropped : Fiber σ α → σ → σ
  | block wt _ => wt.release
  | _ => id

/-! ### Side by side -/

/-- Runs `q` beside a fiber `p` blocked on `wt` with rest `n`; `resume` goes on with `p`'s rest
beside what `q` has become. -/
def besideBlocked (wt : Wait σ) (n : Fiber σ α) (resume : Fiber σ β → Fiber σ (Finish σ α β)) :
    Fiber σ β → Fiber σ (Finish σ α β)
  | done b => done (.right (block wt n) b)
  | read k => read fun w => besideBlocked wt n resume (k w)
  | update f m => update f (besideBlocked wt n resume m)
  | block wt2 m => block (wt.either wt2) (read fun w =>
      if wt.ready w then resume (block wt2 m) else besideBlocked wt n resume m)

/-- Runs two fibers side by side until one ends; when both can go on, the first goes first. -/
def firstDone : Fiber σ α → Fiber σ β → Fiber σ (Finish σ α β)
  | done a, q => done (.left a q)
  | read k, q => read fun w => firstDone (k w) q
  | update f n, q => update f (firstDone n q)
  | block wt n, q => besideBlocked wt n (fun q' => firstDone n q') q

/-- The value of whichever fiber ends first, the other dropped; the first wins a tie. -/
def race (p : Fiber σ α) (q : Fiber σ β) : Fiber σ (α ⊕ β) :=
  bind (firstDone p q) fun
    | .left a rest => update rest.dropped (done (.inl a))
    | .right rest b => update rest.dropped (done (.inr b))

/-- The values of both fibers, run side by side. -/
def both (p : Fiber σ α) (q : Fiber σ β) : Fiber σ (α × β) :=
  bind (firstDone p q) fun
    | .left a rest => bind rest fun b => done (a, b)
    | .right rest b => bind rest fun a => done (a, b)

/-- The values of fibers run side by side, earlier ones going first. -/
def all : List (Fiber σ α) → Fiber σ (List α)
  | [] => done []
  | p :: ps => bind (both p (all ps)) fun (a, as) => done (a :: as)

/-- Makes a fiber give back `rel` when it ends or is dropped. -/
def releasing (rel : σ → σ) : Fiber σ α → Fiber σ α
  | done a => update rel (done a)
  | read k => read fun w => releasing rel (k w)
  | update f n => update f (releasing rel n)
  | block wt n => block { wt with release := fun w => rel (wt.release w) } (releasing rel n)

/-- How many rounds a loop of a run may take; far more than any loop makes within the time a
run allows. -/
def rounds : Nat := Nat.pow 2 40

/-- Repeats `body` from `init` until it gives a final value, at most `fuel` times. -/
def loop [Inhabited α] (fuel : Nat) (body : β → Fiber σ (β ⊕ α)) (init : β) : Fiber σ α :=
  match fuel with
  | 0 => hang
  | n + 1 => bind (body init) fun
    | .inl b => loop n body b
    | .inr a => done a

/-! ### Time -/

variable [VirtualClock σ]

/-- Blocks until tick `n`. -/
def waitUntilTick (n : Nat) : Fiber σ Unit :=
  read fun w => if n ≤ VirtualClock.now w then done ()
    else block { ready := fun w => n ≤ VirtualClock.now w, timer := some n, release := id } (done ())

/-- Blocks until the millisecond `t`. -/
def waitUntil (t : Nat) : Fiber σ Unit := waitUntilTick (2 * t)

/-- Blocks until an event from outside the fibers at millisecond `t` has landed. -/
def waitEvent (t : Nat) : Fiber σ Unit := waitUntilTick (2 * t + 1)

/-- The current millisecond. -/
def now : Fiber σ Nat := read fun w => done (VirtualClock.now w / 2)

/-- Waits `ms` milliseconds; no time at all for zero. -/
def sleep (ms : Nat) : Fiber σ Unit :=
  if ms = 0 then done () else bind now fun t => waitUntil (t + ms)

/-- Runs a fiber with `fuel` steps: the world after it, and its value unless it blocked for
ever or ran out of steps. Time jumps to the timer of a blocked fiber. -/
def run : Nat → σ → Fiber σ α → σ × Option α
  | 0, w, _ => (w, none)
  | _ + 1, w, done a => (w, some a)
  | n + 1, w, read k => run n w (k w)
  | n + 1, w, update f m => run n (f w) m
  | n + 1, w, block wt m =>
    if wt.ready w then run n w m
    else match wt.timer with
      | some t => if VirtualClock.now w < t then run n (VirtualClock.setNow w t) (block wt m) else (w, none)
      | none => (w, none)

end Fiber

/-- Runs both fibers side by side, the first going first; the first failure ends both. -/
def bothOrFail (p : Fiber σ (Except ε α)) (q : Fiber σ (Except ε β)) : Fiber σ (Except ε (α × β)) :=
  Fiber.bind (Fiber.firstDone p q) fun
    | .left (.error e) rest => .update rest.dropped (.done (.error e))
    | .left (.ok a) rest => Fiber.bind rest fun
      | .ok b => .done (.ok (a, b))
      | .error e => .done (.error e)
    | .right rest (.error e) => .update rest.dropped (.done (.error e))
    | .right rest (.ok b) => Fiber.bind rest fun
      | .ok a => .done (.ok (a, b))
      | .error e => .done (.error e)

/-- A lock handed over in the order the waiters came: who holds it and who waits, by ticket. -/
structure FairLock where
  holder : Option Nat := none
  queue : List Nat := []
  deriving DecidableEq, Inhabited

namespace FairLock

/-- Takes the lock for `ticket` if it is free and nobody waits, else queues the ticket. -/
def request (l : FairLock) (ticket : Nat) : FairLock :=
  if l.holder.isNone && l.queue.isEmpty then { holder := some ticket, queue := [] }
  else { l with queue := l.queue ++ [ticket] }

/-- Gives the lock up for `ticket`: its holder hands it to the first waiter, a waiter leaves
the queue. -/
def giveUp (l : FairLock) (ticket : Nat) : FairLock :=
  if l.holder = some ticket then { holder := l.queue.head?, queue := l.queue.tail }
  else { l with queue := l.queue.erase ticket }

/-- Whether `ticket` holds the lock. -/
def heldBy (l : FairLock) (ticket : Nat) : Bool := l.holder == some ticket

end FairLock

namespace Fiber

/-- Runs `body` holding the lock that `get` and `set` reach in the world, for `ticket`: the
fiber queues for the lock, and gives it up when `body` ends or when it is dropped, also while
it still waits. -/
def holding (get : σ → FairLock) (set : σ → FairLock → σ) (ticket : Nat) (body : Fiber σ α) :
    Fiber σ α :=
  let giveUp := fun w => set w ((get w).giveUp ticket)
  update (fun w => set w ((get w).request ticket))
    (block { ready := fun w => (get w).heldBy ticket, timer := none, release := giveUp }
      (releasing giveUp body))

end Fiber

end ChainWatch
