import VideoCapture.Queue.Chain

/-!
# Interrupts and stalls

The chip reports completed programs and faults by interrupt. A completion retires the head of the
chain, unless the engine is still inside its program; if the engine has reached the stopper, what
waits is started. A fault stops the engine for good, until capture is resumed. A chain that
completes nothing until its deadline is given up, and what waits is started.

## Main definitions

* `VideoCapture.Channel.handleStatus` — acts on interrupt status.
* `VideoCapture.Channel.interrupt` — serves an interrupt until nothing is pending.
* `VideoCapture.Channel.checkTimeout` — recovers from a stall.
-/

set_option autoImplicit false

namespace VideoCapture.Channel

variable {δ : Type}

/-- Stops the engine because of a fault, gives the chain up and keeps the fault for reporting,
unless too many are kept already. -/
def failStop (c : Channel δ) (fault : UInt32) : Except Fault (Channel δ) := do
  let c := c.stopEngine
  let q ← { c.toCaptureQueue with deadline := none, fault := some fault }.failActive
  let backlog :=
    if q.backlog.length < CaptureQueue.backlogSize then q.backlog ++ [fault] else q.backlog
  return { c with
    toCaptureQueue := { q with stats.faults := q.stats.faults + 1, backlog } }

/-- Parks: the engine has reached the stopper, and is started again if anything waits. -/
def park (c : Channel δ) (now : Int) : Except Fault (Channel δ) := do
  let c := c.stopEngine
  let c := { c with deadline := none, stats.stopperHits := c.stats.stopperHits + 1 }
  if c.active.isEmpty && c.queued.isEmpty then return c
  c.restart now

/-- Whether the engine, fetching from `pointer`, is still inside the program of the chain's head. -/
def headRuns (c : Channel δ) (pointer : UInt32) : Except Fault Bool := do
  match c.active with
  | [] => return false
  | head :: _ => return (← c.scheduled head).program.contains pointer

/-- Acts on a program's interrupt. -/
def handleCompletion (c : Channel δ) (now : Int) : Except Fault (Channel δ) := do
  let pointer := c.regs.read32 Register.programPointer
  if ← c.headRuns pointer then return c
  let q ← c.completeHead now
  let c := { c with toCaptureQueue := q }
  if c.stopper.contains pointer then c.park now else return c

/-- Acts on the video bits of interrupt status, and answers whether there are any. They are all
acknowledged; while capture is off nothing else happens. -/
def handleStatus (c : Channel δ) (now : Int) (status : UInt32) :
    Except Fault (Bool × Channel δ) := do
  let status := status &&& Status.video
  if status = 0 then return (false, c)
  let c := { c with regs := c.regs.write32 Register.interruptStatus Status.video }
  if !c.streaming then return (true, c)
  let fault := status &&& Status.faults
  if fault ≠ 0 then return (true, ← c.failStop fault)
  return (true, ← c.handleCompletion now)

/-- Serves an interrupt: acts on the enabled bits of the status that `sense` reads, again and again
until none is left, and answers whether any were the queue's. When `passes` looks at the status have
not been enough, every interrupt source is masked. -/
def interrupt (sense : Channel δ → UInt32) (now : Int) (handled : Bool) :
    (passes : Nat) → Channel δ → Except Fault (Bool × Channel δ)
  | 0, c => return (handled, c.maskAll)
  | passes + 1, c => do
    let pending := sense c &&& c.engine.mask
    if pending = 0 then return (handled, c)
    let (mine, c) ← c.handleStatus now pending
    interrupt sense now (handled || mine) passes c

/-- Reports every fault kept for reporting, and answers how many there were. -/
def service (c : Channel δ) : Nat × Channel δ :=
  (c.backlog.length, { c with backlog := [] })

/-- Recovers from a stall if the deadline has passed at time `now`, and answers whether it did. -/
def checkTimeout (c : Channel δ) (now : Int) : Except Fault (Bool × Channel δ) := do
  match c.deadline with
  | none => return (false, c)
  | some deadline =>
    if now < deadline then return (false, c)
    let c := { c with deadline := none }
    if c.active.isEmpty then return (false, c)
    let c := c.stopEngine
    let q ← c.failActive
    let q := { q with stats.timeouts := q.stats.timeouts + 1 }
    return (true, ← restart { c with toCaptureQueue := q } now)

end VideoCapture.Channel
