/-
The frames between the host and a managed worker
(`omp-loop-kernel/src/worker-client.ts`, `runtime/worker.ts`).

The host handles the frames of the worker one after the other, while it counts
the bytes of the frames that have come in and are not handled yet.  A frame that
the host writes is delivered to the worker at some time, and the callback of the
write runs at some time, in either order.  What follows a callback without
another wait happens with it.

What a handler checks about the contents of a frame is left open: it refuses the
frame or goes on.  Every other end of the worker, such as a time limit or a
closed stream, is a stop.
-/

import AnnaAgent.Foundation.Run
import Mathlib

namespace AnnaAgent.Worker

open Foundation

inductive FrameKind where
  | ready
  | event
  | modelRequest
  | toolRequest
  | terminalProposed
  deriving DecidableEq

/-- A line of the worker, with its newline. -/
structure WorkerFrame where
  kind : FrameKind
  bytes : Nat
  bytes_pos : 0 < bytes

theorem WorkerFrame.same_iff (frame other : WorkerFrame) :
    frame.kind = other.kind ∧ frame.bytes = other.bytes ↔ frame = other := by
  constructor
  · intro same
    cases frame
    cases other
    cases same.1
    cases same.2
    rfl
  · intro same
    rw [same]
    exact ⟨rfl, rfl⟩

instance : DecidableEq WorkerFrame :=
  fun frame other => decidable_of_iff _ (frame.same_iff other)

inductive HostFrame where
  | start
  | receipt
  | modelDelta
  | modelEnd
  | toolsUpdate
  | toolResult
  | steer
  deriving DecidableEq

def HostFrame.answers : HostFrame → Bool
  | .receipt | .modelEnd | .toolResult => true
  | _ => false

/-- The frame that the worker waits for. -/
def FrameKind.answer : FrameKind → HostFrame
  | .modelRequest => .modelEnd
  | .toolRequest => .toolResult
  | _ => .receipt

/-- `pendingOperation` is set while such a frame is handled. -/
def FrameKind.isOperation : FrameKind → Bool
  | .modelRequest | .toolRequest => true
  | _ => false

/-- What goes on when the callback of a write runs. -/
inductive Waiter where
  | start
  | handler
  | steer
  deriving DecidableEq

inductive Phase where
  | working
  /-- A frame before the answer has been written. -/
  | writing
  | answering
  /-- The worker is ready, and a steer that came before has been written. -/
  | flushing
  deriving DecidableEq

structure Handling where
  frame : WorkerFrame
  phase : Phase
  deriving DecidableEq

inductive Failure where
  | terminalWithPendingWork
  | frameQueueExceeded
  | frameRefused
  | stopped
  deriving DecidableEq

def maxFrameBytes : Nat := 1024 * 1024

structure Channel where
  /-- The frames that the worker has sent and that have not been answered to it. -/
  unanswered : Nat
  hasProposed : Bool
  /-- The frames of the worker that the host has not read. -/
  inFlight : List WorkerFrame
  /-- The frames of the host that the worker has not read. -/
  undelivered : List HostFrame
  /-- The writes whose callbacks have not run. -/
  uncalled : List Waiter
  current : Option Handling
  /-- The frames behind the one that is handled. -/
  waiting : List WorkerFrame
  queuedBytes : Nat
  pendingOperation : Bool
  workerReady : Bool
  unsentSteers : Nat
  settled : Bool
  failure : Option Failure
  deriving DecidableEq

/-- The host has written the start frame. -/
def started : Channel :=
  { unanswered := 0
    hasProposed := false
    inFlight := []
    undelivered := [.start]
    uncalled := [.start]
    current := none
    waiting := []
    queuedBytes := 0
    pendingOperation := false
    workerReady := false
    unsentSteers := 0
    settled := false
    failure := none }

namespace Channel

def fail (channel : Channel) (failure : Failure) : Channel :=
  { channel with
    settled := true
    failure := some failure }

def write (channel : Channel) (frame : HostFrame) (waiter : Waiter) : Channel :=
  { channel with
    undelivered := channel.undelivered ++ [frame]
    uncalled := channel.uncalled ++ [waiter] }

def enqueue (channel : Channel) (frame : WorkerFrame) : Channel :=
  match channel.current with
  | none => { channel with current := some { frame, phase := .working } }
  | some _ => { channel with waiting := channel.waiting ++ [frame] }

/-- The frame and the queue with it are within the limits. -/
def fits (channel : Channel) (frame : WorkerFrame) : Bool :=
  decide (frame.bytes ≤ maxFrameBytes)
    && decide (channel.queuedBytes + frame.bytes ≤ 4 * maxFrameBytes)

/-- What is done with a line as soon as it has come in. -/
def arrive (channel : Channel) (frame : WorkerFrame) : Channel :=
  if channel.fits frame = false then channel.fail .frameQueueExceeded
  else if frame.kind = .terminalProposed
      ∧ (channel.pendingOperation = true ∨ frame.bytes < channel.queuedBytes + frame.bytes) then
    channel.fail .terminalWithPendingWork
  else { channel with queuedBytes := channel.queuedBytes + frame.bytes }.enqueue frame

def finish (channel : Channel) (frame : WorkerFrame) : Channel :=
  { channel with
    queuedBytes := channel.queuedBytes - frame.bytes
    pendingOperation := if frame.kind.isOperation then false else channel.pendingOperation
    current := channel.waiting.head?.map (fun next => { frame := next, phase := .working })
    waiting := channel.waiting.tail }

def flush (channel : Channel) (frame : WorkerFrame) : Channel :=
  if channel.unsentSteers = 0 then channel.finish frame
  else
    { channel with
      unsentSteers := channel.unsentSteers - 1
      current := some { frame, phase := .flushing } }.write .steer .handler

def resume (channel : Channel) (handling : Handling) : Channel :=
  match handling.phase with
  | .working => channel
  | .writing =>
    { channel with current := some { frame := handling.frame, phase := .working } }
  | .answering =>
    if handling.frame.kind = .ready then
      { channel with workerReady := true }.flush handling.frame
    else channel.finish handling.frame
  | .flushing => channel.flush handling.frame

/-- The callback of the oldest write runs. -/
def callBack (channel : Channel) (waiter : Waiter) (rest : List Waiter) : Channel :=
  match waiter, channel.current with
  | .handler, some handling => { channel with uncalled := rest }.resume handling
  | .steer, _ =>
    if channel.unsentSteers = 0 then { channel with uncalled := rest }
    else
      { channel with
        uncalled := rest
        unsentSteers := channel.unsentSteers - 1 }.write .steer .steer
  | _, _ => { channel with uncalled := rest }

def steer (channel : Channel) : Channel :=
  if channel.workerReady then channel.write .steer .steer
  else { channel with unsentSteers := channel.unsentSteers + 1 }

/-- The worker reads a frame of the host. -/
def receive (channel : Channel) (frame : HostFrame) (rest : List HostFrame) : Channel :=
  { channel with
    undelivered := rest
    unanswered := if frame.answers then channel.unanswered - 1 else channel.unanswered }

end Channel

inductive Event where
  | sent (frame : WorkerFrame)
  | received (frame : HostFrame)
  | arrived (frame : WorkerFrame)
  | began
  | wrote
  | answered
  | accepted
  | refused
  | calledBack (waiter : Waiter)
  | steered
  | stopped
  deriving DecidableEq

/-- The steps of the host and of a worker that proposes to end, with its last
frame, only after each of its frames has been answered. -/
inductive Step : Channel → Event → Channel → Prop
  | sent {channel : Channel} (frame : WorkerFrame) (goesOn : channel.settled = false)
      (notProposed : channel.hasProposed = false) (notTerminal : frame.kind ≠ .terminalProposed) :
      Step channel (.sent frame)
        { channel with
          unanswered := channel.unanswered + 1
          inFlight := channel.inFlight ++ [frame] }
  | proposed {channel : Channel} (frame : WorkerFrame) (goesOn : channel.settled = false)
      (notProposed : channel.hasProposed = false) (isTerminal : frame.kind = .terminalProposed)
      (answered : channel.unanswered = 0) :
      Step channel (.sent frame)
        { channel with
          hasProposed := true
          inFlight := channel.inFlight ++ [frame] }
  | received {channel : Channel} {frame : HostFrame} {rest : List HostFrame}
      (goesOn : channel.settled = false) (oldest : channel.undelivered = frame :: rest) :
      Step channel (.received frame) (channel.receive frame rest)
  | arrived {channel : Channel} {frame : WorkerFrame} {rest : List WorkerFrame}
      (goesOn : channel.settled = false) (oldest : channel.inFlight = frame :: rest) :
      Step channel (.arrived frame) ({ channel with inFlight := rest }.arrive frame)
  | began {channel : Channel} {frame : WorkerFrame} (goesOn : channel.settled = false)
      (here : channel.current = some { frame, phase := .working })
      (isOperation : frame.kind.isOperation = true) :
      Step channel .began { channel with pendingOperation := true }
  | wrote {channel : Channel} {frame : WorkerFrame} (written : HostFrame)
      (goesOn : channel.settled = false)
      (here : channel.current = some { frame, phase := .working })
      (underWay : channel.pendingOperation = true)
      (allowed : (frame.kind = .modelRequest ∧ written = .modelDelta) ∨
        (frame.kind = .toolRequest ∧ written = .toolsUpdate)) :
      Step channel .wrote
        ({ channel with current := some { frame, phase := .writing } }.write written .handler)
  | answered {channel : Channel} {frame : WorkerFrame} (goesOn : channel.settled = false)
      (here : channel.current = some { frame, phase := .working })
      (notTerminal : frame.kind ≠ .terminalProposed)
      (underWay : frame.kind.isOperation = true → channel.pendingOperation = true) :
      Step channel .answered
        ({ channel with current := some { frame, phase := .answering } }.write frame.kind.answer
          .handler)
  | accepted {channel : Channel} {frame : WorkerFrame} (goesOn : channel.settled = false)
      (here : channel.current = some { frame, phase := .working })
      (isTerminal : frame.kind = .terminalProposed) :
      Step channel .accepted { channel with settled := true }
  | refused {channel : Channel} {frame : WorkerFrame} (goesOn : channel.settled = false)
      (here : channel.current = some { frame, phase := .working }) :
      Step channel .refused (channel.fail .frameRefused)
  | calledBack {channel : Channel} {waiter : Waiter} {rest : List Waiter}
      (goesOn : channel.settled = false) (oldest : channel.uncalled = waiter :: rest) :
      Step channel (.calledBack waiter) (channel.callBack waiter rest)
  | steered {channel : Channel} (goesOn : channel.settled = false) :
      Step channel .steered channel.steer
  | stopped {channel : Channel} (goesOn : channel.settled = false) :
      Step channel .stopped (channel.fail .stopped)

end AnnaAgent.Worker
