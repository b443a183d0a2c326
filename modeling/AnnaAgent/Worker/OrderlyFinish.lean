/-
The end of an orderly worker.

When the terminal proposal of such a worker comes in, every earlier frame of it
has been answered, so the host handles at most one frame, and this one waits for
the callback of its last write.  The proposal is refused as premature exactly if
that callback has not run.
-/

import AnnaAgent.Worker.FrameQueue

namespace AnnaAgent.Worker

open Foundation

def WorkerFrame.isTerminal (frame : WorkerFrame) : Bool :=
  decide (frame.kind = .terminalProposed)

/-- The frame is not answered yet. -/
def Handling.isOpen (handling : Handling) : Bool :=
  !handling.frame.isTerminal &&
    (decide (handling.phase = .working) || decide (handling.phase = .writing))

def Handling.isWaiting (handling : Handling) : Bool :=
  decide (handling.phase ≠ .working)

def Channel.handled (channel : Channel) : List Handling := channel.current.toList

/-- The frames that have not been answered to the worker, as the two ends of the
channel see them. -/
def Channel.load (channel : Channel) : Nat :=
  channel.undelivered.countP HostFrame.answers
    + channel.inFlight.countP (fun frame => !frame.isTerminal)
    + channel.waiting.countP (fun frame => !frame.isTerminal)
    + channel.handled.countP Handling.isOpen

def Channel.terminals (channel : Channel) : Nat :=
  channel.inFlight.countP WorkerFrame.isTerminal
    + channel.waiting.countP WorkerFrame.isTerminal
    + channel.handled.countP (fun handling => handling.frame.isTerminal)

def Channel.frameBytes (channel : Channel) : Nat :=
  (channel.handled.map (fun handling => handling.frame.bytes)).sum
    + (channel.waiting.map WorkerFrame.bytes).sum

structure Orderly (channel : Channel) : Prop where
  bytes : channel.queuedBytes = channel.frameBytes
  behind : channel.current = none → channel.waiting = []
  operation : channel.pendingOperation = true →
    ∃ handling, channel.current = some handling ∧ handling.frame.kind.isOperation = true
  waits : channel.uncalled.countP (fun waiter => waiter = .handler) =
    channel.handled.countP Handling.isWaiting
  load : channel.load ≤ channel.unanswered
  proposed : channel.hasProposed = true → channel.unanswered = 0
  terminals : channel.terminals ≤ channel.hasProposed.toNat

variable {before after : Channel} {event : Event}

theorem answer_answers (kind : FrameKind) : kind.answer.answers = true := by
  cases kind with
  | _ => rfl

theorem Orderly.fail (orderly : Orderly before) (failure : Failure) :
    Orderly (before.fail failure) :=
  { orderly with }

theorem Orderly.steers (orderly : Orderly before) : Orderly (before.write .steer .steer) := by
  refine { orderly with waits := ?_, load := ?_ }
  · have waits := orderly.waits
    simp only [Channel.write, Channel.handled] at waits ⊢
    simp [waits]
  · have load := orderly.load
    simp only [Channel.load, Channel.write, Channel.handled] at load ⊢
    simp [HostFrame.answers] at load ⊢
    exact load

variable {frame : WorkerFrame}

theorem Orderly.enqueue (orderly : Orderly before) {rest : List WorkerFrame}
    (oldest : before.inFlight = frame :: rest) :
    Orderly ({ before with
      inFlight := rest
      queuedBytes := before.queuedBytes + frame.bytes }.enqueue frame) := by
  have bytes := orderly.bytes
  have load := orderly.load
  have terminals := orderly.terminals
  have waits := orderly.waits
  unfold Channel.enqueue
  cases current : before.current with
  | none =>
    have noneWaiting := orderly.behind current
    dsimp only
    refine ⟨?_, ?_, ?_, ?_, ?_, orderly.proposed, ?_⟩
    · simp only [Channel.frameBytes, Channel.handled, current, noneWaiting] at bytes ⊢
      simp at bytes ⊢
      omega
    · intro isNone
      cases isNone
    · intro isPending
      rcases orderly.operation isPending with ⟨handling, isCurrent, _⟩
      cases current.symm.trans isCurrent
    · simp only [Channel.handled, current] at waits ⊢
      simp [Handling.isWaiting] at waits ⊢
      exact waits
    · simp only [Channel.load, Channel.handled, current, noneWaiting, oldest] at load ⊢
      cases isTerminal : frame.isTerminal with
      | true | false =>
        simp [Handling.isOpen, isTerminal] at load ⊢
        omega
    · simp only [Channel.terminals, Channel.handled, current, noneWaiting, oldest]
        at terminals ⊢
      cases isTerminal : frame.isTerminal with
      | true | false =>
        simp [isTerminal] at terminals ⊢
        omega
  | some handling =>
    dsimp only
    refine ⟨?_, ?_, ?_, ?_, ?_, orderly.proposed, ?_⟩
    · simp only [Channel.frameBytes, Channel.handled, current] at bytes ⊢
      simp at bytes ⊢
      omega
    · intro isNone
      cases isNone
    · intro isPending
      rcases orderly.operation isPending with ⟨handling', isCurrent, isOperation⟩
      cases current.symm.trans isCurrent
      exact ⟨handling, rfl, isOperation⟩
    · simp only [Channel.handled, current] at waits ⊢
      exact waits
    · simp only [Channel.load, Channel.handled, current, oldest] at load ⊢
      cases isTerminal : frame.isTerminal with
      | true | false =>
        simp [isTerminal] at load ⊢
        omega
    · simp only [Channel.terminals, Channel.handled, current, oldest] at terminals ⊢
      cases isTerminal : frame.isTerminal with
      | true | false =>
        simp [isTerminal] at terminals ⊢
        omega

/-! ### The answer has been written -/

variable {handling : Handling}

section

variable {rest : List Waiter} (orderly : Orderly before)

include orderly

theorem Orderly.waits_once (oldest : before.uncalled = .handler :: rest)
    (current : before.current = some handling) :
    rest.countP (fun waiter => waiter = .handler) = 0 ∧ handling.isWaiting = true := by
  have waits := orderly.waits
  rw [oldest] at waits
  simp only [Channel.handled, current] at waits
  cases isWaiting : handling.isWaiting with
  | true =>
    simp [isWaiting] at waits
    exact ⟨by simpa using waits, rfl⟩
  | false =>
    simp [isWaiting] at waits

theorem Orderly.finish (current : before.current = some handling)
    (oldest : before.uncalled = .handler :: rest) (answered : handling.isOpen = false)
    (ready : Bool) :
    Orderly ({ before with
      uncalled := rest
      workerReady := ready }.finish handling.frame) := by
  have bytes := orderly.bytes
  have load := orderly.load
  have terminals := orderly.terminals
  have alone := (orderly.waits_once oldest current).1
  have stopped : (if handling.frame.kind.isOperation then false else before.pendingOperation) =
      false := by
    cases isOperation : handling.frame.kind.isOperation with
    | true => rfl
    | false =>
      cases isPending : before.pendingOperation with
      | false => rfl
      | true =>
        rcases orderly.operation isPending with ⟨other, isOther, otherOperation⟩
        cases current.symm.trans isOther
        rw [isOperation] at otherOperation
        cases otherOperation
  unfold Channel.finish
  dsimp only
  rw [stopped]
  cases waiting : before.waiting with
  | nil =>
    refine ⟨?_, fun _ => rfl, ?_, ?_, ?_, orderly.proposed, ?_⟩
    · simp only [Channel.frameBytes, Channel.handled, current, waiting] at bytes ⊢
      simp at bytes ⊢
      omega
    · intro isPending
      cases isPending
    · simp only [Channel.handled]
      exact alone
    · simp only [Channel.load, Channel.handled, current, waiting] at load ⊢
      simp [answered] at load ⊢
      exact load
    · simp only [Channel.terminals, Channel.handled, current, waiting] at terminals ⊢
      simp at terminals ⊢
      omega
  | cons next later =>
    refine ⟨?_, ?_, ?_, ?_, ?_, orderly.proposed, ?_⟩
    · simp only [Channel.frameBytes, Channel.handled, current, waiting] at bytes ⊢
      simp at bytes ⊢
      omega
    · intro isNone
      cases isNone
    · intro isPending
      cases isPending
    · simp only [Channel.handled]
      simp [Handling.isWaiting]
      simpa using alone
    · simp only [Channel.load, Channel.handled, current, waiting] at load ⊢
      cases isTerminal : next.isTerminal with
      | true | false =>
        simp [isTerminal, Handling.isOpen] at load ⊢
        omega
    · simp only [Channel.terminals, Channel.handled, current, waiting] at terminals ⊢
      cases isTerminal : next.isTerminal with
      | true | false =>
        simp [isTerminal] at terminals ⊢
        omega

theorem Orderly.waitsOn (current : before.current = some handling)
    (oldest : before.uncalled = .handler :: rest) (answered : handling.isOpen = false)
    (ready : Bool) (steers : Nat) :
    Orderly ({ before with
      uncalled := rest
      workerReady := ready
      unsentSteers := steers
      current := some { frame := handling.frame, phase := .flushing } }.write .steer
        .handler) := by
  have bytes := orderly.bytes
  have load := orderly.load
  have terminals := orderly.terminals
  have alone := (orderly.waits_once oldest current).1
  refine ⟨?_, ?_, ?_, ?_, ?_, orderly.proposed, ?_⟩
  · simp only [Channel.frameBytes, Channel.handled, Channel.write, current] at bytes ⊢
    simp at bytes ⊢
    exact bytes
  · intro isNone
    cases isNone
  · intro isPending
    rcases orderly.operation isPending with ⟨other, isOther, isOperation⟩
    cases current.symm.trans isOther
    exact ⟨_, rfl, isOperation⟩
  · simp only [Channel.handled, Channel.write]
    simp [Handling.isWaiting]
    simpa using alone
  · have flushed : ({ frame := handling.frame, phase := .flushing } : Handling).isOpen = false := by
      simp [Handling.isOpen]
    simp only [Channel.load, Channel.handled, Channel.write, current] at load ⊢
    simp [answered, flushed, HostFrame.answers] at load ⊢
    exact load
  · simp only [Channel.terminals, Channel.handled, Channel.write, current] at terminals ⊢
    simp at terminals ⊢
    exact terminals

theorem Orderly.flush (current : before.current = some handling)
    (oldest : before.uncalled = .handler :: rest) (answered : handling.isOpen = false)
    (ready : Bool) :
    Orderly ({ before with
      uncalled := rest
      workerReady := ready }.flush handling.frame) := by
  unfold Channel.flush
  split
  · exact orderly.finish current oldest answered ready
  · exact orderly.waitsOn current oldest answered ready (before.unsentSteers - 1)

theorem Orderly.called {waiter : Waiter} (oldest : before.uncalled = waiter :: rest)
    (notHandler : waiter ≠ .handler) : Orderly { before with uncalled := rest } := by
  have waits := orderly.waits
  refine { orderly with waits := ?_ }
  rw [oldest] at waits
  simp only [Channel.handled] at waits ⊢
  simp [notHandler] at waits
  simpa using waits

theorem Orderly.resume (current : before.current = some handling)
    (oldest : before.uncalled = .handler :: rest) :
    Orderly ({ before with uncalled := rest }.resume handling) := by
  rcases orderly.waits_once oldest current with ⟨alone, isWaiting⟩
  cases phase : handling.phase with
  | working =>
    simp [Handling.isWaiting, phase] at isWaiting
  | writing =>
    have bytes := orderly.bytes
    have load := orderly.load
    have terminals := orderly.terminals
    have again : ({ frame := handling.frame, phase := .working } : Handling).isOpen =
        handling.isOpen := by
      simp [Handling.isOpen, phase]
    unfold Channel.resume
    rw [phase]
    dsimp only
    refine ⟨?_, ?_, ?_, ?_, ?_, orderly.proposed, ?_⟩
    · simp only [Channel.frameBytes, Channel.handled, current] at bytes ⊢
      simp at bytes ⊢
      exact bytes
    · intro isNone
      cases isNone
    · intro isPending
      rcases orderly.operation isPending with ⟨other, isOther, isOperation⟩
      cases current.symm.trans isOther
      exact ⟨_, rfl, isOperation⟩
    · simp only [Channel.handled]
      simp [Handling.isWaiting]
      simpa using alone
    · simp only [Channel.load, Channel.handled, current] at load ⊢
      simp [again] at load ⊢
      exact load
    · simp only [Channel.terminals, Channel.handled, current] at terminals ⊢
      simp at terminals ⊢
      exact terminals
  | answering =>
    have answered : handling.isOpen = false := by
      simp [Handling.isOpen, phase]
    unfold Channel.resume
    rw [phase]
    dsimp only
    split
    · exact orderly.flush current oldest answered true
    · exact orderly.finish current oldest answered before.workerReady
  | flushing =>
    have answered : handling.isOpen = false := by
      simp [Handling.isOpen, phase]
    unfold Channel.resume
    rw [phase]
    exact orderly.flush current oldest answered before.workerReady

theorem Orderly.callBack {waiter : Waiter} (oldest : before.uncalled = waiter :: rest)
    : Orderly (before.callBack waiter rest) := by
  cases waiter with
  | start =>
    exact orderly.called oldest (by intro same; cases same)
  | steer =>
    have called := orderly.called oldest (by intro same; cases same)
    unfold Channel.callBack
    dsimp only
    split
    · exact called
    · have fewer : Orderly { before with
          uncalled := rest
          unsentSteers := before.unsentSteers - 1 } := { called with }
      exact fewer.steers
  | handler =>
    cases current : before.current with
    | none =>
      have waits := orderly.waits
      rw [oldest] at waits
      simp [Channel.handled, current] at waits
    | some handling =>
      have resumed := orderly.resume current oldest
      simp only [Channel.callBack, current] at resumed ⊢
      exact resumed

end

theorem Orderly.lost (orderly : Orderly before) {rest : List WorkerFrame}
    (oldest : before.inFlight = frame :: rest) : Orderly { before with inFlight := rest } := by
  have load := orderly.load
  have terminals := orderly.terminals
  refine { orderly with load := ?_, terminals := ?_ }
  · simp only [Channel.load, Channel.handled, oldest, List.countP_cons] at load ⊢
    omega
  · simp only [Channel.terminals, Channel.handled, oldest, List.countP_cons] at terminals ⊢
    omega

theorem Orderly.arrive (orderly : Orderly before) {rest : List WorkerFrame}
    (oldest : before.inFlight = frame :: rest) :
    Orderly ({ before with inFlight := rest }.arrive frame) := by
  unfold Channel.arrive
  split
  · exact (orderly.lost oldest).fail _
  · split
    · exact (orderly.lost oldest).fail _
    · exact orderly.enqueue oldest

theorem Orderly.receive (orderly : Orderly before) {frame : HostFrame} {rest : List HostFrame}
    (oldest : before.undelivered = frame :: rest) : Orderly (before.receive frame rest) := by
  have load := orderly.load
  refine { orderly with load := ?_, proposed := ?_ }
  · simp only [Channel.load, Channel.receive, Channel.handled, oldest, List.countP_cons] at load ⊢
    split
    · rename_i answers
      rw [if_pos answers] at load
      omega
    · rename_i answersNothing
      rw [if_neg answersNothing] at load
      omega
  · intro hasProposed
    have nothingOpen := orderly.proposed hasProposed
    simp [Channel.receive, nothingOpen]

theorem Orderly.writes (orderly : Orderly before)
    (here : before.current = some { frame, phase := .working }) {written : HostFrame}
    {phase : Phase} (waits : phase ≠ .working)
    (balance : [written].countP HostFrame.answers + [({ frame, phase } : Handling)].countP
      Handling.isOpen ≤ [({ frame, phase := .working } : Handling)].countP Handling.isOpen) :
    Orderly ({ before with current := some { frame, phase } }.write written .handler) := by
  have bytes := orderly.bytes
  have load := orderly.load
  have terminals := orderly.terminals
  have called := orderly.waits
  refine ⟨?_, ?_, ?_, ?_, ?_, orderly.proposed, ?_⟩
  · simp only [Channel.frameBytes, Channel.handled, Channel.write, here] at bytes ⊢
    simp at bytes ⊢
    exact bytes
  · intro isNone
    cases isNone
  · intro isPending
    rcases orderly.operation isPending with ⟨other, isOther, isOperation⟩
    cases here.symm.trans isOther
    exact ⟨_, rfl, isOperation⟩
  · simp only [Channel.handled, Channel.write, here] at called ⊢
    simp [Handling.isWaiting, waits] at called ⊢
    exact called
  · simp only [Channel.load, Channel.handled, Channel.write, here, List.countP_append,
      Option.toList] at load ⊢
    omega
  · simp only [Channel.terminals, Channel.handled, Channel.write, here] at terminals ⊢
    simp at terminals ⊢
    exact terminals

theorem Orderly.step (orderly : Orderly before) (step : Step before event after) :
    Orderly after := by
  cases step with
  | sent frame goesOn notProposed notTerminal =>
    have load := orderly.load
    have terminals := orderly.terminals
    have isOther : frame.isTerminal = false := decide_eq_false notTerminal
    refine { orderly with load := ?_, proposed := ?_, terminals := ?_ }
    · simp only [Channel.load, Channel.handled] at load ⊢
      simp [isOther]
      omega
    · intro hasProposed
      cases notProposed.symm.trans hasProposed
    · simp only [Channel.terminals, Channel.handled] at terminals ⊢
      simp [isOther]
      exact terminals
  | proposed frame goesOn notProposed isTerminal answered =>
    have load := orderly.load
    have terminals := orderly.terminals
    have isProposal : frame.isTerminal = true := decide_eq_true isTerminal
    refine { orderly with load := ?_, proposed := fun _ => answered, terminals := ?_ }
    · simp only [Channel.load, Channel.handled] at load ⊢
      simp [isProposal]
      exact load
    · have notBefore : before.hasProposed.toNat = 0 := by
        rw [notProposed]
        rfl
      simp only [Channel.terminals, Channel.handled] at terminals ⊢
      simp only [List.countP_append, List.countP_singleton, isProposal, Bool.toNat_true]
      simp only [if_true]
      omega
  | received goesOn oldest => exact orderly.receive oldest
  | arrived goesOn oldest => exact orderly.arrive oldest
  | began goesOn here isOperation =>
    refine { orderly with operation := fun _ => ⟨_, here, isOperation⟩ }
  | wrote written goesOn here underWay allowed =>
    apply orderly.writes here (by intro same; cases same)
    rcases allowed with ⟨_, rfl⟩ | ⟨_, rfl⟩
    · simp [HostFrame.answers, Handling.isOpen]
    · simp [HostFrame.answers, Handling.isOpen]
  | @answered frame goesOn here notTerminal underWay =>
    have isOther : frame.isTerminal = false := decide_eq_false notTerminal
    apply orderly.writes here (by intro same; cases same)
    simp [answer_answers, Handling.isOpen, isOther]
  | accepted goesOn here isTerminal => exact { orderly with }
  | refused goesOn here | stopped goesOn => exact orderly.fail _
  | calledBack goesOn oldest => exact orderly.callBack oldest
  | steered goesOn =>
    unfold Channel.steer
    split
    · exact orderly.steers
    · exact { orderly with }

theorem started_orderly : Orderly started :=
  { bytes := rfl
    behind := fun _ => rfl
    operation := fun isPending => by cases isPending
    waits := rfl
    load := Nat.le_refl 0
    proposed := fun _ => rfl
    terminals := Nat.le_refl 0 }

end AnnaAgent.Worker
