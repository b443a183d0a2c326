/-
What a step of the run runtime does: to the store, to each drive, to each begin
and to each settlement.
-/

import AnnaAgent.EventStore.RunRuntime

namespace AnnaAgent.EventStore

open Foundation

variable {dates : Dates}

inductive AtMostOneCall (dates : Dates) (store : InMemoryEventStore) : InMemoryEventStore → Prop
  | none : AtMostOneCall dates store store
  | one {store' : InMemoryEventStore} {scope : ChannelScope} {call : EventCall}
      {answer : call.Answer} (performed : store.perform dates scope call = .ok (answer, store')) :
      AtMostOneCall dates store store'

variable {store store' : InMemoryEventStore} {stamp : Stamp}

theorem AtMostOneCall.grows (called : AtMostOneCall dates store store') : store.Grows store' := by
  cases called with
  | none => exact .refl store
  | one performed => exact InMemoryEventStore.perform_grows performed

theorem AtMostOneCall.orderly (called : AtMostOneCall dates store store') (orderly : store.Orderly) : store'.Orderly := by
  cases called with
  | none => exact orderly
  | one performed => exact InMemoryEventStore.perform_orderly orderly performed

theorem AtMostOneCall.append {scope : ChannelScope} {event : Event} {done : Unit}
    (appended : store.append dates scope event = .ok (done, store')) :
    AtMostOneCall dates store store' := by
  have performed : store.perform dates scope (.append event) = .ok (done, store') := appended
  exact .one performed

theorem afterCall_atMostOne (store : InMemoryEventStore) (scope : ChannelScope) (call : EventCall) :
    AtMostOneCall dates store (store.afterCall dates scope call) := by
  unfold InMemoryEventStore.afterCall
  cases performed : store.perform dates scope call with
  | error thrown => exact .none
  | ok result => exact .one performed

def outcomeEvent (command : StartRun) (stamp : Stamp) (seq : Nat) (outcome : OutcomeStatus) :
    Event :=
  runEvent command stamp seq outcome.eventType [("outcome", .str outcome.text)]

def failureEvent (command : StartRun) (stamp : Stamp) (seq : Nat) : Event :=
  runEvent command stamp seq "run.failed" [("errorType", .str "runtime_bridge_failed")]

inductive Drive.Advances (dates : Dates) (store : InMemoryEventStore) (stamp : Stamp)
    (drive : Drive) : InMemoryEventStore → DrivePoint → Prop
  | reads {outcome : OutcomeStatus} (at' : drive.point = .reading outcome) :
      Advances dates store stamp drive store
        (.settling outcome (store.streamEvents drive.command.toChannelScope drive.command.runId))
  | finds {outcome settled : OutcomeStatus} {events : List Event}
      (at' : drive.point = .settling outcome events) (isSettled : settledBy events = some settled) :
      Advances dates store stamp drive store (.resolved settled)
  | records {outcome : OutcomeStatus} {events : List Event} {store' : InMemoryEventStore}
      (at' : drive.point = .settling outcome events) (isOpen : settledBy events = none)
      (usable : stamp.usable dates store drive.command.toChannelScope = true)
      (appended : store.append dates drive.command.toChannelScope
        (outcomeEvent drive.command stamp events.length outcome) = .ok ((), store')) :
      Advances dates store stamp drive store' (.appended outcome events.length)
  | refused {outcome : OutcomeStatus} {events : List Event} {thrown : Thrown}
      (at' : drive.point = .settling outcome events) (isOpen : settledBy events = none)
      (usable : stamp.usable dates store drive.command.toChannelScope = true)
      (failed : store.append dates drive.command.toChannelScope
        (outcomeEvent drive.command stamp events.length outcome) = .error thrown) :
      Advances dates store stamp drive store .recovering
  | returns {outcome : OutcomeStatus} {seq : Nat} (at' : drive.point = .appended outcome seq) :
      Advances dates store stamp drive store (.resolved outcome)
  | readsAgain (at' : drive.point = .recovering) :
      Advances dates store stamp drive store
        (.failing (store.streamEvents drive.command.toChannelScope drive.command.runId))
  | findsAgain {settled : OutcomeStatus} {events : List Event}
      (at' : drive.point = .failing events) (isSettled : settledBy events = some settled) :
      Advances dates store stamp drive store (.resolved settled)
  | fails {events : List Event} {store' : InMemoryEventStore}
      (at' : drive.point = .failing events) (isOpen : settledBy events = none)
      (usable : stamp.usable dates store drive.command.toChannelScope = true)
      (appended : store.append dates drive.command.toChannelScope
        (failureEvent drive.command stamp events.length) = .ok ((), store')) :
      Advances dates store stamp drive store' (.appended .failed events.length)
  | rejects {events : List Event} {thrown : Thrown}
      (at' : drive.point = .failing events) (isOpen : settledBy events = none)
      (usable : stamp.usable dates store drive.command.toChannelScope = true)
      (failed : store.append dates drive.command.toChannelScope
        (failureEvent drive.command stamp events.length) = .error thrown) :
      Advances dates store stamp drive store .rejected

theorem Drive.advance_ok {drive : Drive} {point : DrivePoint}
    (advanced : drive.advance dates store stamp = some (store', point)) :
    drive.Advances dates store stamp store' point := by
  unfold Drive.advance at advanced
  dsimp only at advanced
  split at advanced
  · cases advanced
  · rename_i outcome isPoint
    cases advanced
    rw [InMemoryEventStore.read_all]
    exact .reads isPoint
  · rename_i outcome events isPoint
    split at advanced
    · rename_i settled isSettled
      cases advanced
      exact .finds isPoint isSettled
    · rename_i isOpen
      split at advanced
      · rename_i usable
        split at advanced
        · rename_i store' appended
          cases advanced
          exact .records isPoint isOpen usable appended
        · rename_i thrown failed
          cases advanced
          exact .refused isPoint isOpen usable failed
      · cases advanced
  · rename_i outcome seq isPoint
    cases advanced
    exact .returns isPoint
  · rename_i isPoint
    cases advanced
    rw [InMemoryEventStore.read_all]
    exact .readsAgain isPoint
  · rename_i events isPoint
    split at advanced
    · rename_i settled isSettled
      cases advanced
      exact .findsAgain isPoint isSettled
    · rename_i isOpen
      split at advanced
      · rename_i usable
        split at advanced
        · rename_i store' appended
          cases advanced
          exact .fails isPoint isOpen usable appended
        · rename_i thrown failed
          cases advanced
          exact .rejects isPoint isOpen usable failed
      · cases advanced
  · cases advanced
  · cases advanced

theorem Drive.Advances.atMostOneCall {drive : Drive} {point : DrivePoint}
    (advances : drive.Advances dates store stamp store' point) :
    AtMostOneCall dates store store' := by
  cases advances with
  | records at' isOpen usable appended | fails at' isOpen usable appended => exact .append appended
  | _ => exact .none

def queuedEvent (command : StartRun) (stamp : Stamp) : Event :=
  runEvent command stamp 0 "run.queued" [("phase", .str "queued")]

inductive Begin.Advances (dates : Dates) (store : InMemoryEventStore)
    (active : OrderedMap String Nat) (stamp : Stamp) (begun : Begin) : BeginMove → Prop
  | lacksParent {parentRunId : RunId} (at' : begun.point = .checkingParent parentRunId) :
      Advances dates store active stamp begun (.goes store (.answered (.refused .parentNotClaimed)))
  | hasParent {parentRunId : RunId} (at' : begun.point = .checkingParent parentRunId) :
      Advances dates store active stamp begun (.goes store .claiming)
  | claims {claimed : StartRun} {store' : InMemoryEventStore} (at' : begun.point = .claiming)
      (succeeded : store.claimStart begun.command.toChannelScope begun.command =
        .ok (claimed, store')) :
      Advances dates store active stamp begun (.goes store' .getting)
  | conflicts {thrown : Thrown} (at' : begun.point = .claiming) :
      Advances dates store active stamp begun (.goes store (.answered (.refused (.store thrown))))
  | gets (at' : begun.point = .getting) :
      Advances dates store active stamp begun
        (.goes store (.got (store.getRun begun.command.toChannelScope begun.command.runId)))
  | missing (at' : begun.point = .got none) :
      Advances dates store active stamp begun (.goes store (.answered (.refused .cannotBeRebuilt)))
  | checks {current : RunView} (at' : begun.point = .got (some current)) :
      Advances dates store active stamp begun (.goes store (begun.check active current))
  | reads (at' : begun.point = .queueing) :
      Advances dates store active stamp begun
        (.goes store (.queueRead
          (store.streamEvents begun.command.toChannelScope begun.command.runId)))
  | hasEvents {events : List Event} (at' : begun.point = .queueRead events) (present : events ≠ []) :
      Advances dates store active stamp begun (.goes store .gettingQueued)
  | queues {store' : InMemoryEventStore} (at' : begun.point = .queueRead [])
      (usable : stamp.usable dates store begun.command.toChannelScope = true)
      (appended : store.append dates begun.command.toChannelScope (queuedEvent begun.command stamp) =
        .ok ((), store')) :
      Advances dates store active stamp begun (.goes store' .gettingQueued)
  | refused {thrown : Thrown} (at' : begun.point = .queueRead []) :
      Advances dates store active stamp begun (.goes store (.answered (.refused (.store thrown))))
  | getsQueued (at' : begun.point = .gettingQueued) :
      Advances dates store active stamp begun
        (.goes store (.gotQueued (store.getRun begun.command.toChannelScope begun.command.runId)))
  | ended {queued : Option RunView} (at' : begun.point = .gotQueued queued) :
      Advances dates store active stamp begun (.goes store (.answered (.refused .becameTerminal)))
  | drives {queued : RunView} (at' : begun.point = .gotQueued (some queued)) :
      Advances dates store active stamp begun .drives

variable {active : OrderedMap String Nat}

theorem Begin.advance_ok {begun : Begin} {move : BeginMove}
    (advanced : begun.advance dates store active stamp = some move) :
    begun.Advances dates store active stamp move := by
  unfold Begin.advance at advanced
  dsimp only at advanced
  split at advanced
  · rename_i parentRunId isPoint
    split at advanced
    · cases advanced
      exact .lacksParent isPoint
    · cases advanced
      exact .hasParent isPoint
  · rename_i isPoint
    split at advanced
    · rename_i result claimed
      cases advanced
      exact .claims isPoint claimed
    · cases advanced
      exact .conflicts isPoint
  · rename_i isPoint
    cases advanced
    exact .gets isPoint
  · rename_i isPoint
    cases advanced
    exact .missing isPoint
  · rename_i current isPoint
    cases advanced
    exact .checks isPoint
  · rename_i isPoint
    cases advanced
    rw [InMemoryEventStore.read_all]
    exact .reads isPoint
  · rename_i events isPoint
    split at advanced
    · rename_i present
      cases advanced
      exact .hasEvents isPoint present
    · rename_i absent
      rw [not_not.1 absent] at isPoint
      split at advanced
      · rename_i usable
        split at advanced
        · rename_i store' appended
          cases advanced
          exact .queues isPoint usable appended
        · cases advanced
          exact .refused isPoint
      · cases advanced
  · rename_i isPoint
    cases advanced
    exact .getsQueued isPoint
  · rename_i isPoint
    cases advanced
    exact .ended isPoint
  · rename_i queued isPoint
    split at advanced
    · cases advanced
      exact .ended isPoint
    · cases advanced
      exact .drives isPoint
  · cases advanced

theorem Begin.Advances.atMostOneCall {begun : Begin} {point : BeginPoint}
    (advances : begun.Advances dates store active stamp (.goes store' point)) :
    AtMostOneCall dates store store' := by
  cases advances with
  | claims at' succeeded =>
    have performed : store.perform dates begun.command.toChannelScope (.claimStart begun.command) =
        .ok (_, store') := succeeded
    exact .one performed
  | queues at' usable appended => exact .append appended
  | _ => exact .none

/-! ### Settlements -/

def interruptedEvent (command : StartRun) (stamp : Stamp) (seq : Nat) : Event :=
  runEvent command stamp seq "run.failed" [("errorType", .str "process_restarted")]

inductive Settlement.Advances (dates : Dates) (store : InMemoryEventStore) (taken : String → Bool)
    (stamp : Stamp) (settlement : Settlement) : InMemoryEventStore → Settlement → Prop
  | lists (at' : settlement.point = .listing) :
      Advances dates store taken stamp settlement store
        { settlement with point := .walking (store.activeRunIds settlement.scope) }
  | finishes (at' : settlement.point = .walking []) :
      Advances dates store taken stamp settlement store { settlement with point := .finished }
  | skips {runId : RunId} {rest : List RunId} (at' : settlement.point = .walking (runId :: rest)) :
      Advances dates store taken stamp settlement store { settlement with point := .walking rest }
  | takes {runId : RunId} {rest : List RunId} {command : StartRun}
      (at' : settlement.point = .walking (runId :: rest))
      (isFree : taken (runtimeKey settlement.scope runId) = false)
      (claimed : store.getRunCommand settlement.scope runId = some command) :
      Advances dates store taken stamp settlement store
        { settlement with point := .reading command rest }
  | reads {command : StartRun} {rest : List RunId} (at' : settlement.point = .reading command rest) :
      Advances dates store taken stamp settlement store
        { settlement with
          point := .settling command (store.streamEvents settlement.scope command.runId) rest }
  | spares {command : StartRun} {events : List Event} {rest : List RunId}
      (at' : settlement.point = .settling command events rest) :
      Advances dates store taken stamp settlement store { settlement with point := .walking rest }
  | settles {command : StartRun} {events : List Event} {rest : List RunId}
      {store' : InMemoryEventStore} (at' : settlement.point = .settling command events rest)
      (isOpen : settledBy events = none)
      (appended : store.append dates settlement.scope
        (interruptedEvent command stamp events.length) = .ok ((), store')) :
      Advances dates store taken stamp settlement store'
        { settlement with
          point := .walking rest
          settled := settlement.settled ++ [command.runId] }
  | throws {command : StartRun} {events : List Event} {rest : List RunId} {thrown : Thrown}
      (at' : settlement.point = .settling command events rest) :
      Advances dates store taken stamp settlement store { settlement with point := .thrown thrown }

variable {settlement' settlement : Settlement} {taken : String → Bool}

theorem Settlement.advance_ok
    (advanced : settlement.advance dates store taken stamp = some (store', settlement')) :
    settlement.Advances dates store taken stamp store' settlement' := by
  unfold Settlement.advance at advanced
  dsimp only at advanced
  split at advanced
  · rename_i isPoint
    cases advanced
    exact .lists isPoint
  · rename_i isPoint
    cases advanced
    exact .finishes isPoint
  · rename_i runId rest isPoint
    split at advanced
    · cases advanced
      exact .skips isPoint
    · rename_i isFree
      split at advanced
      · cases advanced
        exact .skips isPoint
      · rename_i command claimed
        cases advanced
        exact .takes isPoint (Bool.eq_false_iff.2 isFree) claimed
  · rename_i command rest isPoint
    cases advanced
    rw [InMemoryEventStore.read_all]
    exact .reads isPoint
  · rename_i command events rest isPoint
    split at advanced
    · cases advanced
      exact .spares isPoint
    · rename_i isOpen
      split at advanced
      · split at advanced
        · rename_i store' appended
          cases advanced
          exact .settles isPoint (Option.not_isSome_iff_eq_none.1 isOpen) appended
        · cases advanced
          exact .spares isPoint
        · cases advanced
          exact .spares isPoint
        · cases advanced
          exact .throws isPoint
      · cases advanced
  · cases advanced
  · cases advanced

theorem Settlement.Advances.atMostOneCall
    (advances : settlement.Advances dates store taken stamp store' settlement') :
    AtMostOneCall dates store store' := by
  cases advances with
  | settles at' isOpen appended => exact .append appended
  | _ => exact .none

theorem at_set {α : Type} {items : List α} {index other : Nat} {new item : α}
    (found : (items.set index new)[other]? = some item) :
    (other = index ∧ item = new) ∨ (other ≠ index ∧ items[other]? = some item) := by
  rw [List.getElem?_set] at found
  by_cases same : index = other
  · rw [if_pos same] at found
    split at found
    · exact Or.inl ⟨same.symm, (Option.some.inj found).symm⟩
    · cases found
  · rw [if_neg same] at found
    exact Or.inr ⟨Ne.symm same, found⟩

theorem at_concat {α : Type} {items : List α} {index : Nat} {new item : α}
    (found : (items ++ [new])[index]? = some item) :
    (index = items.length ∧ item = new) ∨ items[index]? = some item := by
  rcases Nat.lt_trichotomy index items.length with inside | isEnd | outside
  · rw [List.getElem?_append_left inside] at found
    exact Or.inr found
  · rw [isEnd, List.getElem?_concat_length] at found
    exact Or.inl ⟨isEnd, (Option.some.inj found).symm⟩
  · rw [List.getElem?_eq_none] at found
    · cases found
    · rw [List.length_append, List.length_singleton]
      exact outside

inductive RuntimeEffect (dates : Dates) (before : RunRuntime) :
    RuntimeMove → RunRuntime → Prop
  | turnsAway {command : StartRun} {allowRunning : Bool} (isClosing : before.closing = true) :
      RuntimeEffect dates before (.call command allowRunning) before
  | joined {command : StartRun} {allowRunning : Bool} {index : Nat}
      (isOpen : before.closing = false)
      (inFlight : before.inFlight.get? (keyFor command) = some index) :
      RuntimeEffect dates before (.call command allowRunning)
        { before with calls := before.calls ++ [before.newCall command allowRunning index] }
  | begins {command : StartRun} {allowRunning : Bool} (isOpen : before.closing = false)
      (isFree : before.inFlight.get? (keyFor command) = none) :
      RuntimeEffect dates before (.call command allowRunning)
        { before with
          begins := before.begins ++ [.first command allowRunning]
          inFlight := before.inFlight.set (keyFor command) before.begins.length
          calls := before.calls ++ [before.newCall command allowRunning before.begins.length] }
  | goes {index : Nat} {stamp : Stamp} {begun : Begin} {store : InMemoryEventStore}
      {point : BeginPoint} (was : before.begins[index]? = some begun)
      (advances : begun.Advances dates before.store before.active stamp (.goes store point)) :
      RuntimeEffect dates before (.beginStep index stamp)
        { before with
          store
          begins := before.begins.set index { begun with point } }
  | drives {index : Nat} {stamp : Stamp} {begun : Begin} {queued : RunView}
      (was : before.begins[index]? = some begun) (at' : begun.point = .gotQueued (some queued)) :
      RuntimeEffect dates before (.beginStep index stamp)
        { before with
          begins := before.begins.set index
            { begun with point := .answered (.drive before.drives.length) }
          drives := before.drives ++ [.start begun.command]
          active := before.active.set (keyFor begun.command) before.drives.length }
  | lands {index : Nat} {begun : Begin} {answer : BeginAnswer}
      (was : before.begins[index]? = some begun) (at' : begun.point = .answered answer) :
      RuntimeEffect dates before (.clearInFlight index)
        { before with inFlight := clearKey before.inFlight (keyFor begun.command) index }
  | calls {index : Nat} {scope : ChannelScope} {call : EventCall} {drive : Drive}
      (was : before.drives[index]? = some drive) (inKernel : drive.point = .kernel) :
      RuntimeEffect dates before (.kernelCall index scope call)
        { before with
          store := before.store.afterCall dates scope call
          drives := before.drives.set index { drive with
            decided := drive.decided ||
              decides drive.command before.store (before.store.afterCall dates scope call) } }
  | returns {index : Nat} {outcome : OutcomeStatus} {drive : Drive}
      (was : before.drives[index]? = some drive) (inKernel : drive.point = .kernel) :
      RuntimeEffect dates before (.kernelReturns index outcome)
        { before with drives := before.drives.set index { drive with
            point := .reading outcome
            returned := some outcome } }
  | rejects {index : Nat} {drive : Drive}
      (was : before.drives[index]? = some drive) (inKernel : drive.point = .kernel) :
      RuntimeEffect dates before (.kernelRejects index)
        { before with drives := before.drives.set index { drive with point := .recovering } }
  | advances {index : Nat} {stamp : Stamp} {drive : Drive} {store : InMemoryEventStore}
      {point : DrivePoint} (was : before.drives[index]? = some drive)
      (advances : drive.Advances dates before.store stamp store point) :
      RuntimeEffect dates before (.driveStep index stamp)
        { before with
          store
          drives := before.drives.set index { drive with point } }
  | retires {index : Nat} {drive : Drive} (was : before.drives[index]? = some drive)
      (isSettled : drive.point.isSettled = true) :
      RuntimeEffect dates before (.clearActive index)
        { before with active := clearKey before.active (keyFor drive.command) index }
  | lists {scope : ChannelScope} :
      RuntimeEffect dates before (.settleInterrupted scope)
        { before with
          settlements := before.settlements ++ [{ scope, point := .listing, settled := [] }] }
  | settles {index : Nat} {stamp : Stamp} {settlement settlement' : Settlement}
      {store : InMemoryEventStore} (was : before.settlements[index]? = some settlement)
      (advances : settlement.Advances dates before.store before.isTaken stamp store settlement') :
      RuntimeEffect dates before (.settleStep index stamp)
        { before with
          store
          settlements := before.settlements.set index settlement' }
  | skips {scope : ChannelScope} (isClosing : before.closing = true) :
      RuntimeEffect dates before (.settleInterrupted scope) before
  | stops {scope : ChannelScope} {runId : RunId} :
      RuntimeEffect dates before (.stop scope runId) before
  | closes : RuntimeEffect dates before .close { before with closing := true }
  | writes {scope : ChannelScope} {call : EventCall} :
      RuntimeEffect dates before (.write scope call)
        { before with store := before.store.afterCall dates scope call }

namespace RunRuntime

variable {before after : RunRuntime} {move : RuntimeMove}

theorem receive_effect (before : RunRuntime) (command : StartRun) (allowRunning : Bool) :
    RuntimeEffect dates before (.call command allowRunning) (before.receive command allowRunning) := by
  unfold receive
  by_cases isClosing : before.closing = true
  · rw [if_pos isClosing]
    exact .turnsAway isClosing
  · rw [if_neg isClosing]
    have isOpen := Bool.eq_false_iff.2 isClosing
    cases inFlight : before.inFlight.get? (keyFor command) with
    | none => exact .begins isOpen inFlight
    | some index => exact .joined isOpen inFlight

variable {index : Nat}

theorem beginStep_effect (stepped : before.beginStep dates index stamp = some after) :
    RuntimeEffect dates before (.beginStep index stamp) after := by
  unfold beginStep at stepped
  split at stepped
  · cases stepped
  · rename_i begun was
    split at stepped
    · cases stepped
    · rename_i store point advanced
      cases stepped
      exact .goes was (Begin.advance_ok advanced)
    · rename_i advanced
      cases stepped
      cases Begin.advance_ok advanced with
      | drives at' => exact .drives was at'

theorem clearInFlight_effect (stepped : before.clearInFlight index = some after) :
    RuntimeEffect dates before (.clearInFlight index) after := by
  unfold clearInFlight at stepped
  split at stepped
  · cases stepped
  · rename_i begun was
    split at stepped
    · rename_i answer isAnswered
      cases stepped
      exact .lands was isAnswered
    · cases stepped

theorem kernelStep_ok {next : Drive → InMemoryEventStore × Drive}
    (stepped : before.kernelStep index next = some after) :
    ∃ drive, before.drives[index]? = some drive ∧ drive.point = .kernel ∧
      after = { before with
        store := (next drive).1
        drives := before.drives.set index (next drive).2 } := by
  unfold kernelStep at stepped
  split at stepped
  · cases stepped
  · rename_i drive isDrive
    split at stepped
    · rename_i inKernel
      cases stepped
      exact ⟨drive, isDrive, inKernel, rfl⟩
    · cases stepped

theorem driveStep_effect (stepped : before.driveStep dates index stamp = some after) :
    RuntimeEffect dates before (.driveStep index stamp) after := by
  unfold driveStep at stepped
  split at stepped
  · cases stepped
  · rename_i drive was
    split at stepped
    · cases stepped
    · rename_i store point advanced
      cases stepped
      exact .advances was (Drive.advance_ok advanced)

theorem clearActive_effect (stepped : before.clearActive index = some after) :
    RuntimeEffect dates before (.clearActive index) after := by
  unfold clearActive at stepped
  split at stepped
  · cases stepped
  · rename_i drive was
    split at stepped
    · rename_i isSettled
      cases stepped
      exact .retires was isSettled
    · cases stepped

theorem settleStep_effect (stepped : before.settleStep dates index stamp = some after) :
    RuntimeEffect dates before (.settleStep index stamp) after := by
  unfold settleStep at stepped
  split at stepped
  · cases stepped
  · rename_i settlement was
    split at stepped
    · cases stepped
    · rename_i store settlement' advanced
      cases stepped
      exact .settles was (Settlement.advance_ok advanced)

section

variable (step : Step dates before move after)

include step

theorem Step.effect : RuntimeEffect dates before move after := by
  cases move with
  | call command allowRunning =>
    cases step
    exact receive_effect before command allowRunning
  | beginStep index stamp => exact beginStep_effect step
  | clearInFlight index => exact clearInFlight_effect step
  | kernelCall index scope call =>
    obtain ⟨drive, was, inKernel, same⟩ := kernelStep_ok step
    rw [same]
    exact .calls was inKernel
  | kernelReturns index outcome =>
    obtain ⟨drive, was, inKernel, same⟩ := kernelStep_ok step
    rw [same]
    exact .returns was inKernel
  | kernelRejects index =>
    obtain ⟨drive, was, inKernel, same⟩ := kernelStep_ok step
    rw [same]
    exact .rejects was inKernel
  | driveStep index stamp => exact driveStep_effect step
  | clearActive index => exact clearActive_effect step
  | settleInterrupted scope =>
    change (if before.closing = true then some before else some _) = some after at step
    by_cases isClosing : before.closing = true
    · rw [if_pos isClosing] at step
      cases step
      exact .skips isClosing
    · rw [if_neg isClosing] at step
      cases step
      exact .lists
  | settleStep index stamp => exact settleStep_effect step
  | stop scope runId =>
    cases step
    exact .stops
  | close =>
    cases step
    exact .closes
  | write scope call =>
    cases step
    exact .writes

theorem Step.atMostOneCall : AtMostOneCall dates before.store after.store := by
  cases step.effect with
  | goes was advances | advances was advances | settles was advances => exact advances.atMostOneCall
  | calls was inKernel | writes => exact afterCall_atMostOne _ _ _
  | _ => exact .none

theorem Step.grows : before.store.Grows after.store :=
  step.atMostOneCall.grows

theorem Step.orderly (orderly : before.store.Orderly) : after.store.Orderly :=
  step.atMostOneCall.orderly orderly

end

end RunRuntime

end AnnaAgent.EventStore
