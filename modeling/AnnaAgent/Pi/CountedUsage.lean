/-
The usage that the Pi kernel counts (`pi-loop-kernel/src/pi-loop-kernel.ts`).

A turn that ends is recorded by an event with its own usage and then by an event with the
usage of all turns.  A kernel that starts on a history reads both back: the last event with
the usage of all turns counts, and without one the turns are added up.  Whatever else is
appended to the stream of the run carries no usage, and a crash may come at any time.
-/

import AnnaAgent.Foundation.OrderedMap
import AnnaAgent.Foundation.Run
import Mathlib.Data.Rat.Defs

namespace AnnaAgent.Pi

open Foundation

abbrev UsageRecord := OrderedMap String ℚ

/-- The usage of a message of the agent: the fields that are finite numbers. -/
structure PiUsage where
  input : Option ℚ
  output : Option ℚ
  cacheRead : Option ℚ
  cacheWrite : Option ℚ
  reasoning : Option ℚ
  costTotal : Option ℚ

def setField (result : UsageRecord) (field : String × Option ℚ) : UsageRecord :=
  match field.2 with
  | none => result
  | some value => result.set field.1 value

def canonicalUsage (usage : PiUsage) : Option UsageRecord :=
  let result := [("input", usage.input), ("output", usage.output), ("cacheRead", usage.cacheRead),
    ("cacheWrite", usage.cacheWrite), ("reasoning", usage.reasoning),
    ("cost", usage.costTotal.filter (fun total => decide (total ≠ 0)))].foldl setField
      OrderedMap.empty
  if result.entries.isEmpty then none else some result

def mergeEntry (merged : UsageRecord) (entry : String × ℚ) : UsageRecord :=
  merged.set entry.1 ((merged.get? entry.1).getD 0 + entry.2)

def mergeUsage (existing next : UsageRecord) : UsageRecord := next.entries.foldl mergeEntry existing

inductive PiEvent where
  | progress (phase : String) (usage : Option UsageRecord)
  | usageUpdated (cumulative : UsageRecord)
  | other (type : String)

namespace PiEvent

def isTurn : PiEvent → Bool
  | progress phase _ => decide (phase = "turn_finished")
  | _ => false

def cumulative? : PiEvent → Option UsageRecord
  | usageUpdated cumulative => some cumulative
  | _ => none

def progressUsage : PiEvent → Option UsageRecord
  | progress _ usage => usage
  | _ => none

def isTerminal : PiEvent → Bool
  | other type => ["run.completed", "run.failed", "run.cancelled", "run.timed_out"].contains type
  | _ => false

/-- Neither of the events that `turn_end` appends. -/
def isPlain : PiEvent → Bool
  | progress phase usage => decide (phase ≠ "turn_finished") && usage.isNone
  | usageUpdated _ => false
  | other _ => true

end PiEvent

def restoredTurnCount (events : List PiEvent) : Nat := events.countP PiEvent.isTurn

def latestCumulative (events : List PiEvent) : Option UsageRecord :=
  events.reverse.findSome? PiEvent.cumulative?

def addProgress (total : UsageRecord) (event : PiEvent) : UsageRecord :=
  match event.progressUsage with
  | none => total
  | some usage => mergeUsage total usage

def restoredUsage (events : List PiEvent) : UsageRecord :=
  match latestCumulative events with
  | some cumulative => cumulative
  | none => events.foldl addProgress OrderedMap.empty

inductive PiStopReason where
  | stop
  | length
  | toolUse
  | error
  | aborted

/-- The assistant message of a turn that ends. -/
structure PiTurn where
  stopReason : PiStopReason
  usage : Option PiUsage

def PiTurn.counted (turn : PiTurn) : Option UsageRecord :=
  match turn.stopReason with
  | .error => none
  | .aborted => none
  | _ => turn.usage.bind canonicalUsage

structure CountingRun where
  turns : Nat
  cumulativeUsage : UsageRecord
  /-- The usage of a turn whose own event is appended and whose cumulative event is not. -/
  pending : Option UsageRecord

structure CountingKernel where
  history : List PiEvent
  run : Option CountingRun

namespace CountingKernel

def initial : CountingKernel := { history := [], run := none }

inductive Action where
  | start
  | turnEnd (turn : PiTurn)
  | updateUsage
  | append (event : PiEvent)
  | crash

inductive Step : CountingKernel → Action → CountingKernel → Prop
  | start (history : List PiEvent)
      (unfinished : ∀ event ∈ history, event.isTerminal = false) :
      Step { history, run := none } .start
        { history
          run := some
            { turns := restoredTurnCount history
              cumulativeUsage := restoredUsage history
              pending := none } }
  | turnEnd (history : List PiEvent) (turns : Nat) (cumulativeUsage : UsageRecord)
      (turn : PiTurn) :
      Step { history, run := some { turns, cumulativeUsage, pending := none } } (.turnEnd turn)
        { history := history ++ [.progress "turn_finished" turn.counted]
          run := some { turns := turns + 1, cumulativeUsage, pending := turn.counted } }
  | updateUsage (history : List PiEvent) (turns : Nat) (cumulativeUsage usage : UsageRecord) :
      Step { history, run := some { turns, cumulativeUsage, pending := some usage } } .updateUsage
        { history := history ++ [.usageUpdated (mergeUsage cumulativeUsage usage)]
          run := some
            { turns, cumulativeUsage := mergeUsage cumulativeUsage usage, pending := none } }
  | append (history : List PiEvent) (run : Option CountingRun) (event : PiEvent)
      (plain : event.isPlain = true) :
      Step { history, run } (.append event) { history := history ++ [event], run }
  | crash (history : List PiEvent) (run : Option CountingRun) :
      Step { history, run } .crash { history, run := none }

/-- A turn has its own event only. -/
def isBetween (kernel : CountingKernel) : Bool :=
  kernel.run.any (fun run => run.pending.isSome)

end CountingKernel

def addAmount : Option ℚ → Option ℚ → Option ℚ
  | total, none => total
  | none, some value => some value
  | some total, some value => some (total + value)

def PiEvent.amount (field : String) (event : PiEvent) : Option ℚ :=
  if event.isTurn then event.progressUsage.bind (fun usage => usage.get? field) else none

/-- A field of the usage of all turns that are recorded, missing when no turn has it. -/
def spent (field : String) (events : List PiEvent) : Option ℚ :=
  events.foldl (fun total event => addAmount total (event.amount field)) none

structure CountingKernel.Counted (kernel : CountingKernel) : Prop where
  turns : ∀ run, kernel.run = some run → run.turns = kernel.history.countP PiEvent.isTurn
  held : ∀ run, kernel.run = some run → run.pending = none → ∀ field,
    run.cumulativeUsage.get? field = spent field kernel.history
  written : ∀ early cumulative late, kernel.history = early ++ .usageUpdated cumulative :: late →
    ∀ field, cumulative.get? field = spent field early

theorem get?_foldl_mergeEntry {entries : List (String × ℚ)}
    (distinct : (entries.map Prod.fst).Nodup) (existing : UsageRecord) (field : String) :
    (entries.foldl mergeEntry existing).get? field =
      addAmount (existing.get? field)
        ((entries.find? (fun entry => entry.1 = field)).map Prod.snd) := by
  induction entries generalizing existing with
  | nil => rfl
  | cons entry rest ih =>
    rw [List.map_cons, List.nodup_cons] at distinct
    rw [List.foldl_cons, ih distinct.2, mergeEntry, OrderedMap.get?_set]
    by_cases same : entry.1 = field
    · have absent : rest.find? (fun other => other.1 = field) = none := by
        rw [List.find?_eq_none]
        intro other member isField
        apply distinct.1
        rw [same, ← of_decide_eq_true isField]
        exact List.mem_map_of_mem member
      rw [if_pos same.symm, List.find?_cons_of_pos (by simpa using same), absent, same]
      cases existing.get? field <;> simp [addAmount]
    · rw [if_neg (Ne.symm same), List.find?_cons_of_neg (by simpa using same)]

theorem get?_mergeUsage (existing next : UsageRecord) (field : String) :
    (mergeUsage existing next).get? field =
      addAmount (existing.get? field) (next.get? field) :=
  get?_foldl_mergeEntry next.keysNodup existing field

theorem spent_concat (field : String) (events : List PiEvent) (event : PiEvent) :
    spent field (events ++ [event]) = addAmount (spent field events) (event.amount field) := by
  simp [spent]

theorem latestCumulative_concat (events : List PiEvent) (event : PiEvent) :
    latestCumulative (events ++ [event]) = event.cumulative?.or (latestCumulative events) := by
  simp [latestCumulative, List.findSome?_cons]
  cases event.cumulative? <;> rfl

theorem restoredUsage_updated (events : List PiEvent) (cumulative : UsageRecord) :
    restoredUsage (events ++ [.usageUpdated cumulative]) = cumulative := by
  simp [restoredUsage, latestCumulative_concat, PiEvent.cumulative?]

variable {event : PiEvent}

theorem restoredUsage_concat_none {events : List PiEvent} (untold : latestCumulative events = none)
    (silent : event.cumulative? = none) :
    restoredUsage (events ++ [event]) = addProgress (restoredUsage events) event := by
  simp [restoredUsage, latestCumulative_concat, untold, silent]

theorem restoredUsage_concat_idle (events : List PiEvent) (silent : event.cumulative? = none)
    (idle : event.progressUsage = none) :
    restoredUsage (events ++ [event]) = restoredUsage events := by
  cases told : latestCumulative events with
  | none => rw [restoredUsage_concat_none told silent, addProgress, idle]
  | some cumulative => simp [restoredUsage, latestCumulative_concat, told, silent]

/-! ### The invariant -/

namespace CountingKernel

variable {before after : CountingKernel}

/-- While no cumulative event has been lost, what a restart would read is what was used. -/
structure Sound (kernel : CountingKernel) : Prop where
  counted : kernel.Counted
  pending : ∀ run usage, kernel.run = some run → run.pending = some usage → ∀ field,
    addAmount (run.cumulativeUsage.get? field) (usage.get? field) = spent field kernel.history
  restorable : kernel.isBetween = false ∨ latestCumulative kernel.history = none → ∀ field,
    (restoredUsage kernel.history).get? field = spent field kernel.history

/-- The cumulative events of a longer history, when the event that is added is right. -/
theorem written_concat {events : List PiEvent}
    (written : ∀ early cumulative late, events = early ++ .usageUpdated cumulative :: late → ∀ field, cumulative.get? field = spent field early)
    (right : ∀ cumulative, event = .usageUpdated cumulative → ∀ field, cumulative.get? field = spent field events)
    (early : List PiEvent) (cumulative : UsageRecord) (late : List PiEvent)
    (placed : events ++ [event] = early ++ .usageUpdated cumulative :: late) (field : String) :
    cumulative.get? field = spent field early := by
  rcases List.eq_nil_or_concat late with none | ⟨front, last, isLast⟩
  · subst none
    rcases List.append_inj' placed rfl with ⟨same, isEvent⟩
    rw [← same]
    exact right cumulative (List.singleton_inj.1 isEvent) field
  · subst isLast
    rw [List.concat_eq_append, ← List.cons_append, ← List.append_assoc] at placed
    exact written early cumulative front (List.append_inj' placed rfl).1 field

variable {history : List PiEvent}

theorem Sound.start (sound : Sound { history, run := none }) :
    Sound
      { history
        run := some
          { turns := restoredTurnCount history
            cumulativeUsage := restoredUsage history
            pending := none } } where
  counted :=
    { turns := by
        intro run isRun
        cases isRun
        rfl
      held := by
        intro run isRun _
        cases isRun
        exact sound.restorable (Or.inl rfl)
      written := sound.counted.written }
  pending := by
    intro run usage isRun isPending
    cases isRun
    cases isPending
  restorable := fun _ => sound.restorable (Or.inl rfl)

variable {cumulativeUsage : UsageRecord}

theorem Sound.turnEnd {turns : Nat}
    (sound : Sound { history, run := some { turns, cumulativeUsage, pending := none } })
    (turn : PiTurn) :
    Sound
      { history := history ++ [.progress "turn_finished" turn.counted]
        run := some { turns := turns + 1, cumulativeUsage, pending := turn.counted } } := by
  have counts : turns = history.countP PiEvent.isTurn := sound.counted.turns _ rfl
  have holds := sound.counted.held _ rfl rfl
  have restores := sound.restorable (Or.inl rfl)
  have adds (field : String) :
      spent field (history ++ [.progress "turn_finished" turn.counted]) =
        addAmount (spent field history) (turn.counted.bind (fun usage => usage.get? field)) :=
    spent_concat field history _
  refine ⟨⟨?_, ?_, ?_⟩, ?_, ?_⟩
  · intro run isRun
    cases isRun
    simp [List.countP_append, PiEvent.isTurn, counts]
  · intro run isRun isNone field
    cases isRun
    have without : turn.counted = none := isNone
    rw [adds, without]
    exact holds field
  · exact written_concat sound.counted.written (by intro cumulative isUpdated; cases isUpdated)
  · intro run usage isRun isPending field
    cases isRun
    have used : turn.counted = some usage := isPending
    rw [adds, used, ← holds field]
    rfl
  · intro settled field
    rw [adds, ← restores field]
    cases used : turn.counted with
    | none =>
      rw [restoredUsage_concat_idle history rfl rfl]
      rfl
    | some usage =>
      have untold : latestCumulative history = none := by
        rcases settled with idle | untold
        · simp [isBetween, used] at idle
        · simpa [latestCumulative_concat, PiEvent.cumulative?] using untold
      rw [restoredUsage_concat_none untold rfl]
      exact get?_mergeUsage _ usage field

theorem Sound.updateUsage {turns : Nat} {usage : UsageRecord}
    (sound : Sound { history, run := some { turns, cumulativeUsage, pending := some usage } }) :
    Sound
      { history := history ++ [.usageUpdated (mergeUsage cumulativeUsage usage)]
        run := some
          { turns, cumulativeUsage := mergeUsage cumulativeUsage usage, pending := none } } := by
  have counts : turns = history.countP PiEvent.isTurn := sound.counted.turns _ rfl
  have merged (field : String) :
      (mergeUsage cumulativeUsage usage).get? field = spent field history := by
    rw [get?_mergeUsage]
    exact sound.pending _ usage rfl rfl field
  have same (field : String) :
      spent field (history ++ [.usageUpdated (mergeUsage cumulativeUsage usage)]) =
        spent field history :=
    spent_concat field history _
  refine ⟨⟨?_, ?_, ?_⟩, ?_, ?_⟩
  · intro run isRun
    cases isRun
    simp [List.countP_append, PiEvent.isTurn, counts]
  · intro run isRun _ field
    cases isRun
    rw [same]
    exact merged field
  · apply written_concat sound.counted.written
    intro cumulative isUpdated
    cases isUpdated
    exact merged
  · intro run other isRun isPending
    cases isRun
    cases isPending
  · intro _ field
    rw [restoredUsage_updated, same]
    exact merged field

variable {run : Option CountingRun}

theorem Sound.append (sound : Sound { history, run }) (plain : event.isPlain = true) :
    Sound { history := history ++ [event], run } := by
  have silent : event.cumulative? = none ∧ event.progressUsage = none ∧ event.isTurn = false := by
    cases event with
    | progress phase usage => simpa [PiEvent.isPlain, PiEvent.cumulative?, PiEvent.progressUsage,
        PiEvent.isTurn, and_comm] using plain
    | usageUpdated cumulative => cases plain
    | other type => exact ⟨rfl, rfl, rfl⟩
  rcases silent with ⟨silent, idle, noTurn⟩
  have same (field : String) : spent field (history ++ [event]) = spent field history := by
    rw [spent_concat, PiEvent.amount, noTurn]
    rfl
  refine ⟨⟨?_, ?_, ?_⟩, ?_, ?_⟩
  · intro active isRun
    simpa [List.countP_append, noTurn] using sound.counted.turns active isRun
  · intro active isRun isNone field
    rw [same]
    exact sound.counted.held active isRun isNone field
  · apply written_concat sound.counted.written
    intro cumulative isUpdated
    rw [isUpdated] at silent
    cases silent
  · intro active usage isRun isPending field
    rw [same]
    exact sound.pending active usage isRun isPending field
  · intro settled field
    rw [restoredUsage_concat_idle history silent idle, same]
    refine sound.restorable (settled.imp id ?_) field
    intro untold
    simpa [latestCumulative_concat, silent] using untold

theorem Sound.crash (sound : Sound { history, run })
    (recorded : isBetween { history, run } = false ∨ latestCumulative history = none) :
    Sound { history, run := none } where
  counted :=
    { turns := by intro active isRun; cases isRun
      held := by intro active isRun; cases isRun
      written := sound.counted.written }
  pending := by intro active usage isRun; cases isRun
  restorable := fun _ => sound.restorable recorded

/-- A crash does not come between the two events of a turn, unless no cumulative event has
been written before. -/
def LosesNoTurn (move : Move CountingKernel Action) : Prop :=
  move.label = .crash →
    move.before.isBetween = false ∨ latestCumulative move.before.history = none

theorem Sound.step {action : Action} (sound : Sound before) (taken : Step before action after)
    (loses : LosesNoTurn ⟨before, action, after⟩) :
    Sound after := by
  cases taken with
  | start history unfinished => exact sound.start
  | turnEnd history turns cumulativeUsage turn => exact sound.turnEnd turn
  | updateUsage history turns cumulativeUsage usage => exact sound.updateUsage
  | append history run event plain => exact sound.append plain
  | crash history run => exact sound.crash (loses rfl)

theorem initial_sound : Sound initial where
  counted :=
    { turns := by intro run isRun; cases isRun
      held := by intro run isRun; cases isRun
      written := by intro early cumulative late placed; cases early <;> cases placed }
  pending := by intro run usage isRun; cases isRun
  restorable := fun _ _ => rfl

/-- Along a run in which no crash loses a turn the counts are those of the history. -/
theorem usage_counted_once {trace : List (Move CountingKernel Action)} {last : CountingKernel}
    (run : Foundation.Run Step initial trace last) (loses : ∀ move ∈ trace, LosesNoTurn move) :
    last.Counted := by
  have sound : Sound last := by
    apply run.keeps Sound _ initial_sound
    intro move member taken held
    exact held.step taken (loses move member)
  exact sound.counted

def fiveTokens : PiTurn :=
  { stopReason := .stop
    usage := some
      { input := some 5
        output := none
        cacheRead := none
        cacheWrite := none
        reasoning := none
        costTotal := none } }

def fiveUsage : UsageRecord := OrderedMap.empty.set "input" 5

def firstTotal : UsageRecord := mergeUsage OrderedMap.empty fiveUsage

def firstTurn : List PiEvent :=
  [.progress "turn_finished" fiveTokens.counted, .usageUpdated firstTotal]

def afterFirstTurn : CountingKernel :=
  { history := firstTurn
    run := some { turns := 1, cumulativeUsage := firstTotal, pending := none } }

theorem afterFirstTurn_run :
    Foundation.Run Step initial
      [⟨initial, .start, { history := [], run := some ⟨0, OrderedMap.empty, none⟩ }⟩,
        ⟨{ history := [], run := some ⟨0, OrderedMap.empty, none⟩ }, .turnEnd fiveTokens,
          { history := [.progress "turn_finished" fiveTokens.counted],
            run := some ⟨1, OrderedMap.empty, fiveTokens.counted⟩ }⟩,
        ⟨{ history := [.progress "turn_finished" fiveTokens.counted],
            run := some ⟨1, OrderedMap.empty, fiveTokens.counted⟩ }, .updateUsage, afterFirstTurn⟩]
      afterFirstTurn :=
  .cons (.start [] (by simp))
    (.cons (.turnEnd [] 0 OrderedMap.empty fiveTokens)
      (.cons (.updateUsage _ 1 OrderedMap.empty fiveUsage) (.nil _)))

theorem first_turn_counted : afterFirstTurn.Counted := by
  apply usage_counted_once afterFirstTurn_run
  simp [LosesNoTurn]

/-- A restart after a crash between the two events of the second turn forgets its usage. -/
theorem second_turn_forgotten :
    ∃ trace last, Foundation.Run Step initial trace last ∧ ¬ last.Counted := by
  have lost := (((afterFirstTurn_run.append
    (.single (.turnEnd firstTurn 1 firstTotal fiveTokens))).append
    (.single (.crash _ _))).append
    (.single (.start (firstTurn ++ [.progress "turn_finished" fiveTokens.counted]) (by decide))))
  refine ⟨_, _, lost, ?_⟩
  intro counted
  have kept : firstTotal.get? "input" = _ := counted.held _ rfl rfl "input"
  exact absurd kept (by decide +kernel)

end CountingKernel

end AnnaAgent.Pi
