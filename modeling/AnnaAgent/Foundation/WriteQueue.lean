/-
Stores that keep their records in memory and write them to a file.

An operation works on a copy of the records.  When it does not throw, the copy
is written to the file, and when the write has succeeded the copy becomes the
records in memory.  Operations go through a queue: one begins when the one
before it has ended.  Reads see the records in memory at any time.
-/

import Mathlib.Data.List.Induction
import AnnaAgent.Foundation.Run

namespace AnnaAgent.Foundation

/-- What a store does: the file and its reader, the write, and the effect of
an operation on the records. -/
structure WriteQueue (File State Operation Answer Error : Type) where
  reads : File → Except Error State
  persist : State → File → File
  mutation : Operation → State → Except Error (Answer × State)

namespace WriteQueue

inductive Phase (State Operation Answer : Type) where
  | idle
  | writing (operation : Operation) (answer : Answer) (candidate : State)
  | written (operation : Operation) (answer : Answer) (candidate : State)

/-- A store: before the first successful load there are no records in memory. -/
structure Store (File State Operation Answer Error : Type) where
  file : File
  state : Option State
  waiting : List Operation
  phase : Phase State Operation Answer
  settled : List (Operation × Except Error Answer)

inductive Event (Operation Error : Type) where
  | loaded
  | loadFailed (operation : Operation)
  | called (operation : Operation)
  | aborted
  | begun
  | persistFailed (error : Error)
  | persisted
  | installed

variable {File State Operation Answer Error : Type}

def fresh (file : File) : Store File State Operation Answer Error :=
  { file := file
    state := none
    waiting := []
    phase := .idle
    settled := [] }

def Store.settle (store : Store File State Operation Answer Error) (operation : Operation)
    (outcome : Except Error Answer) : Store File State Operation Answer Error :=
  { store with
    phase := .idle
    settled := store.settled ++ [(operation, outcome)] }

inductive Step (queue : WriteQueue File State Operation Answer Error) :
    Store File State Operation Answer Error → Event Operation Error →
    Store File State Operation Answer Error → Prop
  | loaded {store : Store File State Operation Answer Error} {state : State}
      (unloaded : store.state = none) (readable : queue.reads store.file = .ok state) :
      Step queue store .loaded { store with state := some state }
  | loadFailed {store : Store File State Operation Answer Error} {error : Error}
      (operation : Operation) (unloaded : store.state = none)
      (unreadable : queue.reads store.file = .error error) :
      Step queue store (.loadFailed operation)
        { store with settled := store.settled ++ [(operation, .error error)] }
  | called {store : Store File State Operation Answer Error} {state : State}
      (operation : Operation) (present : store.state = some state) :
      Step queue store (.called operation)
        { store with waiting := store.waiting ++ [operation] }
  | aborted {store : Store File State Operation Answer Error} {state : State}
      {operation : Operation} {rest : List Operation} {error : Error}
      (idle : store.phase = .idle) (present : store.state = some state)
      (first : store.waiting = operation :: rest)
      (throws : queue.mutation operation state = .error error) :
      Step queue store .aborted ({ store with waiting := rest }.settle operation (.error error))
  | begun {store : Store File State Operation Answer Error} {state candidate : State}
      {operation : Operation} {rest : List Operation} {answer : Answer}
      (idle : store.phase = .idle) (present : store.state = some state)
      (first : store.waiting = operation :: rest)
      (mutated : queue.mutation operation state = .ok (answer, candidate)) :
      Step queue store .begun
        { store with
          waiting := rest
          phase := .writing operation answer candidate }
  | persistFailed {store : Store File State Operation Answer Error} {operation : Operation}
      {answer : Answer} {candidate : State} (error : Error)
      (writes : store.phase = .writing operation answer candidate) :
      Step queue store (.persistFailed error) (store.settle operation (.error error))
  | persisted {store : Store File State Operation Answer Error} {operation : Operation}
      {answer : Answer} {candidate : State}
      (writes : store.phase = .writing operation answer candidate) :
      Step queue store .persisted
        { store with
          file := queue.persist candidate store.file
          phase := .written operation answer candidate }
  | installed {store : Store File State Operation Answer Error} {operation : Operation}
      {answer : Answer} {candidate : State}
      (wrote : store.phase = .written operation answer candidate) :
      Step queue store .installed
        ({ store with state := some candidate }.settle operation (.ok answer))

variable {queue : WriteQueue File State Operation Answer Error}

/-- The settled operations, one after the other: an operation with an answer
has made its change, and one with an error has changed nothing. -/
inductive Serial (queue : WriteQueue File State Operation Answer Error) (start : State) :
    List (Operation × Except Error Answer) → State → Prop
  | nil : Serial queue start [] start
  | took {done : List (Operation × Except Error Answer)} {before after : State}
      {operation : Operation} {answer : Answer} (earlier : Serial queue start done before)
      (mutated : queue.mutation operation before = .ok (answer, after)) :
      Serial queue start (done ++ [(operation, .ok answer)]) after
  | failed {done : List (Operation × Except Error Answer)} {state : State}
      {operation : Operation} (error : Error) (earlier : Serial queue start done state) :
      Serial queue start (done ++ [(operation, .error error)]) state

variable {done : List (Operation × Except Error Answer)}
  {before : Store File State Operation Answer Error} {event : Event Operation Error}
  {start state : State}

theorem Serial.keeps (serial : Serial queue start done state) (P : State → Prop)
    (kept : ∀ operation before answer after, queue.mutation operation before = .ok (answer, after) → P before → P after)
    (initial : P start) : P state := by
  induction serial with
  | nil => exact initial
  | took earlier mutated ih => exact kept _ _ _ _ mutated ih
  | failed error earlier ih => exact ih

theorem Serial.after (serial : Serial queue start done state) {operation : Operation}
    {answer : Answer} (member : (operation, Except.ok answer) ∈ done) (I P : State → Prop)
    (keepsI : ∀ operation before answer after, queue.mutation operation before = .ok (answer, after) → I before → I after)
    (establishes : ∀ before after, queue.mutation operation before = .ok (answer, after) → I before → P after)
    (keepsP : ∀ operation before answer after, queue.mutation operation before = .ok (answer, after) → I before → P before → P after)
    (initial : I start) : P state := by
  induction serial with
  | nil => exact absurd member List.not_mem_nil
  | @took done before after last lastAnswer earlier mutated ih =>
    have held := earlier.keeps I keepsI initial
    rcases List.mem_append.1 member with old | new
    · exact keepsP _ _ _ _ mutated held (ih old)
    · cases List.mem_singleton.1 new
      exact establishes _ _ mutated held
  | failed error earlier ih =>
    rcases List.mem_append.1 member with old | new
    · exact ih old
    · cases List.mem_singleton.1 new

/-- The operation that is being written changes the records in memory into
its candidate. -/
def Phase.Follows (queue : WriteQueue File State Operation Answer Error) (state : State) :
    Phase State Operation Answer → Prop
  | .idle => True
  | .writing operation answer candidate => queue.mutation operation state = .ok (answer, candidate)
  | .written operation answer candidate => queue.mutation operation state = .ok (answer, candidate)

/-- The records in memory, or the records about to be installed when the file
has been written already. -/
def Phase.onDisk (state : State) : Phase State Operation Answer → State
  | .written _ _ candidate => candidate
  | _ => state

structure Sound (queue : WriteQueue File State Operation Answer Error) (start state : State)
    (store : Store File State Operation Answer Error) : Prop where
  memory : store.state = some state
  serial : Serial queue start store.settled state
  follows : store.phase.Follows queue state
  file : (∀ state file, queue.reads (queue.persist state file) = .ok state) →
    queue.reads store.file = .ok (store.phase.onDisk state)

/-- A store that has not been loaded. -/
structure Unloaded (file : File) (store : Store File State Operation Answer Error) : Prop where
  memory : store.state = none
  file : store.file = file
  idle : store.phase = .idle
  failures : ∀ outcome ∈ store.settled, ∃ error, outcome.2 = .error error

theorem serial_of_failures (state : State)
    (failures : ∀ outcome ∈ done, ∃ error, outcome.2 = .error error) :
    Serial queue state done state := by
  induction done using List.reverseRecOn with
  | nil => exact .nil
  | append_singleton earlier last ih =>
    rcases last with ⟨operation, outcome⟩
    rcases failures _ (List.mem_append_right _ List.mem_cons_self) with ⟨error, isError⟩
    change outcome = .error error at isError
    rw [isError]
    apply Serial.failed
    apply ih
    intro outcome member
    exact failures outcome (List.mem_append_left _ member)

def Kept (queue : WriteQueue File State Operation Answer Error) (file : File)
    (store : Store File State Operation Answer Error) : Prop :=
  Unloaded file store ∨ ∃ start state, queue.reads file = .ok start ∧ Sound queue start state store

variable {after : Store File State Operation Answer Error}

theorem Sound.step (step : Step queue before event after) (sound : Sound queue start state before) :
    ∃ state', Sound queue start state' after := by
  cases step with
  | loaded unloaded _ | loadFailed _ unloaded _ =>
    rw [sound.memory] at unloaded
    cases unloaded
  | called operation present =>
    exact ⟨state, sound.memory, sound.serial, sound.follows, sound.file⟩
  | aborted idle present first throws =>
    have file := sound.file
    rw [idle] at file
    exact ⟨state, sound.memory, sound.serial.failed _, trivial, file⟩
  | begun idle present first mutated =>
    have file := sound.file
    rw [idle] at file
    rw [sound.memory] at present
    cases present
    exact ⟨state, sound.memory, sound.serial, mutated, file⟩
  | persistFailed error writes =>
    have file := sound.file
    rw [writes] at file
    exact ⟨state, sound.memory, sound.serial.failed error, trivial, file⟩
  | persisted writes =>
    have follows := sound.follows
    rw [writes] at follows
    exact ⟨state, sound.memory, sound.serial, follows, fun roundTrip => roundTrip _ _⟩
  | installed wrote =>
    have follows := sound.follows
    have file := sound.file
    rw [wrote] at follows file
    exact ⟨_, rfl, sound.serial.took follows, trivial, file⟩

theorem Unloaded.step {file : File} (step : Step queue before event after)
    (unloaded : Unloaded file before) :
    Kept queue file after := by
  cases step with
  | loaded _ readable =>
    have isRead := readable
    rw [unloaded.file] at isRead
    refine Or.inr ⟨_, _, isRead, rfl, serial_of_failures _ unloaded.failures, ?_, ?_⟩
    · change Phase.Follows queue _ before.phase
      rw [unloaded.idle]
      exact trivial
    · intro _
      change queue.reads before.file = .ok (before.phase.onDisk _)
      rw [unloaded.idle]
      exact readable
  | loadFailed operation _ unreadable =>
    refine Or.inl ⟨unloaded.memory, unloaded.file, unloaded.idle, ?_⟩
    intro outcome member
    rcases List.mem_append.1 member with old | new
    · exact unloaded.failures outcome old
    · rw [List.mem_singleton.1 new]
      exact ⟨_, rfl⟩
  | called _ present | aborted _ present _ _ | begun _ present _ _ =>
    rw [unloaded.memory] at present
    cases present
  | persistFailed _ writes | persisted writes =>
    rw [unloaded.idle] at writes
    cases writes
  | installed wrote =>
    rw [unloaded.idle] at wrote
    cases wrote

theorem kept_of_reachable {file : File} {store : Store File State Operation Answer Error}
    (reached : Reachable (Step queue) (fresh file) store) : Kept queue file store := by
  apply reached.invariant (Kept queue file)
  · intro before event after step kept
    rcases kept with unloaded | ⟨start, state, isStart, sound⟩
    · exact unloaded.step step
    · rcases sound.step step with ⟨state', sound'⟩
      exact Or.inr ⟨start, state', isStart, sound'⟩
  · exact Or.inl ⟨rfl, rfl, rfl, nofun⟩

theorem failing_step_changes_nothing (step : Step queue before event after) {operation : Operation}
    {error : Error} (failed : after.settled = before.settled ++ [(operation, .error error)]) :
    after.state = before.state ∧ after.file = before.file := by
  have longer : ∀ {items : List (Operation × Except Error Answer)} {item},
      items ≠ items ++ [item] := by
    intro items item same
    have lengths := congrArg List.length same
    rw [List.length_append, List.length_singleton] at lengths
    omega
  cases step with
  | loaded | called | begun | persisted => exact absurd failed longer
  | loadFailed | aborted | persistFailed => exact ⟨rfl, rfl⟩
  | installed wrote =>
    have same := List.append_cancel_left failed
    cases same

end WriteQueue

end AnnaAgent.Foundation
