/-
What programs guarantee while others interfere.

A contract says which requests an owner may make in which shared states, and
what all processes rely on: an invariant, and a preorder that everything that
happens respects.  A program keeps the contract when each of its requests is
allowed at the moment it is answered, whatever has happened since the answer
before.  When all programs that are started keep it, every request of every
run is allowed and the invariant holds throughout.
-/

import AnnaAgent.Foundation.Interleaving
import AnnaAgent.Foundation.Solo

namespace AnnaAgent.Foundation

structure Contract (Shared Owner Request : Type) (Response : Request → Type)
    (Error : Type) where
  host : Host Shared Owner Request Response Error
  /-- What a program may rely on between two of its requests. -/
  later : Shared → Shared → Prop
  respects : host.Respects later
  inv : Shared → Prop
  allowed : Owner → Request → Shared → Prop
  keeps : ∀ {owner request before answer after},
    host.performs owner request before answer after → inv before → allowed owner request before →
    inv after
  stops : ∀ {owner before after}, host.stops owner before after → inv before → inv after
  drifts : ∀ {before after}, host.drifts before after → inv before → inv after

namespace Contract

variable {Shared Owner Request : Type} {Response : Request → Type} {Error α β : Type}
  (contract : Contract Shared Owner Request Response Error)

/-- A postcondition holds from the end of the program on. -/
def Ensures (owner : Owner) (program : Program Request Response Error α)
    (post : Except Error α → Shared → Prop) (shared : Shared) : Prop :=
  match program with
  | .pure value =>
    ∀ now, contract.later shared now → contract.inv now → post (.ok value) now
  | .throw error =>
    ∀ now, contract.later shared now → contract.inv now → post (.error error) now
  | .ask request next =>
    ∀ before, contract.later shared before → contract.inv before →
      contract.allowed owner request before ∧
        ∀ answer after, contract.host.performs owner request before answer after →
          Ensures owner (next answer) post after

variable {contract} {owner : Owner} {shared : Shared} {post : Except Error α → Shared → Prop}

theorem ensures_later {program : Program Request Response Error α} {now : Shared}
    (ensures : contract.Ensures owner program post shared) (later : contract.later shared now) :
    contract.Ensures owner program post now := by
  cases program with
  | pure value | throw error =>
    intro after afterLater
    exact ensures after (contract.respects.trans later afterLater)
  | ask request next =>
    intro before beforeLater
    exact ensures before (contract.respects.trans later beforeLater)

/-- It is enough to look at the later states in which the invariant holds. -/
theorem ensures_of_later {program : Program Request Response Error α}
    (ensures : ∀ now, contract.later shared now → contract.inv now →
      contract.Ensures owner program post now) : contract.Ensures owner program post shared := by
  cases program with
  | pure value | throw error | ask request next =>
    intro now later held
    exact ensures now later held now (contract.respects.refl now) held

theorem ensures_mono {program : Program Request Response Error α}
    {weaker : Except Error α → Shared → Prop}
    (ensures : contract.Ensures owner program post shared)
    (weakens : ∀ outcome now, post outcome now → weaker outcome now) :
    contract.Ensures owner program weaker shared := by
  induction program generalizing shared with
  | pure value | throw error =>
    intro now later held
    exact weakens _ now (ensures now later held)
  | ask request next ih =>
    intro before later held
    refine ⟨(ensures before later held).1, ?_⟩
    intro answer after performed
    exact ih answer ((ensures before later held).2 answer after performed)

/-- The state at the end is later than any state before the start. -/
theorem ensures_since {program : Program Request Response Error α} {start : Shared}
    (ensures : contract.Ensures owner program post shared) (since : contract.later start shared) :
    contract.Ensures owner program
      (fun outcome now => post outcome now ∧ contract.later start now) shared := by
  induction program generalizing shared with
  | pure value | throw error =>
    intro now later held
    exact ⟨ensures now later held, contract.respects.trans since later⟩
  | ask request next ih =>
    intro before later held
    refine ⟨(ensures before later held).1, ?_⟩
    intro answer after performed
    exact ih answer ((ensures before later held).2 answer after performed)
      (contract.respects.trans since
        (contract.respects.trans later (contract.respects.performs performed)))

variable {next : α → Program Request Response Error β}

/-- What follows a program relies on its postcondition. -/
theorem ensures_bind {program : Program Request Response Error α}
    {middle : Except Error α → Shared → Prop} {post : Except Error β → Shared → Prop}
    (first : contract.Ensures owner program middle shared)
    (second : ∀ value now, contract.later shared now → contract.inv now → middle (.ok value) now → contract.Ensures owner (next value) post now)
    (failed : ∀ error now, contract.later shared now → contract.inv now → middle (.error error) now → post (.error error) now) :
    contract.Ensures owner (program.bind next) post shared := by
  induction program generalizing shared with
  | pure value =>
    apply ensures_of_later
    intro now later held
    exact second value now later held (first now later held)
  | throw error =>
    intro now later held
    exact failed error now later held (first now later held)
  | ask request more ih =>
    intro before later held
    refine ⟨(first before later held).1, ?_⟩
    intro answer after performed
    have afterLater := contract.respects.trans later (contract.respects.performs performed)
    refine ih answer ((first before later held).2 answer after performed) ?_ ?_
    · intro value now nowLater
      exact second value now (contract.respects.trans afterLater nowLater)
    · intro error now nowLater
      exact failed error now (contract.respects.trans afterLater nowLater)

/-- What follows a program that ensures nothing. -/
theorem ensures_then {program : Program Request Response Error α}
    {post : Except Error β → Shared → Prop}
    (first : contract.Ensures owner program (fun _ _ => True) shared)
    (second : ∀ value now, contract.later shared now → contract.inv now → contract.Ensures owner (next value) post now)
    (failed : ∀ error now, contract.later shared now → contract.inv now → post (.error error) now) :
    contract.Ensures owner (program.bind next) post shared :=
  ensures_bind first (fun value now later held _ => second value now later held)
    (fun error now later held _ => failed error now later held)

theorem ensures_assoc {γ : Type} {program : Program Request Response Error α}
    {rest : β → Program Request Response Error γ} {post : Except Error γ → Shared → Prop}
    (ensures : contract.Ensures owner (program.bind (fun value => (next value).bind rest)) post shared) :
    contract.Ensures owner ((program.bind next).bind rest) post shared := by
  rw [Program.bind_assoc]
  exact ensures

theorem ensures_attempt {program : Program Request Response Error α}
    {post : Except Error (Except Error α) → Shared → Prop}
    (ensures : contract.Ensures owner program (fun outcome => post (.ok outcome)) shared) :
    contract.Ensures owner program.attempt post shared := by
  induction program generalizing shared with
  | pure value => exact ensures
  | throw error => exact ensures
  | ask request more ih =>
    intro before later held
    refine ⟨(ensures before later held).1, ?_⟩
    intro answer after performed
    exact ih answer ((ensures before later held).2 answer after performed)

variable {request : Request}

theorem ensures_call {next : Response request → Program Request Response Error β}
    {post : Except Error β → Shared → Prop}
    (allowed : ∀ before, contract.later shared before → contract.inv before → contract.allowed owner
      request before)
    (answered : ∀ before, contract.later shared before → contract.inv before → ∀ value after,
      contract.host.performs owner request before (.ok value) after → contract.inv after →
      contract.Ensures owner (next value) post after)
    (failed : ∀ error now, contract.later shared now → contract.inv now → post (.error error) now) :
    contract.Ensures owner ((Program.call request).bind next) post shared := by
  rw [Program.call_bind]
  intro before later held
  have isAllowed := allowed before later held
  refine ⟨isAllowed, ?_⟩
  intro answer after performed
  cases answer with
  | ok value =>
    exact answered before later held value after performed (contract.keeps performed held isAllowed)
  | error error =>
    intro now nowLater
    exact failed error now (contract.respects.trans later
      (contract.respects.trans (contract.respects.performs performed) nowLater))

/-- A request that never fails. -/
theorem ensures_call_total {next : Response request → Program Request Response Error β}
    {post : Except Error β → Shared → Prop}
    (total : ∀ before error after, ¬ contract.host.performs owner request before (.error error)
      after)
    (allowed : ∀ before, contract.later shared before → contract.inv before → contract.allowed owner
      request before)
    (answered : ∀ before, contract.later shared before → contract.inv before → ∀ value after,
      contract.host.performs owner request before (.ok value) after → contract.inv after →
      contract.Ensures owner (next value) post after) :
    contract.Ensures owner ((Program.call request).bind next) post shared := by
  rw [Program.call_bind]
  intro before later held
  have isAllowed := allowed before later held
  refine ⟨isAllowed, ?_⟩
  intro answer after performed
  cases answer with
  | ok value =>
    exact answered before later held value after performed (contract.keeps performed held isAllowed)
  | error error => exact absurd performed (total before error after)

/-- A request whose answer says nothing the rest depends on. -/
theorem ensures_call_any {next : Response request → Program Request Response Error β}
    {post : Except Error β → Shared → Prop}
    (allowed : ∀ before, contract.later shared before → contract.inv before → contract.allowed owner
      request before)
    (answered : ∀ value now, contract.later shared now → contract.inv now → contract.Ensures owner
      (next value) post now)
    (failed : ∀ error now, contract.later shared now → contract.inv now → post (.error error) now) :
    contract.Ensures owner ((Program.call request).bind next) post shared :=
  ensures_call allowed
    (fun _ later _ value after performed => answered value after
      (contract.respects.trans later (contract.respects.performs performed))) failed

theorem ensures_request {post : Except Error (Response request) → Shared → Prop}
    (allowed : ∀ before, contract.later shared before → contract.inv before → contract.allowed owner
      request before)
    (answered : ∀ answer now, contract.later shared now → contract.inv now → post answer now) :
    contract.Ensures owner (Program.call request) post shared := by
  intro before later held
  refine ⟨allowed before later held, ?_⟩
  intro answer after performed
  have afterLater := contract.respects.trans later (contract.respects.performs performed)
  cases answer with
  | ok value =>
    intro now nowLater
    exact answered (.ok value) now (contract.respects.trans afterLater nowLater)
  | error error =>
    intro now nowLater
    exact answered (.error error) now (contract.respects.trans afterLater nowLater)

theorem ensures_of_asks {program : Program Request Response Error α} {asked : Request → Prop}
    (asks : program.Asks asked)
    (allowed : ∀ request, asked request → ∀ now, contract.later shared now → contract.inv now →
      contract.allowed owner request now) :
    contract.Ensures owner program (fun _ _ => True) shared := by
  induction program generalizing shared with
  | pure value | throw error => exact fun _ _ _ => trivial
  | ask request next ih =>
    intro before later held
    refine ⟨allowed request asks.1 before later held, ?_⟩
    intro answer after performed
    refine ih answer (asks.2 answer) ?_
    intro other isAsked now nowLater
    exact allowed other isAsked now (contract.respects.trans later
      (contract.respects.trans (contract.respects.performs performed) nowLater))

theorem ensures_pure {value : α}
    (ensures : ∀ now, contract.later shared now → contract.inv now → post (.ok value) now) :
    contract.Ensures owner (.pure value) post shared := ensures

theorem ensures_built {part : (γ : Type) → Program Request Response Error γ → Prop}
    (parts : ∀ {γ : Type} {program : Program Request Response Error γ}, part γ program →
      ∀ now, contract.Ensures owner program (fun _ _ => True) now)
    {program : Program Request Response Error α} (built : Program.Built part α program) :
    contract.Ensures owner program (fun _ _ => True) shared := by
  induction built generalizing shared with
  | pure value | throw error => exact fun _ _ _ => trivial
  | part isPart => exact parts isPart _
  | bind first second ihFirst ihSecond =>
    exact ensures_then ihFirst (fun value _ _ _ => ihSecond value) (fun _ _ _ _ => trivial)
  | attempt body ih => exact ensures_attempt (ensures_mono ih (fun _ _ _ => trivial))

theorem ensures_lift_bind {value : Except Error α} {post : Except Error β → Shared → Prop}
    (ensures : ∀ result, value = .ok result → contract.Ensures owner (next result) post shared)
    (failed : ∀ error, value = .error error → ∀ now, contract.later shared now → contract.inv now → post (.error error) now) :
    contract.Ensures owner ((Program.lift value).bind next) post shared := by
  cases value with
  | error error => exact failed error rfl
  | ok result => exact ensures result rfl

/-! ### Runs -/

section Runs

variable [DecidableEq Owner]

def Admits (contract : Contract Shared Owner Request Response Error) : Prop :=
  ∀ owner program shared, contract.host.starts owner program shared → contract.inv shared →
    contract.Ensures owner program (fun _ _ => True) shared

structure Kept (contract : Contract Shared Owner Request Response Error)
    (crowd : Crowd Shared Owner Request Response Error) : Prop where
  inv : contract.inv crowd.shared
  programs : ∀ process ∈ crowd.processes,
    contract.Ensures process.owner process.program (fun _ _ => True) crowd.shared

def MoveAllowed (contract : Contract Shared Owner Request Response Error)
    (move : Move (Crowd Shared Owner Request Response Error)
      (Happening Owner Request Response Error)) : Prop :=
  ∀ owner request answer, move.label = .answered owner request answer →
    contract.allowed owner request move.before.shared

variable {last : Crowd Shared Owner Request Response Error}

theorem step_kept (admits : contract.Admits) {first : Crowd Shared Owner Request Response Error}
    {happening : Happening Owner Request Response Error}
    (step : contract.host.Step first happening last) (kept : contract.Kept first) :
    contract.Kept last ∧ contract.MoveAllowed ⟨first, happening, last⟩ := by
  have later := contract.respects.step step
  have others : ∀ process ∈ first.processes,
      contract.Ensures process.owner process.program (fun _ _ => True) last.shared :=
    fun process member => ensures_later (kept.programs process member) later
  cases step with
  | @answered before after processes index owner request next answer waiting performed =>
    have ensures := kept.programs _ (List.mem_of_getElem? waiting) before
      (contract.respects.refl before) kept.inv
    refine ⟨⟨contract.keeps performed kept.inv ensures.1, ?_⟩, ?_⟩
    · intro process member
      rcases List.mem_or_eq_of_mem_set member with old | isNew
      · exact others process old
      · rw [isNew]
        exact ensures.2 answer after performed
    · intro _ _ _ same
      cases same
      exact ensures.1
  | @started shared processes owner program called =>
    refine ⟨⟨kept.inv, ?_⟩, fun _ _ _ same => nomatch same⟩
    intro process member
    rcases List.mem_append.1 member with old | isNew
    · exact others process old
    · rw [List.mem_singleton.1 isNew]
      exact admits owner program shared called kept.inv
  | @stopped before after processes owner crashed =>
    refine ⟨⟨contract.stops crashed kept.inv, ?_⟩, fun _ _ _ same => nomatch same⟩
    intro process member
    exact others process (List.mem_filter.1 member).1
  | drifted changed =>
    exact ⟨⟨contract.drifts changed kept.inv, others⟩, fun _ _ _ same => nomatch same⟩

theorem run_kept (admits : contract.Admits) {first : Crowd Shared Owner Request Response Error}
    {trace : List (Move (Crowd Shared Owner Request Response Error) (Happening Owner Request
      Response Error))} (run : Run contract.host.Step first trace last) (kept : contract.Kept first) :
    contract.Kept last ∧
      ∀ move ∈ trace, contract.inv move.before.shared ∧ contract.MoveAllowed move := by
  induction run with
  | nil crowd => exact ⟨kept, nofun⟩
  | cons step run ih =>
    rcases step_kept admits step kept with ⟨keptNext, isAllowed⟩
    rcases ih keptNext with ⟨keptLast, restAllowed⟩
    refine ⟨keptLast, ?_⟩
    intro move member
    rcases List.mem_cons.1 member with isFirst | isLater
    · rw [isFirst]
      exact ⟨kept.inv, isAllowed⟩
    · exact restAllowed move isLater

/-- Starting without processes in a state with the invariant, every request of
a run is allowed. -/
theorem run_allowed (admits : contract.Admits) {start : Shared} (initial : contract.inv start)
    {trace : List (Move (Crowd Shared Owner Request Response Error) (Happening Owner Request
      Response Error))} (run : Run contract.host.Step ⟨start, []⟩ trace last) :
    contract.inv last.shared ∧
      ∀ move ∈ trace, contract.inv move.before.shared ∧ contract.MoveAllowed move := by
  have kept := run_kept admits run ⟨initial, nofun⟩
  exact ⟨kept.1.inv, kept.2⟩

end Runs

end Contract

section Within

variable {Shared Owner Request : Type} {Response : Request → Type} {Error : Type}

def Host.within (host : Host Shared Owner Request Response Error)
    (meets : Owner → (request : Request) → Shared → Except Error (Response request) → Prop) :
    Host Shared Owner Request Response Error :=
  { host with
    performs := fun owner request before answer after =>
      host.performs owner request before answer after ∧ meets owner request before answer }

def MoveMeets
    (meets : Owner → (request : Request) → Shared → Except Error (Response request) → Prop)
    (move : Move (Crowd Shared Owner Request Response Error)
      (Happening Owner Request Response Error)) : Prop :=
  ∀ owner request answer, move.label = .answered owner request answer →
    meets owner request move.before.shared answer

theorem run_within [DecidableEq Owner] {host : Host Shared Owner Request Response Error}
    {meets : Owner → (request : Request) → Shared → Except Error (Response request) → Prop}
    {first last : Crowd Shared Owner Request Response Error}
    {trace : List (Move (Crowd Shared Owner Request Response Error)
      (Happening Owner Request Response Error))}
    (run : Run host.Step first trace last) (meet : ∀ move ∈ trace, MoveMeets meets move) :
    Run (host.within meets).Step first trace last := by
  induction run with
  | nil crowd => exact .nil crowd
  | @cons first middle last happening rest step run ih =>
    have rest := ih (fun move member => meet move (List.mem_cons_of_mem _ member))
    refine .cons ?_ rest
    have meetsNow : MoveMeets meets ⟨first, happening, middle⟩ := meet _ List.mem_cons_self
    cases step with
    | answered waiting performed =>
      exact .answered waiting ⟨performed, meetsNow _ _ _ rfl⟩
    | started called => exact .started called
    | stopped crashed => exact .stopped crashed
    | drifted changed => exact .drifted changed

end Within

end AnnaAgent.Foundation
