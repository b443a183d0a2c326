/-
Runs of a labelled transition system.

A run records every move it makes, so that statements about what happens
between two moves are statements about sublists of the record.  The rules
below are the ones an invariant, a monotone quantity and a "stays until"
argument need.
-/

import Mathlib.Logic.Relation
import Mathlib.Data.List.Basic

namespace AnnaAgent.Foundation

structure Move (State Label : Type) where
  before : State
  label : Label
  after : State

inductive Run {State Label : Type} (step : State → Label → State → Prop) :
    State → List (Move State Label) → State → Prop
  | nil (state : State) : Run step state [] state
  | cons {first middle last : State} {label : Label} {rest : List (Move State Label)}
      (move : step first label middle) (later : Run step middle rest last) :
      Run step first (⟨first, label, middle⟩ :: rest) last

namespace Run

variable {State Label : Type} {step : State → Label → State → Prop}
variable {first last : State} {early late trace : List (Move State Label)}

theorem append {middle : State} (start : Run step first early middle)
    (finish : Run step middle late last) : Run step first (early ++ late) last := by
  induction start with
  | nil state => exact finish
  | cons move later ih => exact .cons move (ih finish)

theorem single {label : Label} (move : step first label last) :
    Run step first [⟨first, label, last⟩] last :=
  .cons move (.nil last)

theorem split (run : Run step first (early ++ late) last) :
    ∃ middle, Run step first early middle ∧ Run step middle late last := by
  induction early generalizing first with
  | nil => exact ⟨first, .nil first, run⟩
  | cons head tail ih =>
    cases run with
    | cons move later =>
      obtain ⟨middle, start, finish⟩ := ih later
      exact ⟨middle, .cons move start, finish⟩

/-- A recorded move is a step, and the run passes through its two states. -/
theorem around {move : Move State Label} (run : Run step first (early ++ move :: late) last) :
    Run step first early move.before ∧ step move.before move.label move.after ∧
      Run step move.after late last := by
  rcases run.split with ⟨middle, start, finish⟩
  cases finish with
  | cons taken later => exact ⟨start, taken, later⟩

section

variable (run : Run step first trace last)

include run

theorem step_of_mem {move : Move State Label} (member : move ∈ trace) :
    step move.before move.label move.after := by
  obtain ⟨early, late, same⟩ := List.append_of_mem member
  subst same
  exact run.around.2.1

theorem keeps (P : State → Prop)
    (kept : ∀ move ∈ trace, step move.before move.label move.after → P move.before → P move.after)
    (start : P first) : P last := by
  induction run with
  | nil state => exact start
  | cons move later ih =>
    apply ih
    · intro other member
      exact kept other (List.mem_cons_of_mem _ member)
    · exact kept _ List.mem_cons_self move start

theorem invariant (P : State → Prop)
    (kept : ∀ before label after, step before label after → P before → P after) (start : P first) :
    P last :=
  run.keeps P (fun _ _ taken held => kept _ _ _ taken held) start

/-- A reflexive and transitive relation that every step respects relates the
ends of a run. -/
theorem relates (R : State → State → Prop) (refl : ∀ state, R state state)
    (trans : ∀ {left middle right}, R left middle → R middle right → R left right)
    (respects : ∀ before label after, step before label after → R before after) : R first last := by
  induction run with
  | nil state => exact refl state
  | cons move later ih => exact trans (respects _ _ _ move) ih

theorem stays_or (P : State → Prop) (Q : Move State Label → Prop)
    (kept : ∀ move ∈ trace, step move.before move.label move.after → P move.before → P move.after ∨ Q move)
    (start : P first) : P last ∨ ∃ move ∈ trace, Q move := by
  by_cases released : ∃ move ∈ trace, Q move
  · exact Or.inr released
  · refine Or.inl (run.keeps P ?_ start)
    intro move member taken held
    rcases kept move member taken held with stays | leaves
    · exact stays
    · exact absurd ⟨move, member, leaves⟩ released

/-- A budget that never grows and pays one for every counted move bounds their
number. -/
theorem countP_le_budget (P : State → Prop) (counted : Move State Label → Bool)
    (budget : State → Nat)
    (kept : ∀ move ∈ trace, step move.before move.label move.after → P move.before → P move.after)
    (pays : ∀ move ∈ trace, step move.before move.label move.after → P move.before → budget move.after + (if counted move = true then 1 else 0) ≤ budget move.before)
    (start : P first) : trace.countP counted + budget last ≤ budget first := by
  induction run with
  | nil state => exact Nat.le_of_eq (Nat.zero_add _)
  | @cons first middle last label rest move later ih =>
    have held := kept _ List.mem_cons_self move start
    have paid : budget middle + (if counted ⟨first, label, middle⟩ = true then 1 else 0) ≤
        budget first := pays _ List.mem_cons_self move start
    have rest := ih (fun other member => kept other (List.mem_cons_of_mem _ member))
      (fun other member => pays other (List.mem_cons_of_mem _ member)) held
    rw [List.countP_cons]
    omega

end

end Run

/-- The run of a deterministic system along a list of labels; a label that is
not enabled is passed over. -/
def follow {State Label : Type} (advance : State → Label → Option State) :
    List Label → State → List (Move State Label) × State
  | [], state => ([], state)
  | label :: rest, state =>
    match advance state label with
    | none => follow advance rest state
    | some after =>
      (⟨state, label, after⟩ :: (follow advance rest after).1, (follow advance rest after).2)

theorem follow_run {State Label : Type} {step : State → Label → State → Prop}
    {advance : State → Label → Option State}
    (advances : ∀ before label after, advance before label = some after → step before label after)
    (labels : List Label) (state : State) :
    Run step state (follow advance labels state).1 (follow advance labels state).2 := by
  induction labels generalizing state with
  | nil => exact .nil state
  | cons label rest ih =>
    unfold follow
    cases stepped : advance state label with
    | none => exact ih state
    | some after => exact .cons (advances state label after stepped) (ih after)

def Reachable {State Label : Type} (step : State → Label → State → Prop) (initial : State)
    (state : State) : Prop :=
  ∃ trace, Run step initial trace state

namespace Reachable

variable {State Label : Type} {step : State → Label → State → Prop} {initial : State}

theorem refl : Reachable step initial initial := ⟨[], .nil initial⟩

theorem extend {middle last : State} {trace : List (Move State Label)}
    (reached : Reachable step initial middle) (run : Run step middle trace last) :
    Reachable step initial last := by
  rcases reached with ⟨early, start⟩
  exact ⟨early ++ trace, start.append run⟩

theorem next {before after : State} {label : Label} (reached : Reachable step initial before)
    (move : step before label after) : Reachable step initial after :=
  reached.extend (.single move)

theorem invariant {state : State} (reached : Reachable step initial state) (P : State → Prop)
    (kept : ∀ before label after, step before label after → P before → P after)
    (start : P initial) : P state := by
  rcases reached with ⟨_trace, run⟩
  exact run.invariant P kept start

end Reachable

end AnnaAgent.Foundation
