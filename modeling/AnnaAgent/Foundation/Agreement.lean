/-
Two implementations that agree.

A transaction of one implementation agrees with one of another when both fail
with the same error, or both succeed with answers that are the same and states
that are related.  When all calls agree on related states, the implementations
give the same answers along every sequence of calls.
-/

import AnnaAgent.Foundation.Transaction

namespace AnnaAgent.Foundation

variable {Error State State' α β γ δ : Type}

/-- The outcome is related to the outcome of the other transaction. -/
def Agrees (related : State → State' → Prop) (same : α → β → Prop) :
    Except Error (α × State) → Except Error (β × State') → Prop
  | .ok (answer, state), .ok (answer', state') => same answer answer' ∧ related state state'
  | .error error, .error error' => error = error'
  | _, _ => False

section Rules

variable {related : State → State' → Prop} {same : α → β → Prop}
variable {state : State} {state' : State'}

theorem agrees_ok {answer : α} {answer' : β} (isSame : same answer answer')
    (isRelated : related state state') :
    Agrees related same (.ok (answer, state) : Except Error (α × State)) (.ok (answer', state')) :=
  ⟨isSame, isRelated⟩

theorem agrees_error (error : Error) : Agrees related same (.error error) (.error error) := rfl

/-- Both begin with the same computation. -/
theorem agrees_bind (first : Except Error γ) {next : γ → Except Error (α × State)}
    {next' : γ → Except Error (β × State')}
    (agrees : ∀ value, first = .ok value → Agrees related same (next value) (next' value)) :
    Agrees related same (first >>= next) (first >>= next') := by
  cases first with
  | error error => exact agrees_error error
  | ok value => exact agrees value rfl

variable {no yes : Except Error (α × State)} {no' yes' : Except Error (β × State')}

theorem agrees_ite {condition condition' : Prop} [Decidable condition] [Decidable condition']
    (iff : condition ↔ condition') (agreesYes : condition → Agrees related same yes yes')
    (agreesNo : ¬ condition → Agrees related same no no') :
    Agrees related same (if condition then yes else no) (if condition' then yes' else no') := by
  by_cases holds : condition
  · rw [if_pos holds, if_pos (iff.1 holds)]
    exact agreesYes holds
  · rw [if_neg holds, if_neg (fun holds' => holds (iff.2 holds'))]
    exact agreesNo holds

theorem agrees_bool {condition condition' : Bool} (iff : condition = condition')
    (agreesYes : condition = true → Agrees related same yes yes')
    (agreesNo : condition = false → Agrees related same no no') :
    Agrees related same (if condition then yes else no) (if condition' then yes' else no') := by
  rw [← iff]
  cases holds : condition with
  | true => exact agreesYes holds
  | false => exact agreesNo holds

theorem agrees_check {condition : Prop} [Decidable condition] {answer : α} {answer' : β}
    {error : Error} (isSame : same answer answer') (isRelated : related state state') :
    Agrees related same (if condition then .ok (answer, state) else .error error)
      (if condition then .ok (answer', state') else .error error) := by
  refine agrees_ite Iff.rfl ?_ ?_
  · intro _
    exact agrees_ok isSame isRelated
  · intro _
    exact agrees_error error

theorem agrees_weaken {weaker : State → State' → Prop}
    (weaken : ∀ state state', related state state' → weaker state state')
    {outcome : Except Error (α × State)} {outcome' : Except Error (β × State')}
    (agrees : Agrees related same outcome outcome') : Agrees weaker same outcome outcome' := by
  cases outcome with
  | error error =>
    cases outcome' with
    | error error' => exact agrees
    | ok result' => exact agrees.elim
  | ok result =>
    cases outcome' with
    | error error' => exact agrees.elim
    | ok result' => exact ⟨agrees.1, weaken _ _ agrees.2⟩

/-- What a call that succeeds answers. -/
def answer {State : Type} (outcome : Except Error (α × State)) : Option α :=
  outcome.toOption.map Prod.fst

theorem answer_eq {outcome : Except Error (α × State)} {outcome' : Except Error (α × State')}
    (agrees : Agrees related Eq outcome outcome') : answer outcome = answer outcome' := by
  cases outcome with
  | error error =>
    cases outcome' with
    | error error' => rfl
    | ok result' => exact agrees.elim
  | ok result =>
    cases outcome' with
    | error error' => exact agrees.elim
    | ok result' => exact congrArg some agrees.1

theorem atomically_agrees {body : State → Except Error (α × State)}
    {body' : State' → Except Error (β × State')} (isRelated : related state state')
    (agrees : Agrees related same (body state) (body' state')) :
    related (atomically body state).2 (atomically body' state').2 := by
  unfold atomically
  cases result : body state with
  | error error =>
    cases result' : body' state' with
    | error error' => exact isRelated
    | ok outcome' =>
      rw [result, result'] at agrees
      exact agrees.elim
  | ok outcome =>
    cases result' : body' state' with
    | error error' =>
      rw [result, result'] at agrees
      exact agrees.elim
    | ok outcome' =>
      rw [result, result'] at agrees
      exact agrees.2

end Rules

section Sequences

variable {Call : Type} {Answer : Call → Type}

def after (perform : (call : Call) → State → Except Error (Answer call × State))
    (calls : List Call) (start : State) : State :=
  calls.foldl (fun state call => (atomically (perform call) state).2) start

variable {perform : (call : Call) → State → Except Error (Answer call × State)}
  {perform' : (call : Call) → State' → Except Error (Answer call × State')}

/-- Calls that agree where a condition holds keep states related while it
holds. -/
theorem after_related {related : State → State' → Prop}
    {same : (call : Call) → Answer call → Answer call → Prop} {condition : Call → State → Prop}
    (step : ∀ call state state', related state state' → condition call state →
      Agrees related (same call) (perform call state) (perform' call state'))
    {start : State} {start' : State'} (isRelated : related start start') (calls : List Call)
    (meets : ∀ early call late, calls = early ++ call :: late →
      condition call (after perform early start)) :
    related (after perform calls start) (after perform' calls start') := by
  induction calls generalizing start start' with
  | nil => exact isRelated
  | cons call rest ih =>
    have agrees := step call start start' isRelated (meets [] call rest rfl)
    refine ih (atomically_agrees isRelated agrees) ?_
    intro early other late isRest
    exact meets (call :: early) other late (congrArg (List.cons call) isRest)

end Sequences

end AnnaAgent.Foundation
