/-
Programs against an environment that answers as it likes.

An exchange is a request with the answer it got.  `Exchanges` runs one program
to its end while a relation says which answers the shared state allows; what
others do in between is part of the relation.
-/

import AnnaAgent.Foundation.Solo

namespace AnnaAgent.Foundation

structure Exchange (Request : Type) (Response : Request → Type) (Error : Type) where
  request : Request
  answer : Except Error (Response request)

variable {Shared Request : Type} {Response : Request → Type} {Error α β : Type}

inductive Exchanges
    (answers : Shared → (request : Request) → Except Error (Response request) → Shared → Prop) :
    Program Request Response Error α → Shared → List (Exchange Request Response Error) →
    Except Error α → Shared → Prop
  | pure (value : α) (shared : Shared) : Exchanges answers (.pure value) shared [] (.ok value) shared
  | throw (error : Error) (shared : Shared) :
      Exchanges answers (.throw error) shared [] (.error error) shared
  | ask {request : Request}
      {next : Except Error (Response request) → Program Request Response Error α}
      {answer : Except Error (Response request)} {before middle after : Shared}
      {rest : List (Exchange Request Response Error)} {outcome : Except Error α}
      (answered : answers before request answer middle)
      (later : Exchanges answers (next answer) middle rest outcome after) :
      Exchanges answers (.ask request next) before (⟨request, answer⟩ :: rest) outcome after

namespace Exchanges

variable {answers : Shared → (request : Request) → Except Error (Response request) → Shared → Prop}
  {before after : Shared} {asked : List (Exchange Request Response Error)}
  {outcome : Except Error α}

theorem pure_eq {value : α}
    (exchanges : Exchanges answers (.pure value : Program Request Response Error α) before asked outcome after) :
    asked = [] ∧ outcome = .ok value ∧ after = before := by
  cases exchanges
  exact ⟨rfl, rfl, rfl⟩

variable {program : Program Request Response Error α}

/-- The first part ends with a value that the second goes on with, or it throws. -/
theorem bind_cases {next : α → Program Request Response Error β} {outcome : Except Error β}
    (exchanges : Exchanges answers (program.bind next) before asked outcome after) :
    (∃ value middle early late, asked = early ++ late ∧
      Exchanges answers program before early (.ok value) middle ∧
      Exchanges answers (next value) middle late outcome after) ∨
    ∃ error, outcome = .error error ∧
      Exchanges answers program before asked (.error error) after := by
  induction program generalizing before asked with
  | pure value => exact Or.inl ⟨value, before, [], asked, rfl, .pure value _, exchanges⟩
  | throw error =>
    cases exchanges
    exact Or.inr ⟨error, rfl, .throw error _⟩
  | ask request more ih =>
    cases exchanges with
    | ask answered later =>
      rcases ih _ later with ⟨value, middle, early, late, same, first, second⟩ |
        ⟨error, same, failed⟩
      · left
        refine ⟨value, middle, _ :: early, late, ?_, .ask answered first, second⟩
        rw [same, List.cons_append]
      · exact Or.inr ⟨error, same, .ask answered failed⟩

theorem call_bind_cases {request : Request}
    {next : Response request → Program Request Response Error β} {outcome : Except Error β}
    (exchanges : Exchanges answers ((Program.call request).bind next) before asked outcome after) :
    ∃ answer middle rest, asked = ⟨request, answer⟩ :: rest ∧
      answers before request answer middle ∧
      Exchanges answers (Program.rethrow next answer) middle rest outcome after := by
  rw [Program.call_bind] at exchanges
  cases exchanges with
  | ask answered later => exact ⟨_, _, _, rfl, answered, later⟩

theorem call_cases {request : Request} {outcome : Except Error (Response request)}
    (exchanges : Exchanges answers (Program.call request) before asked outcome after) :
    asked = [⟨request, outcome⟩] ∧ answers before request outcome after := by
  cases exchanges with
  | @ask _ _ answer _ _ _ _ _ answered later =>
    cases answer with
    | ok value | error error =>
      cases later
      exact ⟨rfl, answered⟩

theorem attempt_cases {outcome : Except Error (Except Error α)}
    (exchanges : Exchanges answers program.attempt before asked outcome after) :
    ∃ result, outcome = .ok result ∧ Exchanges answers program before asked result after := by
  induction program generalizing before asked with
  | pure value =>
    cases exchanges
    exact ⟨.ok value, rfl, .pure value _⟩
  | throw error =>
    cases exchanges
    exact ⟨.error error, rfl, .throw error _⟩
  | ask request more ih =>
    cases exchanges with
    | ask answered later =>
      rcases ih _ later with ⟨result, same, exchanged⟩
      exact ⟨result, same, .ask answered exchanged⟩

theorem keeps {allowed : Request → Prop}
    (exchanges : Exchanges answers program before asked outcome after) (asks : program.Asks allowed)
    (P : Shared → Prop)
    (kept : ∀ {before request answer after}, allowed request → answers before request answer after → P before → P after)
    (start : P before) :
    P after ∧ ∀ exchange ∈ asked, allowed exchange.request := by
  induction exchanges with
  | pure value shared | throw error shared =>
    exact ⟨start, nofun⟩
  | ask answered later ih =>
    rcases ih (asks.2 _) (kept asks.1 answered start) with ⟨held, others⟩
    refine ⟨held, ?_⟩
    intro exchange member
    rcases List.mem_cons.mp member with isFirst | isLater
    · rw [isFirst]
      exact asks.1
    · exact others exchange isLater

theorem ok_of_total {fails : Request → Prop}
    (exchanges : Exchanges answers program before asked outcome after) (total : program.Total fails)
    (mayFail : ∀ {before request error after}, answers before request (.error error) after → fails request) :
    ∃ value, outcome = .ok value := by
  induction exchanges with
  | pure value shared => exact ⟨value, rfl⟩
  | throw error shared => exact absurd total id
  | @ask request next answer before middle after rest outcome answered later ih =>
    cases answer with
    | ok value => exact ih (total.1 value)
    | error error => exact ih (total.2 (mayFail answered) error)

end Exchanges

end AnnaAgent.Foundation
