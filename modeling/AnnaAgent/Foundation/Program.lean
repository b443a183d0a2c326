/-
Programs that suspend at every request.

An `async` function of a single-threaded host runs without interruption from
one request to the next.  A program is the tree of its requests, and each
request goes on with the answer, which is a value or a thrown error.
-/

import Mathlib.Init

namespace AnnaAgent.Foundation

/-- A program that returns, throws, or makes a request and goes on with the
answer. -/
inductive Program (Request : Type) (Response : Request → Type) (Error α : Type) : Type where
  | pure (value : α)
  | throw (error : Error)
  | ask (request : Request)
      (next : Except Error (Response request) → Program Request Response Error α)

namespace Program

variable {Request : Type} {Response : Request → Type} {Error α β : Type}

def bind (program : Program Request Response Error α)
    (next : α → Program Request Response Error β) : Program Request Response Error β :=
  match program with
  | .pure value => next value
  | .throw error => .throw error
  | .ask request later => .ask request (fun answer => (later answer).bind next)

instance : Monad (Program Request Response Error) where
  pure := .pure
  bind := bind

def rethrow (next : α → Program Request Response Error β) :
    Except Error α → Program Request Response Error β
  | .ok value => next value
  | .error error => .throw error

/-- `await request`. -/
def call (request : Request) : Program Request Response Error (Response request) :=
  .ask request (rethrow .pure)

def lift (value : Except Error α) : Program Request Response Error α :=
  match value with
  | .ok value => .pure value
  | .error error => .throw error

/-- `try { body } finally { cleanup }`. -/
def tryFinally (body : Program Request Response Error α)
    (cleanup : Program Request Response Error Unit) : Program Request Response Error α :=
  match body with
  | .pure value => cleanup.bind (fun _ => .pure value)
  | .throw error => cleanup.bind (fun _ => .throw error)
  | .ask request later => .ask request (fun answer => (later answer).tryFinally cleanup)

/-- `try { program } catch`: the outcome as a value. -/
def attempt (program : Program Request Response Error α) :
    Program Request Response Error (Except Error α) :=
  match program with
  | .pure value => .pure (.ok value)
  | .throw error => .pure (.error error)
  | .ask request later => .ask request (fun answer => (later answer).attempt)

/-- `for (const item of items) { body(item) }`. -/
def forEach (items : List α) (body : α → Program Request Response Error Unit) :
    Program Request Response Error Unit :=
  match items with
  | [] => .pure ()
  | item :: rest => (body item).bind (fun _ => forEach rest body)

def discard (program : Program Request Response Error α) : Program Request Response Error Unit :=
  program.bind (fun _ => .pure ())

theorem bind_assoc {γ : Type} (program : Program Request Response Error α)
    (next : α → Program Request Response Error β) (rest : β → Program Request Response Error γ) :
    (program.bind next).bind rest = program.bind (fun value => (next value).bind rest) := by
  induction program with
  | pure value => rfl
  | throw error => rfl
  | ask request later ih =>
    change Program.ask request _ = Program.ask request _
    congr 1
    funext answer
    exact ih answer

theorem call_bind (request : Request) (next : Response request → Program Request Response Error β) :
    (call request).bind next = .ask request (rethrow next) := by
  change Program.ask request (fun answer => (rethrow Program.pure answer).bind next) = _
  congr 1
  funext answer
  cases answer with
  | error error => rfl
  | ok value => rfl

/-- Programs that are put together from parts. -/
inductive Built
    (part : (γ : Type) → Program Request Response Error γ → Prop) :
    (γ : Type) → Program Request Response Error γ → Prop
  | pure {γ : Type} (value : γ) : Built part γ (.pure value)
  | throw {γ : Type} (error : Error) : Built part γ (.throw error)
  | part {γ : Type} {program : Program Request Response Error γ} (isPart : part γ program) :
      Built part γ program
  | bind {γ δ : Type} {program : Program Request Response Error γ}
      {next : γ → Program Request Response Error δ} (first : Built part γ program)
      (second : ∀ value, Built part δ (next value)) : Built part δ (program.bind next)
  | attempt {γ : Type} {program : Program Request Response Error γ}
      (body : Built part γ program) : Built part (Except Error γ) program.attempt

end Program

end AnnaAgent.Foundation
