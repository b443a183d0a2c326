/-
Interleaved programs over one shared state.

Every process belongs to an owner and runs a program.  One step answers the
request that one process waits on, starts a process, stops all processes of
an owner at whatever request they wait on, or lets something outside change
the shared state.  What a step of each kind respects, a run respects.
-/

import AnnaAgent.Foundation.Program
import AnnaAgent.Foundation.Run

namespace AnnaAgent.Foundation

structure Process (Owner Request : Type) (Response : Request → Type) (Error : Type) where
  owner : Owner
  program : Program Request Response Error Unit

structure Crowd (Shared Owner Request : Type) (Response : Request → Type) (Error : Type) where
  shared : Shared
  processes : List (Process Owner Request Response Error)

inductive Happening (Owner Request : Type) (Response : Request → Type) (Error : Type) where
  | answered (owner : Owner) (request : Request) (answer : Except Error (Response request))
  | started (owner : Owner) (program : Program Request Response Error Unit)
  | stopped (owner : Owner)
  | drifted

/-- How requests are answered and what else happens to the shared state. -/
structure Host (Shared Owner Request : Type) (Response : Request → Type) (Error : Type) where
  performs : Owner → (request : Request) → Shared → Except Error (Response request) → Shared → Prop
  starts : Owner → Program Request Response Error Unit → Shared → Prop
  stops : Owner → Shared → Shared → Prop
  drifts : Shared → Shared → Prop

variable {Shared Owner Request : Type} {Response : Request → Type} {Error : Type}

inductive Host.Step [DecidableEq Owner] (host : Host Shared Owner Request Response Error) :
    Crowd Shared Owner Request Response Error → Happening Owner Request Response Error →
    Crowd Shared Owner Request Response Error → Prop
  | answered {before after : Shared} {processes : List (Process Owner Request Response Error)}
      {index : Nat} {owner : Owner} {request : Request}
      {next : Except Error (Response request) → Program Request Response Error Unit}
      {answer : Except Error (Response request)}
      (waiting : processes[index]? = some ⟨owner, .ask request next⟩)
      (performed : host.performs owner request before answer after) :
      Step host ⟨before, processes⟩ (.answered owner request answer)
        ⟨after, processes.set index ⟨owner, next answer⟩⟩
  | started {shared : Shared} {processes : List (Process Owner Request Response Error)}
      {owner : Owner} {program : Program Request Response Error Unit}
      (called : host.starts owner program shared) :
      Step host ⟨shared, processes⟩ (.started owner program)
        ⟨shared, processes ++ [⟨owner, program⟩]⟩
  | stopped {before after : Shared} {processes : List (Process Owner Request Response Error)}
      {owner : Owner} (crashed : host.stops owner before after) :
      Step host ⟨before, processes⟩ (.stopped owner)
        ⟨after, processes.filter (fun process => process.owner ≠ owner)⟩
  | drifted {before after : Shared} {processes : List (Process Owner Request Response Error)}
      (changed : host.drifts before after) :
      Step host ⟨before, processes⟩ .drifted ⟨after, processes⟩

/-- A preorder on shared states that every request and everything else that
happens to the shared state respects. -/
structure Host.Respects (host : Host Shared Owner Request Response Error)
    (later : Shared → Shared → Prop) : Prop where
  refl : ∀ shared, later shared shared
  trans : ∀ {first second third}, later first second → later second third → later first third
  performs : ∀ {owner request before answer after},
    host.performs owner request before answer after → later before after
  stops : ∀ {owner before after}, host.stops owner before after → later before after
  drifts : ∀ {before after}, host.drifts before after → later before after

section Respects

variable [DecidableEq Owner] {host : Host Shared Owner Request Response Error}
  {later : Shared → Shared → Prop} {first last : Crowd Shared Owner Request Response Error}

theorem Host.Respects.step (respects : host.Respects later)
    {happening : Happening Owner Request Response Error}
    (step : host.Step first happening last) : later first.shared last.shared := by
  cases step with
  | answered waiting performed => exact respects.performs performed
  | started called => exact respects.refl _
  | stopped crashed => exact respects.stops crashed
  | drifted changed => exact respects.drifts changed

theorem Host.Respects.run (respects : host.Respects later)
    {trace : List (Move (Crowd Shared Owner Request Response Error)
      (Happening Owner Request Response Error))}
    (run : Run host.Step first trace last) : later first.shared last.shared :=
  run.relates (fun before after => later before.shared after.shared)
    (fun crowd => respects.refl crowd.shared) respects.trans
    (fun _ _ _ step => respects.step step)

end Respects

end AnnaAgent.Foundation
