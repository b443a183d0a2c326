/-
Calls that leave their outcome behind.

A call is made with an operation and stays on the desk with what is left of
its program, in the end its outcome alone.  What every operation ensures from
the state in which it is called is known of every call on the desk, and calls
that are made one after the other are a run of their own.
-/

import AnnaAgent.Foundation.Rely

namespace AnnaAgent.Foundation

structure Call (Shared Owner Operation Request : Type) (Response : Request → Type)
    (Error α : Type) where
  owner : Owner
  operation : Operation
  /-- The shared state in which the call was made. -/
  begun : Shared
  program : Program Request Response Error α

structure Desk (Shared Owner Operation Request : Type) (Response : Request → Type)
    (Error α : Type) where
  shared : Shared
  calls : List (Call Shared Owner Operation Request Response Error α)

inductive DeskMove (Owner Operation : Type) where
  | called (owner : Owner) (operation : Operation)
  | answered (index : Nat)
  | drifted

variable {Shared Owner Operation Request : Type} {Response : Request → Type} {Error α : Type}

inductive Host.DeskStep (host : Host Shared Owner Request Response Error)
    (programs : Owner → Operation → Program Request Response Error α) :
    Desk Shared Owner Operation Request Response Error α → DeskMove Owner Operation →
    Desk Shared Owner Operation Request Response Error α → Prop
  | called {shared : Shared} {calls : List (Call Shared Owner Operation Request Response Error α)}
      (owner : Owner) (operation : Operation) :
      DeskStep host programs ⟨shared, calls⟩ (.called owner operation)
        ⟨shared, calls ++ [⟨owner, operation, shared, programs owner operation⟩]⟩
  | answered {before after : Shared}
      {calls : List (Call Shared Owner Operation Request Response Error α)} {index : Nat}
      {call : Call Shared Owner Operation Request Response Error α} {request : Request}
      {next : Except Error (Response request) → Program Request Response Error α}
      {answer : Except Error (Response request)} (waiting : calls[index]? = some call)
      (asks : call.program = .ask request next)
      (performed : host.performs call.owner request before answer after) :
      DeskStep host programs ⟨before, calls⟩ (.answered index)
        ⟨after, calls.set index { call with program := next answer }⟩
  | drifted {before after : Shared}
      {calls : List (Call Shared Owner Operation Request Response Error α)}
      (changed : host.drifts before after) :
      DeskStep host programs ⟨before, calls⟩ .drifted ⟨after, calls⟩

variable {first last : Desk Shared Owner Operation Request Response Error α}

namespace Contract

variable {contract : Contract Shared Owner Request Response Error}
  {programs : Owner → Operation → Program Request Response Error α}
  {post : Owner → Operation → Shared → Except Error α → Shared → Prop}

/-- The invariant holds, and every call ensures its postcondition. -/
structure OnDesk (contract : Contract Shared Owner Request Response Error)
    (post : Owner → Operation → Shared → Except Error α → Shared → Prop)
    (desk : Desk Shared Owner Operation Request Response Error α) : Prop where
  inv : contract.inv desk.shared
  calls : ∀ call ∈ desk.calls, contract.Ensures call.owner call.program
    (post call.owner call.operation call.begun) desk.shared

theorem deskStep_kept
    (ensures : ∀ owner operation shared, contract.inv shared → contract.Ensures owner (programs owner operation) (post owner operation shared) shared)
    {move : DeskMove Owner Operation} (step : contract.host.DeskStep programs first move last)
    (kept : contract.OnDesk post first) : contract.OnDesk post last := by
  cases step with
  | called owner operation =>
    refine ⟨kept.inv, ?_⟩
    intro call member
    rcases List.mem_append.1 member with old | isNew
    · exact kept.calls call old
    · rw [List.mem_singleton.1 isNew]
      exact ensures owner operation _ kept.inv
  | @answered before after calls index call request next answer waiting asks performed =>
    have ensured := kept.calls call (List.mem_of_getElem? waiting)
    rw [asks] at ensured
    have now := ensured before (contract.respects.refl before) kept.inv
    refine ⟨contract.keeps performed kept.inv now.1, ?_⟩
    intro other member
    rcases List.mem_or_eq_of_mem_set member with old | isNew
    · exact ensures_later (kept.calls other old) (contract.respects.performs performed)
    · rw [isNew]
      exact now.2 answer after performed
  | drifted changed =>
    refine ⟨contract.drifts changed kept.inv, ?_⟩
    intro call member
    exact ensures_later (kept.calls call member) (contract.respects.drifts changed)

theorem desk_kept
    (ensures : ∀ owner operation shared, contract.inv shared →
      contract.Ensures owner (programs owner operation) (post owner operation shared) shared)
    {start : Shared} (initial : contract.inv start)
    {desk : Desk Shared Owner Operation Request Response Error α}
    (reached : Reachable (contract.host.DeskStep programs) ⟨start, []⟩ desk) :
    contract.OnDesk post desk :=
  reached.invariant (contract.OnDesk post) (fun _ _ _ step kept => deskStep_kept ensures step kept)
    ⟨initial, nofun⟩

theorem OnDesk.returned {desk : Desk Shared Owner Operation Request Response Error α}
    (kept : contract.OnDesk post desk)
    {call : Call Shared Owner Operation Request Response Error α} (member : call ∈ desk.calls)
    {value : α} (returned : call.program = .pure value) :
    post call.owner call.operation call.begun (.ok value) desk.shared := by
  have ensured := kept.calls call member
  rw [returned] at ensured
  exact ensured desk.shared (contract.respects.refl desk.shared) kept.inv

end Contract

section Serial

variable {Reading : Type} {host : Host Shared Owner Request Response Error}
  {programs : Owner → Operation → Program Request Response Error α}
  {perform : Reading → Shared → (request : Request) → Except Error (Response request) × Shared}

/-- A call on the desk that is answered with the given readings until it is
finished. -/
theorem solo_reaches
    (performs : ∀ owner reading shared request, host.performs owner request shared
      (perform reading shared request).1 (perform reading shared request).2)
    {program : Program Request Response Error α} {readings : List Reading}
    {before after begun : Shared} {asked : List (Asked Reading Request)}
    {outcome : Except Error α} (ran : solo perform program readings before =
      some (asked, outcome, after)) (owner : Owner) (operation : Operation)
    (calls : List (Call Shared Owner Operation Request Response Error α)) :
    Reachable (host.DeskStep programs) ⟨before, calls ++ [⟨owner, operation, begun, program⟩]⟩
      ⟨after, calls ++ [⟨owner, operation, begun, .lift outcome⟩]⟩ := by
  induction program generalizing readings before asked with
  | pure value | throw error =>
    cases ran
    exact .refl
  | ask request next ih =>
    cases readings with
    | nil => cases ran
    | cons reading rest =>
      rcases Option.map_eq_some_iff.1 ran with ⟨⟨asked', outcome', after'⟩, later, same⟩
      cases same
      have waiting : (calls ++ [(⟨owner, operation, begun, .ask request next⟩ :
          Call Shared Owner Operation Request Response Error α)])[calls.length]? =
          some ⟨owner, operation, begun, .ask request next⟩ := by
        rw [List.getElem?_append_right (Nat.le_refl _), Nat.sub_self]
        rfl
      have step : host.DeskStep programs
          ⟨before, calls ++ [⟨owner, operation, begun, .ask request next⟩]⟩
          (.answered calls.length)
          ⟨(perform reading before request).2, calls ++
            [⟨owner, operation, begun, next (perform reading before request).1⟩]⟩ := by
        have moved : host.DeskStep programs _ _ _ :=
          .answered waiting rfl (performs owner reading before request)
        rw [List.set_append_right _ _ (Nat.le_refl _), Nat.sub_self] at moved
        exact moved
      obtain ⟨trace, finish⟩ := ih _ later
      exact (Reachable.refl.next step).extend finish

/-- The desk after calls that are made one after the other, each with the
readings it draws. -/
def serial (programs : Owner → Operation → Program Request Response Error α)
    (perform : Reading → Shared → (request : Request) → Except Error (Response request) × Shared) :
    List (Owner × Operation × List Reading) →
    Desk Shared Owner Operation Request Response Error α →
    Option (Desk Shared Owner Operation Request Response Error α)
  | [], desk => some desk
  | (owner, operation, readings) :: rest, desk =>
    match solo perform (programs owner operation) readings desk.shared with
    | none => none
    | some (_, outcome, after) =>
      serial programs perform rest
        ⟨after, desk.calls ++ [⟨owner, operation, desk.shared, .lift outcome⟩]⟩

theorem serial_reaches
    (performs : ∀ owner reading shared request, host.performs owner request shared (perform reading shared request).1 (perform reading shared request).2)
    {made : List (Owner × Operation × List Reading)}
    (ran : serial programs perform made first = some last) :
    Reachable (host.DeskStep programs) first last := by
  induction made generalizing first with
  | nil =>
    cases ran
    exact .refl
  | cons head rest ih =>
    obtain ⟨owner, operation, readings⟩ := head
    unfold serial at ran
    cases finished : solo perform (programs owner operation) readings first.shared with
    | none =>
      rw [finished] at ran
      cases ran
    | some result =>
      obtain ⟨asked, outcome, after⟩ := result
      rw [finished] at ran
      obtain ⟨trace, finish⟩ := ih ran
      have called : host.DeskStep programs first (.called owner operation)
          ⟨first.shared, first.calls ++
            [⟨owner, operation, first.shared, programs owner operation⟩]⟩ :=
        .called owner operation
      exact (Reachable.refl.next called).extend
        ((solo_reaches performs finished owner operation first.calls).choose_spec.append finish)

end Serial

end AnnaAgent.Foundation
