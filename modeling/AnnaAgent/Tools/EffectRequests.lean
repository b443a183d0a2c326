/-
What an effect asks for.

An effect reads and writes the stream of its own key, calls the sandbox for its own
request, and never asks the policy.
-/

import AnnaAgent.Foundation.Solo
import AnnaAgent.Tools.Effects

namespace AnnaAgent.Tools

open Foundation EventStore Program

def OfEffect (request : ToolRequest) (replayPolicy : ReplayPolicy) : Request → Prop
  | .readStream streamId _ =>
    ∃ effectKey, request.effectKey = some effectKey ∧ streamId = effectStreamId effectKey
  | .append event _ =>
    (∃ effectKey, request.effectKey = some effectKey ∧
      event.streamId = effectStreamId effectKey) ∧ event.type ≠ "tool.approval.requested"
  | .sandboxExecute asked policy =>
    asked = request ∧ policy = some replayPolicy ∧ request.effectKey ≠ none
  | .decide _ => False
  | _ => True

variable {details : List (String × Json)} {startedSeq : Nat}

section Requests

variable {request : ToolRequest} {replayPolicy : ReplayPolicy} {effectKey : String}

section

variable (isKey : request.effectKey = some effectKey)

include isKey

theorem appendEffect_requests {seq : Nat} {type : String}
    (other : type ≠ "tool.approval.requested") :
    (appendEffect request replayPolicy effectKey seq type details).Asks
      (OfEffect request replayPolicy) := by
  refine asks_call_bind trivial ?_
  intro id
  refine asks_call_bind trivial ?_
  intro timestamp
  exact asks_request ⟨⟨effectKey, isKey, rfl⟩, other⟩

theorem appendUnknown_requests :
    (appendUnknownEffectTerminal request replayPolicy effectKey startedSeq).Asks
      (OfEffect request replayPolicy) :=
  asks_bind (appendEffect_requests isKey (by decide)) (fun _ => trivial)

theorem appendOutcome_requests {result : ToolResult} {cancelled : Bool} :
    (appendOutcome request replayPolicy effectKey startedSeq result cancelled).Asks
      (OfEffect request replayPolicy) := by
  unfold appendOutcome
  split
  · exact appendEffect_requests isKey (by decide)
  · split
    · exact appendEffect_requests isKey (by decide)
    · exact appendEffect_requests isKey (by decide)
    · exact trivial

theorem sandbox_requests {sandbox : Sandbox} :
    (sandbox.execute request (some replayPolicy)).Asks (OfEffect request replayPolicy) := by
  have keyed : request.effectKey ≠ none := by
    rw [isKey]
    exact Option.some_ne_none effectKey
  cases sandbox with
  | direct => exact asks_request ⟨rfl, rfl, keyed⟩
  | cancellable =>
    refine asks_call_bind trivial ?_
    intro aborted
    split
    · exact trivial
    · exact asks_request ⟨rfl, rfl, keyed⟩

theorem startEffect_requests {sandbox : Sandbox} {intentHash : String} :
    (startEffect sandbox request replayPolicy effectKey intentHash startedSeq).Asks
      (OfEffect request replayPolicy) := by
  refine asks_bind (appendEffect_requests isKey (by decide)) ?_
  intro _
  refine asks_bind (asks_attempt (sandbox_requests isKey)) ?_
  intro outcome
  cases outcome with
  | error error => exact appendUnknown_requests isKey
  | ok result =>
    dsimp only
    split
    · exact appendUnknown_requests isKey
    · refine asks_call_bind trivial ?_
      intro aborted
      exact asks_bind (appendOutcome_requests isKey) (fun _ => trivial)

end

theorem executeDurableEffect_requests (sandbox : Sandbox) (request : ToolRequest)
    (replayPolicy : ReplayPolicy) (intentHash : String) :
    (executeDurableEffect sandbox request replayPolicy intentHash).Asks
      (OfEffect request replayPolicy) := by
  unfold executeDurableEffect
  split
  · exact trivial
  · rename_i effectKey isKey
    refine asks_call_bind ⟨effectKey, isKey, rfl⟩ ?_
    intro durableEvents
    cases recordedEffect durableEvents request replayPolicy effectKey intentHash with
    | result result => exact trivial
    | orphaned startedSeq => exact appendUnknown_requests isKey
    | unrecorded => exact startEffect_requests isKey

theorem executeEffect_requests (digest : String → String) (sandbox : Sandbox)
    (request : ToolRequest) (replayPolicy : ReplayPolicy) :
    (executeEffect digest sandbox request replayPolicy).Asks (OfEffect request replayPolicy) := by
  unfold executeEffect
  split
  · exact trivial
  · refine asks_call_bind trivial ?_
    intro coordination
    cases coordination with
    | joined execution => exact asks_request trivial
    | entered execution =>
      refine asks_bind (asks_attempt (executeDurableEffect_requests _ _ _ _)) ?_
      intro outcome
      refine asks_call_bind trivial ?_
      intro _
      refine asks_call_bind trivial ?_
      intro _
      cases outcome with
      | ok result => exact trivial
      | error error => exact trivial

end Requests

section Throws

variable {request : ToolRequest} {replayPolicy : ReplayPolicy} {effectKey : String}

/-- Requests that a working store, clock and signal answer. -/
def CanFail : Request → Prop
  | .decide _ => True
  | .sandboxExecute _ _ => True
  | _ => False

theorem appendEffect_total {seq : Nat} {type : String} :
    (appendEffect request replayPolicy effectKey seq type details).Total CanFail := by
  refine total_call_bind id ?_
  intro id
  refine total_call_bind (fun impossible => impossible) ?_
  intro timestamp
  exact total_call (fun impossible => impossible)

theorem appendUnknown_total :
    (appendUnknownEffectTerminal request replayPolicy effectKey startedSeq).Total CanFail :=
  total_bind appendEffect_total (fun _ => trivial)

theorem appendOutcome_total {result : ToolResult} {cancelled : Bool} :
    (appendOutcome request replayPolicy effectKey startedSeq result cancelled).Total CanFail := by
  unfold appendOutcome
  split
  · exact appendEffect_total
  · split
    · exact appendEffect_total
    · exact appendEffect_total
    · exact trivial

theorem executeDurableEffect_total (sandbox : Sandbox) (request : ToolRequest)
    (replayPolicy : ReplayPolicy) (intentHash : String) :
    (executeDurableEffect sandbox request replayPolicy intentHash).Total CanFail := by
  unfold executeDurableEffect
  split
  · exact trivial
  · rename_i effectKey _
    refine total_call_bind id ?_
    intro durableEvents
    cases recordedEffect durableEvents request replayPolicy effectKey intentHash with
    | result result => exact trivial
    | orphaned startedSeq => exact appendUnknown_total
    | unrecorded =>
      refine total_bind appendEffect_total ?_
      intro _
      refine total_bind (total_attempt _) ?_
      intro outcome
      cases outcome with
      | error error => exact appendUnknown_total
      | ok result =>
        dsimp only
        split
        · exact appendUnknown_total
        · refine total_call_bind id ?_
          intro aborted
          exact total_bind appendOutcome_total (fun _ => trivial)

end Throws

end AnnaAgent.Tools
