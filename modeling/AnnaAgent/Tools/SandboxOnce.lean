/-
At most one sandbox call per effect.

The permit to call the sandbox for an effect is a successful append of its
started event.  A call appends it only when no such event was in the stream
it has read, and the append succeeds only while the stream is as it was read,
so one permit is granted for each stream.
-/

import AnnaAgent.Foundation.Permit
import AnnaAgent.Tools.Streams

namespace AnnaAgent.Tools

open Foundation EventStore

def World.EffectStarted (streamId : StreamId) (world : World) : Prop :=
  ∃ entry ∈ world.entries streamId, entry.event.type = "tool.effect.started"

variable {before after : World}

theorem effectStarted_later {streamId : StreamId} (later : Later before after)
    (started : before.EffectStarted streamId) :
    after.EffectStarted streamId := by
  rcases started with ⟨entry, member, isStarted⟩
  exact ⟨entry, (later.streams streamId).subset member, isStarted⟩

theorem effectStarted_of_append {env : Env} {event : Event} {cause : Option Cause}
    (isStarted : event.type = "tool.effect.started")
    (done : before.appendEntry env event cause = (.ok (), after)) :
    after.EffectStarted event.streamId := by
  rcases appendEntry_ok done with ⟨_, isAfter⟩
  refine ⟨⟨event, cause⟩, ?_, isStarted⟩
  rw [isAfter]
  exact List.mem_append_right _ (List.mem_singleton_self _)

def startedGrants : (request : Request) → Except Thrown request.Response → Option StreamId
  | .append event _, .ok _ =>
    if event.type = "tool.effect.started" then some event.streamId else none
  | _, _ => none

/-- A sandbox call without a replay policy is no execution of an effect. -/
def sandboxNeeds : Request → Option StreamId
  | .sandboxExecute request (some _) => request.effectKey.map effectStreamId
  | _ => none

variable {digest : String → String} {calls : Call → Prop}
  {meets : SeamId → (request : Request) → World → Except Thrown request.Response → Prop}

def ledgerProtocol (digest : String → String) (calls : Call → Prop)
    (meets : SeamId → (request : Request) → World → Except Thrown request.Response → Prop) :
    Protocol World SeamId Request Request.Response Thrown StreamId :=
  { host := (host digest calls).within meets
    later := Later
    respects := host_respects digest calls meets
    grants := startedGrants
    needs := sandboxNeeds
    spent := World.EffectStarted
    stays := effectStarted_later
    exclusive := by
      intro request key needed answer
      cases request with
      | sandboxExecute request replayPolicy => rfl
      | _ => cases needed }

theorem recordedEffect_cases (durableEvents : List Event) (request : ToolRequest)
    (replayPolicy : ReplayPolicy) (effectKey intentHash : String) :
    (recordedEffect durableEvents request replayPolicy effectKey intentHash =
        .result effectKeyConflict ∧
      ∃ event ∈ durableEvents, event.type = "tool.effect.started" ∧
        matchesEffectIntent event request replayPolicy intentHash = false) ∨
      ((∀ event ∈ durableEvents, event.type = "tool.effect.started" →
          matchesEffectIntent event request replayPolicy intentHash = true) ∧
        ((∃ result, recordedEffect durableEvents request replayPolicy effectKey intentHash =
            .result result ∧ durableEvents ≠ []) ∨
          (∃ event ∈ durableEvents, event.type = "tool.effect.started" ∧
            recordedEffect durableEvents request replayPolicy effectKey intentHash =
              .orphaned event.seq) ∨
          (recordedEffect durableEvents request replayPolicy effectKey intentHash =
              .unrecorded ∧
            ∀ event ∈ durableEvents, event.type ≠ "tool.effect.started"))) := by
  have nonempty : ∀ {event : Event} {p : Event → Bool},
      durableEvents.find? p = some event → durableEvents ≠ [] := by
    intro event p found isEmpty
    rw [isEmpty] at found
    cases found
  unfold recordedEffect
  split
  · rename_i conflict
    rcases List.any_eq_true.1 conflict with ⟨event, member, differs⟩
    rw [Bool.and_eq_true, decide_eq_true_eq, Bool.not_eq_true'] at differs
    exact Or.inl ⟨rfl, event, member, differs.1, differs.2⟩
  · rename_i agrees
    have all : ∀ event ∈ durableEvents, event.type = "tool.effect.started" →
        matchesEffectIntent event request replayPolicy intentHash = true := by
      intro event member isStarted
      cases isMatch : matchesEffectIntent event request replayPolicy intentHash with
      | true => rfl
      | false =>
        refine absurd (List.any_eq_true.2 ⟨event, member, ?_⟩) agrees
        rw [isMatch, decide_eq_true isStarted]
        rfl
    refine Or.inr ⟨all, ?_⟩
    split
    · rename_i event found
      exact Or.inl ⟨_, rfl, nonempty found⟩
    · split
      · rename_i event found
        exact Or.inl ⟨_, rfl, nonempty found⟩
      · split
        · rename_i event found
          exact Or.inl ⟨_, rfl, nonempty found⟩
        · split
          · rename_i unknown
            refine Or.inl ⟨_, rfl, ?_⟩
            intro isEmpty
            rw [isEmpty] at unknown
            cases unknown
          · split
            · rename_i event found
              have isStarted := List.find?_some found
              unfold isEffect at isStarted
              rw [Bool.and_eq_true, decide_eq_true_eq] at isStarted
              exact Or.inr (Or.inl ⟨event, List.mem_of_find?_eq_some found, isStarted.1, rfl⟩)
            · rename_i missing
              refine Or.inr (Or.inr ⟨rfl, ?_⟩)
              intro event member isStarted
              have isMatch := all event member isStarted
              unfold matchesEffectIntent at isMatch
              rw [Bool.and_eq_true] at isMatch
              exact absurd isMatch.1 (List.find?_eq_none.1 missing event member)

section Abides

open Protocol

variable {seam : SeamId} {held : Option StreamId} {world : World}
variable {replayPolicy : ReplayPolicy} {effectKey : String} {sandbox : Sandbox}
  {request : ToolRequest}

theorem appendEffect_abides {β : Type} {seq : Nat} {type : String} {details : List (String × Json)}
    {next : Unit → Async β} (isTerminal : type ≠ "tool.effect.started")
    (abides : ∀ now, Later world now → (ledgerProtocol digest calls meets).Abides seam (next ()) held now) :
    (ledgerProtocol digest calls meets).Abides seam
      ((appendEffect request replayPolicy effectKey seq type details).bind next) held world := by
  have plain : ∀ event cause, event.type = type →
      (ledgerProtocol digest calls meets).Plain (.append event cause) := by
    intro event cause isType
    refine ⟨rfl, ?_⟩
    intro answer
    cases answer with
    | error error => rfl
    | ok value =>
      change (if event.type = "tool.effect.started" then some event.streamId else none) = none
      rw [if_neg (by rw [isType]; exact isTerminal)]
  refine abides_assoc (abides_call_any ⟨rfl, fun _ => rfl⟩ ?_)
  intro id first firstLater
  refine abides_assoc (abides_call_any ⟨rfl, fun _ => rfl⟩ ?_)
  intro timestamp second secondLater
  refine abides_call_any (plain _ _ rfl) ?_
  intro _ third thirdLater
  exact abides third (firstLater.trans (secondLater.trans thirdLater))

theorem started_grants {env : Env} {event : Event} {cause : Option Cause} {read : List Entry}
    (isBeginning : read <+: before.entries event.streamId) (isNext : event.seq = read.length)
    (unstarted : ∀ entry ∈ read, entry.event.type ≠ "tool.effect.started")
    (isStarted : event.type = "tool.effect.started")
    (done : before.appendEntry env event cause = (.ok (), after)) :
    ¬ before.EffectStarted event.streamId ∧ after.EffectStarted event.streamId := by
  rcases appendEntry_ok done with ⟨atEnd, _⟩
  have isAll : read = before.entries event.streamId :=
    isBeginning.eq_of_length (by rw [← isNext, atEnd])
  refine ⟨?_, effectStarted_of_append isStarted done⟩
  rintro ⟨entry, member, entryStarted⟩
  exact unstarted entry (isAll ▸ member) entryStarted

theorem sandbox_abides (isKey : request.effectKey = some effectKey) :
    (ledgerProtocol digest calls meets).Abides seam
      (sandbox.execute request (some replayPolicy)) (some (effectStreamId effectKey)) world := by
  have needed : sandboxNeeds (.sandboxExecute request (some replayPolicy)) =
      some (effectStreamId effectKey) := by
    change request.effectKey.map effectStreamId = _
    rw [isKey]
    rfl
  cases sandbox with
  | direct => exact abides_spend_request needed
  | cancellable =>
    refine abides_call_any ⟨rfl, fun _ => rfl⟩ ?_
    intro aborted now _
    split
    · exact trivial
    · exact abides_spend_request needed

theorem appendOutcome_abides {β : Type} {startedSeq : Nat} {result : ToolResult} {cancelled : Bool}
    {next : Unit → Async β}
    (abides : ∀ now, Later world now → (ledgerProtocol digest calls meets).Abides seam (next ()) held now) :
    (ledgerProtocol digest calls meets).Abides seam
      ((appendOutcome request replayPolicy effectKey startedSeq result cancelled).bind next) held
      world := by
  unfold appendOutcome
  split
  · exact appendEffect_abides (by decide) abides
  · split
    · exact appendEffect_abides (by decide) abides
    · exact appendEffect_abides (by decide) abides
    · exact abides world (Later.refl world)

theorem startEffect_abides {intentHash : String} {startedSeq : Nat} {read : List Entry}
    (isKey : request.effectKey = some effectKey)
    (isBeginning : read <+: world.entries (effectStreamId effectKey))
    (isNext : startedSeq = read.length)
    (unstarted : ∀ entry ∈ read, entry.event.type ≠ "tool.effect.started") :
    (ledgerProtocol digest calls meets).Abides seam
      (startEffect sandbox request replayPolicy effectKey intentHash startedSeq) none world := by
  refine abides_assoc (abides_call_any ⟨rfl, fun _ => rfl⟩ ?_)
  intro id first firstLater
  refine abides_assoc (abides_call_any ⟨rfl, fun _ => rfl⟩ ?_)
  intro timestamp second secondLater
  refine abides_grant rfl ?_ ?_
  · rintro before beforeLater answer after ⟨⟨env, done⟩, _⟩ key granted
    cases answer with
    | error error => cases granted
    | ok value =>
      cases granted
      refine started_grants (isBeginning.trans ?_) isNext unstarted rfl (Option.some.inj done)
      exact (firstLater.trans (secondLater.trans beforeLater)).streams _
  · intro _ third _
    refine abides_bind (abides_attempt (sandbox_abides isKey)) ?_
    intro outcome fourth _
    cases outcome with
    | error error => exact appendEffect_abides (by decide) (fun _ _ => trivial)
    | ok result =>
      dsimp only
      split
      · exact appendEffect_abides (by decide) (fun _ _ => trivial)
      · refine abides_call_any ⟨rfl, fun _ => rfl⟩ ?_
        intro aborted _ _
        exact appendOutcome_abides (fun _ _ => trivial)

theorem executeDurableEffect_abides {intentHash : String} :
    (ledgerProtocol digest calls meets).Abides seam
      (executeDurableEffect sandbox request replayPolicy intentHash) none world := by
  unfold executeDurableEffect
  split
  · exact trivial
  · rename_i effectKey isKey
    refine abides_call ⟨rfl, fun _ => rfl⟩ ?_
    rintro before _ durableEvents after ⟨⟨env, done⟩, _⟩
    rcases read_entries done with ⟨isAfter, isRead, isNext⟩
    have unstarted : recordedEffect durableEvents request replayPolicy effectKey intentHash =
          .unrecorded →
        ∀ entry ∈ before.entries (effectStreamId effectKey),
          entry.event.type ≠ "tool.effect.started" := by
      intro isUnrecorded entry member
      rcases recordedEffect_cases durableEvents request replayPolicy effectKey intentHash with
        ⟨conflict, _⟩ | ⟨_, ⟨result, reused, _⟩ | ⟨event, _, _, orphaned⟩ | ⟨_, none⟩⟩
      · rw [conflict] at isUnrecorded
        cases isUnrecorded
      · rw [reused] at isUnrecorded
        cases isUnrecorded
      · rw [orphaned] at isUnrecorded
        cases isUnrecorded
      · exact none entry.event (isRead ▸ List.mem_map_of_mem member)
    cases recorded : recordedEffect durableEvents request replayPolicy effectKey intentHash with
    | result result => exact trivial
    | orphaned startedSeq => exact appendEffect_abides (by decide) (fun _ _ => trivial)
    | unrecorded =>
      refine startEffect_abides isKey ?_ isNext (unstarted recorded)
      rw [isAfter]

theorem executeEffect_abides :
    (ledgerProtocol digest calls meets).Abides seam
      (executeEffect digest sandbox request replayPolicy) none world := by
  unfold executeEffect
  split
  · exact trivial
  · refine abides_call_any ⟨rfl, fun _ => rfl⟩ ?_
    intro coordination first _
    cases coordination with
    | joined execution => exact abides_request ⟨rfl, fun _ => rfl⟩
    | entered execution =>
      refine abides_bind (abides_attempt executeDurableEffect_abides) ?_
      intro outcome second _
      refine abides_call_any ⟨rfl, fun _ => rfl⟩ ?_
      intro _ third _
      refine abides_call_any ⟨rfl, fun _ => rfl⟩ ?_
      intro _ fourth _
      cases outcome with
      | ok result => exact trivial
      | error error => exact trivial

end Abides

section Runs

variable {trace : List (Move Crowd Happening)} {last : Crowd}

theorem effectStreamId_injective {first second : String}
    (same : effectStreamId first = effectStreamId second) : first = second := by
  have chars := congrArg String.toList same
  unfold effectStreamId at chars
  rw [String.toList_append, String.toList_append] at chars
  exact String.toList_inj.1 (List.append_cancel_left chars)

def Ledgered (effectKey : String) (move : Move Crowd Happening) : Prop :=
  ∀ seam request answer, move.label = .answered seam (.sandboxExecute request none) answer →
    request.effectKey ≠ some effectKey

theorem sandboxCalls_le_one (admits : (ledgerProtocol digest calls meets).Admits)
    (run : Run ((host digest calls).within meets).Step ⟨World.empty, []⟩ trace last)
    {effectKey : String} (ledgered : ∀ move ∈ trace, Ledgered effectKey move) :
    sandboxCalls effectKey trace ≤ 1 := by
  have once := Protocol.spends_le_one admits run (effectStreamId effectKey)
  refine Nat.le_trans ?_ once
  unfold sandboxCalls
  apply List.countP_mono_left
  intro move member counted
  unfold Protocol.spends
  cases isLabel : move.label with
  | answered seam request answer =>
    rw [isLabel] at counted
    cases request with
    | sandboxExecute request replayPolicy =>
      have isKey : request.effectKey = some effectKey := of_decide_eq_true counted
      change decide (sandboxNeeds _ = _) = true
      cases replayPolicy with
      | none => exact absurd isKey (ledgered move member seam request answer isLabel)
      | some replayPolicy =>
        apply decide_eq_true
        change request.effectKey.map effectStreamId = _
        rw [isKey]
        rfl
    | _ => cases counted
  | _ =>
    rw [isLabel] at counted
    cases counted

end Runs

end AnnaAgent.Tools
