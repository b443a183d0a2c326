/-
Every operation keeps the memories governed.

A repository relies on streams that only get longer, so that the events it has
read are all events when the store takes its append.
-/

import AnnaAgent.Memory.Contents

namespace AnnaAgent.Memory

open Foundation EventStore MemoryEventType

def Numbered (events : List Event) : Prop :=
  events.map CanonicalEvent.seq = List.range events.length

variable {events : List Event}

theorem Numbered.push {event : Event} (numbered : Numbered events)
    (isNext : event.seq = events.length) : Numbered (events ++ [event]) := by
  unfold Numbered
  rw [List.map_append, List.length_append, List.length_singleton, List.range_succ, numbered,
    List.map_singleton, isNext]

theorem foldl_max_range (length start : Nat) :
    (List.range length).foldl (fun next seq => max next (seq + 1)) start = max start length := by
  induction length with
  | zero => exact (Nat.max_zero start).symm
  | succ length ih =>
    rw [List.range_succ, List.foldl_append, ih]
    change max (max start length) (length + 1) = _
    omega

theorem Numbered.nextSequence (numbered : Numbered events) :
    nextSequence events = events.length := by
  have folded := foldl_max_range events.length 0
  rw [← numbered, List.foldl_map, Nat.zero_max] at folded
  exact folded

variable {streams : StreamStore}

structure Sound (streams : StreamStore) (store : streams.Store) : Prop where
  numbered : ∀ scope, Numbered (memoryEvents streams store scope)
  governed : ∀ scope, Governed (memoryEvents streams store scope)

variable {before after : streams.Store}

theorem Sound.of_same (sound : Sound streams before)
    (same : streams.events after = streams.events before) : Sound streams after := by
  refine ⟨?_, ?_⟩
  · intro scope
    unfold memoryEvents
    rw [same]
    exact sound.numbered scope
  · intro scope
    unfold memoryEvents
    rw [same]
    exact sound.governed scope

variable {scope : ChannelScope}

theorem Sound.push {event : Event} (sound : Sound streams before)
    (appended : AppendedAtEnd scope event (streams.events before) (streams.events after))
    (admissible : event.streamId = memoryStreamId → event.seq = (memoryEvents streams before scope).length → Admissible (memoryEvents streams before scope) event) :
    Sound streams after := by
  obtain ⟨isNext, isAfter⟩ := appended
  have cases : ∀ other, memoryEvents streams after other = memoryEvents streams before other ∨
      (event.streamId = memoryStreamId ∧ other = scope ∧
        memoryEvents streams after other = memoryEvents streams before other ++ [event]) := by
    intro other
    unfold memoryEvents
    rw [isAfter]
    by_cases same : other = scope ∧ memoryStreamId = event.streamId
    · right
      rw [if_pos same]
      exact ⟨same.2.symm, same.1, rfl⟩
    · left
      rw [if_neg same, List.append_nil]
  refine ⟨?_, ?_⟩
  · intro other
    rcases cases other with same | ⟨isMemory, isScope, isPush⟩
    · rw [same]
      exact sound.numbered other
    · rw [isPush]
      rw [isMemory, ← isScope] at isNext
      exact (sound.numbered other).push isNext
  · intro other
    rcases cases other with same | ⟨isMemory, isScope, isPush⟩
    · rw [same]
      exact sound.governed other
    · rw [isPush]
      rw [← isScope] at admissible isNext
      rw [isMemory] at isNext
      exact (sound.governed other).push (admissible isMemory isNext)

def Allowed (streams : StreamStore) (store : streams.Store) : Request → Prop
  | .perform scope call => ∀ event, call.appended? (streams.events store scope) = some event →
      event.streamId = memoryStreamId → event.seq = (memoryEvents streams store scope).length →
        Admissible (memoryEvents streams store scope) event
  | .assertOwner _ _ => True
  | .draw => True

variable {request : Request} {answer : Except Thrown request.Response}

theorem performed_longer (performed : Performs streams request before answer after) :
    StreamStore.Longer before after := by
  cases performed with
  | asserted scope actorId answer store => exact .refl _
  | drew drawn store => exact .refl _
  | answered performed | lost error performed => exact StreamStore.longer_of_perform performed
  | failed scope call error store => exact .refl _

theorem sound_of_perform {call : EventCall} {answer : call.Answer} (sound : Sound streams before)
    (allowed : Allowed streams before (.perform scope call))
    (performed : streams.perform scope before call = .ok (answer, after)) :
    Sound streams after := by
  rcases streams.changes performed with same | ⟨event, isAppended, atEnd⟩
  · exact sound.of_same same
  · exact sound.push atEnd (allowed event isAppended)

theorem sound_of_performs (performed : Performs streams request before answer after)
    (sound : Sound streams before) (allowed : Allowed streams before request) :
    Sound streams after := by
  cases performed with
  | asserted scope actorId answer store => exact sound
  | drew drawn store => exact sound
  | answered performed | lost error performed => exact sound_of_perform sound allowed performed
  | failed scope call error store => exact sound

theorem sound_of_drift (drifted : Drifts streams before after) (sound : Sound streams before) :
    Sound streams after := by
  obtain ⟨scope, call, answer, performed, silent⟩ := drifted
  refine sound_of_perform sound ?_ performed
  intro event isAppended isMemory _
  exact admissible_other (silent event isAppended isMemory)

theorem drift_longer (drifted : Drifts streams before after) :
    StreamStore.Longer before after := by
  obtain ⟨scope, call, answer, performed, _⟩ := drifted
  exact StreamStore.longer_of_perform performed

def contract (streams : StreamStore) :
    Contract streams.Store Repository Request Request.Response Thrown :=
  { host := host streams
    later := StreamStore.Longer
    respects :=
      { refl := StreamStore.Longer.refl
        trans := StreamStore.Longer.trans
        performs := performed_longer
        stops := by
          intro owner before after same
          cases same
          exact .refl _
        drifts := drift_longer }
    inv := Sound streams
    allowed := fun _ request store => Allowed streams store request
    keeps := sound_of_performs
    stops := by
      intro owner before after same held
      cases same
      exact held
    drifts := sound_of_drift }

variable {done : Unit}

theorem failWhen_ok {condition : Bool} {message : String}
    (passed : failWhen condition message = .ok done) : condition = false := by
  cases condition with
  | false => rfl
  | true => cases passed

variable {candidateId : String}

theorem decision_isNone (undecided : (decisionForCandidate events candidateId).isSome = false) :
    events.any (decides candidateId) = false := by
  unfold decisionForCandidate at undecided
  rw [Option.isSome_eq_false_iff, Option.isNone_iff_eq_none, List.findSome?_eq_none_iff] at undecided
  rw [List.any_eq_false]
  intro event member decided
  have isNone := undecided event member
  cases found : ((acceptedCandidate event).or (rejectedCandidate event)).filter
      (fun decision => decision.candidateId = candidateId) with
  | some decision =>
    rw [found] at isNone
    cases isNone
  | none =>
    rw [found] at isNone
    have notEither := Option.filter_eq_none_iff.1 found
    unfold decides at decided
    rw [Bool.or_eq_true, Bool.or_eq_true] at decided
    rcases decided with (accepted | rejected) | deleted
    · obtain ⟨acceptance, isAcceptance, isId⟩ := any_isSome accepted
      refine notEither acceptance ?_ (decide_eq_true isId)
      rw [isAcceptance]
      rfl
    · obtain ⟨rejection, isRejection, isId⟩ := any_isSome rejected
      refine notEither rejection ?_ (decide_eq_true isId)
      have notAccepted : acceptedCandidate event = none := by
        cases accepted : acceptedCandidate event with
        | none => rfl
        | some acceptance =>
          have sameType := (of_candidateDecision accepted).1.symm.trans
            (of_candidateDecision isRejection).1
          exact absurd (text_inj sameType) (by decide)
      rw [notAccepted]
      exact isRejection
    · obtain ⟨deletion, isDeletion, isId⟩ := any_isSome deleted
      rw [isDeletion] at isNone
      change ((some deletion).filter _).map _ = none at isNone
      rw [Option.filter_some, if_pos (decide_eq_true isId)] at isNone
      cases isNone

theorem assertUndecidedCandidate_ok
    (passed : assertUndecidedCandidate events candidateId = .ok done) :
    Undecided events candidateId := by
  obtain ⟨_, found, undecided⟩ := bind_ok passed
  have isFound := failWhen_ok found
  rw [Option.isNone_eq_false_iff, candidateById_isSome] at isFound
  exact ⟨isFound, decision_isNone (failWhen_ok undecided)⟩

theorem assertActiveMemory_ok {memoryId : String}
    (passed : assertActiveMemory events memoryId = .ok done) : Active events memoryId := by
  obtain ⟨_, found, notDeleted⟩ := bind_ok passed
  have isFound := failWhen_ok found
  rw [Option.isNone_eq_false_iff] at isFound
  have isDeleted := failWhen_ok notDeleted
  rw [deletedMemory_isSome] at isDeleted
  exact ⟨acceptedMemory_any isFound, isDeleted⟩

/-! ### Reading and appending -/

section Operations

open Contract

variable {letters : Letters} {repository : Repository} {store : streams.Store} {α : Type}
  {post : Except Thrown α → streams.Store → Prop}

theorem ensures_check {β : Type} {checked : Except Thrown β} {next : β → Op α}
    (ensures : ∀ value, checked = .ok value →
      (contract streams).Ensures repository (next value) post store)
    (failed : ∀ error now, post (.error error) now) :
    (contract streams).Ensures repository ((Program.lift checked).bind next) post store :=
  ensures_lift_bind ensures (fun error _ now _ _ => failed error now)

theorem ensures_ask {next : request.Response → Op α}
    (appendsNothing : ∀ now, Allowed streams now request)
    (ensures : ∀ value now, StreamStore.Longer store now → (contract streams).Ensures repository (next value) post now)
    (failed : ∀ error now, post (.error error) now) :
    (contract streams).Ensures repository ((ask request).bind next) post store :=
  ensures_call_any (fun now _ _ => appendsNothing now)
    (fun value now later _ => ensures value now later) (fun error now _ _ => failed error now)

theorem allowed_read (scope : ChannelScope) (streamId : StreamId) (now : streams.Store) :
    Allowed streams now (.perform scope (.read streamId none)) := by
  intro event isAppended
  cases isAppended

theorem ensures_readMemoryEvents {next : List Event → Op α}
    (ensures : ∀ now, StreamStore.Longer store now → Sound streams now → (contract streams).Ensures repository (next (memoryEvents streams now scope)) post now)
    (failed : ∀ error now, post (.error error) now) :
    (contract streams).Ensures repository ((readMemoryEvents scope).bind next) post store := by
  refine ensures_call (fun now _ _ => allowed_read scope memoryStreamId now) ?_
    (fun error now _ _ => failed error now)
  intro before later sound events after performed soundAfter
  cases performed with
  | answered performed =>
    obtain ⟨isRead, same⟩ := StreamStore.read_same performed
    have now := ensures after (later.trans (StreamStore.longer_of_perform performed)) soundAfter
    unfold memoryEvents at now
    rw [same, ← isRead] at now
    exact now

variable {events : List Event} {payload : List (String × Json)}
variable {type : MemoryEventType}

theorem ensures_appendMemoryEvent (isRead : events = memoryEvents streams store repository.scope)
    (numbered : Numbered events)
    (admissible : ∀ drawn, Admissible events (memoryEvent repository.scope drawn memoryStreamId
      (nextSequence events) type.text payload)) :
    (contract streams).Ensures repository (appendMemoryEvent repository events type payload)
      (fun _ _ => True) store := by
  refine ensures_ask (fun _ => trivial) ?_ (fun _ _ => trivial)
  intro drawn now later
  refine ensures_request ?_ (fun _ _ _ _ => trivial)
  intro before longer _ event isAppended _ isNext
  cases isAppended
  have grown : events <+: memoryEvents streams before repository.scope := by
    rw [isRead]
    exact (later.trans longer) repository.scope memoryStreamId
  change nextSequence events = _ at isNext
  rw [numbered.nextSequence] at isNext
  rw [← grown.eq_of_length isNext]
  exact admissible drawn

theorem ensures_assertOwner {actorId : String} {next : Unit → Op α}
    (ensures : ∀ now, StreamStore.Longer store now →
      (contract streams).Ensures repository (next ()) post now)
    (failed : ∀ error now, post (.error error) now) :
    (contract streams).Ensures repository ((assertOwner repository actorId).bind next) post store :=
  ensures_ask (fun _ => trivial) (fun _ now later => ensures now later) failed

theorem ensures_owned {check : List Event → Except Thrown Unit}
    (admissible : ∀ events drawn seq, check events = .ok () → Admissible events (memoryEvent
      repository.scope drawn memoryStreamId seq type.text payload)) :
    (contract streams).Ensures repository
      ((readMemoryEvents repository.scope).bind (fun events =>
        (Program.lift (check events)).bind (fun _ =>
          appendMemoryEvent repository events type payload))) (fun _ _ => True) store := by
  refine ensures_readMemoryEvents ?_ (fun _ _ => trivial)
  intro now _ sound
  refine ensures_check ?_ (fun _ _ => trivial)
  intro _ passed
  exact ensures_appendMemoryEvent rfl (sound.numbered repository.scope)
    (fun drawn => admissible _ drawn _ passed)

variable {drawn : Drawn} {seq : Nat}

theorem stringField_memoryEvent {streamId : StreamId} {type key value text : String}
    (isField : payload.lookup key = some (.str value))
    (isRead : stringField (memoryEvent scope drawn streamId seq type payload) key = some text) :
    text = value := by
  have found : stringField (memoryEvent scope drawn streamId seq type payload) key = some value := by
    have isValue : (memoryEvent scope drawn streamId seq type payload).payload.get? key =
        some (.str value) := isField
    unfold stringField
    rw [isValue]
  exact Option.some.inj (isRead.symm.trans found)

theorem admissible_undecided (isType : type = .candidateEdited ∨ isDecision type = true)
    (isCandidate : payload.lookup "candidateId" = some (.str candidateId))
    (undecided : Undecided events candidateId) : Admissible events
      (memoryEvent repository.scope drawn memoryStreamId seq type.text payload) := by
  have otherwise : ∀ other : MemoryEventType, other ≠ .candidateEdited → isDecision other = false →
      type.text ≠ other.text := by
    intro other notEdit notDecision same
    rw [← text_inj same] at notEdit notDecision
    rcases isType with isEdit | isOne
    · exact notEdit isEdit
    · rw [isOne] at notDecision
      cases notDecision
  refine admissible_of_type ?_ ?_ ?_ ?_ ?_
  · intro isProposal
    exact absurd isProposal (otherwise _ (by decide) rfl)
  · intro _ _ _ id isId
    rw [stringField_memoryEvent isCandidate isId]
    exact undecided
  · intro isMemory
    rcases isMemory with isEdit | isDeletion
    · exact absurd isEdit (otherwise _ (by decide) rfl)
    · exact absurd isDeletion (otherwise _ (by decide) rfl)
  · intro isGrant
    exact absurd isGrant (otherwise _ (by decide) rfl)
  · intro isRevocation
    exact absurd isRevocation (otherwise _ (by decide) rfl)

theorem admissible_active {memoryId : String} (isType : type = .edited ∨ type = .deleted)
    (isMemory : payload.lookup "memoryId" = some (.str memoryId))
    (active : Active events memoryId) : Admissible events
      (memoryEvent repository.scope drawn memoryStreamId seq type.text payload) := by
  have otherwise : ∀ other : MemoryEventType, other ≠ .edited → other ≠ .deleted →
      type.text ≠ other.text := by
    intro other notEdit notDeletion same
    rw [← text_inj same] at notEdit notDeletion
    exact isType.elim notEdit notDeletion
  refine admissible_of_type ?_ ?_ ?_ ?_ ?_
  · intro isProposal
    exact absurd isProposal (otherwise _ (by decide) (by decide))
  · intro other isOne isOther
    refine absurd isOther (otherwise other ?_ ?_)
    · rintro rfl
      exact absurd isOne (by decide)
    · rintro rfl
      exact absurd isOne (by decide)
  · intro _ id isId
    rw [stringField_memoryEvent isMemory isId]
    exact active
  · intro isGrant
    exact absurd isGrant (otherwise _ (by decide) (by decide))
  · intro isRevocation
    exact absurd isRevocation (otherwise _ (by decide) (by decide))

theorem admissible_single
    (isType : type = .candidateProposed ∨ type = .workspaceReadGranted ∨ type =
      .workspaceReadRevoked)
    (proposed : type = .candidateProposed → ∃ id, payload.lookup "candidateId" = some (.str id) ∧
      events.any (proposes id) = false)
    (granted : type = .workspaceReadGranted → ∃ id, payload.lookup "grantId" = some (.str id) ∧
      events.any (grants id) = false)
    (revoked : type = .workspaceReadRevoked → ∃ id target, payload.lookup "grantId" = some (.str
      id) ∧ payload.lookup "targetChannelId" = some (.str target) ∧ WasGranted events id target) :
    Admissible events
      (memoryEvent repository.scope drawn memoryStreamId seq type.text payload) := by
  refine admissible_of_type ?_ ?_ ?_ ?_ ?_
  · intro isProposal id isId
    obtain ⟨own, isOwn, fresh⟩ := proposed (text_inj isProposal)
    rw [stringField_memoryEvent isOwn isId]
    exact fresh
  · intro other isOne isOther
    rw [← text_inj isOther] at isOne
    rcases isType with rfl | rfl | rfl <;> exact absurd isOne (by decide)
  · intro isMemory
    rcases isMemory with isEdit | isDeletion
    · rw [text_inj isEdit] at isType
      exact absurd isType (by decide)
    · rw [text_inj isDeletion] at isType
      exact absurd isType (by decide)
  · intro isGrant id isId
    obtain ⟨own, isOwn, fresh⟩ := granted (text_inj isGrant)
    rw [stringField_memoryEvent isOwn isId]
    exact fresh
  · intro isRevocation revocation isId isTarget
    obtain ⟨own, target, isOwn, isOwnTarget, found⟩ := revoked (text_inj isRevocation)
    rw [stringField_memoryEvent isOwn isId, stringField_memoryEvent isOwnTarget isTarget]
    exact found

theorem ensures_decideCandidate (isOne : isDecision type = true) (candidateId actorId : String) :
    (contract streams).Ensures repository (decideCandidate repository type candidateId actorId)
      (fun _ _ => True) store := by
  refine ensures_check ?_ (fun _ _ => trivial)
  intro actorId _
  refine ensures_assertOwner ?_ (fun _ _ => trivial)
  intro now _
  refine ensures_check ?_ (fun _ _ => trivial)
  intro candidateId _
  refine ensures_owned ?_
  intro events drawn seq passed
  exact admissible_undecided (Or.inr isOne) rfl (assertUndecidedCandidate_ok passed)

theorem ensures_editCandidate (edit : MemoryCandidateEdit) :
    (contract streams).Ensures repository (editCandidate repository edit) (fun _ _ => True)
      store := by
  refine ensures_check ?_ (fun _ _ => trivial)
  intro actorId _
  refine ensures_assertOwner ?_ (fun _ _ => trivial)
  intro now _
  refine ensures_check ?_ (fun _ _ => trivial)
  intro candidateId _
  refine ensures_check ?_ (fun _ _ => trivial)
  intro content _
  refine ensures_owned ?_
  intro events drawn seq passed
  exact admissible_undecided (Or.inl rfl) rfl (assertUndecidedCandidate_ok passed)

theorem ensures_edit (change : MemoryEdit) :
    (contract streams).Ensures repository (edit repository change) (fun _ _ => True) store := by
  refine ensures_check ?_ (fun _ _ => trivial)
  intro actorId _
  refine ensures_assertOwner ?_ (fun _ _ => trivial)
  intro now _
  refine ensures_check ?_ (fun _ _ => trivial)
  intro memoryId _
  refine ensures_check ?_ (fun _ _ => trivial)
  intro content _
  refine ensures_owned ?_
  intro events drawn seq passed
  exact admissible_active (Or.inl rfl) rfl (assertActiveMemory_ok passed)

theorem ensures_delete (deletion : MemoryDeletion) :
    (contract streams).Ensures repository (delete repository deletion) (fun _ _ => True) store := by
  refine ensures_check ?_ (fun _ _ => trivial)
  intro actorId _
  refine ensures_assertOwner ?_ (fun _ _ => trivial)
  intro now _
  refine ensures_check ?_ (fun _ _ => trivial)
  intro memoryId _
  refine ensures_owned ?_
  intro events drawn seq passed
  exact admissible_active (Or.inr rfl) rfl (assertActiveMemory_ok passed)

theorem ensures_assertMemoryCandidateProvenance {next : StartRun → Op Unit}
    {sourceRunId : String} {sourceEventIds : List String}
    (ensures : ∀ sourceRun now,
      (contract streams).Ensures repository (next sourceRun) (fun _ _ => True) now) :
    (contract streams).Ensures repository
      ((assertMemoryCandidateProvenance repository sourceRunId sourceEventIds).bind next)
      (fun _ _ => True) store := by
  refine ensures_then ?_ (fun sourceRun now _ _ => ensures sourceRun now) (fun _ _ _ _ => trivial)
  refine ensures_check ?_ (fun _ _ => trivial)
  intro _ _
  refine ensures_ask (fun _ _ isAppended => nomatch isAppended) ?_ (fun _ _ => trivial)
  intro sourceRun now _
  cases sourceRun with
  | none => exact fun _ _ _ => trivial
  | some sourceRun =>
    refine ensures_ask (fun now => allowed_read _ _ now) ?_ (fun _ _ => trivial)
    intro runEvents now _
    refine ensures_check ?_ (fun _ _ => trivial)
    intro _ _
    exact fun _ _ _ => trivial

theorem ensures_propose (proposal : MemoryCandidateProposal) :
    (contract streams).Ensures repository (propose repository proposal) (fun _ _ => True)
      store := by
  refine ensures_check ?_ (fun _ _ => trivial)
  intro _ _
  refine ensures_assertMemoryCandidateProvenance ?_
  intro sourceRun now
  refine ensures_check ?_ (fun _ _ => trivial)
  intro _ _
  refine ensures_check ?_ (fun _ _ => trivial)
  intro candidate _
  refine ensures_owned ?_
  intro events drawn seq passed
  have fresh := failWhen_ok passed
  rw [candidateById_isSome] at fresh
  exact admissible_single (Or.inl rfl) (fun _ => ⟨candidate.id, rfl, fresh⟩)
    (fun different => nomatch different) (fun different => nomatch different)

theorem ensures_grantWorkspaceRead (grant : WorkspaceReadGrant) :
    (contract streams).Ensures repository (grantWorkspaceRead repository grant) (fun _ _ => True)
      store := by
  refine ensures_check ?_ (fun _ _ => trivial)
  intro actorId _
  refine ensures_assertOwner ?_ (fun _ _ => trivial)
  intro now _
  refine ensures_check ?_ (fun _ _ => trivial)
  intro grantId _
  refine ensures_check ?_ (fun _ _ => trivial)
  intro targetChannelId _
  refine ensures_check ?_ (fun _ _ => trivial)
  intro _ _
  refine ensures_owned ?_
  intro events drawn seq passed
  have fresh := failWhen_ok passed
  rw [workspaceReadGrantById_isSome] at fresh
  exact admissible_single (Or.inr (Or.inl rfl)) (fun different => nomatch different)
    (fun _ => ⟨grantId, rfl, fresh⟩) (fun different => nomatch different)

theorem ensures_revokeWorkspaceRead (revocation : WorkspaceReadRevocation) :
    (contract streams).Ensures repository (revokeWorkspaceRead repository revocation)
      (fun _ _ => True) store := by
  refine ensures_check ?_ (fun _ _ => trivial)
  intro actorId _
  refine ensures_assertOwner ?_ (fun _ _ => trivial)
  intro now _
  refine ensures_check ?_ (fun _ _ => trivial)
  intro grantId _
  refine ensures_readMemoryEvents ?_ (fun _ _ => trivial)
  intro now _ sound
  cases found : (activeWorkspaceReadGrants (memoryEvents streams now repository.scope)).find?
      (fun grant => grant.grantId = grantId) with
  | none => exact fun _ _ _ => trivial
  | some grant =>
    have active := List.mem_of_find?_eq_some found
    have isGrant := List.find?_some found
    rw [decide_eq_true_eq] at isGrant
    obtain ⟨early, event, late, isSplit, isGiven, _⟩ := mem_activeGrantsAfter.1 active
    have member : event ∈ memoryEvents streams now repository.scope := by
      rw [isSplit]
      exact List.mem_append_right _ List.mem_cons_self
    refine ensures_appendMemoryEvent rfl (sound.numbered repository.scope) ?_
    intro drawn
    exact admissible_single (Or.inr (Or.inr rfl)) (fun different => nomatch different)
      (fun different => nomatch different)
      (fun _ => ⟨grantId, grant.targetChannelId, rfl, rfl, event, member, grant, isGiven, isGrant,
        rfl⟩)

end Operations

end AnnaAgent.Memory
