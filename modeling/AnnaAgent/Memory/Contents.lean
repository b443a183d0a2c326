/-
What a governed stream says about its memories and grants.

The searches of the projection look for the first or the last event of one
type.  In a governed stream they find what the stream as a whole says: the
content that was written last, whether a memory is accepted and not deleted,
and whether a grant still stands.
-/

import AnnaAgent.Memory.Governance

namespace AnnaAgent.Memory

open Foundation EventStore

variable {events : List Event}

def contentIn (id : String) (event : Event) : Option String :=
  (((proposedCandidate event).filter (fun candidate => candidate.id = id)).map
    StoredCandidate.content).or
  ((((editedCandidate event).filter (fun edit => edit.candidateId = id)).map
      StoredCandidateEdit.content).or
    (((editedMemory event).filter (fun edit => edit.memoryId = id)).map StoredEdit.content))

def latestContent (events : List Event) (id : String) : Option String :=
  lastOf events (contentIn id) (fun _ => true)

/-- Accepted, not deleted, and with this content, which contains every token. -/
structure Retrievable (letters : Letters) (queryTokens : List String) (events : List Event)
    (id content : String) : Prop where
  active : Active events id
  isLatest : latestContent events id = some content
  contained : matchesTokens letters queryTokens content = true

def Granted (events : List Event) (grantId targetChannelId : String) : Prop :=
  WasGranted events grantId targetChannelId ∧ events.any (revokes grantId) = false

variable {id : String}

theorem Governed.not_edited (governed : Governed events)
    (unproposed : events.any (proposes id) = false) : events.any (editsCandidate id) = false := by
  rw [List.any_eq_false]
  intro event member edited
  obtain ⟨early, late, same⟩ := List.append_of_mem member
  have undecided := (governed early event late same).candidateEdited id edited
  rw [same, List.any_append, undecided.1, Bool.true_or] at unproposed
  cases unproposed

theorem decides_of_accepts (accepted : events.any (accepts id) = true) :
    events.any (decides id) = true := by
  obtain ⟨event, member, isOne⟩ := List.any_eq_true.1 accepted
  refine List.any_eq_true.2 ⟨event, member, ?_⟩
  unfold decides
  rw [isOne, Bool.true_or, Bool.true_or]

theorem Governed.not_memory (governed : Governed events)
    (undecided : events.any (decides id) = false) : events.any (editsMemory id) = false := by
  rw [List.any_eq_false]
  intro event member edited
  obtain ⟨early, late, same⟩ := List.append_of_mem member
  have active := (governed early event late same).memoryEdited id edited
  rw [same, List.any_append, decides_of_accepts active.1, Bool.true_or] at undecided
  cases undecided

theorem Governed.not_decided (governed : Governed events)
    (unproposed : events.any (proposes id) = false) : events.any (decides id) = false := by
  rw [List.any_eq_false]
  intro event member decided
  obtain ⟨early, late, same⟩ := List.append_of_mem member
  have undecided := (governed early event late same).decided id decided
  rw [same, List.any_append, undecided.1, Bool.true_or] at unproposed
  cases unproposed

variable {α : Type} {read : Event → Option α} {p : α → Bool}

theorem lastOf_eq_none (absent : events.any (fun event => (read event).any p) = false) :
    lastOf events read p = none := by
  rw [← lastOf_isSome] at absent
  exact Option.isNone_iff_eq_none.1 (Option.isSome_eq_false_iff.1 absent)

theorem firstOf_eq_none (absent : events.any (fun event => (read event).any p) = false) :
    firstOf events read p = none := by
  rw [← firstOf_isSome] at absent
  exact Option.isNone_iff_eq_none.1 (Option.isSome_eq_false_iff.1 absent)

theorem any_of_filter {found : Option α} {value : α} (isFound : found.filter p = some value) :
    found.any p = true := by
  rw [← Option.isSome_filter, isFound]
  rfl

theorem filter_eq_none {found : Option α} (absent : ¬ found.any p = true) :
    found.filter p = none := by
  cases isFound : found.filter p with
  | none => rfl
  | some value => exact absurd (any_of_filter isFound) absent

theorem Governed.latestContent_eq (governed : Governed events) (id : String) :
    latestContent events id =
      ((latestEditedMemory events id).map StoredEdit.content).or
        (((latestEditedCandidate events id).map StoredCandidateEdit.content).or
          ((candidateById events id).map StoredCandidate.content)) := by
  induction events using List.reverseRecOn with
  | nil => rfl
  | append_singleton early event ih =>
    have admissible := governed early event [] rfl
    have before := ih governed.front
    unfold latestContent latestEditedMemory latestEditedCandidate candidateById firstOf at before ⊢
    rw [lastOf_append, lastOf_append, lastOf_append, List.findSome?_append, lastOf_singleton,
      lastOf_singleton, lastOf_singleton, before, List.findSome?_cons, List.findSome?_nil]
    unfold contentIn
    cases isProposal : (proposedCandidate event).filter (fun candidate => candidate.id = id) with
    | some candidate =>
      have unproposed := admissible.proposed id (any_of_filter isProposal)
      have undecided := governed.front.not_decided unproposed
      have noMemory : lastOf early editedMemory (fun edit => edit.memoryId = id) = none :=
        lastOf_eq_none (governed.front.not_memory undecided)
      have noEdit : lastOf early editedCandidate (fun edit => edit.candidateId = id) = none :=
        lastOf_eq_none (governed.front.not_edited unproposed)
      have noProposal : early.findSome? (fun event =>
          (proposedCandidate event).filter (fun candidate => candidate.id = id)) = none :=
        firstOf_eq_none unproposed
      have notEdit : (editedCandidate event).filter (fun edit => edit.candidateId = id) = none := by
        apply filter_eq_none
        intro edited
        exact Bool.false_ne_true (unproposed.symm.trans (admissible.candidateEdited id edited).1)
      have notMemory : (editedMemory event).filter (fun edit => edit.memoryId = id) = none := by
        apply filter_eq_none
        intro edited
        exact Bool.false_ne_true (undecided.symm.trans
          (decides_of_accepts (admissible.memoryEdited id edited).1))
      rw [noMemory, noEdit, noProposal, notEdit, notMemory]
      rfl
    | none =>
      cases isEdit : (editedCandidate event).filter (fun edit => edit.candidateId = id) with
      | some edit =>
        have undecided := (admissible.candidateEdited id (any_of_filter isEdit)).2
        have noMemory : lastOf early editedMemory (fun edit => edit.memoryId = id) = none :=
          lastOf_eq_none (governed.front.not_memory undecided)
        have notMemory : (editedMemory event).filter (fun edit => edit.memoryId = id) = none := by
          apply filter_eq_none
          intro edited
          exact Bool.false_ne_true (undecided.symm.trans
            (decides_of_accepts (admissible.memoryEdited id edited).1))
        rw [noMemory, notMemory]
        rfl
      | none =>
        cases isMemory : (editedMemory event).filter (fun edit => edit.memoryId = id) with
        | some edit => rfl
        | none =>
          change (none : Option String).or _ = _
          rw [Option.none_or, Option.none_or, Option.none_or, Option.or_none]

variable {event : Event} {memoryId : String} {candidate : StoredCandidate}

theorem Governed.candidateById_eq (governed : Governed events) (member : event ∈ events)
    (isProposal : proposedCandidate event = some candidate) :
    candidateById events candidate.id = some candidate := by
  obtain ⟨early, late, same⟩ := List.append_of_mem member
  have isOne : proposes candidate.id event = true := by
    unfold proposes
    rw [isProposal]
    exact decide_eq_true rfl
  have absent : early.findSome? (fun event => (proposedCandidate event).filter
      (fun other => other.id = candidate.id)) = none :=
    firstOf_eq_none ((governed early event late same).proposed candidate.id isOne)
  unfold candidateById firstOf
  rw [same, List.findSome?_append, absent, Option.none_or, List.findSome?_cons, isProposal,
    Option.filter_some, if_pos (decide_eq_true rfl)]

theorem Governed.edition (governed : Governed events) (member : event ∈ events)
    (isProposal : proposedCandidate event = some candidate) :
    latestContent events candidate.id = some (editionOf events candidate).1 := by
  rw [governed.latestContent_eq, governed.candidateById_eq member isProposal]
  unfold editionOf
  cases latestEditedMemory events candidate.id with
  | some edit => rfl
  | none =>
    cases latestEditedCandidate events candidate.id with
    | some edit => rfl
    | none => rfl

/-! ### Accepted memories -/

theorem acceptedMemory_append {early late : List Event}
    (undecided : early.any (decides memoryId) = false) :
    acceptedMemory (early ++ late) memoryId = acceptedMemory late memoryId := by
  induction early with
  | nil => rfl
  | cons event rest ih =>
    rw [List.any_cons, Bool.or_eq_false_iff] at undecided
    have undecidedHere := undecided.1
    unfold decides at undecidedHere
    rw [Bool.or_eq_false_iff, Bool.or_eq_false_iff] at undecidedHere
    have notAccepted : (acceptedCandidate event).filter
        (fun acceptance => acceptance.candidateId = memoryId) = none :=
      filter_eq_none (Bool.eq_false_iff.1 undecidedHere.1.1)
    rw [List.cons_append, acceptedMemory_cons, notAccepted, undecidedHere.1.2]
    exact ih undecided.2

theorem Governed.acceptedMemory_isSome (governed : Governed events)
    (accepted : events.any (accepts memoryId) = true) :
    ∃ acceptance, acceptedMemory events memoryId = some acceptance := by
  obtain ⟨event, member, isOne⟩ := List.any_eq_true.1 accepted
  obtain ⟨early, late, same⟩ := List.append_of_mem member
  have decided : decides memoryId event = true := by
    unfold decides
    rw [isOne, Bool.true_or, Bool.true_or]
  have undecided := (governed early event late same).decided memoryId decided
  obtain ⟨acceptance, found, isId⟩ := any_isSome isOne
  refine ⟨acceptance, ?_⟩
  rw [same, acceptedMemory_append undecided.2, acceptedMemory_cons, found, Option.filter_some,
    if_pos (decide_eq_true isId)]

theorem acceptedMemory_any (accepted : (acceptedMemory events memoryId).isSome = true) :
    events.any (accepts memoryId) = true := by
  induction events with
  | nil => cases accepted
  | cons event rest ih =>
    rw [List.any_cons, Bool.or_eq_true]
    rw [acceptedMemory_cons] at accepted
    cases found : (acceptedCandidate event).filter
        (fun acceptance => acceptance.candidateId = memoryId) with
    | some acceptance => exact Or.inl (any_of_filter found)
    | none =>
      rw [found] at accepted
      cases rejected : rejects memoryId event with
      | true =>
        rw [rejected] at accepted
        cases accepted
      | false =>
        rw [rejected] at accepted
        exact Or.inr (ih accepted)

theorem Governed.proposed_of_accepted (governed : Governed events)
    (accepted : events.any (accepts memoryId) = true) : events.any (proposes memoryId) = true := by
  by_contra unproposed
  have undecided := governed.not_decided (Bool.eq_false_iff.2 unproposed)
  rw [decides_of_accepts accepted] at undecided
  cases undecided

variable {letters : Letters} {scope : ChannelScope} {queryTokens : List String}
  {memory : AcceptedChannelMemory}

theorem mem_memoryAt :
    memory ∈ memoryAt events letters scope queryTokens event ↔
      ∃ candidate acceptance, proposedCandidate event = some candidate ∧
        acceptedMemory events candidate.id = some acceptance ∧
        deletedMemory events candidate.id = none ∧
        matchesTokens letters queryTokens (editionOf events candidate).1 = true ∧
        memory = acceptedChannelMemory events scope candidate acceptance := by
  unfold memoryAt
  cases isProposal : proposedCandidate event with
  | none =>
    refine ⟨(fun absent => nomatch absent), ?_⟩
    rintro ⟨_, _, absent, _⟩
    cases absent
  | some candidate =>
    dsimp only
    cases isAccepted : acceptedMemory events candidate.id with
    | none =>
      refine ⟨(fun absent => nomatch absent), ?_⟩
      rintro ⟨_, _, same, accepted, _⟩
      cases same
      rw [isAccepted] at accepted
      cases accepted
    | some acceptance =>
      cases isDeleted : deletedMemory events candidate.id with
      | some deletion =>
        refine ⟨(fun absent => nomatch absent), ?_⟩
        rintro ⟨_, _, same, _, notDeleted, _⟩
        cases same
        rw [isDeleted] at notDeleted
        cases notDeleted
      | none =>
        dsimp only
        by_cases contained : matchesTokens letters queryTokens (editionOf events candidate).1 = true
        · rw [if_pos contained, List.mem_singleton]
          constructor
          · intro same
            exact ⟨candidate, acceptance, rfl, isAccepted, isDeleted, contained, same⟩
          · rintro ⟨_, _, same, accepted, _, _, isMemory⟩
            cases same
            rw [isAccepted] at accepted
            cases accepted
            exact isMemory
        · rw [if_neg contained]
          refine ⟨(fun absent => nomatch absent), ?_⟩
          rintro ⟨_, _, same, _, _, isContained, _⟩
          cases same
          exact absurd isContained contained

theorem Governed.mem_retrieve (governed : Governed events) {content : String} :
    (∃ memory ∈ retrieveAcceptedMemories events letters scope queryTokens,
      memory.id = id ∧ memory.content = content) ↔
      queryTokens ≠ [] ∧ Retrievable letters queryTokens events id content := by
  unfold retrieveAcceptedMemories
  by_cases tokenless : queryTokens.length = 0
  · rw [if_pos tokenless]
    refine ⟨?_, fun found => absurd (List.length_eq_zero_iff.1 tokenless) found.1⟩
    rintro ⟨memory, absent, _⟩
    cases absent
  · rw [if_neg tokenless]
    constructor
    · rintro ⟨memory, member, isId, isContent⟩
      obtain ⟨event, isEvent, isMemory⟩ := List.mem_flatMap.1 member
      obtain ⟨candidate, acceptance, isProposal, isAccepted, isDeleted, contained, same⟩ :=
        mem_memoryAt.1 isMemory
      rw [same] at isId isContent
      have isSome : (acceptedMemory events candidate.id).isSome = true := by
        rw [isAccepted]
        rfl
      have notDeleted : (deletedMemory events candidate.id).isSome = _ :=
        deletedMemory_isSome candidate.id
      rw [isDeleted] at notDeleted
      rw [← isId, ← isContent]
      exact ⟨fun none => tokenless (List.length_eq_zero_iff.2 none),
        ⟨acceptedMemory_any isSome, notDeleted.symm⟩, governed.edition isEvent isProposal, contained⟩
    · rintro ⟨_, retrievable⟩
      obtain ⟨event, isEvent, isProposal⟩ :=
        List.any_eq_true.1 (governed.proposed_of_accepted retrievable.active.1)
      obtain ⟨candidate, isCandidate, isId⟩ := any_isSome isProposal
      obtain ⟨acceptance, isAccepted⟩ := governed.acceptedMemory_isSome retrievable.active.1
      have isLatest := governed.edition isEvent isCandidate
      rw [isId, retrievable.isLatest] at isLatest
      have isContent := Option.some.inj isLatest
      have notDeleted : (deletedMemory events id).isSome = _ := deletedMemory_isSome id
      rw [retrievable.active.2] at notDeleted
      refine ⟨acceptedChannelMemory events scope candidate acceptance,
        List.mem_flatMap.2 ⟨event, isEvent, mem_memoryAt.2 ⟨candidate, acceptance, isCandidate, ?_,
          ?_, ?_, rfl⟩⟩, isId, isContent.symm⟩
      · rw [isId]
        exact isAccepted
      · rw [isId]
        exact Option.isNone_iff_eq_none.1 (Option.isSome_eq_false_iff.1 notDeleted)
      · rw [← isContent]
        exact retrievable.contained

theorem retrieve_source
    (member : memory ∈ retrieveAcceptedMemories events letters scope queryTokens) :
    memory.sourceChannel = scope := by
  unfold retrieveAcceptedMemories at member
  split at member
  · cases member
  · obtain ⟨event, _, isMemory⟩ := List.mem_flatMap.1 member
    obtain ⟨candidate, acceptance, _, _, _, _, same⟩ := mem_memoryAt.1 isMemory
    rw [same]
    rfl

theorem pairwise_of_split {R : α → α → Prop} {items : List α}
    (related : ∀ early item late, items = early ++ item :: late → ∀ before ∈ early, R before item) :
    items.Pairwise R := by
  induction items using List.reverseRecOn with
  | nil => exact .nil
  | append_singleton items item ih =>
    refine List.pairwise_append.2 ⟨?_, List.pairwise_singleton R item, ?_⟩
    · apply ih
      intro early other late same
      refine related early other (late ++ [item]) ?_
      rw [same, List.append_assoc, List.cons_append]
    · intro before member last isLast
      rw [List.mem_singleton.1 isLast]
      exact related items item [] rfl before member

theorem Governed.retrieve_nodup (governed : Governed events) :
    ((retrieveAcceptedMemories events letters scope queryTokens).map
      AcceptedChannelMemory.id).Nodup := by
  unfold retrieveAcceptedMemories
  split
  · exact List.nodup_nil
  · rw [List.map_flatMap, List.nodup_flatMap]
    constructor
    · intro event _
      unfold memoryAt
      split
      · exact List.nodup_nil
      · split
        · split
          · exact List.nodup_singleton _
          · exact List.nodup_nil
        · exact List.nodup_nil
    · refine pairwise_of_split ?_
      intro early event late same before member
      change List.Disjoint _ _
      rw [List.disjoint_left]
      intro id isBefore isAfter
      obtain ⟨first, isFirst, firstId⟩ := List.mem_map.1 isBefore
      obtain ⟨second, isSecond, secondId⟩ := List.mem_map.1 isAfter
      obtain ⟨candidate, _, isProposal, _, _, _, isMemory⟩ := mem_memoryAt.1 isFirst
      obtain ⟨other, _, isOther, _, _, _, isOtherMemory⟩ := mem_memoryAt.1 isSecond
      rw [isMemory] at firstId
      rw [isOtherMemory] at secondId
      have proposesBefore : proposes id before = true := by
        unfold proposes
        rw [isProposal]
        exact decide_eq_true firstId
      have proposesAfter : proposes id event = true := by
        unfold proposes
        rw [isOther]
        exact decide_eq_true secondId
      have fresh := (governed early event late same).proposed id proposesAfter
      exact absurd proposesBefore (List.any_eq_false.1 fresh before member)

variable {grant : StoredWorkspaceReadGrant}

theorem grants_of_granted (given : workspaceReadGranted event = some grant) :
    grants grant.grantId event = true := by
  unfold grants
  rw [given]
  exact decide_eq_true rfl

theorem Governed.only_grant (governed : Governed events) {early late : List Event}
    (same : events = early ++ event :: late) (given : workspaceReadGranted event = some grant) :
    early.any (grants grant.grantId) = false ∧ late.any (grants grant.grantId) = false := by
  refine ⟨(governed early event late same).granted _ (grants_of_granted given), ?_⟩
  rw [List.any_eq_false]
  intro other member isOther
  obtain ⟨front, rest, isLate⟩ := List.append_of_mem member
  have fresh := (governed (early ++ event :: front) other rest (by
    rw [same, isLate, List.append_assoc, List.cons_append])).granted _ isOther
  rw [List.any_append, List.any_cons, grants_of_granted given, Bool.true_or, Bool.or_true] at fresh
  cases fresh

theorem Governed.granted_iff (governed : Governed events) {grantId targetChannelId : String} :
    (∃ grant ∈ activeWorkspaceReadGrants events, grant.grantId = grantId ∧
      grant.targetChannelId = targetChannelId) ↔ Granted events grantId targetChannelId := by
  constructor
  · rintro ⟨grant, active, isId, isTarget⟩
    obtain ⟨early, event, late, same, given, _, kept⟩ := mem_activeGrantsAfter.1 active
    obtain ⟨noneBefore, noneAfter⟩ := governed.only_grant same given
    refine ⟨⟨event, ?_, grant, given, isId, isTarget⟩, ?_⟩
    · rw [same]
      exact List.mem_append_right _ List.mem_cons_self
    · rw [List.any_eq_false]
      intro other member isOther
      obtain ⟨revocation, isRevocation, isRevoked⟩ := any_isSome isOther
      have sameId : revocation.grantId = grant.grantId := isRevoked.trans isId.symm
      rw [same] at member
      rcases List.mem_append.1 member with before | others
      · obtain ⟨front, rest, isEarly⟩ := List.append_of_mem before
        obtain ⟨giver, isGiver, given', isGiven, isGrant, _⟩ := (governed front other
          (rest ++ event :: late) (by rw [same, isEarly, List.append_assoc, List.cons_append])).revoked
            revocation isRevocation
        have found := grants_of_granted isGiven
        rw [isGrant, sameId] at found
        refine List.any_eq_false.1 noneBefore giver ?_ found
        rw [isEarly]
        exact List.mem_append_left _ isGiver
      · rcases List.mem_cons.1 others with isEvent | after
        · rw [isEvent] at isRevocation
          have sameType := (of_workspaceReadGranted given).1.symm.trans
            (of_workspaceReadRevoked isRevocation).1
          exact absurd (MemoryEventType.text_inj sameType) (by decide)
        · obtain ⟨front, rest, isLate⟩ := List.append_of_mem after
          obtain ⟨giver, isGiver, given', isGiven, isGrant, sameTarget⟩ := (governed
            (early ++ event :: front) other rest (by
              rw [same, isLate, List.append_assoc, List.cons_append])).revoked
              revocation isRevocation
          have found := grants_of_granted isGiven
          rw [isGrant, sameId] at found
          have isGrantEvent : giver = event := by
            rcases List.mem_append.1 isGiver with inEarly | inLate
            · exact absurd found (List.any_eq_false.1 noneBefore giver inEarly)
            · rcases List.mem_cons.1 inLate with isFirst | inFront
              · exact isFirst
              · refine absurd found (List.any_eq_false.1 noneAfter giver ?_)
                rw [isLate]
                exact List.mem_append_left _ inFront
          rw [isGrantEvent, given] at isGiven
          cases isGiven
          refine List.any_eq_false.1 kept other after ?_
          unfold revokesGrant
          rw [isRevocation, Option.any_some, decide_eq_true sameId, decide_eq_true sameTarget.symm]
          rfl
  · rintro ⟨⟨event, member, grant, given, isId, isTarget⟩, notRevoked⟩
    obtain ⟨early, late, same⟩ := List.append_of_mem member
    refine ⟨grant, mem_activeGrantsAfter.2 ⟨early, event, late, same, given,
      (governed.only_grant same given).1, ?_⟩, isId, isTarget⟩
    rw [List.any_eq_false]
    intro other isLate revoked
    refine List.any_eq_false.1 notRevoked other ?_ ?_
    · rw [same]
      exact List.mem_append_right _ (List.mem_cons_of_mem _ isLate)
    · unfold revokesGrant at revoked
      cases found : workspaceReadRevoked other with
      | none =>
        rw [found] at revoked
        cases revoked
      | some revocation =>
        rw [found, Option.any_some, Bool.and_eq_true, decide_eq_true_eq] at revoked
        unfold revokes
        rw [found]
        exact decide_eq_true (revoked.1.trans isId)

end AnnaAgent.Memory
