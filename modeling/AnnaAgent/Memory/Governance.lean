/-
What repositories guarantee about the events of a memory.

Every memory event is admissible after the events before it: the store takes
an append only at the end of the stream, where the events that the repository
has decided by are all events there are.  A stream of admissible events keeps
the order of proposals, edits, decisions and deletions.
-/

import Mathlib.Data.List.Count
import AnnaAgent.Memory.Repository

namespace AnnaAgent.Memory

open Foundation EventStore

def Undecided (events : List Event) (candidateId : String) : Prop :=
  events.any (proposes candidateId) = true ∧ events.any (decides candidateId) = false

def Active (events : List Event) (memoryId : String) : Prop :=
  events.any (accepts memoryId) = true ∧ events.any (deletesMemory memoryId) = false

def WasGranted (events : List Event) (grantId targetChannelId : String) : Prop :=
  ∃ event ∈ events, ∃ grant, workspaceReadGranted event = some grant ∧
    grant.grantId = grantId ∧ grant.targetChannelId = targetChannelId

structure Admissible (early : List Event) (event : Event) : Prop where
  proposed : ∀ id, proposes id event = true → early.any (proposes id) = false
  candidateEdited : ∀ id, editsCandidate id event = true → Undecided early id
  decided : ∀ id, decides id event = true → Undecided early id
  memoryEdited : ∀ id, editsMemory id event = true → Active early id
  memoryDeleted : ∀ id, deletesMemory id event = true → Active early id
  granted : ∀ id, grants id event = true → early.any (grants id) = false
  revoked : ∀ revocation, workspaceReadRevoked event = some revocation →
    WasGranted early revocation.grantId revocation.targetChannelId

def Governed (events : List Event) : Prop :=
  ∀ early event late, events = early ++ event :: late → Admissible early event

theorem governed_nil : Governed [] := by
  intro early event late same
  exact absurd same.symm (List.append_ne_nil_of_right_ne_nil _ (List.cons_ne_nil _ _))

theorem Governed.front {early late : List Event} (governed : Governed (early ++ late)) :
    Governed early := by
  intro first event rest same
  refine governed first event (rest ++ late) ?_
  rw [same, List.append_assoc, List.cons_append]

theorem Governed.push {events : List Event} {event : Event} (governed : Governed events)
    (admissible : Admissible events event) : Governed (events ++ [event]) := by
  intro early other late same
  rcases List.eq_nil_or_concat late with isLast | ⟨front, last, isLate⟩
  · rw [isLast] at same
    obtain ⟨sameEvents, sameEvent⟩ := List.append_inj' same rfl
    cases sameEvent
    rw [← sameEvents]
    exact admissible
  · rw [isLate, List.concat_eq_append, ← List.cons_append, ← List.append_assoc] at same
    exact governed early other front (List.append_inj' same rfl).1

theorem countP_le_one {α : Type} {p : α → Bool} {items : List α}
    (fresh : ∀ early item late, items = early ++ item :: late → p item = true →
      early.any p = false) : items.countP p ≤ 1 := by
  induction items using List.reverseRecOn with
  | nil => exact Nat.zero_le 1
  | append_singleton items item ih =>
    have early : items.countP p ≤ 1 := by
      apply ih
      intro first other rest same
      refine fresh first other (rest ++ [item]) ?_
      rw [same, List.append_assoc, List.cons_append]
    rw [List.countP_append, List.countP_singleton]
    by_cases holds : p item = true
    · have none := fresh items item [] rfl holds
      rw [if_pos holds, List.countP_eq_zero.2 (List.any_eq_false.1 none)]
    · rw [if_neg holds]
      exact early

/-- The rules of a channel's memory. -/
structure Ordered (events : List Event) : Prop where
  proposedOnce : ∀ candidateId, events.countP (proposes candidateId) ≤ 1
  decidedOnce : ∀ candidateId, events.countP (decides candidateId) ≤ 1
  /-- Edits of a candidate follow its proposal and precede its decision. -/
  candidateEdits : ∀ candidateId early event late, events = early ++ event :: late →
    editsCandidate candidateId event = true →
      early.any (proposes candidateId) = true ∧ early.any (decides candidateId) = false
  /-- Edits of a memory follow its acceptance and precede its deletion. -/
  memoryEdits : ∀ memoryId early event late, events = early ++ event :: late →
    editsMemory memoryId event = true →
      early.any (accepts memoryId) = true ∧ early.any (deletesMemory memoryId) = false

theorem Governed.ordered {events : List Event} (governed : Governed events) : Ordered events :=
  { proposedOnce := fun candidateId => countP_le_one (fun early event late same said =>
      (governed early event late same).proposed candidateId said)
    decidedOnce := fun candidateId => countP_le_one (fun early event late same said =>
      ((governed early event late same).decided candidateId said).2)
    candidateEdits := fun candidateId early event late same said =>
      (governed early event late same).candidateEdited candidateId said
    memoryEdits := fun memoryId early event late same said =>
      (governed early event late same).memoryEdited memoryId said }

variable {id : String} {event : Event} {early : List Event}

theorem proposes_fields (said : proposes id event = true) :
    event.type = MemoryEventType.candidateProposed.text ∧
      stringField event "candidateId" = some id := by
  obtain ⟨candidate, found, isId⟩ := any_isSome said
  rw [← isId]
  exact of_proposedCandidate found

theorem editsCandidate_fields (said : editsCandidate id event = true) :
    event.type = MemoryEventType.candidateEdited.text ∧
      stringField event "candidateId" = some id := by
  obtain ⟨edit, found, isId⟩ := any_isSome said
  rw [← isId]
  exact of_editedCandidate found

theorem accepts_fields (said : accepts id event = true) :
    event.type = MemoryEventType.accepted.text ∧ stringField event "candidateId" = some id := by
  obtain ⟨acceptance, found, isId⟩ := any_isSome said
  rw [← isId]
  exact of_candidateDecision found

theorem rejects_fields (said : rejects id event = true) :
    event.type = MemoryEventType.rejected.text ∧ stringField event "candidateId" = some id := by
  obtain ⟨rejection, found, isId⟩ := any_isSome said
  rw [← isId]
  exact of_candidateDecision found

theorem deletesCandidate_fields (said : deletesCandidate id event = true) :
    event.type = MemoryEventType.candidateDeleted.text ∧
      stringField event "candidateId" = some id := by
  obtain ⟨deletion, found, isId⟩ := any_isSome said
  rw [← isId]
  exact of_deletedCandidate found

def isDecision (type : MemoryEventType) : Bool :=
  type == .accepted || type == .rejected || type == .candidateDeleted

theorem decides_fields (said : decides id event = true) :
    ∃ type, isDecision type = true ∧ event.type = type.text ∧
      stringField event "candidateId" = some id := by
  unfold decides at said
  rw [Bool.or_eq_true, Bool.or_eq_true] at said
  rcases said with (accepted | rejected) | deleted
  · exact ⟨.accepted, rfl, accepts_fields accepted⟩
  · exact ⟨.rejected, rfl, rejects_fields rejected⟩
  · exact ⟨.candidateDeleted, rfl, deletesCandidate_fields deleted⟩

theorem editsMemory_fields (said : editsMemory id event = true) :
    event.type = MemoryEventType.edited.text ∧ stringField event "memoryId" = some id := by
  obtain ⟨edit, found, isId⟩ := any_isSome said
  rw [← isId]
  exact of_editedMemory found

theorem deletesMemory_fields (said : deletesMemory id event = true) :
    event.type = MemoryEventType.deleted.text ∧ stringField event "memoryId" = some id := by
  obtain ⟨deletion, found, isId⟩ := any_isSome said
  rw [← isId]
  exact of_deletedMemoryEvent found

theorem grants_fields (said : grants id event = true) :
    event.type = MemoryEventType.workspaceReadGranted.text ∧
      stringField event "grantId" = some id := by
  obtain ⟨grant, found, isId⟩ := any_isSome said
  rw [← isId]
  exact of_workspaceReadGranted found

theorem admissible_of_type
    (proposed : event.type = MemoryEventType.candidateProposed.text →
      ∀ id, stringField event "candidateId" = some id → early.any (proposes id) = false)
    (undecided : ∀ type, type = .candidateEdited ∨ isDecision type = true →
      event.type = type.text → ∀ id, stringField event "candidateId" = some id → Undecided early id)
    (active : event.type = MemoryEventType.edited.text ∨ event.type = MemoryEventType.deleted.text →
      ∀ id, stringField event "memoryId" = some id → Active early id)
    (granted : event.type = MemoryEventType.workspaceReadGranted.text →
      ∀ id, stringField event "grantId" = some id → early.any (grants id) = false)
    (revoked : event.type = MemoryEventType.workspaceReadRevoked.text →
      ∀ revocation : StoredWorkspaceReadRevocation,
        stringField event "grantId" = some revocation.grantId →
        stringField event "targetChannelId" = some revocation.targetChannelId →
          WasGranted early revocation.grantId revocation.targetChannelId) :
    Admissible early event := by
  refine ⟨?_, ?_, ?_, ?_, ?_, ?_, ?_⟩
  · intro id said
    exact proposed (proposes_fields said).1 id (proposes_fields said).2
  · intro id said
    exact undecided _ (Or.inl rfl) (editsCandidate_fields said).1 id (editsCandidate_fields said).2
  · intro id said
    obtain ⟨type, isOne, isType, isId⟩ := decides_fields said
    exact undecided type (Or.inr isOne) isType id isId
  · intro id said
    exact active (Or.inl (editsMemory_fields said).1) id (editsMemory_fields said).2
  · intro id said
    exact active (Or.inr (deletesMemory_fields said).1) id (deletesMemory_fields said).2
  · intro id said
    exact granted (grants_fields said).1 id (grants_fields said).2
  · intro revocation found
    obtain ⟨isType, isGrant, isTarget⟩ := of_workspaceReadRevoked found
    exact revoked isType revocation isGrant isTarget

theorem admissible_other (other : ∀ type : MemoryEventType, event.type ≠ type.text) :
    Admissible early event :=
  admissible_of_type (fun isType => absurd isType (other _))
    (fun type _ isType => absurd isType (other type))
    (fun isType => isType.elim (fun isType => absurd isType (other _))
      (fun isType => absurd isType (other _)))
    (fun isType => absurd isType (other _)) (fun isType => absurd isType (other _))

end AnnaAgent.Memory
