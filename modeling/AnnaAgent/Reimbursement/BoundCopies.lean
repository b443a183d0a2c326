/-
The copies of a run.

A run has one object in the process and one row in the store.  Both have an
approval that was created for the run, and neither forgets that it was rejected.
-/

import AnnaAgent.Reimbursement.Decisions
import AnnaAgent.Reimbursement.Frames

namespace AnnaAgent.Reimbursement

open Foundation

variable {env : Environment} {facts : List Fact} {orchestrator : Orchestrator}

/-- The approval of a copy was created for the run, and if it has been rejected the copy
knows it. -/
def CopyBound (facts : List Fact) (run : ReimbursementRun) : Prop :=
  ∀ approval, run.approval = some approval →
    Fact.requested { approval with status := .pending } ∈ facts ∧ approval.runId = run.id ∧
      (approval.status ≠ .rejected →
        ∀ calledWith rejected, Fact.rejected calledWith rejected ∈ facts →
          rejected.id ≠ approval.id)

structure Bound (facts : List Fact) (orchestrator : Orchestrator) : Prop where
  unique : ∀ (ref : Ref) (run : ReimbursementRun), orchestrator.objects[ref]? = some run →
    orchestrator.runsById.get? run.id = some ref
  storedKey : ∀ (runId : RunId) (run : ReimbursementRun),
    orchestrator.stored.get? runId = some run → run.id = runId
  loadedFirst : ∀ (runId : RunId) (run : ReimbursementRun) (ref : Ref)
    (approval : ApprovalRequest), orchestrator.stored.get? runId = some run →
    orchestrator.runsById.get? runId = some ref → run.approval = some approval →
      (orchestrator.runsByApprovalId.get? approval.id).isSome = true
  objectIds : ∀ (ref : Ref) (run : ReimbursementRun), orchestrator.objects[ref]? = some run →
    run.id ≤ orchestrator.runSequence
  storedIds : ∀ (runId : RunId) (run : ReimbursementRun),
    orchestrator.stored.get? runId = some run → runId ≤ orchestrator.runSequence
  objects : ∀ (ref : Ref) (run : ReimbursementRun),
    orchestrator.objects[ref]? = some run → CopyBound facts run
  rows : ∀ (runId : RunId) (run : ReimbursementRun),
    orchestrator.stored.get? runId = some run → CopyBound facts run
  fresh : ∀ approval : ApprovalRequest, Fact.requested approval ∈ facts →
    approval.id ≤ orchestrator.approvalSequence
  distinct : ∀ approval other : ApprovalRequest, Fact.requested approval ∈ facts →
    Fact.requested other ∈ facts → approval.id = other.id → approval = other
  rejectedIds : ∀ calledWith approval, Fact.rejected calledWith approval ∈ facts →
    approval.id ≤ orchestrator.approvalSequence

theorem CopyBound.of_same {before after : ReimbursementRun} (bound : CopyBound facts before)
    (sameId : after.id = before.id) (sameApproval : after.approval = before.approval) :
    CopyBound facts after := by
  intro approval held
  rw [sameApproval] at held
  rw [sameId]
  exact bound approval held

variable {run : ReimbursementRun}

theorem CopyBound.later (bound : CopyBound facts run) {new : List Fact}
    (others : ∀ approval, run.approval = some approval → approval.status ≠ .rejected → ∀ calledWith rejected, Fact.rejected calledWith rejected ∈ new → rejected.id ≠ approval.id) :
    CopyBound (facts ++ new) run := by
  intro approval held
  rcases bound approval held with ⟨requested, sameRun, notRejected⟩
  refine ⟨List.mem_append_left _ requested, sameRun, ?_⟩
  intro believes calledWith rejected member
  rcases List.mem_append.mp member with earlier | later
  · exact notRejected believes calledWith rejected earlier
  · exact others approval held believes calledWith rejected later

variable {approval : ApprovalRequest}

theorem Bound.same_run (bound : Bound facts orchestrator) {first second : ReimbursementRun}
    {other : ApprovalRequest} (firstBound : CopyBound facts first)
    (secondBound : CopyBound facts second) (isFirst : first.approval = some approval)
    (isSecond : second.approval = some other) (sameId : approval.id = other.id) :
    first.id = second.id := by
  rcases firstBound approval isFirst with ⟨requested, firstRun, _⟩
  rcases secondBound other isSecond with ⟨otherRequested, secondRun, _⟩
  have same := bound.distinct _ _ requested otherRequested sameId
  have sameRunId : approval.runId = other.runId := (ApprovalRequest.mk.inj same).2.1
  rw [← firstRun, sameRunId, secondRun]

theorem objects_modify (ref other : Ref) (assign : ReimbursementRun → ReimbursementRun) :
    (orchestrator.modify ref assign).objects[other]? =
      (orchestrator.objects[other]?).map (fun run => if ref = other then assign run else run) :=
  List.getElem?_modify assign ref orchestrator.objects other

variable {ref : Ref} {assign : ReimbursementRun → ReimbursementRun}

theorem Bound.modify (bound : Bound facts orchestrator)
    (sameId : ∀ run, orchestrator.objects[ref]? = some run → (assign run).id = run.id)
    (assigned : ∀ run, orchestrator.objects[ref]? = some run → CopyBound facts (assign run)) :
    Bound facts (orchestrator.modify ref assign) := by
  have found : ∀ (other : Ref) (run : ReimbursementRun),
      (orchestrator.modify ref assign).objects[other]? = some run →
        ∃ earlier : ReimbursementRun, orchestrator.objects[other]? = some earlier ∧
          run.id = earlier.id ∧ CopyBound facts run := by
    intro other run held
    rw [objects_modify] at held
    rcases Option.map_eq_some_iff.mp held with ⟨earlier, isEarlier, same⟩
    refine ⟨earlier, isEarlier, ?_⟩
    by_cases here : ref = other
    · rw [if_pos here] at same
      rw [← here] at isEarlier
      rw [← same]
      exact ⟨sameId earlier isEarlier, assigned earlier isEarlier⟩
    · rw [if_neg here] at same
      rw [← same]
      exact ⟨rfl, bound.objects other earlier isEarlier⟩
  constructor
  · intro other run held
    rcases found other run held with ⟨earlier, isEarlier, same, _⟩
    rw [same]
    exact bound.unique other earlier isEarlier
  · exact bound.storedKey
  · exact bound.loadedFirst
  · intro other run held
    rcases found other run held with ⟨earlier, isEarlier, same, _⟩
    rw [same]
    exact bound.objectIds other earlier isEarlier
  · exact bound.storedIds
  · intro other run held
    rcases found other run held with ⟨_, _, _, isBound⟩
    exact isBound
  · exact bound.rows
  · exact bound.fresh
  · exact bound.distinct
  · exact bound.rejectedIds

theorem Bound.touch (bound : Bound facts orchestrator)
    (same : ∀ run, orchestrator.objects[ref]? = some run → (assign run).id = run.id ∧ (assign run).approval = run.approval) :
    Bound facts (orchestrator.modify ref assign) := by
  apply bound.modify
  · intro run held
    exact (same run held).1
  · intro run held
    exact (bound.objects ref run held).of_same (same run held).1 (same run held).2

theorem isSome_set_approval {run : ReimbursementRun} {approvalId : ApprovalId}
    (known : (orchestrator.runsByApprovalId.get? approvalId).isSome = true) :
    ((orchestrator.rememberRun ref run).runsByApprovalId.get? approvalId).isSome = true := by
  unfold Orchestrator.rememberRun
  dsimp only
  split
  · rw [OrderedMap.get?_set]
    split
    · rfl
    · exact known
  · exact known

theorem isSome_remembered (held : run.approval = some approval) :
    ((orchestrator.rememberRun ref run).runsByApprovalId.get? approval.id).isSome = true := by
  unfold Orchestrator.rememberRun
  dsimp only
  rw [held]
  dsimp only
  rw [OrderedMap.get?_set, if_pos rfl]
  rfl

theorem Bound.remember (bound : Bound facts orchestrator)
    (held : orchestrator.objects[ref]? = some run) :
    Bound facts (orchestrator.rememberRun ref run) := by
  have known := bound.unique ref run held
  have sameMap : ∀ runId, (orchestrator.rememberRun ref run).runsById.get? runId =
      orchestrator.runsById.get? runId := by
    intro runId
    change (orchestrator.runsById.set run.id ref).get? runId = _
    rw [OrderedMap.get?_set]
    split
    · rename_i same
      rw [same, known]
    · rfl
  constructor
  · intro other otherRun isOther
    rw [sameMap]
    exact bound.unique other otherRun isOther
  · exact bound.storedKey
  · intro runId row other approval stored isKnown isHeld
    rw [sameMap] at isKnown
    exact isSome_set_approval (bound.loadedFirst runId row other approval stored isKnown isHeld)
  · exact bound.objectIds
  · exact bound.storedIds
  · exact bound.objects
  · exact bound.rows
  · exact bound.fresh
  · exact bound.distinct
  · exact bound.rejectedIds

theorem Bound.store (bound : Bound facts orchestrator)
    (held : orchestrator.objects[ref]? = some run) :
    Bound facts
      { orchestrator.rememberRun ref run with
        stored := orchestrator.stored.set run.id run } := by
  have remembered := bound.remember held
  have row : ∀ (runId : RunId) (stored : ReimbursementRun),
      (orchestrator.stored.set run.id run).get? runId = some stored →
        (runId = run.id ∧ stored = run) ∨ orchestrator.stored.get? runId = some stored := by
    intro runId stored found
    rw [OrderedMap.get?_set] at found
    split at found
    · rename_i same
      cases found
      exact .inl ⟨same, rfl⟩
    · exact .inr found
  constructor
  · exact remembered.unique
  · intro runId stored found
    rcases row runId stored found with ⟨sameId, same⟩ | earlier
    · rw [same, sameId]
    · exact bound.storedKey runId stored earlier
  · intro runId stored other approval found isKnown isHeld
    rcases row runId stored found with ⟨_, same⟩ | earlier
    · rw [same] at isHeld
      exact isSome_remembered isHeld
    · exact remembered.loadedFirst runId stored other approval earlier isKnown isHeld
  · exact remembered.objectIds
  · intro runId stored found
    rcases row runId stored found with ⟨sameId, _⟩ | earlier
    · rw [sameId]
      exact bound.objectIds ref run held
    · exact bound.storedIds runId stored earlier
  · exact bound.objects
  · intro runId stored found
    rcases row runId stored found with ⟨_, same⟩ | earlier
    · rw [same]
      exact bound.objects ref run held
    · exact bound.rows runId stored earlier
  · exact bound.fresh
  · exact bound.distinct
  · exact bound.rejectedIds

theorem Bound.save (bound : Bound facts orchestrator) (ref : Ref) :
    Bound facts (orchestrator.saveAndReturn ref) := by
  unfold Orchestrator.saveAndReturn
  split
  · exact bound
  · rename_i run held
    exact bound.store held

theorem getElem?_concat_some {α : Type} {items : List α} {item found : α} {index : Nat}
    (isFound : (items ++ [item])[index]? = some found) :
    items[index]? = some found ∨ (index = items.length ∧ found = item) := by
  rcases Nat.lt_trichotomy index items.length with within | same | beyond
  · rw [List.getElem?_append_left within] at isFound
    exact .inl isFound
  · subst same
    rw [List.getElem?_concat_length] at isFound
    cases isFound
    exact .inr ⟨rfl, rfl⟩
  · have short : (items ++ [item]).length ≤ index := by
      rw [List.length_append, List.length_singleton]
      omega
    rw [List.getElem?_eq_none short] at isFound
    cases isFound

section

variable (bound : Bound facts orchestrator)

include bound

theorem Bound.object {run : ReimbursementRun}
    (known : ∀ (ref : Ref) (other : ReimbursementRun), orchestrator.objects[ref]? = some other → other.id ≠ run.id)
    (isBound : CopyBound facts run) (within : run.id ≤ orchestrator.runSequence)
    (loaded : ∀ row approval, orchestrator.stored.get? run.id = some row → row.approval = some approval → run.approval.map ApprovalRequest.id = some approval.id)
    :
    Bound facts
      ({ orchestrator with objects := orchestrator.objects ++ [run] }.rememberRun
        orchestrator.objects.length run) := by
  constructor
  · intro ref other isOther
    change (orchestrator.runsById.set run.id orchestrator.objects.length).get? other.id = some ref
    rw [OrderedMap.get?_set]
    rcases getElem?_concat_some isOther with earlier | ⟨isLast, same⟩
    · rw [if_neg (known ref other earlier)]
      exact bound.unique ref other earlier
    · rw [same, isLast, if_pos rfl]
  · exact bound.storedKey
  · intro runId row ref approval stored isKnown isHeld
    change (orchestrator.runsById.set run.id orchestrator.objects.length).get? runId = _ at isKnown
    rw [OrderedMap.get?_set] at isKnown
    split at isKnown
    · rename_i same
      subst same
      rcases Option.map_eq_some_iff.mp (loaded row approval stored isHeld) with
        ⟨own, isOwn, sameId⟩
      rw [← sameId]
      exact isSome_remembered isOwn
    · exact @isSome_set_approval
        { orchestrator with objects := orchestrator.objects ++ [run] } _ _ _
        (bound.loadedFirst runId row ref approval stored isKnown isHeld)
  · intro ref other isOther
    rcases getElem?_concat_some isOther with earlier | ⟨_, same⟩
    · exact bound.objectIds ref other earlier
    · rw [same]
      exact within
  · exact bound.storedIds
  · intro ref other isOther
    rcases getElem?_concat_some isOther with earlier | ⟨_, same⟩
    · exact bound.objects ref other earlier
    · rw [same]
      exact isBound
  · exact bound.rows
  · exact bound.fresh
  · exact bound.distinct
  · exact bound.rejectedIds

variable {found : Orchestrator × Ref}

theorem Bound.load {row : ReimbursementRun} (isStored : orchestrator.stored.get? row.id = some row)
    (noObject : orchestrator.runsById.get? row.id = none)
    (loaded : orchestrator.load env row = some found) : Bound facts found.1 := by
  unfold Orchestrator.load at loaded
  rcases Option.map_eq_some_iff.mp loaded with ⟨draft, _, same⟩
  rw [← same]
  refine @Bound.object facts orchestrator bound { row with draft := draft } ?_ ?_ ?_ ?_
  · intro ref other isOther sameId
    have isKnown := bound.unique ref other isOther
    have missing : orchestrator.runsById.get? other.id = none := by
      rw [sameId]
      exact noObject
    rw [missing] at isKnown
    cases isKnown
  · exact (bound.rows row.id row isStored).of_same rfl rfl
  · exact bound.storedIds row.id row isStored
  · intro other approval isOther held
    have sameRow : row = other := Option.some.inj (isStored.symm.trans isOther)
    rw [← sameRow] at held
    change row.approval.map ApprovalRequest.id = some approval.id
    rw [held]
    rfl

theorem Bound.getRun {runId : RunId} (isFound : orchestrator.getRun env runId = some found) :
    Bound facts found.1 := by
  unfold Orchestrator.getRun at isFound
  split at isFound
  · cases isFound
    exact bound
  · rename_i noObject
    rcases Option.bind_eq_some_iff.mp isFound with ⟨row, isStored, loaded⟩
    have sameId := bound.storedKey runId row isStored
    rw [← sameId] at isStored noObject
    exact bound.load isStored noObject loaded

theorem Bound.getRunByApprovalId {approvalId : ApprovalId}
    (isFound : orchestrator.getRunByApprovalId env approvalId = some found) :
    Bound facts found.1 := by
  unfold Orchestrator.getRunByApprovalId at isFound
  split at isFound
  · cases isFound
    exact bound
  · rename_i unknown
    rcases Option.bind_eq_some_iff.mp isFound with ⟨row, isRow, loaded⟩
    unfold Orchestrator.storedByApprovalId at isRow
    have matched := List.find?_some isRow
    have hasApproval := of_decide_eq_true matched
    rcases List.mem_map.mp (List.mem_of_find?_eq_some isRow) with ⟨⟨runId, value⟩, member, same⟩
    have isStored : orchestrator.stored.get? runId = some row := by
      rw [OrderedMap.get?_eq_some_iff, ← same]
      exact member
    have sameId := bound.storedKey runId row isStored
    rcases Option.map_eq_some_iff.mp hasApproval with ⟨approval, held, sameApproval⟩
    have noObject : orchestrator.runsById.get? runId = none := by
      cases known : orchestrator.runsById.get? runId with
      | none => rfl
      | some ref =>
        have isKnown := bound.loadedFirst runId row ref approval isStored known held
        rw [sameApproval, unknown] at isKnown
        cases isKnown
    rw [← sameId] at isStored noObject
    exact bound.load isStored noObject loaded

theorem Bound.begin (workspaceId actorUserId : String) (attachments : List AttachmentRef) :
    Bound facts (orchestrator.beginRun workspaceId actorUserId attachments) := by
  have wider : Bound facts { orchestrator with runSequence := orchestrator.runSequence + 1 } :=
    { bound with
      objectIds := fun ref run held => Nat.le_succ_of_le (bound.objectIds ref run held)
      storedIds := fun runId run stored => Nat.le_succ_of_le (bound.storedIds runId run stored) }
  refine @Bound.object facts _ wider
    (newRun (orchestrator.runSequence + 1) workspaceId actorUserId attachments) ?_ ?_ ?_ ?_
  · intro ref other isOther same
    have within := bound.objectIds ref other isOther
    rw [same] at within
    exact Nat.not_succ_le_self _ within
  · intro approval held
    cases held
  · exact Nat.le_refl _
  · intro row approval isStored held
    have within := bound.storedIds _ row isStored
    exact absurd within (Nat.not_succ_le_self _)

theorem Bound.restart : Bound facts orchestrator.restart :=
  { bound with
    unique := fun _ _ held => by cases held
    loadedFirst := fun _ _ _ _ _ known => by cases known
    objectIds := fun _ _ held => by cases held
    objects := fun _ _ held => by cases held }

end

/-! ### Decisions and readbacks -/

theorem same_verifyReceived (run : ReimbursementRun) (answer : Answer) :
    (verifyReceived env run answer).id = run.id ∧
      (verifyReceived env run answer).approval = run.approval := by
  cases answer with
  | error error | ok status => exact ⟨rfl, rfl⟩

theorem same_submitReceived (run : ReimbursementRun) (approvalId : ApprovalId) (writeId : Nat)
    (result : Fields) :
    (submitReceived env run approvalId writeId result).1.id = run.id ∧
      (submitReceived env run approvalId writeId result).1.approval = run.approval := by
  unfold submitReceived
  dsimp only
  split
  · exact ⟨rfl, rfl⟩
  · split
    · exact ⟨rfl, rfl⟩
    · split
      · exact ⟨rfl, rfl⟩
      · exact ⟨rfl, rfl⟩

theorem Bound.verify (bound : Bound facts orchestrator) (runId : RunId) (answer : Answer) :
    Bound facts (orchestrator.retryVerify env runId answer) := by
  unfold Orchestrator.retryVerify
  split
  · exact bound
  · rename_i found ref isFound
    have foundBound : Bound facts found := bound.getRun isFound
    split
    · exact foundBound
    · split
      · apply Bound.save
        apply foundBound.touch
        intro run _
        exact same_verifyReceived _ answer
      · exact foundBound

theorem submittable_spec (goesOn : submittable env run = some approval) :
    run.approval = some approval ∧ run.writeAction = none ∧ approval.status ≠ .rejected ∧
      approvalPayloadMatchesCurrentDraft env approval run.draft = true := by
  unfold submittable at goesOn
  split at goesOn
  · cases goesOn
  · rename_i own held
    split at goesOn
    · cases goesOn
    · rename_i noWrite
      split at goesOn
      · cases goesOn
      · rename_i decided
        split at goesOn
        · cases goesOn
        · split at goesOn
          · cases goesOn
          · split at goesOn
            · cases goesOn
            · rename_i matching
              cases goesOn
              refine ⟨held, ?_, ?_, ?_⟩
              · cases isWrite : run.writeAction with
                | none => rfl
                | some action =>
                  rw [isWrite] at noWrite
                  exact absurd rfl noWrite
              · intro isRejected
                apply decided
                rw [isRejected]
                simp
              · simpa using matching

theorem copyBound_openSubmit (bound : CopyBound facts run) (held : run.approval = some approval)
    (notRejected : approval.status ≠ .rejected) (approvalId : ApprovalId) (approvedBy : String) :
    CopyBound facts (openSubmit run approval approvalId approvedBy) := by
  intro opened isOpened
  cases isOpened
  rcases bound approval held with ⟨requested, sameRun, believed⟩
  exact ⟨requested, sameRun, fun _ => believed notRejected⟩

theorem Bound.submit (bound : Bound facts orchestrator)
    (held : orchestrator.objects[ref]? = some run) (goesOn : submittable env run = some approval)
    (approvalId : ApprovalId) (approvedBy : String) (submitAnswer verifyAnswer : Answer) :
    Bound facts (orchestrator.submitApproved env ref run approval approvalId approvedBy
      submitAnswer verifyAnswer) := by
  rcases submittable_spec goesOn with ⟨isApproval, _, notRejected, _⟩
  have opened := copyBound_openSubmit (bound.objects ref run held) isApproval notRejected
    approvalId approvedBy
  have modified : ∀ after : ReimbursementRun,
      after.id = (openSubmit run approval approvalId approvedBy).id →
        after.approval = (openSubmit run approval approvalId approvedBy).approval →
          Bound facts (orchestrator.modify ref (fun _ => after)) := by
    intro after sameId sameApproval
    apply bound.modify
    · intro other isOther
      have same : run = other := Option.some.inj (held.symm.trans isOther)
      rw [← same]
      exact sameId
    · intro other isOther
      exact opened.of_same sameId sameApproval
  unfold Orchestrator.submitApproved
  dsimp only
  split
  · apply Bound.save
    exact modified _ rfl rfl
  · rename_i result
    have sameCopy := @same_submitReceived env (openSubmit run approval approvalId approvedBy)
      approvalId (orchestrator.writeSequence + 1) result
    split
    · rename_i received isReceived
      rw [isReceived] at sameCopy
      exact modified received sameCopy.1 sameCopy.2
    · rename_i received isReceived
      rw [isReceived] at sameCopy
      have next := modified received sameCopy.1 sameCopy.2
      apply Bound.verify
      exact
        { next with }

theorem Bound.approve (bound : Bound facts orchestrator) (approvalId : ApprovalId)
    (approvedBy : String) (submitAnswer verifyAnswer : Answer) :
    Bound facts
      (orchestrator.approveSubmit env approvalId approvedBy submitAnswer verifyAnswer) := by
  unfold Orchestrator.approveSubmit
  split
  · exact bound
  · rename_i found ref isFound
    have foundBound : Bound facts found := bound.getRunByApprovalId isFound
    split
    · exact foundBound
    · rename_i run held
      split
      · exact foundBound
      · rename_i approval goesOn
        exact foundBound.submit held goesOn approvalId approvedBy submitAnswer verifyAnswer

theorem Bound.later (bound : Bound facts orchestrator) {new : List Fact}
    (noRequest : ∀ approval, Fact.requested approval ∉ new)
    (noRejection : ∀ calledWith approval, Fact.rejected calledWith approval ∉ new) :
    Bound (facts ++ new) orchestrator := by
  have copies : ∀ run, CopyBound facts run → CopyBound (facts ++ new) run := by
    intro run isBound
    apply isBound.later
    intro approval _ _ calledWith rejected member
    exact absurd member (noRejection calledWith rejected)
  have earlier : ∀ approval, Fact.requested approval ∈ facts ++ new →
      Fact.requested approval ∈ facts := by
    intro approval member
    rcases List.mem_append.mp member with early | late
    · exact early
    · exact absurd late (noRequest approval)
  exact
    { bound with
      objects := fun ref run held => copies run (bound.objects ref run held)
      rows := fun runId run stored => copies run (bound.rows runId run stored)
      fresh := fun approval member => bound.fresh approval (earlier approval member)
      distinct := fun approval other member otherMember =>
        bound.distinct approval other (earlier approval member) (earlier other otherMember)
      rejectedIds := fun calledWith approval member => by
        rcases List.mem_append.mp member with early | late
        · exact bound.rejectedIds calledWith approval early
        · exact absurd late (noRejection calledWith approval) }

/-! ### A new approval -/

theorem Bound.announce (bound : Bound facts orchestrator)
    (isNext : approval.id = orchestrator.approvalSequence + 1) :
    Bound (facts ++ [.requested approval])
      { orchestrator with approvalSequence := orchestrator.approvalSequence + 1 } := by
  have copies : ∀ run, CopyBound facts run → CopyBound (facts ++ [.requested approval]) run := by
    intro run isBound
    apply isBound.later
    intro _ _ _ calledWith rejected member
    simp at member
  have known : ∀ other, Fact.requested other ∈ facts ++ [.requested approval] →
      Fact.requested other ∈ facts ∨ other = approval := by
    intro other member
    rcases List.mem_append.mp member with early | late
    · exact .inl early
    · exact .inr (Fact.requested.inj (List.mem_singleton.mp late))
  exact
    { bound with
      objects := fun ref run held => copies run (bound.objects ref run held)
      rows := fun runId run stored => copies run (bound.rows runId run stored)
      fresh := fun other member => by
        rcases known other member with early | same
        · exact Nat.le_succ_of_le (bound.fresh other early)
        · rw [same, isNext]
      distinct := fun first second firstMember secondMember sameId => by
        rcases known first firstMember with firstEarly | firstSame
        · rcases known second secondMember with secondEarly | secondSame
          · exact bound.distinct first second firstEarly secondEarly sameId
          · have within := bound.fresh first firstEarly
            rw [sameId, secondSame, isNext] at within
            exact absurd within (Nat.not_succ_le_self _)
        · rcases known second secondMember with secondEarly | secondSame
          · have within := bound.fresh second secondEarly
            rw [← sameId, firstSame, isNext] at within
            exact absurd within (Nat.not_succ_le_self _)
          · rw [firstSame, secondSame]
      rejectedIds := fun calledWith rejected member => by
        rcases List.mem_append.mp member with early | late
        · exact Nat.le_succ_of_le (bound.rejectedIds calledWith rejected early)
        · simp at late }

theorem Bound.request (bound : Bound facts orchestrator)
    (held : orchestrator.objects[ref]? = some run) {arguments : Fields}
    (created : requestedApproval env run arguments (orchestrator.approvalSequence + 1) = some approval) :
    Bound (facts ++ [.requested approval])
      { orchestrator.modify ref (fun _ =>
          (dispatchSubmitIntent env run arguments (orchestrator.approvalSequence + 1)).1) with
        approvalSequence := orchestrator.approvalSequence + 1
        runsByApprovalId :=
          orchestrator.runsByApprovalId.set (orchestrator.approvalSequence + 1) ref } := by
  have made := approval_of_requested created
  have isNext : approval.id = orchestrator.approvalSequence + 1 := by
    rw [made]
    rfl
  have announced := bound.announce isNext
  rcases Untouched.approval_dispatchSubmitIntent created with ⟨sameId, isApproval, _⟩
  have modified : Bound (facts ++ [.requested approval])
      (Orchestrator.modify
        { orchestrator with approvalSequence := orchestrator.approvalSequence + 1 } ref (fun _ =>
          (dispatchSubmitIntent env run arguments (orchestrator.approvalSequence + 1)).1)) := by
    apply announced.modify
    · intro other isOther
      have same : run = other := Option.some.inj (held.symm.trans isOther)
      rw [← same]
      exact sameId
    · intro other isOther own isOwn
      rw [isApproval] at isOwn
      cases isOwn
      refine ⟨?_, ?_, ?_⟩
      · apply List.mem_append_right
        rw [made]
        exact List.mem_singleton_self _
      · rw [sameId, made]
        rfl
      · intro _ calledWith rejected member sameRejected
        rcases List.mem_append.mp member with early | late
        · have within := bound.rejectedIds calledWith rejected early
          rw [sameRejected, isNext] at within
          exact absurd within (Nat.not_succ_le_self _)
        · simp at late
  exact
    { modified with
      loadedFirst := fun runId row other own stored isKnown isOwn => by
        have isSome := modified.loadedFirst runId row other own stored isKnown isOwn
        change ((orchestrator.runsByApprovalId.set _ ref).get? own.id).isSome = true
        rw [OrderedMap.get?_set]
        split
        · rfl
        · exact isSome }

theorem Bound.tool (bound : Bound facts orchestrator) (ref : Ref) (requiredFields : List String)
    (toolName : String) (arguments : Fields) (answer : Answer) :
    Bound
      (facts ++ (orchestrator.requestOf env ref toolName arguments).toList.map Fact.requested)
      (orchestrator.toolCalled env ref requiredFields toolName arguments answer) := by
  unfold Orchestrator.toolCalled Orchestrator.requestOf
  cases held : orchestrator.objects[ref]? with
  | none =>
    rw [Option.bind_none, ite_self, Option.toList_none, List.map_nil, List.append_nil]
    exact bound
  | some run =>
    dsimp only
    rw [Option.bind_some]
    have touched : Untouched run (dispatchTool env run requiredFields toolName arguments
        (orchestrator.approvalSequence + 1) answer).1 →
        Bound facts (orchestrator.modify ref (fun _ => (dispatchTool env run requiredFields
          toolName arguments (orchestrator.approvalSequence + 1) answer).1)) := by
      intro untouched
      apply bound.touch
      intro other isOther
      have same : run = other := Option.some.inj (held.symm.trans isOther)
      rw [← same]
      exact ⟨untouched.id, untouched.approval⟩
    by_cases submits : toolName = "reimbursement.submit_intent"
    · rw [if_pos submits]
      have dispatched : dispatchTool env run requiredFields toolName arguments
          (orchestrator.approvalSequence + 1) answer =
          dispatchSubmitIntent env run arguments (orchestrator.approvalSequence + 1) :=
        if_pos submits
      cases created : requestedApproval env run arguments (orchestrator.approvalSequence + 1) with
      | none =>
        rw [if_neg (by simp), Option.toList_none, List.map_nil, List.append_nil]
        apply touched
        rw [dispatched]
        exact Untouched.dispatchSubmitIntent created
      | some approval =>
        rw [if_pos ⟨submits, rfl⟩, dispatched]
        exact bound.request held created
    · rw [if_neg submits, if_neg (fun both => submits both.1), Option.toList_none, List.map_nil,
        List.append_nil]
      exact touched (Untouched.dispatchTool run requiredFields submits arguments _ answer)

theorem Bound.rejected (bound : Bound facts orchestrator)
    (held : orchestrator.objects[ref]? = some run)
    (isStored : orchestrator.stored.get? run.id = some run)
    (isApproval : run.approval = some approval) (isRejected : approval.status = .rejected)
    (calledWith : ApprovalId) {rejected : ApprovalRequest} (sameId : rejected.id = approval.id) :
    Bound (facts ++ [.rejected calledWith rejected]) orchestrator := by
  have mine := bound.objects ref run held
  have copies : ∀ other, CopyBound facts other → (other.id = run.id → other = run) →
      CopyBound (facts ++ [.rejected calledWith rejected]) other := by
    intro other isBound sameRun
    apply isBound.later
    intro own isOwn believes otherCall otherRejected member same
    cases List.mem_singleton.mp member
    have isSame := sameRun (bound.same_run isBound mine isOwn isApproval (same.symm.trans sameId))
    rw [isSame, isApproval] at isOwn
    cases isOwn
    exact believes isRejected
  have requested : ∀ other, Fact.requested other ∈ facts ++ [.rejected calledWith rejected] →
      Fact.requested other ∈ facts := by
    intro other member
    rcases List.mem_append.mp member with early | late
    · exact early
    · cases List.mem_singleton.mp late
  exact
    { bound with
      objects := fun other otherRun isOther => by
        apply copies otherRun (bound.objects other otherRun isOther)
        intro sameRun
        have first := bound.unique other otherRun isOther
        rw [sameRun, bound.unique ref run held] at first
        cases first
        exact Option.some.inj (isOther.symm.trans held)
      rows := fun runId row stored => by
        apply copies row (bound.rows runId row stored)
        intro sameRun
        have isKey := bound.storedKey runId row stored
        rw [← isKey, sameRun] at stored
        exact Option.some.inj (stored.symm.trans isStored)
      fresh := fun other member => bound.fresh other (requested other member)
      distinct := fun first second firstMember secondMember =>
        bound.distinct first second (requested first firstMember) (requested second secondMember)
      rejectedIds := fun otherCall otherRejected member => by
        rcases List.mem_append.mp member with early | late
        · exact bound.rejectedIds otherCall otherRejected early
        · cases List.mem_singleton.mp late
          rw [sameId]
          exact bound.fresh { approval with status := .pending } (mine approval isApproval).1 }

theorem rejectable_spec (goesOn : rejectable run = some approval) :
    run.approval = some approval ∧ approval.status = .pending := by
  unfold rejectable at goesOn
  split at goesOn
  · cases goesOn
  · rename_i own held
    split at goesOn
    · rename_i isPending
      cases goesOn
      exact ⟨held, isPending⟩
    · cases goesOn

theorem Bound.reject (bound : Bound facts orchestrator) (approvalId : ApprovalId)
    (rejectedBy : String) :
    Bound
      (facts ++ (orchestrator.rejectionOf env approvalId).toList.map (Fact.rejected approvalId))
      (orchestrator.rejectSubmit env approvalId rejectedBy) := by
  unfold Orchestrator.rejectSubmit Orchestrator.rejectionOf Orchestrator.runOfApproval
  cases isFound : orchestrator.getRunByApprovalId env approvalId with
  | none =>
    rw [Option.bind_none, Option.bind_none, Option.toList_none, List.map_nil, List.append_nil]
    exact bound
  | some entry =>
    rcases entry with ⟨found, ref⟩
    have foundBound : Bound facts found := bound.getRunByApprovalId isFound
    rw [Option.bind_some]
    dsimp only
    cases held : found.objects[ref]? with
    | none =>
      rw [Option.bind_none, Option.toList_none, List.map_nil, List.append_nil]
      exact foundBound
    | some run =>
      rw [Option.bind_some]
      dsimp only
      cases goesOn : rejectable run with
      | none =>
        rw [Option.toList_none, List.map_nil, List.append_nil]
        exact foundBound
      | some approval =>
        rcases rejectable_spec goesOn with ⟨isApproval, _⟩
        have isObject : (found.modify ref (fun _ =>
            rejectedRun run approval approvalId rejectedBy)).objects[ref]? =
              some (rejectedRun run approval approvalId rejectedBy) := by
          rw [objects_modify, held, Option.map_some, if_pos rfl]
        have modified : Bound facts (found.modify ref (fun _ =>
            rejectedRun run approval approvalId rejectedBy)) := by
          apply foundBound.modify
          · intro other isOther
            have same : run = other := Option.some.inj (held.symm.trans isOther)
            rw [← same]
            rfl
          · intro other isOther own isOwn
            cases isOwn
            rcases foundBound.objects ref run held approval isApproval with
              ⟨requested, sameRun, _⟩
            exact ⟨requested, sameRun, fun believes => absurd rfl believes⟩
        have saved := modified.store isObject
        change Bound (facts ++ [.rejected approvalId approval])
          ((found.modify ref _).saveAndReturn ref)
        unfold Orchestrator.saveAndReturn
        rw [isObject]
        refine saved.rejected isObject ?_ rfl rfl approvalId rfl
        rw [OrderedMap.get?_set, if_pos rfl]

end AnnaAgent.Reimbursement
