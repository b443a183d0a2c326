/-
What guards a submission.

The approval of the run while `adapter.submit` is on its way, and the write action
afterwards.  Both hold as long as the object is the only one of its run, and the row
of the store follows it.
-/

import AnnaAgent.Reimbursement.BoundCopies
import AnnaAgent.Reimbursement.Interleaving

namespace AnnaAgent.Reimbursement

open Foundation

variable {env : Environment} {orchestrator : Orchestrator} {calls : List Call}
  {submitted : List RunId}

structure Guarded (orchestrator : Orchestrator) (calls : List Call) (submitted : List RunId) :
    Prop where
  registered : ∀ (runId : RunId) (ref : Ref), orchestrator.runsById.get? runId = some ref →
    ∃ run : ReimbursementRun, orchestrator.objects[ref]? = some run ∧ run.id = runId
  known : ∀ (ref : Ref) (run : ReimbursementRun), orchestrator.objects[ref]? = some run →
    (orchestrator.runsById.get? run.id).isSome = true ∧ run.id ≤ orchestrator.runSequence
  keys : ∀ (runId : RunId) (row : ReimbursementRun), orchestrator.stored.get? runId = some row →
    row.id = runId ∧ runId ≤ orchestrator.runSequence
  counted : ∀ runId ∈ submitted, runId ≤ orchestrator.runSequence
  holds : ∀ call ∈ calls, ∀ (ref : Ref) (runId : RunId), call.holds = some (ref, runId) →
    orchestrator.runsById.get? runId = some ref
  single : (calls.filterMap Call.submits).Nodup
  notAgain : ∀ runId ∈ submitted, runId ∉ calls.filterMap Call.submits
  opened : ∀ runId ∈ calls.filterMap Call.submits, ∀ (ref : Ref) (run : ReimbursementRun),
    orchestrator.runsById.get? runId = some ref → orchestrator.objects[ref]? = some run →
      run.isApproved
  kept : ∀ runId ∈ submitted, ∀ (ref : Ref) (run : ReimbursementRun),
    orchestrator.runsById.get? runId = some ref → orchestrator.objects[ref]? = some run →
      run.isApproved ∧ (runId ∈ calls.filterMap Call.numbers ∨ run.writeAction.isSome = true)
  stored : ∀ runId ∈ submitted,
    (∃ row, orchestrator.stored.get? runId = some row ∧ row.isRecorded) ∨
      runId ∈ calls.filterMap Call.records
  asked : ∀ query purpose, .reading query purpose ∈ calls → query.isAskedFor purpose = true
  loaded : ∀ rows purpose, .loaded rows purpose ∈ calls →
    (purpose ≠ .read → rows.length = 1) ∧ ∀ row ∈ rows, row.id ≤ orchestrator.runSequence ∧
      (orchestrator.runsById.get? row.id = none →
        ∃ current, orchestrator.stored.get? row.id = some current ∧ Untouched current row)

namespace Untouched

section

variable {before after : ReimbursementRun} (untouched : Untouched before after)

include untouched

theorem symm : Untouched after before :=
  ⟨untouched.id.symm, untouched.approval.symm, untouched.writeAction.symm⟩

theorem isApproved (approved : before.isApproved) : after.isApproved := by
  rcases approved with ⟨approval, isApproval, isApproved⟩
  refine ⟨approval, ?_, isApproved⟩
  rw [untouched.approval]
  exact isApproval

theorem isRecorded (recorded : before.isRecorded) : after.isRecorded := by
  refine ⟨untouched.isApproved recorded.1, ?_⟩
  rw [untouched.writeAction]
  exact recorded.2

end

end Untouched

variable {row : ReimbursementRun} {run : ReimbursementRun}

theorem untouched_reload (reloaded : reload env row = some run) :
    Untouched row run := by
  rcases Option.map_eq_some_iff.mp reloaded with ⟨draft, _, same⟩
  rw [← same]
  exact ⟨rfl, rfl, rfl⟩

variable {runId : RunId} {call : Call}

theorem mem_submits (isCall : call ∈ calls) (submits : call.submits = some runId) :
    runId ∈ calls.filterMap Call.submits :=
  List.mem_filterMap.mpr ⟨call, isCall, submits⟩

theorem holds_of_submits (submits : call.submits = some runId) :
    ∃ ref, call.holds = some (ref, runId) := by
  cases call with
  | submitting ref held approvalId =>
    cases submits
    exact ⟨ref, rfl⟩
  | _ => cases submits

theorem holds_of_numbers (numbers : call.numbers = some runId) :
    ∃ ref, call.holds = some (ref, runId) := by
  cases call with
  | numbering ref held approvalId =>
    cases numbers
    exact ⟨ref, rfl⟩
  | _ => cases numbers

theorem holds_of_records (records : call.records = some runId) :
    ∃ ref, call.holds = some (ref, runId) := by
  cases call with
  | numbering ref held approvalId | verifying ref held | saving ref held =>
    cases records
    exact ⟨ref, rfl⟩
  | _ => cases records

theorem records_of_numbers (numbers : runId ∈ calls.filterMap Call.numbers) :
    runId ∈ calls.filterMap Call.records := by
  rcases List.mem_filterMap.mp numbers with ⟨call, isCall, isNumber⟩
  refine List.mem_filterMap.mpr ⟨call, isCall, ?_⟩
  cases call with
  | numbering ref held approvalId => exact isNumber
  | _ => cases isNumber

theorem filterMap_erase_or {value : Call → Option RunId} {call : Call} {runId : RunId}
    (member : runId ∈ calls.filterMap value) :
    value call = some runId ∨ runId ∈ (calls.erase call).filterMap value := by
  rcases List.mem_filterMap.mp member with ⟨other, isOther, isValue⟩
  by_cases same : other = call
  · rw [same] at isValue
    exact .inl isValue
  · exact .inr (List.mem_filterMap.mpr ⟨other, (List.mem_erase_of_ne same).mpr isOther, isValue⟩)

theorem filterMap_append_left {value : Call → Option RunId} {new : List Call}
    (member : runId ∈ calls.filterMap value) : runId ∈ (calls ++ new).filterMap value := by
  rw [List.filterMap_append]
  exact List.mem_append_left _ member

namespace Guarded

section

variable (guarded : Guarded orchestrator calls submitted)

include guarded

theorem held {ref : Ref} (isCall : call ∈ calls) (holds : call.holds = some (ref, runId)) :
    orchestrator.runsById.get? runId = some ref ∧
      ∃ run : ReimbursementRun, orchestrator.objects[ref]? = some run ∧ run.id = runId := by
  have isRef := guarded.holds call isCall ref runId holds
  exact ⟨isRef, guarded.registered runId ref isRef⟩

theorem change_calls {others : List Call}
    (holds : ∀ call ∈ others, call ∈ calls ∨ ∀ (ref : Ref) (runId : RunId), call.holds = some (ref, runId) → orchestrator.runsById.get? runId = some ref)
    (submits : (others.filterMap Call.submits).Sublist (calls.filterMap Call.submits))
    (numbers : ∀ runId ∈ submitted, runId ∈ calls.filterMap Call.numbers → runId ∈ others.filterMap Call.numbers ∨ ∀ (ref : Ref) (run : ReimbursementRun), orchestrator.runsById.get? runId = some ref → orchestrator.objects[ref]? = some run → run.writeAction.isSome = true)
    (records : ∀ runId ∈ submitted, runId ∈ calls.filterMap Call.records → (∃ row, orchestrator.stored.get? runId = some row ∧ row.isRecorded) ∨ runId ∈ others.filterMap Call.records)
    (asked : ∀ query purpose, .reading query purpose ∈ others → .reading query purpose ∈ calls ∨ query.isAskedFor purpose = true)
    (loaded : ∀ rows purpose, .loaded rows purpose ∈ others → .loaded rows purpose ∈ calls ∨ (purpose ≠ .read → rows.length = 1) ∧ ∀ row ∈ rows, row.id ≤ orchestrator.runSequence ∧ (orchestrator.runsById.get? row.id = none → ∃ current, orchestrator.stored.get? row.id = some current ∧ Untouched current row))
    :
    Guarded orchestrator others submitted := by
  constructor
  · exact guarded.registered
  · exact guarded.known
  · exact guarded.keys
  · exact guarded.counted
  · intro call isCall ref runId isHeld
    rcases holds call isCall with early | new
    · exact guarded.holds call early ref runId isHeld
    · exact new ref runId isHeld
  · exact submits.nodup guarded.single
  · intro runId isSubmitted member
    exact guarded.notAgain runId isSubmitted (submits.subset member)
  · intro runId member
    exact guarded.opened runId (submits.subset member)
  · intro runId isSubmitted ref run isRef isRun
    have now := guarded.kept runId isSubmitted ref run isRef isRun
    refine ⟨now.1, ?_⟩
    rcases now.2 with numbering | written
    · rcases numbers runId isSubmitted numbering with still | written
      · exact .inl still
      · exact .inr (written ref run isRef isRun)
    · exact .inr written
  · intro runId isSubmitted
    rcases guarded.stored runId isSubmitted with row | recording
    · exact .inl row
    · exact records runId isSubmitted recording
  · intro query purpose member
    rcases asked query purpose member with early | new
    · exact guarded.asked query purpose early
    · exact new
  · intro rows purpose member
    rcases loaded rows purpose member with early | new
    · exact guarded.loaded rows purpose early
    · exact new

theorem add
    (holds : ∀ (ref : Ref) (runId : RunId), call.holds = some (ref, runId) → orchestrator.runsById.get? runId = some ref)
    (submits : call.submits = none)
    (asked : ∀ query purpose, call = .reading query purpose → query.isAskedFor purpose = true)
    (loaded : ∀ rows purpose, call = .loaded rows purpose → (purpose ≠ .read → rows.length = 1) ∧ ∀ row ∈ rows, row.id ≤ orchestrator.runSequence ∧ (orchestrator.runsById.get? row.id = none → ∃ current, orchestrator.stored.get? row.id = some current ∧ Untouched current row)) :
    Guarded orchestrator (calls ++ [call]) submitted := by
  have split : ∀ other ∈ calls ++ [call], other ∈ calls ∨ other = call := by
    intro other member
    rcases List.mem_append.mp member with early | late
    · exact .inl early
    · exact .inr (List.mem_singleton.mp late)
  apply guarded.change_calls
  · intro other member
    rcases split other member with early | same
    · exact .inl early
    · subst same
      exact .inr holds
  · rw [List.filterMap_append, List.filterMap_cons_none submits, List.filterMap_nil,
      List.append_nil]
  · intro runId _ member
    exact .inl (filterMap_append_left member)
  · intro runId _ member
    exact .inr (filterMap_append_left member)
  · intro query purpose member
    rcases split _ member with early | same
    · exact .inl early
    · exact .inr (asked query purpose same.symm)
  · intro rows purpose member
    rcases split _ member with early | same
    · exact .inl early
    · exact .inr (loaded rows purpose same.symm)

theorem add_saving {ref : Ref} (isRef : orchestrator.runsById.get? runId = some ref) :
    Guarded orchestrator (calls ++ [.saving ref runId]) submitted := by
  apply guarded.add
  · intro other otherId same
    cases same
    exact isRef
  · rfl
  · intro query purpose same
    cases same
  · intro rows purpose same
    cases same

theorem add_verifying {ref : Ref} (isRef : orchestrator.runsById.get? runId = some ref) :
    Guarded orchestrator (calls ++ [.verifying ref runId]) submitted := by
  apply guarded.add
  · intro other otherId same
    cases same
    exact isRef
  · rfl
  · intro query purpose same
    cases same
  · intro rows purpose same
    cases same

theorem drop (call : Call)
    (numbers : ∀ runId ∈ submitted, call.numbers = some runId → ∀ (ref : Ref) (run : ReimbursementRun), orchestrator.runsById.get? runId = some ref → orchestrator.objects[ref]? = some run → run.writeAction.isSome = true)
    (records : ∀ runId ∈ submitted, call.records = some runId → (∃ row, orchestrator.stored.get? runId = some row ∧ row.isRecorded) ∨ runId ∈ (calls.erase call).filterMap Call.records)
    :
    Guarded orchestrator (calls.erase call) submitted := by
  apply guarded.change_calls
  · intro other member
    exact .inl (List.mem_of_mem_erase member)
  · exact List.erase_sublist.filterMap _
  · intro runId isSubmitted member
    rcases filterMap_erase_or member with gone | still
    · exact .inr (numbers runId isSubmitted gone)
    · exact .inl still
  · intro runId isSubmitted member
    rcases filterMap_erase_or member with gone | still
    · exact records runId isSubmitted gone
    · exact .inr still
  · intro query purpose member
    exact .inl (List.mem_of_mem_erase member)
  · intro rows purpose member
    exact .inl (List.mem_of_mem_erase member)

theorem drop_silent (numbers : call.numbers = none) (records : call.records = none) :
    Guarded orchestrator (calls.erase call) submitted := by
  apply guarded.drop call
  · intro runId _ same
    rw [numbers] at same
    cases same
  · intro runId _ same
    rw [records] at same
    cases same

end

/-! ### The objects -/

theorem of_same (guarded : Guarded orchestrator calls submitted) {after : Orchestrator}
    (objects : after.objects = orchestrator.objects)
    (runsById : ∀ runId, after.runsById.get? runId = orchestrator.runsById.get? runId)
    (stored : after.stored = orchestrator.stored)
    (runSequence : after.runSequence = orchestrator.runSequence) :
    Guarded after calls submitted := by
  constructor
  · simp only [objects, runsById]
    exact guarded.registered
  · simp only [objects, runsById, runSequence]
    exact guarded.known
  · simp only [stored, runSequence]
    exact guarded.keys
  · simp only [runSequence]
    exact guarded.counted
  · simp only [runsById]
    exact guarded.holds
  · exact guarded.single
  · exact guarded.notAgain
  · simp only [objects, runsById]
    exact guarded.opened
  · simp only [objects, runsById]
    exact guarded.kept
  · simp only [stored]
    exact guarded.stored
  · exact guarded.asked
  · simp only [stored, runsById, runSequence]
    exact guarded.loaded

variable {after : ReimbursementRun}

theorem object_modified {ref other : Ref} {found : ReimbursementRun}
    (isFound : (orchestrator.modify ref (fun _ => after)).objects[other]? = some found) :
    (other = ref ∧ found = after) ∨ (other ≠ ref ∧ orchestrator.objects[other]? = some found) := by
  rw [objects_modify] at isFound
  rcases Option.map_eq_some_iff.mp isFound with ⟨earlier, isEarlier, same⟩
  by_cases here : ref = other
  · rw [if_pos here] at same
    exact .inl ⟨here.symm, same.symm⟩
  · rw [if_neg here] at same
    rw [← same]
    exact .inr ⟨fun back => here back.symm, isEarlier⟩

theorem object_here {ref : Ref} (isRun : orchestrator.objects[ref]? = some run) :
    (orchestrator.modify ref (fun _ => after)).objects[ref]? = some after := by
  rw [objects_modify, isRun, Option.map_some, if_pos rfl]

section

variable {ref : Ref} (guarded : Guarded orchestrator calls submitted)

include guarded

theorem modify (isRun : orchestrator.objects[ref]? = some run) (sameId : after.id = run.id)
    (opened : run.id ∈ calls.filterMap Call.submits → orchestrator.runsById.get? run.id = some ref → after.isApproved)
    (kept : run.id ∈ submitted → orchestrator.runsById.get? run.id = some ref → after.isApproved ∧ (run.id ∈ calls.filterMap Call.numbers ∨ after.writeAction.isSome = true)) :
    Guarded (orchestrator.modify ref (fun _ => after)) calls submitted := by
  have ofRun : ∀ runId, orchestrator.runsById.get? runId = some ref → runId = run.id := by
    intro runId isRef
    rcases guarded.registered runId ref isRef with ⟨other, isOther, isId⟩
    rw [isRun] at isOther
    cases isOther
    exact isId.symm
  constructor
  · intro runId other isRef
    rcases guarded.registered runId other isRef with ⟨earlier, isEarlier, isId⟩
    by_cases here : other = ref
    · subst here
      refine ⟨after, object_here isRun, ?_⟩
      rw [sameId]
      exact (ofRun runId isRef).symm
    · refine ⟨earlier, ?_, isId⟩
      rw [objects_modify, isEarlier, Option.map_some, if_neg (fun back => here back.symm)]
  · intro other found isFound
    rcases object_modified isFound with ⟨_, same⟩ | ⟨_, earlier⟩
    · rw [same, sameId]
      exact guarded.known ref run isRun
    · exact guarded.known other found earlier
  · exact guarded.keys
  · exact guarded.counted
  · exact guarded.holds
  · exact guarded.single
  · exact guarded.notAgain
  · intro runId member other found isRef isFound
    rcases object_modified isFound with ⟨here, same⟩ | ⟨_, earlier⟩
    · subst here same
      have isId := ofRun runId isRef
      subst isId
      exact opened member isRef
    · exact guarded.opened runId member other found isRef earlier
  · intro runId member other found isRef isFound
    rcases object_modified isFound with ⟨here, same⟩ | ⟨_, earlier⟩
    · subst here same
      have isId := ofRun runId isRef
      subst isId
      exact kept member isRef
    · exact guarded.kept runId member other found isRef earlier
  · exact guarded.stored
  · exact guarded.asked
  · exact guarded.loaded

theorem touch (isRun : orchestrator.objects[ref]? = some run) (untouched : Untouched run after) :
    Guarded (orchestrator.modify ref (fun _ => after)) calls submitted := by
  apply guarded.modify isRun untouched.id
  · intro member isRef
    exact untouched.isApproved (guarded.opened run.id member ref run isRef isRun)
  · intro member isRef
    rw [untouched.writeAction]
    have now := guarded.kept run.id member ref run isRef isRun
    exact ⟨untouched.isApproved now.1, now.2⟩

theorem remember (isRef : orchestrator.runsById.get? run.id = some ref) :
    Guarded (orchestrator.rememberRun ref run) calls submitted := by
  apply guarded.of_same
  · rfl
  · intro runId
    change (orchestrator.runsById.set run.id ref).get? runId = _
    rw [OrderedMap.get?_set]
    split
    · rename_i same
      rw [same, isRef]
    · rfl
  · rfl
  · rfl

end

end Guarded

/-- A copy that may become the object of its run. -/
structure Adoptable (orchestrator : Orchestrator) (calls : List Call) (row : ReimbursementRun) :
    Prop where
  within : row.id ≤ orchestrator.runSequence
  quiet : ∀ call ∈ calls, ∀ ref, call.holds ≠ some (ref, row.id)
  current : ∀ (ref : Ref) (current : ReimbursementRun),
    orchestrator.runsById.get? row.id = some ref → orchestrator.objects[ref]? = some current →
      Untouched current row
  stored : orchestrator.runsById.get? row.id = none →
    ∃ current, orchestrator.stored.get? row.id = some current ∧ Untouched current row

namespace Guarded

theorem place (guarded : Guarded orchestrator calls submitted)
    (adoptable : Adoptable orchestrator calls row) {objects : List ReimbursementRun} {place : Ref}
    (extended : ∀ (ref : Ref) (run : ReimbursementRun), orchestrator.objects[ref]? = some run →
      objects[ref]? = some run)
    (isNew : ∀ (ref : Ref) (run : ReimbursementRun), objects[ref]? = some run →
      orchestrator.objects[ref]? = some run ∨ run = row) (placed : objects[place]? = some row) :
    Guarded ({ orchestrator with objects := objects }.rememberRun place row) calls submitted := by
  have isRef : ∀ runId ref, (orchestrator.runsById.set row.id place).get? runId = some ref →
      (runId = row.id ∧ ref = place) ∨
        (runId ≠ row.id ∧ orchestrator.runsById.get? runId = some ref) := by
    intro runId ref found
    rw [OrderedMap.get?_set] at found
    split at found
    · rename_i same
      cases found
      exact .inl ⟨same, rfl⟩
    · rename_i other
      exact .inr ⟨other, found⟩
  have isHere : (orchestrator.runsById.set row.id place).get? row.id = some place := by
    rw [OrderedMap.get?_set, if_pos rfl]
  have objectOf : ∀ (runId : RunId) (ref : Ref) (run : ReimbursementRun),
      orchestrator.runsById.get? runId = some ref → objects[ref]? = some run →
        orchestrator.objects[ref]? = some run := by
    intro runId ref run found isRun
    rcases guarded.registered runId ref found with ⟨earlier, isEarlier, _⟩
    rw [extended ref earlier isEarlier] at isRun
    rw [isEarlier]
    exact isRun
  constructor
  · intro runId ref found
    rcases isRef runId ref found with ⟨sameId, here⟩ | ⟨_, earlier⟩
    · rw [sameId, here]
      exact ⟨row, placed, rfl⟩
    · rcases guarded.registered runId ref earlier with ⟨run, isRun, isId⟩
      exact ⟨run, extended ref run isRun, isId⟩
  · intro ref run isRun
    rcases isNew ref run isRun with earlier | same
    · refine ⟨?_, (guarded.known ref run earlier).2⟩
      change ((orchestrator.runsById.set row.id place).get? run.id).isSome = true
      rw [OrderedMap.get?_set]
      split
      · rfl
      · exact (guarded.known ref run earlier).1
    · rw [same]
      refine ⟨?_, adoptable.within⟩
      change ((orchestrator.runsById.set row.id place).get? row.id).isSome = true
      rw [isHere]
      rfl
  · exact guarded.keys
  · exact guarded.counted
  · intro call isCall ref runId holds
    change (orchestrator.runsById.set row.id place).get? runId = some ref
    rw [OrderedMap.get?_set, if_neg]
    · exact guarded.holds call isCall ref runId holds
    · intro same
      rw [same] at holds
      exact adoptable.quiet call isCall ref holds
  · exact guarded.single
  · exact guarded.notAgain
  · intro runId member ref run found isRun
    rcases isRef runId ref found with ⟨sameId, _⟩ | ⟨_, earlier⟩
    · rcases List.mem_filterMap.mp member with ⟨call, isCall, submits⟩
      rcases holds_of_submits submits with ⟨holder, holds⟩
      rw [sameId] at holds
      exact absurd holds (adoptable.quiet call isCall holder)
    · exact guarded.opened runId member ref run earlier (objectOf runId ref run earlier isRun)
  · intro runId member ref run found isRun
    rcases isRef runId ref found with ⟨sameId, here⟩ | ⟨_, earlier⟩
    · subst sameId here
      have sameRun : row = run := Option.some.inj (placed.symm.trans isRun)
      subst sameRun
      cases isKnown : orchestrator.runsById.get? row.id with
      | some old =>
        rcases guarded.registered row.id old isKnown with ⟨current, isCurrent, _⟩
        have untouched := adoptable.current old current isKnown isCurrent
        have now := guarded.kept row.id member old current isKnown isCurrent
        rw [untouched.writeAction]
        exact ⟨untouched.isApproved now.1, now.2⟩
      | none =>
        rcases adoptable.stored isKnown with ⟨current, isCurrent, untouched⟩
        rcases guarded.stored row.id member with ⟨kept, isKept, recorded⟩ | recording
        · rw [isCurrent] at isKept
          cases isKept
          have now := untouched.isRecorded recorded
          exact ⟨now.1, .inr now.2⟩
        · rcases List.mem_filterMap.mp recording with ⟨call, isCall, records⟩
          rcases holds_of_records records with ⟨holder, holds⟩
          exact absurd holds (adoptable.quiet call isCall holder)
    · exact guarded.kept runId member ref run earlier (objectOf runId ref run earlier isRun)
  · exact guarded.stored
  · exact guarded.asked
  · intro rows purpose member
    refine ⟨(guarded.loaded rows purpose member).1, ?_⟩
    intro other isOther
    refine ⟨((guarded.loaded rows purpose member).2 other isOther).1, ?_⟩
    intro missing
    change (orchestrator.runsById.set row.id place).get? other.id = none at missing
    rw [OrderedMap.get?_set] at missing
    split at missing
    · cases missing
    · exact ((guarded.loaded rows purpose member).2 other isOther).2 missing

theorem getElem?_concat_of_some {α : Type} {items : List α} {item found : α} {index : Nat}
    (isFound : items[index]? = some found) : (items ++ [item])[index]? = some found := by
  rcases List.getElem?_eq_some_iff.mp isFound with ⟨within, _⟩
  rw [List.getElem?_append_left within]
  exact isFound

theorem adopt (guarded : Guarded orchestrator calls submitted)
    (adoptable : Adoptable orchestrator calls row) :
    Guarded (orchestrator.adopt row) calls submitted := by
  apply guarded.place adoptable
  · intro ref run isRun
    exact getElem?_concat_of_some isRun
  · intro ref run isRun
    rcases getElem?_concat_some isRun with earlier | ⟨_, same⟩
    · exact .inl earlier
    · exact .inr same
  · exact List.getElem?_concat_length

theorem adoptable_adopt (guarded : Guarded orchestrator calls submitted)
    {other : ReimbursementRun} (adoptable : Adoptable orchestrator calls row)
    (later : Adoptable orchestrator calls other) :
    Adoptable (orchestrator.adopt row) calls other := by
  have known : (orchestrator.adopt row).runsById.get? other.id =
      if other.id = row.id then some orchestrator.objects.length
      else orchestrator.runsById.get? other.id := by
    change (orchestrator.runsById.set row.id orchestrator.objects.length).get? other.id = _
    rw [OrderedMap.get?_set]
  constructor
  · exact later.within
  · exact later.quiet
  · intro ref current isRef isCurrent
    change (orchestrator.objects ++ [row])[ref]? = some current at isCurrent
    rw [known] at isRef
    by_cases same : other.id = row.id
    · rw [if_pos same] at isRef
      cases isRef
      rw [List.getElem?_concat_length] at isCurrent
      cases isCurrent
      cases isKnown : orchestrator.runsById.get? row.id with
      | some old =>
        rcases guarded.registered row.id old isKnown with ⟨before, isBefore, _⟩
        have first := adoptable.current old before isKnown isBefore
        rw [← same] at isKnown
        exact first.symm.trans (later.current old before isKnown isBefore)
      | none =>
        rcases adoptable.stored isKnown with ⟨before, isBefore, first⟩
        rw [← same] at isKnown isBefore
        rcases later.stored isKnown with ⟨again, isAgain, second⟩
        rw [isBefore] at isAgain
        cases isAgain
        exact first.symm.trans second
    · rw [if_neg same] at isRef
      rcases guarded.registered other.id ref isRef with ⟨earlier, isEarlier, _⟩
      rw [getElem?_concat_of_some isEarlier] at isCurrent
      rw [← isEarlier] at isCurrent
      exact later.current ref current isRef isCurrent.symm.symm
  · intro missing
    rw [known] at missing
    by_cases same : other.id = row.id
    · rw [if_pos same] at missing
      cases missing
    · rw [if_neg same] at missing
      exact later.stored missing

theorem adopt_all {rows : List ReimbursementRun} (guarded : Guarded orchestrator calls submitted)
    (adoptable : ∀ row ∈ rows, Adoptable orchestrator calls row) :
    Guarded (rows.foldl Orchestrator.adopt orchestrator) calls submitted := by
  induction rows generalizing orchestrator with
  | nil => exact guarded
  | cons row rest ih =>
    have first := adoptable row List.mem_cons_self
    apply ih (guarded.adopt first)
    intro other isOther
    exact guarded.adoptable_adopt first (adoptable other (List.mem_cons_of_mem _ isOther))

end Guarded

end AnnaAgent.Reimbursement
