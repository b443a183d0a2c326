/-
What the calls do to the guards of a submission.

A decision goes on to its call with the guards of its run intact, and a call that
returns hands them on to the next one.
-/

import AnnaAgent.Reimbursement.SubmissionGuards

namespace AnnaAgent.Reimbursement

open Foundation

variable {env : Environment} {orchestrator : Orchestrator} {calls : List Call}
  {submitted : List RunId}

namespace Guarded

variable {ref : Ref} {run : ReimbursementRun} {runId : RunId} {approvalId : ApprovalId}

theorem submit (guarded : Guarded orchestrator calls submitted)
    (isRef : orchestrator.runsById.get? runId = some ref)
    (isRun : orchestrator.objects[ref]? = some run) (approved : run.isApproved)
    (notSubmitting : runId ∉ calls.filterMap Call.submits) (notSubmitted : runId ∉ submitted) :
    Guarded orchestrator (calls ++ [.submitting ref runId approvalId]) submitted := by
  have submits : (calls ++ [Call.submitting ref runId approvalId]).filterMap Call.submits =
      calls.filterMap Call.submits ++ [runId] := by
    rw [List.filterMap_append]
    rfl
  have split : ∀ call ∈ calls ++ [Call.submitting ref runId approvalId],
      call ∈ calls ∨ call = .submitting ref runId approvalId := by
    intro call member
    rcases List.mem_append.mp member with early | late
    · exact .inl early
    · exact .inr (List.mem_singleton.mp late)
  constructor
  · exact guarded.registered
  · exact guarded.known
  · exact guarded.keys
  · exact guarded.counted
  · intro call member other otherId holds
    rcases split call member with early | same
    · exact guarded.holds call early other otherId holds
    · rw [same] at holds
      cases holds
      exact isRef
  · rw [submits, ← List.concat_eq_append, List.nodup_concat]
    exact ⟨notSubmitting, guarded.single⟩
  · intro otherId member inside
    rw [submits] at inside
    rcases List.mem_append.mp inside with early | late
    · exact guarded.notAgain otherId member early
    · rw [List.mem_singleton.mp late] at member
      exact notSubmitted member
  · intro otherId member other found isOther isFound
    rw [submits] at member
    rcases List.mem_append.mp member with early | late
    · exact guarded.opened otherId early other found isOther isFound
    · rw [List.mem_singleton.mp late, isRef] at isOther
      cases isOther
      rw [isRun] at isFound
      cases isFound
      exact approved
  · intro otherId member other found isOther isFound
    have now := guarded.kept otherId member other found isOther isFound
    refine ⟨now.1, ?_⟩
    rcases now.2 with numbering | written
    · exact .inl (filterMap_append_left numbering)
    · exact .inr written
  · intro otherId member
    rcases guarded.stored otherId member with row | recording
    · exact .inl row
    · exact .inr (filterMap_append_left recording)
  · intro query purpose member
    rcases split _ member with early | same
    · exact guarded.asked query purpose early
    · cases same
  · intro rows purpose member
    rcases split _ member with early | same
    · exact guarded.loaded rows purpose early
    · cases same

theorem approve (guarded : Guarded orchestrator calls submitted) (approvalId : ApprovalId)
    (approvedBy : String)
    (current : ∀ run : ReimbursementRun, orchestrator.objects[ref]? = some run → (submittable env
      run).isSome = true → orchestrator.runsById.get? run.id = some ref ∧ run.id ∉ calls.filterMap
      Call.submits ∧ run.id ∉ calls.filterMap Call.numbers) :
    Guarded (orchestrator.goOn env ref (.approve approvalId approvedBy)).1
      (calls ++ (orchestrator.goOn env ref (.approve approvalId approvedBy)).2) submitted := by
  unfold Orchestrator.goOn
  dsimp only
  cases isRun : orchestrator.objects[ref]? with
  | none =>
    rw [List.append_nil]
    exact guarded
  | some run =>
    dsimp only
    cases goesOn : submittable env run with
    | none =>
      rw [List.append_nil]
      exact guarded
    | some approval =>
      dsimp only
      have isSome : (submittable env run).isSome = true := by
        rw [goesOn]
        rfl
      rcases current run isRun isSome with ⟨isRef, notSubmitting, notNumbering⟩
      have noWrite := (submittable_spec goesOn).2.1
      have notSubmitted : run.id ∉ submitted := by
        intro member
        rcases (guarded.kept run.id member ref run isRef isRun).2 with numbering | written
        · exact notNumbering numbering
        · rw [noWrite] at written
          cases written
      have modified : Guarded
          (orchestrator.modify ref (fun _ => openSubmit run approval approvalId approvedBy))
          calls submitted := by
        have sameId : (openSubmit run approval approvalId approvedBy).id = run.id := rfl
        apply guarded.modify isRun sameId
        · intro member
          exact absurd member notSubmitting
        · intro member
          exact absurd member notSubmitted
      exact modified.submit isRef (object_here isRun) ⟨_, rfl, rfl⟩ notSubmitting notSubmitted

theorem not_approved_of_rejectable {approval : ApprovalRequest}
    (goesOn : rejectable run = some approval) : ¬ run.isApproved := by
  intro approved
  rcases approved with ⟨other, isOther, isApproved⟩
  rcases rejectable_spec goesOn with ⟨isApproval, isPending⟩
  rw [isApproval] at isOther
  cases isOther
  rw [isPending] at isApproved
  cases isApproved

theorem reject (guarded : Guarded orchestrator calls submitted) (approvalId : ApprovalId)
    (rejectedBy : String)
    (current : ∀ run : ReimbursementRun, orchestrator.objects[ref]? = some run → (rejectable
      run).isSome = true → orchestrator.runsById.get? run.id = some ref) :
    Guarded (orchestrator.goOn env ref (.reject approvalId rejectedBy)).1
      (calls ++ (orchestrator.goOn env ref (.reject approvalId rejectedBy)).2) submitted := by
  unfold Orchestrator.goOn
  dsimp only
  cases isRun : orchestrator.objects[ref]? with
  | none =>
    rw [List.append_nil]
    exact guarded
  | some run =>
    dsimp only
    cases goesOn : rejectable run with
    | none =>
      rw [List.append_nil]
      exact guarded
    | some approval =>
      dsimp only
      have isSome : (rejectable run).isSome = true := by
        rw [goesOn]
        rfl
      have isRef := current run isRun isSome
      have sameId : (rejectedRun run approval approvalId rejectedBy).id = run.id := rfl
      have modified : Guarded
          (orchestrator.modify ref (fun _ => rejectedRun run approval approvalId rejectedBy))
          calls submitted := by
        apply guarded.modify isRun sameId
        · intro member
          exact absurd (guarded.opened run.id member ref run isRef isRun)
            (not_approved_of_rejectable goesOn)
        · intro member
          exact absurd (guarded.kept run.id member ref run isRef isRun).1
            (not_approved_of_rejectable goesOn)
      have remembered := modified.remember
        (show (orchestrator.modify ref (fun _ =>
          rejectedRun run approval approvalId rejectedBy)).runsById.get?
            (rejectedRun run approval approvalId rejectedBy).id = some ref from isRef)
      apply remembered.add_saving
      change (orchestrator.runsById.set run.id ref).get? run.id = some ref
      rw [OrderedMap.get?_set, if_pos rfl]

theorem verify (guarded : Guarded orchestrator calls submitted)
    (current : ∀ run : ReimbursementRun, orchestrator.objects[ref]? = some run →
      orchestrator.runsById.get? run.id = some ref) :
    Guarded (orchestrator.goOn env ref .verify).1
      (calls ++ (orchestrator.goOn env ref .verify).2) submitted := by
  unfold Orchestrator.goOn
  dsimp only
  cases isRun : orchestrator.objects[ref]? with
  | none =>
    rw [List.append_nil]
    exact guarded
  | some run =>
    dsimp only
    split
    · have touched := guarded.touch isRun
        (show Untouched run { run with status := .verifying } from ⟨rfl, rfl, rfl⟩)
      exact touched.add_verifying (current run isRun)
    · rw [List.append_nil]
      exact guarded

/-! ### Calls return -/

theorem append_erase {call : Call} (isCall : call ∈ calls) (new : List Call) :
    (calls ++ new).erase call = calls.erase call ++ new :=
  List.erase_append_left new isCall

theorem carryOut (guarded : Guarded orchestrator calls submitted)
    (isCall : .submitting ref runId approvalId ∈ calls) :
    Guarded orchestrator
      (calls.erase (.submitting ref runId approvalId) ++ [.numbering ref runId approvalId])
      (submitted ++ [runId]) := by
  have numbered : Guarded orchestrator (calls ++ [.numbering ref runId approvalId]) submitted := by
    apply guarded.add
    · intro other otherId same
      exact guarded.holds _ isCall other otherId same
    · rfl
    · intro query purpose same
      cases same
    · intro rows purpose same
      cases same
  have isOld : .submitting ref runId approvalId ∈ calls ++ [Call.numbering ref runId approvalId] :=
    List.mem_append_left _ isCall
  have dropped : Guarded orchestrator
      ((calls ++ [Call.numbering ref runId approvalId]).erase (.submitting ref runId approvalId))
      submitted := numbered.drop_silent rfl rfl
  have apart : runId ∉ (calls.erase (.submitting ref runId approvalId) ++
      [Call.numbering ref runId approvalId]).filterMap Call.submits := by
    have order := ((List.perm_cons_erase isCall).filterMap Call.submits).nodup_iff.mp guarded.single
    rw [List.filterMap_cons_some (show Call.submits (.submitting ref runId approvalId) =
      some runId from rfl), List.nodup_cons] at order
    intro inside
    rw [List.filterMap_append] at inside
    rcases List.mem_append.mp inside with early | late
    · exact order.1 early
    · cases late
  have isNumber : runId ∈ (calls.erase (.submitting ref runId approvalId) ++
      [Call.numbering ref runId approvalId]).filterMap Call.numbers := by
    rw [List.filterMap_append]
    exact List.mem_append_right _ List.mem_cons_self
  rw [append_erase isCall] at dropped
  have isRun := guarded.held isCall rfl
  constructor
  · exact dropped.registered
  · exact dropped.known
  · exact dropped.keys
  · intro otherId member
    rcases List.mem_append.mp member with early | late
    · exact guarded.counted otherId early
    · rcases isRun.2 with ⟨run, held, isId⟩
      rw [List.mem_singleton.mp late, ← isId]
      exact (guarded.known ref run held).2
  · exact dropped.holds
  · exact dropped.single
  · intro otherId member
    rcases List.mem_append.mp member with early | late
    · exact dropped.notAgain otherId early
    · rw [List.mem_singleton.mp late]
      exact apart
  · exact dropped.opened
  · intro otherId member other run isOther held
    rcases List.mem_append.mp member with early | late
    · exact dropped.kept otherId early other run isOther held
    · rw [List.mem_singleton.mp late] at isOther ⊢
      exact ⟨guarded.opened runId (mem_submits isCall rfl) other run isOther held, .inl isNumber⟩
  · intro otherId member
    rcases List.mem_append.mp member with early | late
    · exact dropped.stored otherId early
    · rw [List.mem_singleton.mp late]
      exact .inr (records_of_numbers isNumber)
  · exact dropped.asked
  · exact dropped.loaded

theorem save (guarded : Guarded orchestrator calls submitted) (isCall : .saving ref runId ∈ calls)
    (isRun : orchestrator.objects[ref]? = some run) :
    Guarded { orchestrator with stored := orchestrator.stored.set runId run }
      (calls.erase (.saving ref runId)) submitted := by
  have isRef := guarded.holds _ isCall ref runId rfl
  have isId : run.id = runId := by
    rcases guarded.registered runId ref isRef with ⟨other, isOther, isId⟩
    rw [isRun] at isOther
    cases isOther
    exact isId
  have isRow : ∀ otherId row, (orchestrator.stored.set runId run).get? otherId = some row →
      (otherId = runId ∧ row = run) ∨ orchestrator.stored.get? otherId = some row := by
    intro otherId row found
    rw [OrderedMap.get?_set] at found
    split at found
    · rename_i same
      cases found
      exact .inl ⟨same, rfl⟩
    · exact .inr found
  have numbers : ∀ otherId, otherId ∈ calls.filterMap Call.numbers →
      otherId ∈ (calls.erase (.saving ref runId)).filterMap Call.numbers := by
    intro otherId member
    rcases @filterMap_erase_or calls Call.numbers (.saving ref runId) otherId member with
      gone | still
    · cases gone
    · exact still
  constructor
  · exact guarded.registered
  · exact guarded.known
  · intro otherId row found
    rcases isRow otherId row found with ⟨same, isSame⟩ | earlier
    · rw [isSame, same]
      refine ⟨isId, ?_⟩
      rw [← isId]
      exact (guarded.known ref run isRun).2
    · exact guarded.keys otherId row earlier
  · exact guarded.counted
  · intro call member
    exact guarded.holds call (List.mem_of_mem_erase member)
  · exact (List.erase_sublist.filterMap _).nodup guarded.single
  · intro otherId member inside
    exact guarded.notAgain otherId member ((List.erase_sublist.filterMap _).subset inside)
  · intro otherId member
    exact guarded.opened otherId ((List.erase_sublist.filterMap _).subset member)
  · intro otherId member other found isOther isFound
    have now := guarded.kept otherId member other found isOther isFound
    refine ⟨now.1, ?_⟩
    rcases now.2 with numbering | written
    · exact .inl (numbers otherId numbering)
    · exact .inr written
  · intro otherId member
    change (∃ row, (orchestrator.stored.set runId run).get? otherId = some row ∧ _) ∨ _
    rw [OrderedMap.get?_set]
    by_cases same : otherId = runId
    · subst same
      rw [if_pos rfl]
      have now := guarded.kept otherId member ref run isRef isRun
      rcases now.2 with numbering | written
      · exact .inr (records_of_numbers (numbers otherId numbering))
      · exact .inl ⟨run, rfl, now.1, written⟩
    · rw [if_neg same]
      rcases guarded.stored otherId member with row | recording
      · exact .inl row
      · rcases @filterMap_erase_or calls Call.records (.saving ref runId) otherId recording with
          gone | still
        · cases gone
          exact absurd rfl same
        · exact .inr still
  · intro query purpose member
    exact guarded.asked query purpose (List.mem_of_mem_erase member)
  · intro rows purpose member
    have before := guarded.loaded rows purpose (List.mem_of_mem_erase member)
    refine ⟨before.1, ?_⟩
    intro row isInside
    refine ⟨(before.2 row isInside).1, ?_⟩
    intro missing
    change ∃ current, (orchestrator.stored.set runId run).get? row.id = some current ∧ _
    rw [OrderedMap.get?_set, if_neg]
    · exact (before.2 row isInside).2 missing
    · intro same
      rw [same] at missing
      rw [show orchestrator.runsById.get? runId = some ref from isRef] at missing
      cases missing

theorem mem_of_mapM {α β : Type} {f : α → Option β} {items : List α} {results : List β}
    (mapped : items.mapM f = some results) {result : β} (member : result ∈ results) :
    ∃ item ∈ items, f item = some result := by
  induction items generalizing results with
  | nil =>
    cases mapped
    cases member
  | cons head tail ih =>
    rw [List.mapM_cons] at mapped
    rcases Option.bind_eq_some_iff.mp mapped with ⟨first, isFirst, later⟩
    rcases Option.bind_eq_some_iff.mp later with ⟨rest, isRest, same⟩
    cases same
    rcases List.mem_cons.mp member with here | there
    · rw [here]
      exact ⟨head, List.mem_cons_self, isFirst⟩
    · rcases ih isRest there with ⟨item, isItem, gives⟩
      exact ⟨item, List.mem_cons_of_mem _ isItem, gives⟩

variable {query : Query} {rows : List ReimbursementRun}

theorem rows_spec (guarded : Guarded orchestrator calls submitted)
    (answers : orchestrator.rows env query = some rows) :
    ∀ row ∈ rows, row.id ≤ orchestrator.runSequence ∧
      ∃ current, orchestrator.stored.get? row.id = some current ∧ Untouched current row := by
  have ofStored : ∀ runId current row, orchestrator.stored.get? runId = some current →
      reload env current = some row → row.id ≤ orchestrator.runSequence ∧
        ∃ current, orchestrator.stored.get? row.id = some current ∧ Untouched current row := by
    intro runId current row isStored reloaded
    have untouched := untouched_reload reloaded
    have isKey := guarded.keys runId current isStored
    have sameId : row.id = runId := untouched.id.trans isKey.1
    rw [sameId]
    exact ⟨isKey.2, current, isStored, untouched⟩
  have ofValue : ∀ current row, current ∈ orchestrator.stored.values →
      reload env current = some row → row.id ≤ orchestrator.runSequence ∧
        ∃ current, orchestrator.stored.get? row.id = some current ∧ Untouched current row := by
    intro current row isValue reloaded
    rcases List.mem_map.mp isValue with ⟨entry, isEntry, same⟩
    apply ofStored entry.1 current row
    · rw [OrderedMap.get?_eq_some_iff, ← same]
      exact isEntry
    · exact reloaded
  intro row isRow
  cases query with
  | run runId =>
    rcases Option.map_eq_some_iff.mp answers with ⟨only, isOnly, same⟩
    rcases Option.bind_eq_some_iff.mp isOnly with ⟨current, isStored, reloaded⟩
    rw [← same] at isRow
    rw [List.mem_singleton.mp isRow]
    exact ofStored runId current only isStored reloaded
  | approval approvalId =>
    rcases Option.map_eq_some_iff.mp answers with ⟨only, isOnly, same⟩
    rcases Option.bind_eq_some_iff.mp isOnly with ⟨current, isStored, reloaded⟩
    rw [← same] at isRow
    rw [List.mem_singleton.mp isRow]
    exact ofValue current only (List.mem_of_find?_eq_some isStored) reloaded
  | all workspaceId actorUserId =>
    rcases Option.map_eq_some_iff.mp answers with ⟨runs, isRuns, same⟩
    rw [← same] at isRow
    have isRun := (List.mem_filter.mp isRow).1
    rcases mem_of_mapM isRuns isRun with ⟨current, isCurrent, reloaded⟩
    exact ofValue current row (List.mem_reverse.mp isCurrent) reloaded

variable {purpose : Purpose}

theorem length_rows (asked : query.isAskedFor purpose = true)
    (answers : orchestrator.rows env query = some rows) (acts : purpose ≠ .read) :
    rows.length = 1 := by
  cases query with
  | run runId | approval approvalId =>
    rcases Option.map_eq_some_iff.mp answers with ⟨only, _, same⟩
    rw [← same]
    rfl
  | all workspaceId actorUserId =>
    cases purpose with
    | read => exact absurd rfl acts
    | _ => cases asked

theorem objectOf (guarded : Guarded orchestrator calls submitted)
    (isRef : orchestrator.runsById.get? runId = some ref) :
    ∀ run : ReimbursementRun, orchestrator.objects[ref]? = some run →
      orchestrator.runsById.get? run.id = some ref := by
  intro run isRun
  rcases guarded.registered runId ref isRef with ⟨other, isOther, isId⟩
  rw [isRun] at isOther
  cases isOther
  rw [isId]
  exact isRef

theorem ask (guarded : Guarded orchestrator calls submitted)
    (asked : query.isAskedFor purpose = true)
    (harmless : Harmless env ⟨orchestrator, calls, submitted⟩ (.ask query purpose)) :
    Guarded (orchestrator.ask env query purpose).1
      (calls ++ (orchestrator.ask env query purpose).2) submitted := by
  unfold Orchestrator.ask
  cases isCached : orchestrator.cached query with
  | none =>
    dsimp only
    apply guarded.add
    · intro ref runId same
      cases same
    · rfl
    · intro other otherPurpose same
      cases same
      exact asked
    · intro rows otherPurpose same
      cases same
  | some ref =>
    dsimp only
    cases purpose with
    | approve approvalId approvedBy =>
      cases query with
      | approval named =>
        apply guarded.approve
        intro run isRun goesOn
        exact harmless ref run isCached isRun goesOn
      | run runId => cases asked
      | all workspaceId actorUserId => cases asked
    | reject approvalId rejectedBy =>
      cases query with
      | approval named =>
        apply guarded.reject
        intro run isRun goesOn
        exact (harmless ref run isCached isRun goesOn).1
      | run runId => cases asked
      | all workspaceId actorUserId => cases asked
    | verify =>
      cases query with
      | run runId => exact guarded.verify (guarded.objectOf isCached)
      | approval named => cases asked
      | all workspaceId actorUserId => cases asked
    | read =>
      change Guarded orchestrator (calls ++ []) submitted
      rw [List.append_nil]
      exact guarded

theorem adoptable_of_harmless (guarded : Guarded orchestrator calls submitted)
    (isCall : .loaded rows purpose ∈ calls)
    (harmless : ∀ row ∈ rows, (orchestrator.runsById.get? row.id).isSome = true → Interleaved.Replaceable ⟨orchestrator, calls, submitted⟩ row) :
    ∀ row ∈ rows, Adoptable orchestrator calls row := by
  intro row isRow
  have known := (guarded.loaded rows purpose isCall).2 row isRow
  constructor
  · exact known.1
  · intro call isCall ref holds
    have isRef := guarded.holds call isCall ref row.id holds
    apply (harmless row isRow _).1 call isCall ref holds
    rw [isRef]
    rfl
  · intro ref current isRef isCurrent
    apply (harmless row isRow _).2 ref current isRef isCurrent
    rw [isRef]
    rfl
  · exact known.2

theorem adopted_object {row : ReimbursementRun} (adoptable : Adoptable orchestrator calls row)
    {run : ReimbursementRun}
    (isRun : (orchestrator.adopt row).objects[orchestrator.objects.length]? = some run) :
    (orchestrator.adopt row).runsById.get? run.id = some orchestrator.objects.length ∧
      run.id ∉ calls.filterMap Call.submits ∧ run.id ∉ calls.filterMap Call.numbers := by
  change (orchestrator.objects ++ [row])[orchestrator.objects.length]? = some run at isRun
  rw [List.getElem?_concat_length] at isRun
  cases isRun
  refine ⟨?_, ?_, ?_⟩
  · change (orchestrator.runsById.set row.id orchestrator.objects.length).get? row.id = _
    rw [OrderedMap.get?_set, if_pos rfl]
  · intro member
    rcases List.mem_filterMap.mp member with ⟨call, isCall, submits⟩
    rcases holds_of_submits submits with ⟨ref, holds⟩
    exact adoptable.quiet call isCall ref holds
  · intro member
    rcases List.mem_filterMap.mp member with ⟨call, isCall, numbers⟩
    rcases holds_of_numbers numbers with ⟨ref, holds⟩
    exact adoptable.quiet call isCall ref holds

theorem takeOver (guarded : Guarded orchestrator calls submitted)
    (isCall : .loaded rows purpose ∈ calls)
    (harmless : ∀ row ∈ rows, (orchestrator.runsById.get? row.id).isSome = true → Interleaved.Replaceable ⟨orchestrator, calls, submitted⟩ row) :
    Guarded
      ((rows.foldl Orchestrator.adopt orchestrator).goOn env orchestrator.objects.length purpose).1
      (calls ++ ((rows.foldl Orchestrator.adopt orchestrator).goOn env
        orchestrator.objects.length purpose).2) submitted := by
  have adoptable := guarded.adoptable_of_harmless isCall harmless
  have adopted := guarded.adopt_all adoptable
  by_cases reads : purpose = .read
  · subst reads
    change Guarded (rows.foldl Orchestrator.adopt orchestrator) (calls ++ []) submitted
    rw [List.append_nil]
    exact adopted
  · rcases List.length_eq_one_iff.mp ((guarded.loaded rows purpose isCall).1 reads) with
      ⟨row, isRow⟩
    subst isRow
    have isObject := fun run isRun =>
      @adopted_object orchestrator calls row (adoptable row List.mem_cons_self) run isRun
    cases purpose with
    | approve approvalId approvedBy =>
      apply adopted.approve
      intro run isRun _
      exact isObject run isRun
    | reject approvalId rejectedBy =>
      apply adopted.reject
      intro run isRun _
      exact (isObject run isRun).1
    | verify =>
      apply adopted.verify
      intro run isRun
      exact (isObject run isRun).1
    | read => exact absurd rfl reads

end Guarded

end AnnaAgent.Reimbursement
