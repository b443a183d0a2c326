/-
Atomicity of the workbench session store.

Records keep unique identities through every operation, the sidecar reads back
to the records it was written from, and a migration that has been applied adds
nothing when it is applied again.
-/

import AnnaAgent.Foundation.FailingLoops
import AnnaAgent.Host.WorkbenchSession

namespace AnnaAgent.Host

open Foundation WorkbenchSessionRecord OrderedMap

variable {α : Type}

section Codec

theorem oneOf_text {values : List α} {text : α → String} {value : α}
    (found : values.find? (fun item => text item = text value) = some value) :
    oneOf values text (.str (text value)) = some value := by
  exact found

theorem oneOf_goalStatus (status : GoalStatus) :
    oneOf goalStatuses GoalStatus.text (.str status.text) = some status := by
  apply oneOf_text
  cases status
  all_goals decide

theorem oneOf_permissionMode (mode : GoalPermissionMode) :
    oneOf goalPermissionModes GoalPermissionMode.text (.str mode.text) = some mode := by
  apply oneOf_text
  cases mode
  all_goals decide

theorem oneOf_conversationSource (source : ConversationSource) :
    oneOf conversationSources ConversationSource.text (.str source.text) = some source := by
  apply oneOf_text
  cases source
  all_goals decide

theorem oneOf_admissionStatus (status : AdmissionStatus) :
    oneOf admissionStatuses AdmissionStatus.text (.str status.text) = some status := by
  apply oneOf_text
  cases status
  all_goals decide

theorem oneOf_runTrigger (trigger : RunTrigger) :
    oneOf runTriggers RunTrigger.text (.str trigger.text) = some trigger := by
  apply oneOf_text
  cases trigger
  all_goals decide

theorem optional_map {α : Type} {read : Json → Option α} {write : α → Json}
    (reads : ∀ value, read (write value) = some value) (field : Option α) :
    Json.optional read (field.map write) = some field := by
  cases field with
  | none => rfl
  | some value =>
    change (read (write value)).map some = some (some value)
    rw [reads value, Option.map_some]

theorem PlanProgress.ofJson_toJson (progress : PlanProgress) :
    PlanProgress.ofJson (Json.ofFields [("completed", some (.num (.ofNat progress.completed))),
      ("total", some (.num (.ofNat progress.total)))]) = some progress := by
  unfold PlanProgress.ofJson
  rw [Json.get?_ofFields (by simp), Json.get?_ofFields (by simp)]
  simp [Json.required, Json.nat?, List.lookup]

theorem WorkbenchGoalRecord.get?_toJson (goal : WorkbenchGoalRecord) (key : String) :
    goal.toJson.get? key = (goal.fields.lookup key).join :=
  Json.get?_ofFields (by simp [fields]) key

theorem WorkbenchSessionRecord.get?_toJson (session : WorkbenchSessionRecord) (key : String) :
    session.toJson.get? key = (session.fields.lookup key).join :=
  Json.get?_ofFields (by simp [fields]) key

theorem WorkbenchRunRecord.get?_toJson (run : WorkbenchRunRecord) (key : String) :
    run.toJson.get? key = (run.fields.lookup key).join :=
  Json.get?_ofFields (by simp [fields]) key

theorem optional_str (field : Option String) :
    Json.optional Json.str? (field.map Json.str) = some field :=
  @optional_map String Json.str? Json.str (fun _ => rfl) field

theorem optional_bool (field : Option Bool) :
    Json.optional Json.bool? (field.map Json.bool) = some field :=
  @optional_map Bool Json.bool? Json.bool (fun _ => rfl) field

variable {write : α → Json}

theorem all_map {check : Json → Bool} (passes : ∀ value, check (write value) = true)
    (field : Option α) :
    (field.map write).all check = true := by
  cases field with
  | none => rfl
  | some value => exact passes value

theorem WorkbenchGoalRecord.ofJson_toJson (goal : WorkbenchGoalRecord) :
    WorkbenchGoalRecord.ofJson goal.toJson = some goal := by
  unfold WorkbenchGoalRecord.ofJson
  simp only [get?_toJson, fields, List.lookup]
  simp [Json.required, Json.str?, Json.nat?, oneOf_goalStatus, oneOf_permissionMode, optional_str,
    optional_map PlanProgress.ofJson_toJson]

theorem WorkbenchSessionRecord.ofJson_toJson (session : WorkbenchSessionRecord) :
    ofJson session.toJson = some session := by
  unfold ofJson
  simp only [get?_toJson, fields, List.lookup]
  simp [Json.required, Json.str?, optional_str, optional_map WorkbenchGoalRecord.ofJson_toJson]

theorem WorkbenchRunRecord.ofJson_toJson (run : WorkbenchRunRecord) :
    WorkbenchRunRecord.ofJson run.toJson = some run := by
  unfold WorkbenchRunRecord.ofJson
  simp only [get?_toJson, fields, List.lookup]
  simp [Json.required, Json.str?, optional_str, optional_map oneOf_conversationSource,
    optional_map oneOf_admissionStatus, optional_map oneOf_permissionMode,
    optional_map oneOf_runTrigger, optional_bool]

theorem isStr_str (text : String) : Json.isStr (.str text) = true := rfl

theorem isText_permissionMode (mode : GoalPermissionMode) :
    (isText "readonly" (.str mode.text) || isText "contained-write" (.str mode.text)) = true := by
  cases mode
  all_goals decide

theorem isText_conversationSource (source : ConversationSource) :
    (isText "conversation" (.str source.text) || isText "run_id_fallback" (.str source.text)) =
      true := by
  cases source
  all_goals decide

theorem isText_runTrigger (trigger : RunTrigger) :
    (isText "user" (.str trigger.text) || isText "goal_continuation" (.str trigger.text)) =
      true := by
  cases trigger
  all_goals decide

theorem isGoalRecord_toJson (goal : WorkbenchGoalRecord) : isGoalRecord goal.toJson = true := by
  have isRecord : goal.toJson.isRecord = true := rfl
  have isArr : (Json.strs goal.resourceRefs).isArr = true := rfl
  have isNum : (Json.num (JsonNumber.ofNat goal.maxRuns)).isNum = true := rfl
  have mode := isText_permissionMode goal.permissionMode
  rw [Bool.or_eq_true] at mode
  unfold isGoalRecord hasField
  simp only [WorkbenchGoalRecord.get?_toJson, WorkbenchGoalRecord.fields, List.lookup]
  simp [isStr_str, isRecord, isArr, isNum, mode]

theorem isSessionRecord_toJson (session : WorkbenchSessionRecord) :
    isSessionRecord session.toJson = true := by
  have isRecord : session.toJson.isRecord = true := rfl
  unfold isSessionRecord hasField hasOptional
  simp only [get?_toJson, fields, List.lookup]
  simp [isStr_str, isSchemaTwo, isRecord, all_map isStr_str, all_map isGoalRecord_toJson]

theorem isRunRecord_toJson (run : WorkbenchRunRecord) : isRunRecord run.toJson = true := by
  have isRecord : run.toJson.isRecord = true := rfl
  have derived : (run.sourceEventDerived.map Json.bool).all Json.isBool = true :=
    all_map (fun _ => rfl) run.sourceEventDerived
  have source : (run.conversationSource.map (fun source => Json.str source.text)).all
      (fun value => isText "conversation" value || isText "run_id_fallback" value) = true := by
    apply all_map
    exact isText_conversationSource
  have mode : (run.permissionMode.map (fun mode => Json.str mode.text)).all
      (fun value => isText "readonly" value || isText "contained-write" value) = true := by
    apply all_map
    exact isText_permissionMode
  have trigger : (run.trigger.map (fun trigger => Json.str trigger.text)).all
      (fun value => isText "user" value || isText "goal_continuation" value) = true := by
    apply all_map
    exact isText_runTrigger
  unfold isRunRecord hasField hasOptional
  simp only [WorkbenchRunRecord.get?_toJson, WorkbenchRunRecord.fields, List.lookup]
  simp [isStr_str, isSchemaTwo, isRecord, derived, source, mode, trigger, all_map isStr_str]

theorem mapM_map {read : Json → Option α} (reads : ∀ value, read (write value) = some value)
    (values : List α) :
    (values.map write).mapM read = some values := by
  induction values with
  | nil => rfl
  | cons value rest ih =>
    rw [List.map_cons, List.mapM_cons, reads value, ih]
    rfl

theorem map_all {check : Json → Bool} (passes : ∀ value, check (write value) = true)
    (values : List α) :
    (values.map write).all check = true := by
  rw [List.all_map, List.all_eq_true]
  intro value _
  exact passes value

theorem parseSidecar_toJson (state : WorkbenchState) : parseSidecar state.toJson = .ok state := by
  have reads : ∀ key, state.toJson.get? key = _ := fun key => Json.get?_ofFields (by simp) key
  have version : hasField state.toJson "schema_version" isSchemaTwo = true := by
    unfold hasField
    rw [reads]
    simp [List.lookup, isSchemaTwo]
  have sessions : state.toJson.get? "sessions" =
      some (.arr (state.sessions.map toJson)) := by
    rw [reads]
    simp [List.lookup]
  have runs : state.toJson.get? "runs" =
      some (.arr (state.runs.map WorkbenchRunRecord.toJson)) := by
    rw [reads]
    simp [List.lookup]
  unfold parseSidecar
  rw [if_pos version, sessions, runs]
  simp only [map_all isSessionRecord_toJson, map_all isRunRecord_toJson, Bool.and_self, if_true,
    mapM_map ofJson_toJson, mapM_map WorkbenchRunRecord.ofJson_toJson]

theorem load_persist {path : Option String} (stored : path.isNone = false)
    (state : WorkbenchState) (content : Option Json) :
    loadSidecar path (persistSidecar path state content) = .ok state := by
  unfold loadSidecar persistSidecar
  rw [stored]
  exact parseSidecar_toJson state

end Codec

def WorkbenchState.sessionIds (state : WorkbenchState) : List String :=
  state.sessions.map sessionId

def WorkbenchRunRecord.source (run : WorkbenchRunRecord) : String × String :=
  (run.sessionId, run.sourceEventId)

def WorkbenchState.runIds (state : WorkbenchState) : List String :=
  state.runs.map WorkbenchRunRecord.runId

def WorkbenchState.sources (state : WorkbenchState) : List (String × String) :=
  state.runs.map WorkbenchRunRecord.source

structure WorkbenchState.Unique (state : WorkbenchState) : Prop where
  sessionIds : state.sessionIds.Nodup
  runIds : state.runIds.Nodup
  sources : state.sources.Nodup

/-- Records are never removed. -/
structure WorkbenchState.Extends (before after : WorkbenchState) : Prop where
  sessionIds : before.sessionIds ⊆ after.sessionIds
  runIds : before.runIds ⊆ after.runIds

theorem nodup_concat {items : List α} {item : α} (distinct : items.Nodup) (fresh : item ∉ items) :
    (items ++ [item]).Nodup := by
  apply List.Nodup.append distinct (List.nodup_singleton item)
  intro other member isItem
  rw [List.mem_singleton.1 isItem] at member
  exact fresh member

variable {after before : WorkbenchState} {session answer : WorkbenchSessionRecord}

theorem createSession_ok (created : createSession session before = .ok (answer, after)) :
    session.sessionId ∉ before.sessionIds ∧
      after = { before with sessions := before.sessions ++ [session] } := by
  unfold createSession at created
  split at created
  · cases created
  · rename_i absent
    cases created
    refine ⟨?_, rfl⟩
    intro member
    rcases List.mem_map.1 member with ⟨item, isItem, sameId⟩
    apply absent
    rw [List.any_eq_true]
    exact ⟨item, isItem, decide_eq_true sameId⟩

theorem map_updateFirst {β : Type} {p : α → Bool} {assign : α → α} {key : α → β} (items : List α)
    (kept : ∀ item, p item = true → key (assign item) = key item) :
    (updateFirst p assign items).map key = items.map key := by
  induction items with
  | nil => rfl
  | cons item rest ih =>
    rw [updateFirst]
    cases here : p item with
    | true => rw [if_pos rfl, List.map_cons, List.map_cons, kept item here]
    | false => rw [if_neg Bool.false_ne_true, List.map_cons, List.map_cons, ih]

theorem updateSession_ok {sessionId : String}
    {mutation : WorkbenchSessionRecord → Except SessionStoreError WorkbenchSessionRecord}
    (updated : updateSession sessionId mutation before = .ok (answer, after)) :
    after.sessionIds = before.sessionIds ∧ after.runs = before.runs := by
  unfold updateSession at updated
  split at updated
  · cases updated
  · split at updated
    · cases updated
    · split at updated
      · cases updated
      · rename_i sameId
        cases updated
        refine ⟨?_, rfl⟩
        apply map_updateFirst
        intro item isItem
        rw [not_not.1 sameId]
        exact (of_decide_eq_true isItem).symm

theorem touchSession_ids (run : WorkbenchRunRecord) (sessions : List WorkbenchSessionRecord) :
    (touchSession run sessions).map sessionId = sessions.map sessionId := by
  apply map_updateFirst
  intro item _
  split
  · rfl
  · rfl

theorem createOrGetRun_cases (run : WorkbenchRunRecord) (before : WorkbenchState) :
    (createOrGetRun run before).2 = before ∨
      run.runId ∉ before.runIds ∧ run.source ∉ before.sources ∧
        (createOrGetRun run before).2 =
          { sessions := touchSession run before.sessions, runs := before.runs ++ [run] } := by
  unfold createOrGetRun
  cases found : (before.runOfSource run.sessionId run.sourceEventId).or
      (before.getRun run.runId) with
  | some existing =>
    apply Or.inl
    dsimp only
    split
    · rfl
    · rfl
  | none =>
    rw [Option.or_eq_none_iff] at found
    refine Or.inr ⟨?_, ?_, rfl⟩
    · intro member
      rcases List.mem_map.1 member with ⟨item, isItem, sameId⟩
      exact List.find?_eq_none.1 found.2 item isItem (decide_eq_true sameId)
    · intro member
      rcases List.mem_map.1 member with ⟨item, isItem, sameSource⟩
      have sameSession : item.sessionId = run.sessionId := congrArg Prod.fst sameSource
      have sameEvent : item.sourceEventId = run.sourceEventId := congrArg Prod.snd sameSource
      apply List.find?_eq_none.1 found.1 item isItem
      rw [decide_eq_true sameSession, decide_eq_true sameEvent]
      rfl

variable {state : WorkbenchState} {run : WorkbenchRunRecord} {records : WorkbenchMigrationRecords}
  {sessionsById : OrderedMap String WorkbenchSessionRecord} {result : WorkbenchMigrationResult}

theorem getRun_eq_none {id : String} (unused : id ∉ state.runIds) : state.getRun id = none := by
  apply List.find?_eq_none.2
  intro run member isRun
  apply unused
  rw [← of_decide_eq_true isRun]
  exact List.mem_map_of_mem member

theorem createOrGetRun_absent (absent : state.runOfSource run.sessionId run.sourceEventId = none)
    (unused : run.runId ∉ state.runIds) :
    createOrGetRun run state = (.created run,
      { sessions := touchSession run state.sessions
        runs := state.runs ++ [run] }) := by
  unfold createOrGetRun
  rw [absent, getRun_eq_none unused]
  rfl

theorem markRunAdmission_ok {runId : String} {status : AdmissionStatus} {error : Option String}
    (marked : markRunAdmission runId status error before = .ok after) :
    after.sessions = before.sessions ∧ after.runIds = before.runIds ∧
      after.sources = before.sources := by
  unfold markRunAdmission at marked
  split at marked
  · cases marked
  · cases marked
    refine ⟨rfl, ?_, ?_⟩
    · apply map_updateFirst
      intro item _
      rfl
    · apply map_updateFirst
      intro item _
      rfl

/-! ### Migration -/

theorem sameSessionRecord_refl (session : WorkbenchSessionRecord) :
    sameSessionRecord session session = true := by
  simp [sameSessionRecord]

theorem sameMigratedRun_refl (run : WorkbenchRunRecord) : sameMigratedRun run run = true := by
  simp [sameMigratedRun, sameRunIdentity]

/-- What the sessions of a migration have made of the records so far. -/
structure SessionsAdded (state : WorkbenchState) (done : List WorkbenchSessionRecord)
    (delta : SessionsDelta) : Prop where
  byId : delta.sessionsById = index sessionId (state.sessions ++ delta.sessions)
  unique : state.sessionIds.Nodup → ((state.sessions ++ delta.sessions).map sessionId).Nodup
  same : ∀ session ∈ done, ∃ existing, delta.sessionsById.get? session.sessionId = some existing ∧
    sameSessionRecord existing session = true

theorem SessionsAdded.add {done : List WorkbenchSessionRecord} {before after : SessionsDelta}
    (added : SessionsAdded state done before) (taken : before.add session = .ok after) :
    SessionsAdded state (done ++ [session]) after := by
  unfold SessionsDelta.add at taken
  split at taken
  · rename_i existing isExisting
    split at taken
    · rename_i isSame
      cases taken
      refine ⟨added.byId, added.unique, ?_⟩
      intro other member
      rcases List.mem_append.1 member with old | new
      · exact added.same other old
      · rw [List.mem_singleton.1 new]
        exact ⟨existing, isExisting, isSame⟩
    · cases taken
  · rename_i absent
    cases taken
    refine ⟨?_, ?_, ?_⟩
    · change before.sessionsById.set _ _ = _
      rw [← List.append_assoc, index_concat, ← added.byId]
    · intro distinct
      rw [added.byId, get?_index_none_iff] at absent
      rw [← List.append_assoc, List.map_append]
      exact nodup_concat (added.unique distinct) absent
    · intro other member
      change ∃ existing, (before.sessionsById.set _ _).get? _ = some existing ∧ _
      rw [get?_set]
      rcases List.mem_append.1 member with old | new
      · rcases added.same other old with ⟨existing, isExisting, isSame⟩
        refine ⟨existing, ?_, isSame⟩
        rw [if_neg, isExisting]
        intro sameId
        rw [sameId, absent] at isExisting
        cases isExisting
      · rw [List.mem_singleton.1 new, if_pos rfl]
        exact ⟨session, rfl, sameSessionRecord_refl session⟩

theorem SessionsAdded.initial (state : WorkbenchState) :
    SessionsAdded state [] (.initial state) := by
  refine ⟨?_, ?_, fun _ member => absurd member List.not_mem_nil⟩
  · change _ = index _ (state.sessions ++ [])
    rw [List.append_nil]
    rfl
  · intro distinct
    change ((state.sessions ++ []).map _).Nodup
    rw [List.append_nil]
    exact distinct

theorem sessionsDelta_added {delta : SessionsDelta} (ran : sessionsDelta state records = .ok delta) :
    SessionsAdded state records.sessions delta := by
  apply foldlM_invariant (SessionsAdded state) _ (SessionsAdded.initial state) ran
  intro done before session after added taken
  exact added.add taken

structure RunsAdded (state : WorkbenchState)
    (sessionsById : OrderedMap String WorkbenchSessionRecord) (done : List WorkbenchRunRecord)
    (delta : RunsDelta) : Prop where
  byId : delta.runsById = index WorkbenchRunRecord.runId (state.runs ++ delta.runs)
  bySource : delta.runsBySource = index sourceKey (state.runs ++ delta.runs)
  unique : state.runIds.Nodup → ((state.runs ++ delta.runs).map WorkbenchRunRecord.runId).Nodup
  sources : state.sources.Nodup → ((state.runs ++ delta.runs).map WorkbenchRunRecord.source).Nodup
  same : ∀ run ∈ done, (sessionsById.get? run.sessionId).isNone = false ∧
    ∃ existing, delta.runsById.get? run.runId = some existing ∧ sameMigratedRun existing run = true

theorem RunsDelta.add_cases {before after : RunsDelta}
    (taken : before.add sessionsById run = .ok after) :
    (sessionsById.get? run.sessionId).isNone = false ∧
      ((after = before ∧ ∃ existing, before.runsById.get? run.runId = some existing ∧
          sameMigratedRun existing run = true) ∨
        (before.runsById.get? run.runId = none ∧
          (∀ sameSource, before.runsBySource.get? (sourceKey run) = some sameSource →
            sameSource.runId = run.runId) ∧
          after = { runsById := before.runsById.set run.runId run
                    runsBySource := before.runsBySource.set (sourceKey run) run
                    runs := before.runs ++ [run] })) := by
  unfold RunsDelta.add at taken
  split at taken
  · cases taken
  · rename_i present
    refine ⟨Bool.eq_false_iff.2 present, ?_⟩
    split at taken
    · rename_i existing isExisting
      split at taken
      · rename_i isSame
        cases taken
        exact Or.inl ⟨rfl, existing, isExisting, isSame⟩
      · cases taken
    · rename_i absent
      apply Or.inr
      dsimp only at taken
      split at taken
      · rename_i other isOther
        split at taken
        · cases taken
        · rename_i sameId
          cases taken
          refine ⟨absent, ?_, rfl⟩
          intro sameSource isSource
          rw [isOther, Option.some.injEq] at isSource
          rw [← isSource]
          exact not_not.1 sameId
      · rename_i noSource
        cases taken
        refine ⟨absent, ?_, rfl⟩
        intro sameSource isSource
        rw [noSource] at isSource
        cases isSource

theorem RunsAdded.add {done : List WorkbenchRunRecord} {before after : RunsDelta}
    (added : RunsAdded state sessionsById done before)
    (taken : before.add sessionsById run = .ok after) :
    RunsAdded state sessionsById (done ++ [run]) after := by
  rcases RunsDelta.add_cases taken with ⟨present, kept | new⟩
  · rcases kept with ⟨isBefore, existing, isExisting, isSame⟩
    rw [isBefore]
    refine ⟨added.byId, added.bySource, added.unique, added.sources, ?_⟩
    intro other member
    rcases List.mem_append.1 member with old | isRun
    · exact added.same other old
    · rw [List.mem_singleton.1 isRun]
      exact ⟨present, existing, isExisting, isSame⟩
  · rcases new with ⟨absent, sameSource, isAfter⟩
    rw [isAfter]
    have isNew := absent
    rw [added.byId, get?_index_none_iff] at isNew
    refine ⟨?_, ?_, ?_, ?_, ?_⟩
    · rw [← List.append_assoc, index_concat, ← added.byId]
    · rw [← List.append_assoc, index_concat, ← added.bySource]
    · intro distinct
      rw [← List.append_assoc, List.map_append]
      exact nodup_concat (added.unique distinct) isNew
    · intro distinct
      rw [← List.append_assoc, List.map_append]
      apply nodup_concat (added.sources distinct)
      -- an earlier run from this source event would be found under the key of the source
      intro member
      rcases List.mem_map.1 member with ⟨item, isItem, isSource⟩
      have sameKey : sourceKey item = sourceKey run := by
        have sameSession : item.sessionId = run.sessionId := congrArg Prod.fst isSource
        have sameEvent : item.sourceEventId = run.sourceEventId := congrArg Prod.snd isSource
        unfold sourceKey
        rw [sameSession, sameEvent]
      cases found : before.runsBySource.get? (sourceKey run) with
      | none =>
        rw [added.bySource, get?_index_none_iff] at found
        exact found (List.mem_map.2 ⟨item, isItem, sameKey⟩)
      | some other =>
        have sameId := sameSource other found
        rw [added.bySource] at found
        exact isNew (List.mem_map.2 ⟨other, (get?_index_some found).1, sameId⟩)
    · intro other member
      change _ ∧ ∃ existing, (before.runsById.set _ _).get? _ = some existing ∧ _
      rw [get?_set]
      rcases List.mem_append.1 member with old | isRun
      · rcases added.same other old with ⟨there, existing, isExisting, isSame⟩
        refine ⟨there, existing, ?_, isSame⟩
        rw [if_neg, isExisting]
        intro sameId
        rw [sameId, absent] at isExisting
        cases isExisting
      · rw [List.mem_singleton.1 isRun, if_pos rfl]
        exact ⟨present, run, rfl, sameMigratedRun_refl run⟩

theorem RunsAdded.initial (state : WorkbenchState)
    (sessionsById : OrderedMap String WorkbenchSessionRecord) :
    RunsAdded state sessionsById [] (.initial state) := by
  have same : state.runs ++ (RunsDelta.initial state).runs = state.runs :=
    List.append_nil state.runs
  refine ⟨?_, ?_, ?_, ?_, fun _ member => absurd member List.not_mem_nil⟩
  · rw [same]
    rfl
  · rw [same]
    rfl
  · intro distinct
    rw [same]
    exact distinct
  · intro distinct
    rw [same]
    exact distinct

theorem runsDelta_added {delta : RunsDelta} (ran : runsDelta state sessionsById records = .ok delta) :
    RunsAdded state sessionsById records.runs delta := by
  apply foldlM_invariant (RunsAdded state sessionsById) _ (RunsAdded.initial state sessionsById) ran
  intro done before run after added taken
  exact added.add taken

theorem applyMigration_ok (applied : applyMigration records state = .ok (result, after)) :
    ∃ sessions runs, sessionsDelta state records = .ok sessions ∧
      runsDelta state sessions.sessionsById records = .ok runs ∧
      result = { sessionsAdded := sessions.sessions.length, runsAdded := runs.runs.length } ∧
      after = { sessions := state.sessions ++ sessions.sessions
                runs := state.runs ++ runs.runs } := by
  unfold applyMigration migrationDelta at applied
  cases ranSessions : sessionsDelta state records with
  | error error =>
    rw [ranSessions] at applied
    cases applied
  | ok sessions =>
    rw [ranSessions] at applied
    change (runsDelta state sessions.sessionsById records >>= _) >>= _ = _ at applied
    cases ranRuns : runsDelta state sessions.sessionsById records with
    | error error =>
      rw [ranRuns] at applied
      cases applied
    | ok runs =>
      rw [ranRuns] at applied
      cases applied
      exact ⟨sessions, runs, rfl, ranRuns, rfl, rfl⟩

structure WorkbenchState.Holds (records : WorkbenchMigrationRecords) (state : WorkbenchState) :
    Prop where
  sessions : ∀ session ∈ records.sessions, session.sessionId ∈ state.sessionIds
  runs : ∀ run ∈ records.runs, run.runId ∈ state.runIds

theorem holds_of_applied (applied : applyMigration records state = .ok (result, after)) :
    after.Holds records := by
  rcases applyMigration_ok applied with ⟨sessions, runs, ranSessions, ranRuns, _, isAfter⟩
  rw [isAfter]
  constructor
  · intro session member
    rcases (sessionsDelta_added ranSessions).same session member with ⟨existing, isExisting, _⟩
    rw [(sessionsDelta_added ranSessions).byId] at isExisting
    rcases get?_index_some isExisting with ⟨isItem, sameId⟩
    exact List.mem_map.2 ⟨existing, isItem, sameId⟩
  · intro run member
    rcases (runsDelta_added ranRuns).same run member with ⟨_, existing, isExisting, _⟩
    rw [(runsDelta_added ranRuns).byId] at isExisting
    rcases get?_index_some isExisting with ⟨isItem, sameId⟩
    exact List.mem_map.2 ⟨existing, isItem, sameId⟩

theorem applyMigration_held (held : state.Holds records)
    (applied : applyMigration records state = .ok (result, after)) :
    result = { sessionsAdded := 0, runsAdded := 0 } ∧ after = state := by
  rcases applyMigration_ok applied with ⟨sessions, runs, ranSessions, ranRuns, isResult, isAfter⟩
  have noSessions : sessions = .initial state := by
    apply foldlM_stays _ ranSessions
    intro session member after taken
    unfold SessionsDelta.add at taken
    split at taken
    · split at taken
      · cases taken
        rfl
      · cases taken
    · rename_i absent
      rw [SessionsDelta.initial, get?_index_none_iff] at absent
      exact absurd (held.sessions session member) absent
  have noRuns : runs = .initial state := by
    apply foldlM_stays _ ranRuns
    intro run member after taken
    rcases (RunsDelta.add_cases taken).2 with ⟨isBefore, _⟩ | ⟨absent, _⟩
    · exact isBefore
    · rw [RunsDelta.initial, get?_index_none_iff] at absent
      exact absurd (held.runs run member) absent
  rw [isResult, isAfter, noSessions, noRuns]
  refine ⟨rfl, ?_⟩
  rw [SessionsDelta.initial, RunsDelta.initial, List.append_nil, List.append_nil]

theorem applyMigration_again (applied : applyMigration records state = .ok (result, after)) :
    applyMigration records after = .ok ({ sessionsAdded := 0, runsAdded := 0 }, after) := by
  rcases applyMigration_ok applied with ⟨sessions, runs, ranSessions, ranRuns, _, isAfter⟩
  have addedSessions := sessionsDelta_added ranSessions
  have addedRuns := runsDelta_added ranRuns
  have byId : (SessionsDelta.initial after).sessionsById = sessions.sessionsById := by
    rw [addedSessions.byId, isAfter]
    rfl
  have again : sessionsDelta after records = .ok (.initial after) := by
    apply foldlM_fixed
    intro session member
    rcases addedSessions.same session member with ⟨existing, isExisting, isSame⟩
    unfold SessionsDelta.add
    rw [byId, isExisting]
    exact if_pos isSame
  have againRuns : runsDelta after (SessionsDelta.initial after).sessionsById records =
      .ok (.initial after) := by
    apply foldlM_fixed
    intro run member
    rcases addedRuns.same run member with ⟨present, existing, isExisting, isSame⟩
    have runsById : (RunsDelta.initial after).runsById = runs.runsById := by
      rw [addedRuns.byId, isAfter]
      rfl
    unfold RunsDelta.add
    rw [byId, present, if_neg Bool.false_ne_true, runsById, isExisting]
    exact if_pos isSame
  unfold applyMigration migrationDelta
  rw [again]
  change (runsDelta after (SessionsDelta.initial after).sessionsById records >>= _) >>= _ = _
  rw [againRuns]
  change Except.ok ((⟨0, 0⟩ : WorkbenchMigrationResult),
    (⟨after.sessions ++ [], after.runs ++ []⟩ : WorkbenchState)) = _
  rw [List.append_nil, List.append_nil]

theorem preview_eq_apply (records : WorkbenchMigrationRecords) (state : WorkbenchState) :
    previewMigration records state = (applyMigration records state).map Prod.fst := by
  unfold previewMigration applyMigration
  cases migrationDelta state records with
  | error error => rfl
  | ok delta => rfl

/-! ### Operations -/

theorem Extends.of_eq (sessions : after.sessionIds = before.sessionIds)
    (runs : after.runIds = before.runIds) : before.Extends after := by
  constructor
  · rw [sessions]
    exact List.Subset.refl _
  · rw [runs]
    exact List.Subset.refl _

theorem mutation_keeps {operation : SessionOperation} {answer : SessionAnswer}
    (mutated : operation.mutation before = .ok (answer, after)) :
    (before.Unique → after.Unique) ∧ before.Extends after := by
  cases operation with
  | createSession session =>
    rcases map_ok mutated with ⟨⟨created, state⟩, isOk, same⟩
    cases same
    rcases createSession_ok isOk with ⟨absent, isAfter⟩
    rw [isAfter]
    constructor
    · intro unique
      refine ⟨?_, unique.runIds, unique.sources⟩
      unfold WorkbenchState.sessionIds
      rw [List.map_append]
      exact nodup_concat unique.sessionIds absent
    · refine ⟨?_, List.Subset.refl _⟩
      intro id member
      unfold WorkbenchState.sessionIds
      rw [List.map_append]
      exact List.mem_append_left _ member
  | updateSession sessionId mutation =>
    rcases map_ok mutated with ⟨⟨next, state⟩, isOk, same⟩
    cases same
    rcases updateSession_ok isOk with ⟨sameIds, sameRuns⟩
    have runIds : state.runIds = before.runIds := by
      unfold WorkbenchState.runIds
      rw [sameRuns]
    have sources : state.sources = before.sources := by
      unfold WorkbenchState.sources
      rw [sameRuns]
    constructor
    · intro unique
      exact ⟨sameIds ▸ unique.sessionIds, runIds ▸ unique.runIds, sources ▸ unique.sources⟩
    · exact Extends.of_eq sameIds runIds
  | createOrGetRun run =>
    cases mutated
    rcases createOrGetRun_cases run before with same | ⟨newRun, newSource, isAfter⟩
    · rw [same]
      exact ⟨id, Extends.of_eq rfl rfl⟩
    · rw [isAfter]
      have sessionIds : ({ sessions := touchSession run before.sessions
                           runs := before.runs ++ [run] } : WorkbenchState).sessionIds =
          before.sessionIds := touchSession_ids run before.sessions
      constructor
      · intro unique
        refine ⟨sessionIds ▸ unique.sessionIds, ?_, ?_⟩
        · unfold WorkbenchState.runIds
          rw [List.map_append]
          exact nodup_concat unique.runIds newRun
        · unfold WorkbenchState.sources
          rw [List.map_append]
          exact nodup_concat unique.sources newSource
      · constructor
        · rw [sessionIds]
          exact List.Subset.refl _
        · intro id member
          unfold WorkbenchState.runIds
          rw [List.map_append]
          exact List.mem_append_left _ member
  | markRunAdmission runId status error =>
    rcases map_ok mutated with ⟨state, isOk, same⟩
    cases same
    rcases markRunAdmission_ok isOk with ⟨sameSessions, sameRuns, sameSources⟩
    have sessionIds : after.sessionIds = before.sessionIds := by
      unfold WorkbenchState.sessionIds
      rw [sameSessions]
    constructor
    · intro unique
      exact ⟨sessionIds ▸ unique.sessionIds, sameRuns ▸ unique.runIds, sameSources ▸ unique.sources⟩
    · exact Extends.of_eq sessionIds sameRuns
  | applyMigration records =>
    rcases map_ok mutated with ⟨⟨result, state⟩, isOk, same⟩
    cases same
    rcases applyMigration_ok isOk with ⟨sessions, runs, ranSessions, ranRuns, _, isAfter⟩
    rw [isAfter]
    constructor
    · intro unique
      exact ⟨(sessionsDelta_added ranSessions).unique unique.sessionIds,
        (runsDelta_added ranRuns).unique unique.runIds,
        (runsDelta_added ranRuns).sources unique.sources⟩
    · constructor
      · intro id member
        unfold WorkbenchState.sessionIds
        rw [List.map_append]
        exact List.mem_append_left _ member
      · intro id member
        unfold WorkbenchState.runIds
        rw [List.map_append]
        exact List.mem_append_left _ member

abbrev SessionStore : Type :=
  WriteQueue.Store (Option Json) WorkbenchState SessionOperation SessionAnswer SessionStoreError

abbrev SessionStep (path : Option String) :
    SessionStore → WriteQueue.Event SessionOperation SessionStoreError → SessionStore → Prop :=
  WriteQueue.Step (sessionStore path)

theorem applied_stays {path : Option String} {start : WorkbenchState}
    {settled : List (SessionOperation × Except SessionStoreError SessionAnswer)}
    (serial : WriteQueue.Serial (sessionStore path) start settled state) {answer : SessionAnswer}
    (applied : (.applyMigration records, .ok answer) ∈ settled) : state.Holds records := by
  refine serial.after applied (fun _ => True) (fun state => state.Holds records) ?_ ?_ ?_ trivial
  · intro _ _ _ _ _ _
    trivial
  · intro before after mutated _
    cases ran : applyMigration records before with
    | error error =>
      change (applyMigration records before).map _ = _ at mutated
      rw [ran] at mutated
      cases mutated
    | ok result =>
      change (applyMigration records before).map _ = _ at mutated
      rw [ran] at mutated
      cases mutated
      exact holds_of_applied ran
  · intro operation before _ after mutated _ held
    have grown := (mutation_keeps mutated).2
    constructor
    · intro session member
      exact grown.sessionIds (held.sessions session member)
    · intro run member
      exact grown.runIds (held.runs run member)

/-- The store of sessions and runs: a failing operation changes nothing, the
settled operations have taken effect one after the other, identities stay
unique, the sidecar holds the records in memory except while an operation has
been written and not yet installed, and a migration adds what its preview says
and nothing when it is applied again. -/
theorem session_operations_are_atomic (path : Option String) (content : Option Json)
    {store : SessionStore}
    (reached : Reachable (SessionStep path) (WriteQueue.fresh content) store) :
    (∀ event after operation error, SessionStep path store event after →
      after.settled = store.settled ++ [(operation, .error error)] →
      after.state = store.state ∧ after.file = store.file) ∧
    ((store.state = none ∧ store.file = content) ∨
      ∃ start state, loadSidecar path content = .ok start ∧ store.state = some state ∧
        WriteQueue.Serial (sessionStore path) start store.settled state ∧
        (start.Unique → state.Unique) ∧
        (path.isNone = false → loadSidecar path store.file = .ok (store.phase.onDisk state)) ∧
        ∀ records,
          previewMigration records state = (applyMigration records state).map Prod.fst ∧
          (∀ result after, applyMigration records state = .ok (result, after) →
            (∃ sessions runs, after = ⟨state.sessions ++ sessions, state.runs ++ runs⟩ ∧
              result = ⟨sessions.length, runs.length⟩) ∧
            applyMigration records after = .ok (⟨0, 0⟩, after)) ∧
          (∀ answer, (.applyMigration records, .ok answer) ∈ store.settled →
            ∀ result after, applyMigration records state = .ok (result, after) →
              result = ⟨0, 0⟩ ∧ after = state)) := by
  constructor
  · intro event after operation error step failed
    exact WriteQueue.failing_step_changes_nothing step failed
  · rcases WriteQueue.kept_of_reachable reached with unloaded | ⟨start, state, isStart, sound⟩
    · exact Or.inl ⟨unloaded.memory, unloaded.file⟩
    · refine Or.inr ⟨start, state, isStart, sound.memory, sound.serial, ?_, ?_, ?_⟩
      · intro unique
        apply sound.serial.keeps WorkbenchState.Unique _ unique
        intro _ _ _ _ mutated held
        exact (mutation_keeps mutated).1 held
      · intro stored
        exact sound.file (load_persist stored)
      · intro records
        refine ⟨preview_eq_apply records state, ?_, ?_⟩
        · intro result after applied
          refine ⟨?_, applyMigration_again applied⟩
          rcases applyMigration_ok applied with ⟨sessions, runs, _, _, isResult, isAfter⟩
          exact ⟨sessions.sessions, runs.runs, isAfter, isResult⟩
        · intro answer applied result after again
          exact applyMigration_held (applied_stays sound.serial applied) again

def firstSession : WorkbenchSessionRecord :=
  { sessionId := "s"
    workspaceId := "w"
    actorUserId := "u"
    channelId := "c"
    projectId := none
    surface := "chat"
    createdAt := "t"
    updatedAt := "t"
    goal := none }

def firstState : WorkbenchState :=
  { sessions := [firstSession]
    runs := [] }

/-- The store after its first session has been written, and before and after
the records have been installed. -/
def writtenStore : SessionStore :=
  { file := some firstState.toJson
    state := some .empty
    waiting := []
    phase := .written (.createSession firstSession) (.session firstSession) firstState
    settled := [] }

def installedStore : SessionStore :=
  { file := some firstState.toJson
    state := some firstState
    waiting := []
    phase := .idle
    settled := [(.createSession firstSession, .ok (.session firstSession))] }

theorem writtenStore_reachable :
    Reachable (SessionStep (some "sessions.json")) (WriteQueue.fresh none) writtenStore := by
  exact Reachable.next (.next (.next (.next .refl (.loaded rfl rfl))
    (.called (.createSession firstSession) rfl)) (.begun rfl rfl rfl rfl)) (.persisted rfl)

/-- Between its write and its end an operation is in the file and not yet in
memory. -/
theorem written_sidecar_is_ahead :
    ¬ ∀ (path : Option String) (content : Option Json) (store : SessionStore)
      (state : WorkbenchState),
      Reachable (SessionStep path) (WriteQueue.fresh content) store → path.isNone = false →
      store.state = some state → loadSidecar path store.file = .ok state := by
  intro always
  have reads := always (some "sessions.json") none writtenStore .empty writtenStore_reachable
    rfl rfl
  have holds : loadSidecar (some "sessions.json") writtenStore.file = .ok firstState :=
    parseSidecar_toJson firstState
  rw [holds] at reads
  cases reads

theorem session_operations_are_atomic_first :
    ∃ start, loadSidecar (some "sessions.json") none = .ok start ∧
      (start.Unique → firstState.Unique) ∧
      loadSidecar (some "sessions.json") installedStore.file = .ok firstState := by
  have reached : Reachable (SessionStep (some "sessions.json")) (WriteQueue.fresh none)
      installedStore := writtenStore_reachable.next (.installed rfl)
  rcases (session_operations_are_atomic (some "sessions.json") none reached).2 with
    unloaded | ⟨start, state, isStart, isState, _, unique, onDisk, _⟩
  · cases unloaded.1
  · cases isState
    exact ⟨start, isStart, unique, onDisk rfl⟩

end AnnaAgent.Host
