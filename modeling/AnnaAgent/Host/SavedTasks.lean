/-
Saved tasks and what a new store makes of them.

A task is read back from the snapshot exactly when its texts obey the rule of
the task route.  The task route has checked the rule before it saves; the
workbench has not.
-/

import AnnaAgent.Foundation.FailingLoops
import AnnaAgent.Host.WorkbenchRoutes

namespace AnnaAgent.Host

open Foundation ProductSessionRecord

/-- Not blank, not too long, and without control characters other than tab,
line feed and carriage return. -/
structure PlainText (text : String) : Prop where
  notBlank : isBlank text = false
  bounded : utf16Length text ≤ 262144
  noControl : text.toList.any isControl = false

def PlainField (field : Option String) : Prop := ∀ text ∈ field, PlainText text

variable {value : Option Json}

theorem optionalString_plain {field : Option String} (read : optionalString value = .ok field) :
    PlainField field := by
  unfold optionalString at read
  split at read
  · rename_i text
    split at read
    · cases read
      intro other member
      cases member
    · rename_i notBlank
      split at read
      · cases read
      · rename_i bounded
        split at read
        · cases read
        · rename_i noControl
          cases read
          intro other member
          cases member
          exact ⟨Bool.eq_false_iff.2 notBlank, Nat.le_of_not_lt bounded,
            Bool.eq_false_iff.2 noControl⟩
  · cases read
    intro other member
    cases member

theorem optionalString_of_plain {field : Option String} (plain : PlainField field) :
    optionalString (field.map Json.str) = .ok field := by
  cases field with
  | none => rfl
  | some text =>
    have isPlain := plain text rfl
    change optionalString (some (.str text)) = _
    unfold optionalString
    simp only [isPlain.notBlank, isPlain.noControl, Bool.false_eq_true, if_false]
    rw [if_neg (Nat.not_lt.2 isPlain.bounded)]

variable {text : String} {refs : List String}

theorem requiredString_plain {name : String} (read : requiredString value name = .ok text) :
    PlainText text := by
  unfold requiredString at read
  cases isText : optionalString value with
  | error message =>
    rw [isText] at read
    cases read
  | ok field =>
    rw [isText] at read
    cases field with
    | none => cases read
    | some found =>
      cases read
      exact optionalString_plain isText text rfl

theorem requiredString_of_plain (plain : PlainText text) (name : String) :
    requiredString (some (.str text)) name = .ok text := by
  have isText : optionalString (some (.str text)) = .ok (some text) := by
    refine @optionalString_of_plain (some text) ?_
    intro other member
    cases member
    exact plain
  unfold requiredString
  rw [isText]
  rfl

theorem mapM_resourceRef_of (notBlank : ∀ ref ∈ refs, isBlank ref = false) :
    (refs.map Json.str).mapM resourceRef? = some refs := by
  induction refs with
  | nil => rfl
  | cons ref rest ih =>
    have here : resourceRef? (.str ref) = some ref := by
      simp [resourceRef?, notBlank ref List.mem_cons_self]
    have later := ih (fun other member => notBlank other (List.mem_cons_of_mem ref member))
    rw [List.map_cons, List.mapM_cons, here, later]
    rfl

theorem notBlank_of_mapM {items : List Json} (read : items.mapM resourceRef? = some refs) :
    ∀ ref ∈ refs, isBlank ref = false := by
  induction items generalizing refs with
  | nil =>
    cases read
    intro ref member
    cases member
  | cons item rest ih =>
    rw [List.mapM_cons] at read
    cases here : resourceRef? item with
    | none =>
      rw [here] at read
      cases read
    | some ref =>
      rw [here] at read
      cases later : rest.mapM resourceRef? with
      | none =>
        rw [later] at read
        cases read
      | some others =>
        rw [later] at read
        cases read
        intro other member
        rcases List.mem_cons.1 member with isRef | isLater
        · rw [isRef]
          cases item with
          | str text =>
            unfold resourceRef? at here
            dsimp only at here
            split at here
            · cases here
            · rename_i notBlank
              cases here
              exact Bool.eq_false_iff.2 notBlank
          | null | bool | num | arr | obj => cases here
        · exact ih later other isLater

/-- A list of resources that can be read back. -/
structure PlainRefs (refs : List String) : Prop where
  notBlank : ∀ ref ∈ refs, isBlank ref = false
  bounded : refs.length ≤ 100

theorem resourceRefs_plain {value : Json} (read : resourceRefs value = .ok refs) :
    PlainRefs refs := by
  unfold resourceRefs at read
  split at read
  · split at read
    · rename_i found isFound
      split at read
      · cases read
      · rename_i bounded
        cases read
        exact ⟨notBlank_of_mapM isFound, Nat.le_of_not_lt bounded⟩
    · cases read
  · cases read

theorem resourceRefs_of_plain (plain : PlainRefs refs) : resourceRefs (.strs refs) = .ok refs := by
  have read := mapM_resourceRef_of plain.notBlank
  unfold resourceRefs Json.strs
  simp only [read]
  rw [if_neg (Nat.not_lt.2 plain.bounded)]

theorem productSurface_plain {surface : String} (admitted : surface ∈ productSurfaces) :
    PlainText surface := by
  have checked : ∀ text ∈ productSurfaces, isBlank text = false ∧ utf16Length text ≤ 262144 ∧
      text.toList.any isControl = false := by decide
  rcases checked surface admitted with ⟨notBlank, bounded, noControl⟩
  exact ⟨notBlank, bounded, noControl⟩

/-- A task that the snapshot gives back. -/
structure Storable (task : ProductTask) : Prop where
  runId : PlainText task.runId
  workspaceId : PlainText task.workspaceId
  actorUserId : PlainText task.actorUserId
  surface : task.surface ∈ productSurfaces
  prompt : PlainText task.prompt
  channelId : PlainField task.channelId
  conversationId : PlainField task.conversationId
  sessionId : PlainField task.sessionId
  projectId : PlainField task.projectId
  parentRunId : PlainField task.parentRunId
  resourceRefs : ∀ refs ∈ task.resourceRefs, PlainRefs refs
  requestedArtifact : PlainField task.requestedArtifact
  systemPrompt : PlainField task.systemPrompt
  context : ∀ fields ∈ task.context, hasSensitiveKey (.obj fields) = false
  workdirPath : PlainField task.workdirPath
  modelProfileId : PlainField task.modelProfileId
  sourceEventId : PlainField task.sourceEventId

theorem whenPresent_ok {α : Type} {read : Json → Except String α} {field : Option α}
    (ok : whenPresent read value = .ok field) :
    ∀ found ∈ field, ∃ json, value = some json ∧ read json = .ok found := by
  intro found member
  cases value with
  | none =>
    cases ok
    cases member
  | some json =>
    change (read json).map some = .ok field at ok
    cases isRead : read json with
    | error message =>
      rw [isRead] at ok
      cases ok
    | ok result =>
      rw [isRead] at ok
      cases ok
      cases member
      exact ⟨json, rfl, isRead⟩

theorem whenPresent_of {α : Type} {read : Json → Except String α} {write : α → Json}
    {field : Option α} (reads : ∀ value ∈ field, read (write value) = .ok value) :
    whenPresent read (field.map write) = .ok field := by
  cases field with
  | none => rfl
  | some value =>
    change (read (write value)).map some = _
    rw [reads value rfl]
    rfl

theorem contextRecord_ok {value : Json} {fields : List (String × Json)}
    (ok : contextRecord value = .ok fields) : hasSensitiveKey (.obj fields) = false := by
  unfold contextRecord at ok
  split at ok
  · split at ok
    · cases ok
    · rename_i safe
      cases ok
      exact Bool.eq_false_iff.2 safe
  · cases ok

theorem admittedSurface_ok {surface : String} {done : Unit}
    (ok : admittedSurface surface = .ok done) : surface ∈ productSurfaces := by
  unfold admittedSurface at ok
  split at ok
  · assumption
  · cases ok

theorem storable_of_validated {input : Json} {task : ProductTask}
    (validated : validatedProductTask input = .ok task) : Storable task := by
  unfold validatedProductTask at validated
  simp only [bind_ok_iff] at validated
  rcases validated with ⟨_, _, runId, isRunId, version, _, workspaceId, isWorkspaceId, actorUserId,
    isActorUserId, surface, _, _, isSurface, prompt, isPrompt, channelId, isChannelId,
    conversationId, isConversationId, sessionId, isSessionId, projectId, isProjectId, parentRunId,
    isParentRunId, refs, areRefs, artifact, isArtifact, systemPrompt, isSystemPrompt, context,
    isContext, workdirPath, isWorkdirPath, mode, _, profile, isProfile, source, isSource, isTask⟩
  cases isTask
  constructor
  · exact requiredString_plain isRunId
  · exact requiredString_plain isWorkspaceId
  · exact requiredString_plain isActorUserId
  · exact admittedSurface_ok isSurface
  · exact requiredString_plain isPrompt
  · exact optionalString_plain isChannelId
  · exact optionalString_plain isConversationId
  · exact optionalString_plain isSessionId
  · exact optionalString_plain isProjectId
  · exact optionalString_plain isParentRunId
  · intro found member
    rcases whenPresent_ok areRefs found member with ⟨json, _, read⟩
    exact resourceRefs_plain read
  · exact optionalString_plain isArtifact
  · exact optionalString_plain isSystemPrompt
  · intro found member
    rcases whenPresent_ok isContext found member with ⟨json, _, read⟩
    exact contextRecord_ok read
  · exact optionalString_plain isWorkdirPath
  · exact optionalString_plain isProfile
  · exact optionalString_plain isSource

theorem ProductTask.get?_toJson (task : ProductTask) (key : String) :
    task.toJson.get? key = (task.fields.lookup key).join :=
  Json.get?_ofFields (by simp [fields]) key

theorem onlyTaskKeys_toJson (task : ProductTask) : onlyTaskKeys task.toJson = .ok () := by
  have known : ∀ field ∈ task.fields.filterMap
      (fun field => field.2.map (fun value => (field.1, value))), field.1 ∈ taskKeys := by
    intro field member
    rcases List.mem_filterMap.1 member with ⟨source, isSource, isField⟩
    rcases Option.map_eq_some_iff.1 isField with ⟨value, _, same⟩
    have isKey : source.1 ∈ task.fields.map Prod.fst := List.mem_map_of_mem isSource
    rw [← same]
    exact isKey
  have none : (task.fields.filterMap
      (fun field => field.2.map (fun value => (field.1, value)))).find?
      (fun field => decide (field.1 ∉ taskKeys)) = none := by
    rw [List.find?_eq_none]
    intro field member unknown
    exact of_decide_eq_true unknown (known field member)
  unfold onlyTaskKeys ProductTask.toJson Json.ofFields
  simp only [none]

theorem storable_reads_back {task : ProductTask} (storable : Storable task) :
    validatedProductTask task.toJson = .ok task := by
  have version : schemaVersion (if task.hasSchemaVersion then some (.num (.ofNat 2)) else none) =
      .ok task.hasSchemaVersion := by
    cases task.hasSchemaVersion with
    | true => rfl
    | false => rfl
  have surface : admittedSurface task.surface = .ok () := if_pos storable.surface
  have refs : whenPresent resourceRefs (task.resourceRefs.map Json.strs) =
      .ok task.resourceRefs :=
    whenPresent_of (fun refs member => resourceRefs_of_plain (storable.resourceRefs refs member))
  have context : whenPresent contextRecord (task.context.map Json.obj) = .ok task.context := by
    apply whenPresent_of
    intro fields member
    unfold contextRecord
    simp only [storable.context fields member]
    rfl
  have mode : whenPresent permission
      (task.permissionMode.map (fun mode => Json.str mode.text)) = .ok task.permissionMode := by
    apply whenPresent_of
    intro mode _
    cases mode
    all_goals rfl
  unfold validatedProductTask
  simp only [onlyTaskKeys_toJson, ProductTask.get?_toJson, ProductTask.fields, List.lookup]
  simp [requiredString_of_plain storable.runId, requiredString_of_plain storable.workspaceId,
    requiredString_of_plain storable.actorUserId, requiredString_of_plain storable.prompt,
    requiredString_of_plain (productSurface_plain storable.surface), version, surface, refs,
    context, mode, optionalString_of_plain storable.channelId,
    optionalString_of_plain storable.conversationId, optionalString_of_plain storable.sessionId,
    optionalString_of_plain storable.projectId, optionalString_of_plain storable.parentRunId,
    optionalString_of_plain storable.requestedArtifact,
    optionalString_of_plain storable.systemPrompt, optionalString_of_plain storable.workdirPath,
    optionalString_of_plain storable.modelProfileId,
    optionalString_of_plain storable.sourceEventId, ok_bind]

/-- A record that the snapshot gives back. -/
structure Readable (record : ProductSessionRecord) : Prop where
  task : Storable record.task
  createdAt : isBlank record.createdAt = false
  updatedAt : isBlank record.updatedAt = false

theorem strictTimestamp_ok {name : String} (ok : strictTimestamp value name = .ok text) :
    isBlank text = false := by
  unfold strictTimestamp at ok
  split at ok
  · split at ok
    · cases ok
    · rename_i notBlank
      cases ok
      exact Bool.eq_false_iff.2 notBlank
  · cases ok

theorem strictTimestamp_of (notBlank : isBlank text = false) (name : String) :
    strictTimestamp (some (.str text)) name = .ok text := by
  simp [strictTimestamp, notBlank]

theorem readable_of_parsed {name : String} {item : Json} {record : ProductSessionRecord}
    (parsed : parseRecord name item = .ok record) : Readable record := by
  unfold parseRecord at parsed
  split at parsed
  · split at parsed
    · cases parsed
    · rename_i task validated
      rw [bind_ok_iff] at parsed
      rcases parsed with ⟨createdAt, isCreatedAt, parsed⟩
      rw [bind_ok_iff] at parsed
      rcases parsed with ⟨updatedAt, isUpdatedAt, isRecord⟩
      cases isRecord
      exact ⟨storable_of_validated validated, strictTimestamp_ok isCreatedAt,
        strictTimestamp_ok isUpdatedAt⟩
  · cases parsed

theorem ProductSessionRecord.get?_toJson (record : ProductSessionRecord) (key : String) :
    record.toJson.get? key = (([("task", some record.task.toJson),
      ("created_at", some (Json.str record.createdAt)),
      ("updated_at", some (Json.str record.updatedAt))] : List (String × Option Json)).lookup
        key).join :=
  Json.get?_ofFields (by simp) key

theorem parseRecord_toJson {record : ProductSessionRecord} (readable : Readable record)
    (name : String) : parseRecord name record.toJson = .ok record := by
  have task : record.toJson.get? "task" = some record.task.toJson := by
    rw [get?_toJson]
    simp [List.lookup]
  have createdAt : record.toJson.get? "created_at" = some (.str record.createdAt) := by
    rw [get?_toJson]
    simp [List.lookup]
  have updatedAt : record.toJson.get? "updated_at" = some (.str record.updatedAt) := by
    rw [get?_toJson]
    simp [List.lookup]
  have back := storable_reads_back readable.task
  unfold ProductTask.toJson Json.ofFields at task back
  unfold parseRecord
  rw [task, createdAt, updatedAt]
  simp only [back, strictTimestamp_of readable.createdAt, strictTimestamp_of readable.updatedAt,
    ok_bind]
  rfl

def ProductSessionRecord.runId (record : ProductSessionRecord) : String := record.task.runId

theorem parseRecords_ok {source : String} {index : Nat} {seen : List String} {items : List Json}
    {records : List ProductSessionRecord}
    (parsed : parseRecords source index seen items = .ok records) :
    (∀ record ∈ records, Readable record ∧ record.runId ∉ seen) ∧ (records.map runId).Nodup := by
  induction items generalizing index seen records with
  | nil =>
    cases parsed
    exact ⟨fun _ member => absurd member List.not_mem_nil, List.nodup_nil⟩
  | cons item rest ih =>
    unfold parseRecords at parsed
    rw [bind_ok_iff] at parsed
    rcases parsed with ⟨record, isRecord, parsed⟩
    split at parsed
    · cases parsed
    · rename_i unseen
      rw [bind_ok_iff] at parsed
      rcases parsed with ⟨later, isLater, same⟩
      cases same
      rcases ih isLater with ⟨readable, distinct⟩
      constructor
      · intro other member
        rcases List.mem_cons.1 member with isFirst | isOther
        · rw [isFirst]
          exact ⟨readable_of_parsed isRecord, unseen⟩
        · refine ⟨(readable other isOther).1, ?_⟩
          intro isSeen
          exact (readable other isOther).2 (List.mem_cons_of_mem _ isSeen)
      · rw [List.map_cons, List.nodup_cons]
        refine ⟨?_, distinct⟩
        intro member
        rcases List.mem_map.1 member with ⟨other, isOther, sameId⟩
        apply (readable other isOther).2
        rw [sameId]
        exact List.mem_cons_self

theorem parseRecords_toJson {records : List ProductSessionRecord} {seen : List String}
    (readable : ∀ record ∈ records, Readable record ∧ record.runId ∉ seen)
    (distinct : (records.map runId).Nodup) (source : String) (index : Nat) :
    parseRecords source index seen (records.map toJson) = .ok records := by
  induction records generalizing index seen with
  | nil => rfl
  | cons record rest ih =>
    rw [List.map_cons, List.nodup_cons] at distinct
    have here := readable record List.mem_cons_self
    have unseen : record.task.runId ∉ seen := here.2
    have later : parseRecords source (index + 1) (record.task.runId :: seen)
        (rest.map toJson) = .ok rest := by
      apply ih _ distinct.2
      intro other member
      refine ⟨(readable other (List.mem_cons_of_mem record member)).1, ?_⟩
      intro isSeen
      rcases List.mem_cons.1 isSeen with sameId | old
      · exact distinct.1 (List.mem_map.2 ⟨other, member, sameId⟩)
      · exact (readable other (List.mem_cons_of_mem record member)).2 old
    rw [List.map_cons, parseRecords, parseRecord_toJson here.1, ok_bind, if_neg unseen, later]
    rfl

/-! ### The records in memory -/

/-- How the records in memory stand to those of the legacy file: they come
first and in the same order, and a record that both have is the same up to the
order of keys. -/
structure Consistent (source : List ProductSessionRecord) (records : ProductRecords) : Prop where
  keyed : ∀ entry ∈ records.entries, entry.1 = entry.2.runId
  order : source.map runId <+: records.entries.map Prod.fst
  same : ∀ record ∈ source, ∀ existing, records.get? record.runId = some existing →
    record.toJson.stableJson = existing.toJson.stableJson

variable {source : List ProductSessionRecord} {records : ProductRecords}

theorem Consistent.set (consistent : Consistent source records) {record : ProductSessionRecord}
    (agrees : ∀ existing, records.get? record.runId = some existing → existing.toJson.stableJson = record.toJson.stableJson) :
    Consistent source (records.set record.runId record) := by
  constructor
  · intro entry member
    have held : (records.set record.runId record).get? entry.1 = some entry.2 :=
      OrderedMap.get?_eq_some_iff.2 member
    rw [OrderedMap.get?_set] at held
    by_cases isRecord : entry.1 = record.runId
    · rw [if_pos isRecord, Option.some.injEq] at held
      rw [isRecord, held]
    · rw [if_neg isRecord] at held
      exact consistent.keyed entry (OrderedMap.get?_eq_some_iff.1 held)
  · exact consistent.order.trans (OrderedMap.keys_prefix_set records record.runId record)
  · intro other member existing held
    rw [OrderedMap.get?_set] at held
    by_cases sameId : other.runId = record.runId
    · rw [if_pos sameId, Option.some.injEq] at held
      have present : other.runId ∈ records.entries.map Prod.fst :=
        consistent.order.subset (List.mem_map_of_mem member)
      cases old : records.get? other.runId with
      | none => exact absurd present (OrderedMap.get?_eq_none_iff.1 old)
      | some earlier =>
        have first := consistent.same other member earlier old
        rw [sameId] at old
        rw [first, agrees earlier old, held]
    · rw [if_neg sameId] at held
      exact consistent.same other member existing held

theorem addSnapshotRecord_ok {before after : ProductRecords} {record : ProductSessionRecord}
    (added : addSnapshotRecord before record = .ok after) :
    after = before.set record.runId record ∧ ∀ existing,
      before.get? record.runId = some existing →
        existing.toJson.stableJson = record.toJson.stableJson := by
  unfold addSnapshotRecord at added
  split at added
  · rename_i existing isExisting
    split at added
    · cases added
    · rename_i agrees
      cases added
      refine ⟨rfl, ?_⟩
      intro other isOther
      have same : some existing = some other := isExisting.symm.trans isOther
      cases same
      exact not_not.1 agrees
  · rename_i absent
    cases added
    refine ⟨rfl, ?_⟩
    intro other isOther
    have impossible : none = some other := absent.symm.trans isOther
    cases impossible

theorem index_entries (distinct : (source.map runId).Nodup) :
    (OrderedMap.index runId source).entries =
      source.map (fun record => (record.runId, record)) := by
  induction source using List.reverseRecOn with
  | nil => rfl
  | append_singleton earlier last ih =>
    rw [List.map_append, List.map_singleton, List.nodup_append] at distinct
    have absent : (OrderedMap.index runId earlier).get? last.runId =
        none := by
      rw [OrderedMap.get?_index_none_iff]
      intro member
      exact distinct.2.2 _ member _ List.mem_cons_self rfl
    rw [OrderedMap.index_concat, OrderedMap.entries_set_new absent, ih distinct.1,
      List.map_append, List.map_singleton]

theorem index_consistent (distinct : (source.map runId).Nodup) :
    Consistent source (OrderedMap.index runId source) := by
  have entries := index_entries distinct
  constructor
  · intro entry member
    rw [entries] at member
    rcases List.mem_map.1 member with ⟨record, _, isEntry⟩
    rw [← isEntry]
  · rw [entries, List.map_map]
    exact List.prefix_rfl
  · intro record member existing held
    rcases OrderedMap.get?_index_some held with ⟨isExisting, sameId⟩
    rw [List.inj_on_of_nodup_map distinct member isExisting sameId.symm]

theorem loadRecords_ok {files : ProductFiles} (loaded : loadRecords files = .ok records) :
    ∃ source, readProductSessionSource files.source = .ok source ∧
      Consistent source records ∧ ∀ entry ∈ records.entries, Readable entry.2 := by
  unfold loadRecords at loaded
  rw [bind_ok_iff] at loaded
  rcases loaded with ⟨source, isSource, loaded⟩
  rw [bind_ok_iff] at loaded
  rcases loaded with ⟨sidecar, isSidecar, added⟩
  have sourceParsed : (∀ record ∈ source, Readable record) ∧
      (source.map runId).Nodup := by
    unfold readProductSessionSource at isSource
    split at isSource
    · cases isSource
      exact ⟨fun _ member => absurd member List.not_mem_nil, List.nodup_nil⟩
    · exact ⟨fun record member => ((parseRecords_ok isSource).1 record member).1,
        (parseRecords_ok isSource).2⟩
    · cases isSource
  have sidecarParsed : ∀ record ∈ sidecar, Readable record := by
    unfold readProductSessionSnapshot at isSidecar
    split at isSidecar
    · cases isSidecar
      exact fun _ member => absurd member List.not_mem_nil
    · split at isSidecar
      · exact fun record member => ((parseRecords_ok isSidecar).1 record member).1
      · cases isSidecar
  have start : Consistent source (OrderedMap.index runId source) ∧
      ∀ entry ∈ (OrderedMap.index runId source).entries,
        entry.2 ∈ source ++ [] := by
    refine ⟨index_consistent sourceParsed.2, ?_⟩
    intro entry member
    rw [index_entries sourceParsed.2] at member
    rcases List.mem_map.1 member with ⟨record, isRecord, isEntry⟩
    rw [← isEntry, List.append_nil]
    exact isRecord
  have folded := foldlM_invariant (fun done records =>
      Consistent source records ∧ ∀ entry ∈ records.entries, entry.2 ∈ source ++ done) ?_
    start added
  · refine ⟨source, isSource, folded.1, ?_⟩
    intro entry member
    rcases List.mem_append.1 (folded.2 entry member) with inSource | inSidecar
    · exact sourceParsed.1 entry.2 inSource
    · exact sidecarParsed entry.2 inSidecar
  · rintro done before record after ⟨consistent, inside⟩ taken
    rcases addSnapshotRecord_ok taken with ⟨isAfter, agrees⟩
    rw [isAfter]
    refine ⟨consistent.set agrees, ?_⟩
    intro entry member
    have held : (before.set record.runId record).get? entry.1 = some entry.2 :=
      OrderedMap.get?_eq_some_iff.2 member
    rw [OrderedMap.get?_set] at held
    by_cases isRecord : entry.1 = record.runId
    · rw [if_pos isRecord, Option.some.injEq] at held
      rw [← held]
      exact List.mem_append_right _ (List.mem_append_right _ List.mem_cons_self)
    · rw [if_neg isRecord] at held
      have old := inside entry (OrderedMap.get?_eq_some_iff.1 held)
      rw [← List.append_assoc]
      exact List.mem_append_left _ old

theorem addSnapshotRecord_of {map : ProductRecords} {record : ProductSessionRecord}
    (agrees : ∀ existing, map.get? record.runId = some existing →
      existing.toJson.stableJson = record.toJson.stableJson) :
    addSnapshotRecord map record = .ok (map.set record.runId record) := by
  unfold addSnapshotRecord
  cases held : map.get? record.task.runId with
  | none => rfl
  | some existing => exact if_neg (not_not.2 (agrees existing held))

/-- The records of the snapshot are laid over those of the legacy file, which
they begin with.  `done` is what has been laid, `rest` is what is left of the
legacy records. -/
theorem overlay (keyed : ∀ entry ∈ records.entries, entry.1 = entry.2.runId)
    {done todo rest : List (String × ProductSessionRecord)} {map : ProductRecords}
    (entries : records.entries = done ++ todo) (laid : map.entries = done ++ rest)
    (order : rest.map Prod.fst <+: todo.map Prod.fst)
    (same : ∀ entry ∈ rest, ∀ existing, records.get? entry.1 = some existing → entry.2.toJson.stableJson = existing.toJson.stableJson) :
    (todo.map Prod.snd).foldlM addSnapshotRecord map = .ok records := by
  induction todo generalizing done rest map with
  | nil =>
    have noRest : rest = [] := List.map_eq_nil_iff.1 (List.prefix_nil.1 order)
    have isMap : map = records := by
      apply OrderedMap.ext
      rw [laid, entries, noRest]
    rw [isMap]
    rfl
  | cons entry todo ih =>
    have member : entry ∈ records.entries := by
      rw [entries]
      exact List.mem_append_right _ List.mem_cons_self
    have isKey := keyed entry member
    have next : records.entries = (done ++ [entry]) ++ todo := by
      rw [entries, List.append_assoc]
      rfl
    have distinct := records.keysNodup
    rw [entries, List.map_append, List.map_cons, List.nodup_append] at distinct
    rw [List.map_cons, List.foldlM_cons]
    cases rest with
    | nil =>
      have absent : map.get? entry.2.runId = none := by
        rw [OrderedMap.get?_eq_none_iff, laid, List.append_nil]
        intro inside
        exact distinct.2.2 _ inside _ List.mem_cons_self isKey.symm
      rw [addSnapshotRecord_of (fun existing held => by rw [absent] at held; cases held), ok_bind]
      apply ih next
      · rw [OrderedMap.entries_set_new absent, laid, List.append_nil, List.append_nil, ← isKey]
      · exact List.nil_prefix
      · intro other impossible
        cases impossible
    | cons old rest =>
      rw [List.map_cons, List.map_cons, List.cons_prefix_cons] at order
      have isOld : map.entries = done ++ (entry.2.runId, old.2) :: rest := by
        rw [laid, ← isKey, ← order.1]
      have held : map.get? entry.2.runId = some old.2 := by
        rw [OrderedMap.get?_eq_some_iff, isOld]
        exact List.mem_append_right _ List.mem_cons_self
      have agrees : old.2.toJson.stableJson = entry.2.toJson.stableJson := by
        apply same old List.mem_cons_self
        rw [order.1]
        exact OrderedMap.get?_eq_some_iff.2 member
      rw [addSnapshotRecord_of (fun existing isExisting => by
        rw [held, Option.some.injEq] at isExisting
        rw [← isExisting, agrees]), ok_bind]
      apply ih next
      · rw [OrderedMap.entries_set_middle isOld, List.append_assoc, ← isKey]
        rfl
      · exact order.2
      · intro other isOther
        exact same other (List.mem_cons_of_mem _ isOther)

theorem readSnapshot_snapshotOf (keyed : ∀ entry ∈ records.entries, entry.1 = entry.2.runId)
    (readable : ∀ entry ∈ records.entries, Readable entry.2) :
    readProductSessionSnapshot (some (snapshotOf records)) = .ok records.values := by
  have reads : ∀ key, (snapshotOf records).get? key = _ :=
    fun key => Json.get?_ofFields (by simp) key
  have version : hasField (snapshotOf records) "schema_version" isSchemaTwo = true := by
    unfold hasField
    rw [reads]
    simp [List.lookup, isSchemaTwo]
  have values : (snapshotOf records).get? "records" =
      some (.arr (records.values.map toJson)) := by
    rw [reads]
    simp [List.lookup]
  have ids : records.values.map runId = records.entries.map Prod.fst := by
    unfold OrderedMap.values
    rw [List.map_map]
    apply List.map_congr_left
    intro entry member
    exact (keyed entry member).symm
  unfold readProductSessionSnapshot
  simp only [version, values]
  apply parseRecords_toJson
  · intro record member
    rcases List.mem_map.1 member with ⟨entry, isEntry, isRecord⟩
    rw [← isRecord]
    exact ⟨readable entry isEntry, List.not_mem_nil⟩
  · rw [ids]
    exact records.keysNodup

theorem loadRecords_snapshotOf {content : Option Json}
    (isSource : readProductSessionSource content = .ok source)
    (consistent : Consistent source records)
    (readable : ∀ entry ∈ records.entries, Readable entry.2) :
    loadRecords { source := content, snapshot := some (snapshotOf records) } = .ok records := by
  have distinct : (source.map runId).Nodup := consistent.order.sublist.nodup records.keysNodup
  unfold loadRecords
  rw [isSource, ok_bind, readSnapshot_snapshotOf consistent.keyed readable, ok_bind]
  apply overlay consistent.keyed (List.nil_append _).symm
    ((index_entries distinct).trans (List.nil_append _).symm)
  · rw [List.map_map]
    exact consistent.order
  · intro entry member existing held
    rcases List.mem_map.1 member with ⟨record, isRecord, isEntry⟩
    rw [← isEntry] at held ⊢
    exact consistent.same record isRecord existing held

/-! ### Workbench runs -/

/-- A workbench run whose task the snapshot gives back. -/
structure PlainRun (run : WorkbenchRunRecord) (workdirPath : Option String) : Prop where
  runId : PlainText run.runId
  workspaceId : PlainText run.workspaceId
  actorUserId : PlainText run.actorUserId
  surface : run.surface ∈ productSurfaces
  prompt : PlainText run.prompt
  channelId : PlainText run.channelId
  conversationId : PlainText run.conversationId
  sessionId : PlainText run.sessionId
  sourceEventId : PlainText run.sourceEventId
  projectId : PlainField run.projectId
  parentRunId : PlainField run.parentRunId
  modelProfileId : PlainField run.modelProfileId
  requestedArtifact : PlainField run.requestedArtifact
  workdirPath : PlainField workdirPath
  resourceRefs : PlainRefs run.resourceRefs
  createdAt : isBlank run.createdAt = false

theorem plainField_some : PlainField (some text) ↔ PlainText text := by
  constructor
  · intro plain
    exact plain text rfl
  · intro plain other member
    cases member
    exact plain

theorem plainField_none : PlainField none := by
  intro text member
  cases member

theorem fieldsHaveSensitiveKey_append (first second : List (String × Json)) :
    fieldsHaveSensitiveKey (first ++ second) =
      (fieldsHaveSensitiveKey first || fieldsHaveSensitiveKey second) := by
  induction first with
  | nil => rfl
  | cons field rest ih =>
    rw [List.cons_append, fieldsHaveSensitiveKey, fieldsHaveSensitiveKey, ih, Bool.or_assoc]

def hostContextKeys : List String :=
  ["skill_id", "agent_id", "conversation_history", "goal", "role", "content", "goal_id",
    "objective", "run_index", "max_runs"]

theorem hostKey_safe : ∀ key ∈ hostContextKeys, isSensitiveKey key = false := by
  decide +kernel

theorem historyHasNoSensitiveKey (history : List HistoryMessage) :
    itemsHaveSensitiveKey (history.map HistoryMessage.toJson) = false := by
  induction history with
  | nil => rfl
  | cons message rest ih =>
    have keys : hasSensitiveKey message.toJson = false := by
      simp [HistoryMessage.toJson, hasSensitiveKey, fieldsHaveSensitiveKey,
        fieldHasSensitiveKey, hostKey_safe "role" (by simp [hostContextKeys]),
        hostKey_safe "content" (by simp [hostContextKeys])]
    rw [List.map_cons, itemsHaveSensitiveKey, keys, ih]
    rfl

theorem goalHasNoSensitiveKey (goal : WorkbenchGoalRecord) (runId : String) :
    hasSensitiveKey (goalContext goal runId) = false := by
  simp [goalContext, hasSensitiveKey, fieldsHaveSensitiveKey, fieldHasSensitiveKey,
    hostKey_safe "goal_id" (by simp [hostContextKeys]),
    hostKey_safe "objective" (by simp [hostContextKeys]),
    hostKey_safe "run_index" (by simp [hostContextKeys]),
    hostKey_safe "max_runs" (by simp [hostContextKeys])]

theorem workbenchContext_safe (run : WorkbenchRunRecord)
    (prior : List (WorkbenchRunRecord × List String)) (goal : Option WorkbenchGoalRecord)
    (workdirPath : Option String) :
    ∀ fields ∈ (workbenchTaskForRun run prior goal workdirPath).context,
      hasSensitiveKey (.obj fields) = false := by
  have one : ∀ key value, key ∈ hostContextKeys → hasSensitiveKey value = false →
      fieldsHaveSensitiveKey [(key, value)] = false := by
    intro key value member safeValue
    rw [fieldsHaveSensitiveKey, fieldHasSensitiveKey, hostKey_safe key member, safeValue]
    rfl
  have base : ∀ fields ∈ (productTaskForWorkbenchRun run).context,
      fieldsHaveSensitiveKey fields = false := by
    intro fields member
    unfold productTaskForWorkbenchRun at member
    dsimp only at member
    split at member
    · cases member
    · cases member
      rw [fieldsHaveSensitiveKey_append, Bool.or_eq_false_iff]
      constructor
      · cases run.skillId with
        | none => rfl
        | some id => exact one "skill_id" (.str id) (by simp [hostContextKeys]) rfl
      · cases run.agentId with
        | none => rfl
        | some id => exact one "agent_id" (.str id) (by simp [hostContextKeys]) rfl
  intro fields member
  rw [hasSensitiveKey]
  unfold workbenchTaskForRun at member
  dsimp only at member
  split at member
  · exact base fields member
  · cases member
    unfold workbenchContext
    rw [fieldsHaveSensitiveKey_append, fieldsHaveSensitiveKey_append, Bool.or_eq_false_iff,
      Bool.or_eq_false_iff]
    refine ⟨⟨?_, ?_⟩, ?_⟩
    · cases isBase : (productTaskForWorkbenchRun run).context with
      | none => rfl
      | some fields => exact base fields isBase
    · split
      · rfl
      · apply one "conversation_history" _ (by simp [hostContextKeys])
        rw [hasSensitiveKey]
        exact historyHasNoSensitiveKey _
    · cases goal.filter (fun goal => some goal.goalId = run.goalId) with
      | none => rfl
      | some goal =>
        exact one "goal" _ (by simp [hostContextKeys]) (goalHasNoSensitiveKey goal run.runId)

theorem readable_workbench_iff (run : WorkbenchRunRecord)
    (prior : List (WorkbenchRunRecord × List String)) (goal : Option WorkbenchGoalRecord)
    (workdirPath : Option String) :
    Readable (recordOf (workbenchTaskForRun run prior goal workdirPath) run.createdAt) ↔
      PlainRun run workdirPath := by
  constructor
  · intro readable
    exact
      { runId := readable.task.runId
        workspaceId := readable.task.workspaceId
        actorUserId := readable.task.actorUserId
        surface := readable.task.surface
        prompt := readable.task.prompt
        channelId := plainField_some.1 readable.task.channelId
        conversationId := plainField_some.1 readable.task.conversationId
        sessionId := plainField_some.1 readable.task.sessionId
        sourceEventId := plainField_some.1 readable.task.sourceEventId
        projectId := readable.task.projectId
        parentRunId := readable.task.parentRunId
        modelProfileId := readable.task.modelProfileId
        requestedArtifact := readable.task.requestedArtifact
        workdirPath := readable.task.workdirPath
        resourceRefs := readable.task.resourceRefs run.resourceRefs rfl
        createdAt := readable.createdAt }
  · intro plain
    exact
      { createdAt := plain.createdAt
        updatedAt := plain.createdAt
        task :=
          { runId := plain.runId
            workspaceId := plain.workspaceId
            actorUserId := plain.actorUserId
            surface := plain.surface
            prompt := plain.prompt
            channelId := plainField_some.2 plain.channelId
            conversationId := plainField_some.2 plain.conversationId
            sessionId := plainField_some.2 plain.sessionId
            sourceEventId := plainField_some.2 plain.sourceEventId
            projectId := plain.projectId
            parentRunId := plain.parentRunId
            resourceRefs := by
              intro refs member
              cases member
              exact plain.resourceRefs
            requestedArtifact := plain.requestedArtifact
            systemPrompt := plainField_none
            context := workbenchContext_safe run prior goal workdirPath
            workdirPath := plain.workdirPath
            modelProfileId := plain.modelProfileId } }

/-- A save of one of the two routes.  The task route saves a validated task at
a time of its clock, the workbench saves a run at its creation time. -/
inductive SaveCall where
  | taskRoute (input : Json) (task : ProductTask) (now : String)
      (validated : validatedProductTask input = .ok task) (clock : isBlank now = false)
  | workbench (run : WorkbenchRunRecord) (prior : List (WorkbenchRunRecord × List String))
      (goal : Option WorkbenchGoalRecord) (workdirPath : Option String)

namespace SaveCall

def record : SaveCall → ProductSessionRecord
  | .taskRoute _ task now _ _ => recordOf task now
  | .workbench run prior goal workdirPath =>
    recordOf (workbenchTaskForRun run prior goal workdirPath) run.createdAt

/-- The texts of a workbench run obey the rule of the task route. -/
def Plain : SaveCall → Prop
  | .taskRoute .. => True
  | .workbench run _ _ workdirPath => PlainRun run workdirPath

theorem readable_iff_plain (call : SaveCall) : Readable call.record ↔ call.Plain := by
  cases call with
  | taskRoute input task now validated clock =>
    constructor
    · intro _
      trivial
    · intro _
      exact ⟨storable_of_validated validated, clock, clock⟩
  | workbench run prior goal workdirPath => exact readable_workbench_iff run prior goal workdirPath

end SaveCall

namespace ProductSessionStore

def saved (store : ProductSessionStore) (call : SaveCall) : ProductSessionStore :=
  match store.save call.record.task call.record.createdAt with
  | .ok after => after
  | .error _ => store

def saveAll (store : ProductSessionStore) (calls : List SaveCall) : ProductSessionStore :=
  calls.foldl saved store

def AddsPlain (store : ProductSessionStore) : List SaveCall → Prop
  | [] => True
  | call :: rest =>
    (store.records.get? call.record.runId = none → call.Plain) ∧ (store.saved call).AddsPlain rest

/-- The snapshot holds the records in memory, or it is still the one that they
were loaded from. -/
structure Backed (store : ProductSessionStore) : Prop where
  source : ∃ source, readProductSessionSource store.files.source = .ok source ∧
    Consistent source store.records
  written : loadRecords store.files = .ok store.records ∨
    store.files.snapshot = some (snapshotOf store.records)

variable {store : ProductSessionStore}

theorem Backed.loads_iff (backed : store.Backed) :
    loadRecords store.files = .ok store.records ↔
      ∀ entry ∈ store.records.entries, Readable entry.2 := by
  constructor
  · intro loaded
    rcases loadRecords_ok loaded with ⟨_, _, _, readable⟩
    exact readable
  · intro readable
    rcases backed.written with loaded | snapshot
    · exact loaded
    · rcases backed.source with ⟨source, isSource, consistent⟩
      rw [← loadRecords_snapshotOf isSource consistent readable, ← snapshot]

theorem saved_cases (store : ProductSessionStore) (call : SaveCall) :
    ((store.records.get? call.record.runId).isSome = true ∧ store.saved call = store) ∨
      (store.records.get? call.record.runId = none ∧
        (store.saved call).records = store.records.set call.record.runId call.record ∧
        (store.saved call).files.source = store.files.source ∧
        (store.saved call).files.snapshot = some (snapshotOf (store.saved call).records)) := by
  have isRecord : recordOf call.record.task call.record.createdAt = call.record := by
    cases call with
    | taskRoute => rfl
    | workbench => rfl
  unfold saved save
  cases held : store.records.get? call.record.runId with
  | some existing =>
    refine Or.inl ⟨rfl, ?_⟩
    unfold runId at held
    simp only [held]
    split
    · rename_i after isAfter
      split at isAfter
      · cases isAfter
      · cases isAfter
        rfl
    · rfl
  | none =>
    refine Or.inr ⟨rfl, ?_⟩
    unfold runId at held ⊢
    simp only [held, isRecord, and_self]

theorem saved_backed (backed : store.Backed) (call : SaveCall) : (store.saved call).Backed := by
  rcases store.saved_cases call with ⟨_, same⟩ | ⟨absent, records, source, snapshot⟩
  · rw [same]
    exact backed
  · refine ⟨?_, Or.inr snapshot⟩
    rcases backed.source with ⟨legacy, isSource, consistent⟩
    refine ⟨legacy, source ▸ isSource, ?_⟩
    rw [records]
    apply consistent.set
    intro existing held
    rw [absent] at held
    cases held

theorem saved_readable_iff (call : SaveCall) :
    (∀ entry ∈ (store.saved call).records.entries, Readable entry.2) ↔
      (∀ entry ∈ store.records.entries, Readable entry.2) ∧
        (store.records.get? call.record.runId = none → call.Plain) := by
  rcases store.saved_cases call with ⟨present, same⟩ | ⟨absent, records, _, _⟩
  · rw [same]
    constructor
    · intro readable
      refine ⟨readable, ?_⟩
      intro absent
      rw [absent] at present
      cases present
    · intro both
      exact both.1
  · rw [records, OrderedMap.entries_set_new absent, ← call.readable_iff_plain]
    constructor
    · intro readable
      refine ⟨?_, ?_⟩
      · intro entry member
        exact readable entry (List.mem_append_left _ member)
      · intro _
        exact readable _ (List.mem_append_right _ List.mem_cons_self)
    · rintro ⟨old, added⟩ entry member
      rcases List.mem_append.1 member with isOld | isNew
      · exact old entry isOld
      · rw [List.mem_singleton.1 isNew]
        exact added absent

theorem saveAll_loads_iff (backed : store.Backed) (calls : List SaveCall) :
    loadRecords (store.saveAll calls).files = .ok (store.saveAll calls).records ↔
      (∀ entry ∈ store.records.entries, Readable entry.2) ∧ store.AddsPlain calls := by
  induction calls generalizing store with
  | nil =>
    rw [AddsPlain, and_true]
    exact backed.loads_iff
  | cons call rest ih =>
    have later := ih (saved_backed backed call)
    rw [saved_readable_iff] at later
    rw [AddsPlain, ← and_assoc]
    exact later

theorem opened_backed {files : ProductFiles} (opened : openStore files = .ok store) :
    store.Backed ∧ ∀ entry ∈ store.records.entries, Readable entry.2 := by
  rcases map_ok opened with ⟨records, loaded, isStore⟩
  rw [← isStore]
  rcases loadRecords_ok loaded with ⟨source, isSource, consistent, readable⟩
  exact ⟨⟨⟨source, isSource, consistent⟩, Or.inl loaded⟩, readable⟩

end ProductSessionStore

/-- After any sequence of saves of the two routes a new store on the same files
opens with the same records exactly when every workbench run that was added
obeys the text rule of the task route. -/
theorem saved_tasks_load_again_iff {files : ProductFiles} {start : ProductSessionStore}
    (opened : openStore files = .ok start) (calls : List SaveCall) :
    openStore (start.saveAll calls).files = .ok (start.saveAll calls) ↔ start.AddsPlain calls := by
  rcases ProductSessionStore.opened_backed opened with ⟨backed, readable⟩
  have verdict := ProductSessionStore.saveAll_loads_iff backed calls
  rw [and_iff_right readable] at verdict
  rw [← verdict]
  constructor
  · intro again
    rcases map_ok again with ⟨records, loaded, same⟩
    rw [loaded, ← same]
  · intro loaded
    unfold openStore
    rw [loaded]
    rfl

def emptyFiles : ProductFiles :=
  { source := none
    snapshot := none }

def emptyStore : ProductSessionStore :=
  { files := emptyFiles
    records := .empty }

def plainRoute : RunRoute :=
  { registeredSkills := []
    modelProfiles := []
    getRun := fun _ => none }

def controlSession : WorkbenchSessionRecord :=
  { sessionId := "s"
    workspaceId := "w"
    actorUserId := "u"
    channelId := "c"
    projectId := none
    surface := "chat"
    createdAt := "t"
    updatedAt := "t"
    goal := none }

def controlBody : Json :=
  .obj [("prompt", .str "a\x01b"), ("source_event_id", .str "e")]

def chatRun (prompt : String) : WorkbenchRunRecord :=
  { runId := "r"
    sessionId := "s"
    workspaceId := "w"
    actorUserId := "u"
    channelId := "c"
    projectId := none
    parentRunId := none
    surface := "chat"
    prompt
    sourceEventId := "e"
    sourceEventDerived := none
    resourceRefs := []
    skillId := none
    agentId := none
    modelProfileId := none
    requestedArtifact := none
    conversationId := "s"
    conversationSource := none
    createdAt := "t"
    updatedAt := "t"
    admissionStatus := some .pending
    admissionError := none
    permissionMode := none
    goalId := none
    trigger := none }

theorem chatRun_plain : PlainRun (chatRun "ab") none := by
  have letter : ∀ text ∈ ["r", "s", "w", "u", "c", "e", "ab"], isBlank text = false ∧
      utf16Length text ≤ 262144 ∧ text.toList.any isControl = false := by decide
  have plain : ∀ text ∈ ["r", "s", "w", "u", "c", "e", "ab"], PlainText text := by
    intro text member
    rcases letter text member with ⟨notBlank, bounded, noControl⟩
    exact ⟨notBlank, bounded, noControl⟩
  constructor
  case surface => exact List.mem_cons_self
  case resourceRefs => exact ⟨fun _ member => absurd member List.not_mem_nil, Nat.zero_le 100⟩
  case createdAt => rfl
  case projectId => exact plainField_none
  case parentRunId => exact plainField_none
  case modelProfileId => exact plainField_none
  case requestedArtifact => exact plainField_none
  case workdirPath => exact plainField_none
  all_goals
    apply plain
    simp [chatRun]

theorem saved_chat_loads_again :
    openStore (emptyStore.saveAll [.workbench (chatRun "ab") [] none none]).files =
      .ok (emptyStore.saveAll [.workbench (chatRun "ab") [] none none]) :=
  (@saved_tasks_load_again_iff emptyFiles emptyStore rfl
    [.workbench (chatRun "ab") [] none none]).2 ⟨fun _ => chatRun_plain, trivial⟩

/-- A control character in an admitted prompt makes the file unreadable. -/
theorem control_character_locks_the_file :
    plainRoute.runFromBody controlSession "w" "u" "r" "t" controlBody =
        .ok (chatRun "a\x01b") ∧
      openStore emptyFiles = .ok emptyStore ∧
      openStore (emptyStore.saveAll [.workbench (chatRun "a\x01b") [] none none]).files =
        .error ("ProductSessionStore task snapshot record 0 task is invalid: " ++
          "ProductTask string contains a control character") := by
  exact ⟨rfl, rfl, rfl⟩

end AnnaAgent.Host
