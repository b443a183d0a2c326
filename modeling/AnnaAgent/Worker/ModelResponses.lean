/-
What the worker makes of the deltas of a model response
(`assertModelResponseMatchesDeltas` in `omp-loop-kernel/runtime/worker.ts`).

The worker puts the deltas together again, by their content index, and compares
the outcome with the final message.
-/

import AnnaAgent.Worker.Protocol
import AnnaAgent.Foundation.FailingLoops
import AnnaAgent.Foundation.OrderedMap

namespace AnnaAgent.Worker

open Foundation

inductive Fragment where
  | text (text : String)
  | toolCall (text id name : String)
  deriving DecidableEq

def ModelDelta.reasoning? : ModelDelta → Option String
  | .reasoning written => some written
  | _ => none

def reasoningText (deltas : List ModelDelta) : String :=
  String.join (deltas.filterMap ModelDelta.reasoning?)

def addFragment (fragments : OrderedMap Nat Fragment) (delta : ModelDelta) :
    Except String (OrderedMap Nat Fragment) :=
  match delta with
  | .reasoning _ => .ok fragments
  | .text contentIndex text =>
    match fragments.get? contentIndex with
    | none => .ok (fragments.set contentIndex (.text text))
    | some (.text current) => .ok (fragments.set contentIndex (.text (current ++ text)))
    | some (.toolCall _ _ _) => .error "OMP model delta content type mismatch"
  | .toolCall contentIndex id name argumentsDelta =>
    match fragments.get? contentIndex with
    | none => .ok (fragments.set contentIndex (.toolCall argumentsDelta id name))
    | some (.toolCall current currentId currentName) =>
      if currentId ≠ id ∨ currentName ≠ name then
        .error "OMP model tool delta identity mismatch"
      else .ok (fragments.set contentIndex (.toolCall (current ++ argumentsDelta) id name))
    | some (.text _) => .error "OMP model tool delta identity mismatch"

def gatherFragments (deltas : List ModelDelta) : Except String (OrderedMap Nat Fragment) :=
  deltas.foldlM addFragment OrderedMap.empty

section Check

variable (number : List Char → Option JsonNumber)

def checkArguments (text : String) (arguments : JsonObject) : Except String Unit :=
  match Json.parse number text with
  | none => .error "OMP model tool arguments are not complete JSON"
  | some value =>
    if value.isRecord = false ∨ value.stableJson ≠ (Json.obj arguments).stableJson then
      .error "OMP model tool arguments mismatch"
    else .ok ()

def checkBlock (fragments : OrderedMap Nat Fragment) (entry : Content × Nat) :
    Except String Unit :=
  match fragments.get? entry.2 with
  | none => .error "OMP model delta index does not match final message"
  | some fragment =>
    match entry.1, fragment with
    | .text text, .text current =>
      if current = text then .ok () else .error "OMP model text delta mismatch"
    | .text _, .toolCall _ _ _ => .error "OMP model text delta mismatch"
    | .toolCall id name arguments, .toolCall text currentId currentName =>
      if currentId ≠ id ∨ currentName ≠ name then .error "OMP model tool delta mismatch"
      else checkArguments number text arguments
    | .toolCall _ _ _, .text _ => .error "OMP model tool delta mismatch"

def checkContent (fragments : OrderedMap Nat Fragment) (content : List Content) :
    Except String Unit :=
  if fragments.entries.length ≠ content.length then
    .error "OMP model delta count does not match final message"
  else content.zipIdx.forM (checkBlock number fragments)

def assertModelResponseMatchesDeltas (deltas : List ModelDelta) (message : AssistantMessage) :
    Except String Unit :=
  if deltas = [] then .ok ()
  else if reasoningText deltas ≠ "" ∧ message.reasoningContent ≠ some (reasoningText deltas) then
    .error "OMP model reasoning delta mismatch"
  else do
    let fragments ← gatherFragments deltas
    checkContent number fragments message.content

end Check

theorem reasoningText_append (early late : List ModelDelta) :
    reasoningText (early ++ late) = reasoningText early ++ reasoningText late := by
  unfold reasoningText
  rw [List.filterMap_append, String.join_append]

theorem gatherFragments_append (early late : List ModelDelta) :
    gatherFragments (early ++ late) =
      gatherFragments early >>= fun fragments => late.foldlM addFragment fragments := by
  unfold gatherFragments
  rw [List.foldlM_append]

/-- The map holds the fragments of a list, each at its place. -/
structure Shows (fragments : OrderedMap Nat Fragment) (wanted : List Fragment) : Prop where
  size : fragments.entries.length = wanted.length
  at_index : ∀ index, fragments.get? index = wanted[index]?

variable {fragments : OrderedMap Nat Fragment} {index : Nat}

theorem entries_length_set_new (absent : fragments.get? index = none) (fragment : Fragment) :
    (fragments.set index fragment).entries.length = fragments.entries.length + 1 := by
  rw [OrderedMap.entries_set_new absent, List.length_append, List.length_singleton]

theorem entries_length_set_present {old : Fragment} (present : fragments.get? index = some old)
    (fragment : Fragment) :
    (fragments.set index fragment).entries.length = fragments.entries.length := by
  rw [OrderedMap.entries_set_present present]
  exact List.length_map _

theorem Shows.append {wanted : List Fragment} (shows : Shows fragments wanted) (fragment : Fragment) :
    Shows (fragments.set wanted.length fragment) (wanted ++ [fragment]) := by
  have absent : fragments.get? wanted.length = none := by
    rw [shows.at_index, List.getElem?_eq_none (Nat.le_refl _)]
  constructor
  · rw [entries_length_set_new absent, shows.size, List.length_append, List.length_singleton]
  · intro index
    rw [OrderedMap.get?_set]
    by_cases here : index = wanted.length
    · rw [if_pos here, here, List.getElem?_concat_length]
    · rw [if_neg here, shows.at_index]
      by_cases inside : index < wanted.length
      · rw [List.getElem?_append_left inside]
      · rw [List.getElem?_eq_none (Nat.le_of_not_lt inside), List.getElem?_eq_none]
        rw [List.length_append, List.length_singleton]
        omega

theorem Shows.modify {wanted : List Fragment} (shows : Shows fragments wanted) {old : Fragment}
    (here : wanted[index]? = some old) (change : Fragment → Fragment) :
    Shows (fragments.set index (change old)) (wanted.modify index change) := by
  have present : fragments.get? index = some old := by
    rw [shows.at_index, here]
  constructor
  · rw [entries_length_set_present present, shows.size, List.length_modify]
  · intro other
    rw [OrderedMap.get?_set, List.getElem?_modify]
    by_cases same : other = index
    · rw [if_pos same, same, here]
      simp
    · rw [if_neg same, shows.at_index]
      simp [Ne.symm same]

end AnnaAgent.Worker
