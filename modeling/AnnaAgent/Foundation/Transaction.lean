/-
Transactions over `Except`.

A transaction body either returns a value with a new state or fails; a failed
body leaves the state it started from.  The inversion lemmas take a successful
body apart bind by bind.
-/

import Mathlib.Data.List.Basic

namespace AnnaAgent.Foundation

variable {Error State α β : Type}

/-- Run a body and commit its state, or roll back to the state it started
from. -/
def atomically (body : State → Except Error (α × State)) (state : State) :
    Except Error α × State :=
  match body state with
  | .ok (value, state') => (.ok value, state')
  | .error error => (.error error, state)

variable {first : Except Error α} {next : α → Except Error β}

theorem bind_ok {value : β} (succeeded : (first >>= next) = .ok value) :
    ∃ middle, first = .ok middle ∧ next middle = .ok value := by
  cases first with
  | error error => cases succeeded
  | ok middle => exact ⟨middle, rfl, succeeded⟩

theorem bind_error {error : Error} (failed : (first >>= next) = .error error) :
    first = .error error ∨ ∃ middle, first = .ok middle ∧ next middle = .error error := by
  cases first with
  | error early =>
    left
    cases failed
    rfl
  | ok middle => exact Or.inr ⟨middle, rfl, failed⟩

theorem bind_of_ok {middle : α} (next : α → Except Error β) (succeeded : first = .ok middle) :
    (first >>= next) = next middle := by
  rw [succeeded]
  rfl

theorem exists_bind_ok {middle : α} (succeeded : first = .ok middle)
    (later : ∃ value, next middle = .ok value) :
    ∃ value, (first >>= next) = .ok value := by
  rw [bind_of_ok next succeeded]
  exact later

theorem bind_of_error {error : Error} (next : α → Except Error β) (failed : first = .error error) :
    (first >>= next) = .error error := by
  rw [failed]
  rfl

variable {f : α → Except Error β}

theorem mapM_ok {items : List α} {results : List β} (succeeded : items.mapM f = .ok results) :
    List.Forall₂ (fun item result => f item = .ok result) items results := by
  induction items generalizing results with
  | nil =>
    cases succeeded
    exact .nil
  | cons item rest ih =>
    rw [List.mapM_cons] at succeeded
    obtain ⟨result, isResult, succeeded⟩ := bind_ok succeeded
    obtain ⟨others, areOthers, succeeded⟩ := bind_ok succeeded
    cases succeeded
    exact .cons isResult (ih areOthers)

theorem exists_mapM_ok {items : List α} (succeeds : ∀ item ∈ items, ∃ result, f item = .ok result) :
    ∃ results, items.mapM f = .ok results := by
  induction items with
  | nil => exact ⟨[], rfl⟩
  | cons item rest ih =>
    obtain ⟨result, isResult⟩ := succeeds item List.mem_cons_self
    obtain ⟨results, areResults⟩ := ih (fun other member =>
      succeeds other (List.mem_cons_of_mem _ member))
    rw [List.mapM_cons]
    exact exists_bind_ok isResult (exists_bind_ok areResults ⟨result :: results, rfl⟩)

end AnnaAgent.Foundation
