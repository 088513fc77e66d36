import Intake.Notification.Basic
import Intake.Service.Records

/-!
# Reconciliation

Each change that a notification reports is applied to the stored responses by itself. A change that the
store refuses is counted as failed and the next one is tried.
-/

namespace Intake.Service

open Notification

namespace Action

/-- Applies one change. -/
def applyChange (c : Change) (s : Summary) : Action Summary := do
  match c.kind with
  | .changed =>
    if ← markSynced c.record then pure { s with updated := s.updated + 1 } else pure s
  | .created =>
    match ← response? c.record with
    | none => pure { s with createdUnknown := s.createdUnknown + 1 }
    | some _ => pure s
  | .destroyed =>
    if ← markDeleted c.record then
      publish ⟨Event.responseDeleted, .obj [("airtableRecordId", .str c.record)]⟩
      pure { s with deleted := s.deleted + 1 }
    else pure s

/-- Failures of the store itself, which a later notification may make good. -/
def isStoreFailure : Failure → Bool
  | .store .unavailable => true
  | .store .empty => true
  | .store .unsupported => true
  | _ => false

/-- Applies one change, and counts it as failed when the store refuses it. -/
def attempt (c : Change) (s : Summary) : Action Summary :=
  tryCatch (applyChange c s) fun e =>
    if isStoreFailure e then pure { s with failed := s.failed + 1 } else throw e

/-- Goes through what a notification reports. -/
def follow : List Item → Summary → Action Summary
  | [], s => pure s
  | .change c :: rest, s => do follow rest (← attempt c s)
  | .broken :: _, _ => throw (.misuse .wrongKind)

/-- Applies everything that a notification reports. -/
def reconcile (body : Value) : Action Summary :=
  if accepted body then follow (items body) Summary.none else throw .notification

end Action
end Intake.Service
