import BackendHandbook.Foundation.Histories
import BackendHandbook.Foundation.Operations
import BackendHandbook.Foundation.Sorting
import Mathlib.Data.String.Basic

/-! The lifecycle of the server: admission, completion, and the shutdown that drains what is in
flight or hands it to reconciliation. -/

namespace BackendHandbook.McpServer

open Interleaving

inductive ServerLifecycleState
  | accepting | draining | stopped
  deriving DecidableEq

inductive RequestAdmissionOutcome
  | admitted | shutdownRejected

inductive DrainOutcome
  | clean | pendingReconciliation

structure RequestAdmissionDecision where
  outcome : RequestAdmissionOutcome
  operationId : String

structure DrainReport where
  outcome : DrainOutcome
  pendingOperationIds : List String
  committerCalls : Nat := 0

inductive LifecycleError
  | alreadyInFlight | notDraining | workInFlight | port

def LifecycleError.text : LifecycleError → String
  | .alreadyInFlight => "operation is already in flight"
  | .notDraining => "Server is not draining"
  | .workInFlight => "cannot finish a clean drain with in-flight work"
  | .port => ""

/-- A set of identities: a list that names each of them once. -/
structure OperationIds where
  list : List String := []
  distinct : list.Nodup := by exact List.nodup_nil

namespace OperationIds

variable (ids : OperationIds) (operationId : String)

def add : OperationIds := ⟨ids.list.insert operationId, ids.distinct.insert⟩

def remove : OperationIds := ⟨ids.list.erase operationId, ids.distinct.erase operationId⟩

def update (others : List String) : OperationIds := ⟨others ∪ ids.list, ids.distinct.union others⟩

def sorted : List String := Sorting.sortBy id ids.list

instance : Membership String OperationIds := ⟨fun ids operationId => operationId ∈ ids.list⟩

instance : Decidable (operationId ∈ ids) := inferInstanceAs (Decidable (operationId ∈ ids.list))

variable {ids} {operationId}

variable {other : String}

@[simp] theorem mem_add : other ∈ ids.add operationId ↔ other = operationId ∨ other ∈ ids :=
  List.mem_insert_iff

@[simp] theorem mem_remove : other ∈ ids.remove operationId ↔ other ≠ operationId ∧ other ∈ ids :=
  ids.distinct.mem_erase_iff

@[simp] theorem mem_update {others : List String} :
    operationId ∈ ids.update others ↔ operationId ∈ others ∨ operationId ∈ ids :=
  List.mem_union_iff

@[simp] theorem mem_sorted : operationId ∈ ids.sorted ↔ operationId ∈ ids :=
  Sorting.mem_sortBy id ids.list operationId

theorem sorted_increasing (ids : OperationIds) : ids.sorted.Pairwise (· < ·) := by
  have distinct : ids.sorted.Nodup := (Sorting.sortBy_perm id ids.list).nodup_iff.mpr ids.distinct
  have ordered : ids.sorted.Pairwise (· ≤ ·) := Sorting.pairwise_sortBy id ids.list
  exact (ordered.and distinct).imp fun ⟨below, different⟩ => lt_of_le_of_ne below different

end OperationIds

structure MCPServerLifecycle where
  state : ServerLifecycleState := .accepting
  inFlight : OperationIds := {}
  pendingReconciliation : OperationIds := {}

namespace MCPServerLifecycle

variable (lifecycle : MCPServerLifecycle) (operationId : String)

def beginRequest : Except LifecycleError RequestAdmissionDecision × MCPServerLifecycle :=
  if lifecycle.state ≠ .accepting then (.ok ⟨.shutdownRejected, operationId⟩, lifecycle)
  else if operationId ∈ lifecycle.inFlight then (.error .alreadyInFlight, lifecycle)
  else
    (.ok ⟨.admitted, operationId⟩,
      { lifecycle with inFlight := lifecycle.inFlight.add operationId })

def completeRequest : Bool × MCPServerLifecycle :=
  if operationId ∈ lifecycle.pendingReconciliation then (false, lifecycle)
  else if operationId ∉ lifecycle.inFlight then (false, lifecycle)
  else (true, { lifecycle with inFlight := lifecycle.inFlight.remove operationId })

def startShutdown : MCPServerLifecycle :=
  if lifecycle.state = .accepting then { lifecycle with state := .draining } else lifecycle

def finishCleanDrain : Except LifecycleError DrainReport × MCPServerLifecycle :=
  if lifecycle.state ≠ .draining then (.error .notDraining, lifecycle)
  else if lifecycle.inFlight.list ≠ [] then (.error .workInFlight, lifecycle)
  else
    (.ok { outcome := .clean, pendingOperationIds := [] }, { lifecycle with state := .stopped })

def freeze : Except LifecycleError (List String) × MCPServerLifecycle :=
  if lifecycle.state ≠ .draining then (.error .notDraining, lifecycle)
  else
    (.ok lifecycle.inFlight.sorted,
      { lifecycle with
        pendingReconciliation := lifecycle.pendingReconciliation.update lifecycle.inFlight.sorted
        state := .stopped })

end MCPServerLifecycle

abbrev PortReply := Except LifecycleError Unit

/-- The ports, each by the number of its call: either may raise. -/
structure LifecyclePorts where
  (cancel markPending : Nat → String → PortReply)

/-- The lifecycle, and what the ports have been called with, the last call first. -/
structure LifecycleWorld where
  lifecycle : MCPServerLifecycle := {}
  cancellations : List (String × PortReply) := []
  marks : List (String × PortReply) := []

inductive LifecycleCall
  | beginRequest (operationId : String)
  | completeRequest (operationId : String)
  | startShutdown | finishCleanDrain | freeze
  | cancel (operationId : String)
  | markPending (operationId : String)

abbrev LifecycleCall.Answer : LifecycleCall → Type
  | .beginRequest _ => RequestAdmissionDecision
  | .completeRequest _ => Bool
  | .startShutdown => Unit
  | .finishCleanDrain => DrainReport
  | .freeze => List String
  | .cancel _ => Unit
  | .markPending _ => Unit

abbrev LifecycleCall.Reply (call : LifecycleCall) : Type := Except LifecycleError call.Answer

def LifecycleWorld.perform (ports : LifecyclePorts) :
    (call : LifecycleCall) → LifecycleWorld → call.Reply × LifecycleWorld
  | .beginRequest operationId, world =>
    ((world.lifecycle.beginRequest operationId).1,
      { world with lifecycle := (world.lifecycle.beginRequest operationId).2 })
  | .completeRequest operationId, world =>
    (.ok (world.lifecycle.completeRequest operationId).1,
      { world with lifecycle := (world.lifecycle.completeRequest operationId).2 })
  | .startShutdown, world => (.ok (), { world with lifecycle := world.lifecycle.startShutdown })
  | .finishCleanDrain, world =>
    (world.lifecycle.finishCleanDrain.1,
      { world with lifecycle := world.lifecycle.finishCleanDrain.2 })
  | .freeze, world =>
    (world.lifecycle.freeze.1, { world with lifecycle := world.lifecycle.freeze.2 })
  | .cancel operationId, world =>
    let reply := ports.cancel world.cancellations.length operationId
    (reply, { world with cancellations := (operationId, reply) :: world.cancellations })
  | .markPending operationId, world =>
    let reply := ports.markPending world.marks.length operationId
    (reply, { world with marks := (operationId, reply) :: world.marks })

inductive LifecycleOperation
  | beginRequest (operationId : String)
  | completeRequest (operationId : String)
  | startShutdown | finishCleanDrain | expireDrainTimeout

inductive LifecycleResult
  | decision (decision : RequestAdmissionDecision)
  | completed (completed : Bool)
  | nothing
  | report (report : DrainReport)

abbrev LifecycleProgram :=
  Program LifecycleCall LifecycleCall.Reply Empty (fun _ => Empty)
    (Except LifecycleError LifecycleResult)

/-- The loop outside the lock: each operation is cancelled, and marked behind it. -/
def handOver (report : DrainReport) : List String → LifecycleProgram
  | [] => .done (.ok (.report report))
  | operationId :: rest =>
    await .error (.cancel operationId) fun _ =>
      await .error (.markPending operationId) fun _ => handOver report rest

def MCPServerLifecycle.expireDrainTimeout : LifecycleProgram :=
  await .error .freeze fun pending =>
    handOver
      { outcome := if pending = [] then .clean else .pendingReconciliation
        pendingOperationIds := pending }
      pending

def LifecycleOperation.program : LifecycleOperation → LifecycleProgram
  | .beginRequest operationId =>
    await .error (.beginRequest operationId) fun decision => .done (.ok (.decision decision))
  | .completeRequest operationId =>
    await .error (.completeRequest operationId) fun completed =>
      .done (.ok (.completed completed))
  | .startShutdown => await .error .startShutdown fun _ => .done (.ok .nothing)
  | .finishCleanDrain => await .error .finishCleanDrain fun report => .done (.ok (.report report))
  | .expireDrainTimeout => MCPServerLifecycle.expireDrainTimeout

/-- An operation of the lifecycle starts, or one that runs makes its next call. -/
abbrev LifecycleMove := Move LifecycleOperation Empty (fun _ => Empty)

open LifecycleOperation

section System

variable (ports : LifecyclePorts) (moves : List LifecycleMove)

def lifecycleReached : Pool LifecycleWorld LifecycleCall LifecycleCall.Reply Empty (fun _ => Empty)
    (Except LifecycleError LifecycleResult) :=
  reached program (LifecycleWorld.perform ports) {} moves

def lifecycleTrace : List (Run.Event LifecycleWorld LifecycleCall LifecycleCall.Reply) :=
  systemTrace program (LifecycleWorld.perform ports) {} moves

/-- The calls that each operation has made, with their replies, the last one first. -/
def lifecyclePast : List (List ((call : LifecycleCall) × call.Reply)) :=
  histories (LifecycleWorld.perform ports) ⟨{}, []⟩ [] (turns program moves)

end System

end BackendHandbook.McpServer
