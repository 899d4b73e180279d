/-
This file models the receipt registry of `RelayConnectorFactory` under concurrent calls.

A publication is one call of `prepare` and, if that succeeds, the worker it returns, which is
consumed by `run` or by `cancel_preparation`. Any number of publications are in progress at
once, and `take_result` is called at any time. What happens under the mutex of the registry is
one step; so is the store of one result, which takes no lock. The log has what each step found
and left in the registry, newest first.
-/

import RelayConnector.Audit
import RelayConnector.Worker
import Mathlib.Data.List.AList

namespace RelayConnector

open Audit

/-! ### Publications -/

structure RelayPublishResult where
  key : RelayPublishReceiptKey
  statistics : RelayPublishStatistics
  edgeObservations : EdgeObservations
  error : Option ConnectorError
  deriving DecidableEq, Repr

/-- What `run` stores for a route. -/
def PreparedRelayRoute.result (route : PreparedRelayRoute) (outcome : RelayTransportOutcome) :
    RelayPublishResult :=
  ⟨route.key, outcome.statistics, outcome.edgeObservations, outcome.error⟩

/-- `ConnectorRunOutcome`. -/
inductive ConnectorRunOutcome where
  | success
  | failure (error : ConnectorError)
  deriving DecidableEq, Repr

/-- Where a publication stands. -/
inductive Publication where
  /-- There was no such call yet. -/
  | absent
  /-- Inside `prepare`, before its checks. -/
  | checking (inputs : List EndpointPortInput)
  /-- Inside `prepare`, before `reserve_receipts`. -/
  | reserving (routes : List PreparedRelayRoute) (preparations : List RelayTransportPreparation)
  /-- Inside `prepare`, before or in the transport's own `prepare`. -/
  | connecting (routes : List PreparedRelayRoute) (preparations : List RelayTransportPreparation)
  /-- Inside `prepare`, before `remove_receipts`. -/
  | rollingBack (routes : List PreparedRelayRoute) (error : ConnectorError)
  /-- `prepare` has returned an error. -/
  | failed (error : ConnectorError)
  /-- `prepare` has returned a worker. -/
  | prepared (routes : List PreparedRelayRoute) (publisher : PreparedFramePublisher)
  /-- Inside `run`, before or in the transport's own `run`. -/
  | running (routes : List PreparedRelayRoute) (publisher : PreparedFramePublisher)
  /-- Inside `run`, with the outcomes whose results are still to be stored. -/
  | storing (routes : List PreparedRelayRoute)
      (rest : List (PreparedRelayRoute × RelayTransportOutcome))
      (firstError : Option ConnectorError)
  /-- `run` has returned. -/
  | finished (routes : List PreparedRelayRoute) (outcome : ConnectorRunOutcome)
  /-- Inside `cancel_preparation`, before or in the transport's `cancel`. -/
  | cancelling (routes : List PreparedRelayRoute)
  /-- Inside `cancel_preparation`, before `remove_receipts`. -/
  | releasing (routes : List PreparedRelayRoute) (result : Except ConnectorError Unit)
  /-- `cancel_preparation` has returned. -/
  | cancelled (result : Except ConnectorError Unit)

abbrev Receipts := AList fun _ : RelayPublishReceiptKey => RelayPublishReceiptState

inductive RegistryEvent where
  /-- A call of `prepare`, with the keys it found. -/
  | called (publication : Nat) (found : List RelayPublishReceiptKey)
  /-- A step under the mutex, of a publication or of `take_result`. -/
  | locked (publication : Option Nat) (before after : List RelayPublishReceiptKey)
  /-- `prepare` returned an error, with the keys it left. -/
  | failed (publication : Nat) (left : List RelayPublishReceiptKey)
  /-- The transport's own `run` returned, with what it met. -/
  | ran (publication : Nat) (routes : List PreparedRelayRoute) (publisher : PreparedFramePublisher)
      (answers : RunAnswers)
  | stored (state : RelayPublishReceiptState) (result : RelayPublishResult)
  /-- `take_result` returned a result. -/
  | taken (key : RelayPublishReceiptKey) (state : RelayPublishReceiptState)
      (result : RelayPublishResult)

/-- The registry, the states it refers to and all publications. -/
structure Registry where
  receipts : Receipts := ∅
  results : RelayPublishReceiptState → Option RelayPublishResult := fun _ => none
  publications : Nat → Publication := fun _ => .absent
  log : List RegistryEvent := []

/-- What the rest of the process answers to a step. -/
structure RegistryAnswers where
  transport : TransportAnswers := {}
  run : RunAnswers := { execution := .error "" }
  cancel : Except String Unit := .ok ()
  stopRequested : Bool := true

inductive RegistryAction where
  | prepare (publication : Nat) (inputs : List EndpointPortInput)
  | run (publication : Nat)
  | cancel (publication : Nat)
  | advance (publication : Nat) (answers : RegistryAnswers)
  | take (key : RelayPublishReceiptKey)

namespace Registry

variable (factory : RelayConnectorFactory) (registry : Registry)

def keys : List RelayPublishReceiptKey := registry.receipts.keys

def goto (publication : Nat) (place : Publication) : Registry :=
  { registry with publications := Function.update registry.publications publication place }

def note (event : RegistryEvent) : Registry := { registry with log := event :: registry.log }

/-- A step under the mutex. -/
def lockedTo (publication : Option Nat) (receipts : Receipts) : Registry :=
  { registry with
    receipts
    log := .locked publication registry.receipts.keys receipts.keys :: registry.log }

def insertAll (receipts : Receipts) (routes : List PreparedRelayRoute) : Receipts :=
  routes.foldl (fun receipts route => receipts.insert route.key route.state) receipts

def removeAll (receipts : Receipts) (routes : List PreparedRelayRoute) : Receipts :=
  routes.foldl (fun receipts route => receipts.erase route.key) receipts

/-- `prepare` returns an error. -/
def fail (publication : Nat) (error : ConnectorError) : Registry :=
  (registry.goto publication (.failed error)).note (.failed publication registry.keys)

/-- `reserve_receipts`. -/
def reserveReceipts (publication : Nat) (routes : List PreparedRelayRoute)
    (preparations : List RelayTransportPreparation) : Registry :=
  if registry.receipts.entries.length + routes.length > factory.receiptCapacity then
    registry.fail publication (factory.relayError "relay.receipt_capacity_exhausted" .prepare
      .retryable "relay receipt capacity is exhausted")
  else if routes.any (·.key ∈ registry.receipts) then
    registry.fail publication (factory.relayError "relay.duplicate_receipt" .prepare .never
      "relay receipt already exists for a grouped endpoint route")
  else
    (registry.lockedTo publication (insertAll registry.receipts routes)).goto publication
      (.connecting routes preparations)

/-- One result is stored; `OnceLock::set` keeps a value that is there. -/
def storeResult (state : RelayPublishReceiptState) (result : RelayPublishResult) : Registry :=
  if (registry.results state).isSome then registry
  else
    { registry with results := Function.update registry.results state (some result) }.note
      (.stored state result)

/-- What `run` returns when all results are stored. -/
def runOutcome (firstError : Option ConnectorError) (stopRequested : Bool) :
    ConnectorRunOutcome :=
  match firstError with
  | some error => .failure error
  | none =>
    if stopRequested then .success
    else .failure (factory.relayError "relay.publisher_exited" .delivery .retryable
      "relay publisher exited before stop was requested")

/-- The next step of a publication that is inside a call. -/
def advance (publication : Nat) (answers : RegistryAnswers) : Registry :=
  match registry.publications publication with
  | .checking inputs =>
    match factory.checkInputs publication inputs with
    | .error error => registry.fail publication error
    | .ok (routes, preparations) => registry.goto publication (.reserving routes preparations)
  | .reserving routes preparations =>
    registry.reserveReceipts factory publication routes preparations
  | .connecting routes preparations =>
    match factory.nativePrepare answers.transport preparations with
    | .error error => registry.goto publication (.rollingBack routes error)
    | .ok publisher => registry.goto publication (.prepared routes publisher)
  | .rollingBack routes error =>
    (registry.lockedTo publication (removeAll registry.receipts routes)).fail publication error
  | .running routes publisher =>
    let outcomes := factory.nativeRun answers.run publisher routes
    let registry := registry.note (.ran publication routes publisher answers.run)
    if outcomes.length ≠ routes.length then
      registry.goto publication (.finished routes (.failure (factory.relayError
        "relay.invalid_outcome_count" .join .never
        "relay transport returned an invalid grouped outcome count")))
    else registry.goto publication (.storing routes (routes.zip outcomes) none)
  | .storing routes ((route, outcome) :: rest) firstError =>
    (registry.storeResult route.state (route.result outcome)).goto publication
      (.storing routes rest (firstError.or outcome.error))
  | .storing routes [] firstError =>
    registry.goto publication
      (.finished routes (runOutcome factory firstError answers.stopRequested))
  | .cancelling routes =>
    registry.goto publication (.releasing routes (answers.cancel.mapError fun message =>
      factory.relayError "relay.preparation_cancel_failed" .shutdown .retryable message))
  | .releasing routes result =>
    (registry.lockedTo publication (removeAll registry.receipts routes)).goto publication
      (.cancelled result)
  | .absent | .failed _ | .prepared _ _ | .finished _ _ | .cancelled _ => registry

/-- `take_result`. -/
def takeResult (key : RelayPublishReceiptKey) : Registry :=
  match registry.receipts.lookup key with
  | none => registry
  | some state =>
    match registry.results state with
    | none => registry
    | some result =>
      (registry.lockedTo none (registry.receipts.erase key)).note (.taken key state result)

def act : RegistryAction → Registry
  | .prepare publication inputs =>
    match registry.publications publication with
    | .absent =>
      (registry.goto publication (.checking inputs)).note (.called publication registry.keys)
    | _ => registry
  | .run publication =>
    match registry.publications publication with
    | .prepared routes publisher => registry.goto publication (.running routes publisher)
    | _ => registry
  | .cancel publication =>
    match registry.publications publication with
    | .prepared routes _ => registry.goto publication (.cancelling routes)
    | _ => registry
  | .advance publication answers => registry.advance factory publication answers
  | .take key => registry.takeResult key

/-- Any interleaving, from a new factory. -/
def run (actions : List RegistryAction) : Registry :=
  actions.foldl (fun registry action => registry.act factory action) {}

/-! ### Inserting and removing the receipts of a group -/

variable {receipts : Receipts} {routes : List PreparedRelayRoute}
  {key : RelayPublishReceiptKey} {route : PreparedRelayRoute}

theorem lookup_insertAll_of_notMem (absent : key ∉ routes.map (·.key)) :
    (insertAll receipts routes).lookup key = receipts.lookup key := by
  induction routes generalizing receipts with
  | nil => rfl
  | cons first rest hypothesis =>
    rw [List.map_cons, List.mem_cons, not_or] at absent
    exact (hypothesis absent.2).trans (AList.lookup_insert_ne absent.1)

theorem lookup_insertAll_of_mem (distinct : (routes.map (·.key)).Nodup) (member : route ∈ routes) :
    (insertAll receipts routes).lookup route.key = some route.state := by
  induction routes generalizing receipts with
  | nil => simp at member
  | cons first rest hypothesis =>
    rw [List.map_cons, List.nodup_cons] at distinct
    rcases List.mem_cons.mp member with rfl | later
    · exact (lookup_insertAll_of_notMem distinct.1).trans (AList.lookup_insert _)
    · exact hypothesis distinct.2 later

theorem length_insertAll (distinct : (routes.map (·.key)).Nodup)
    (absent : ∀ route ∈ routes, route.key ∉ receipts) :
    (insertAll receipts routes).entries.length = receipts.entries.length + routes.length := by
  induction routes generalizing receipts with
  | nil => rfl
  | cons first rest hypothesis =>
    obtain ⟨fresh, absent⟩ := List.forall_mem_cons.mp absent
    rw [List.map_cons, List.nodup_cons] at distinct
    have still : ∀ route ∈ rest, route.key ∉ receipts.insert first.key first.state := by
      intro route member
      rw [AList.mem_insert, not_or]
      refine ⟨fun same => distinct.1 ?_, absent route member⟩
      exact List.mem_map.mpr ⟨route, member, same⟩
    refine (hypothesis distinct.2 still).trans ?_
    rw [AList.entries_insert_of_notMem fresh, List.length_cons, List.length_cons]
    omega

theorem lookup_removeAll_of_notMem (absent : key ∉ routes.map (·.key)) :
    (removeAll receipts routes).lookup key = receipts.lookup key := by
  induction routes generalizing receipts with
  | nil => rfl
  | cons first rest hypothesis =>
    rw [List.map_cons, List.mem_cons, not_or] at absent
    exact (hypothesis absent.2).trans (AList.lookup_erase_ne absent.1)

theorem lookup_removeAll_of_none (none : receipts.lookup key = .none) :
    (removeAll receipts routes).lookup key = .none := by
  induction routes generalizing receipts with
  | nil => exact none
  | cons first rest hypothesis =>
    refine hypothesis ?_
    by_cases same : key = first.key
    · rw [same]
      exact AList.lookup_erase _ _
    · rw [AList.lookup_erase_ne same]
      exact none

theorem lookup_removeAll_of_mem (member : key ∈ routes.map (·.key)) :
    (removeAll receipts routes).lookup key = none := by
  induction routes generalizing receipts with
  | nil => simp at member
  | cons first rest hypothesis =>
    rw [List.map_cons] at member
    rcases List.mem_cons.mp member with same | later
    · have gone : (receipts.erase first.key).lookup key = none := by
        rw [same]
        exact AList.lookup_erase _ _
      show (removeAll (receipts.erase first.key) rest).lookup key = none
      exact lookup_removeAll_of_none gone
    · exact hypothesis later

theorem length_erase_le (receipts : Receipts) (key : RelayPublishReceiptKey) :
    (receipts.erase key).entries.length ≤ receipts.entries.length :=
  (List.kerase_sublist key receipts.entries).length_le

theorem length_removeAll_le (receipts : Receipts) (routes : List PreparedRelayRoute) :
    (removeAll receipts routes).entries.length ≤ receipts.entries.length := by
  induction routes generalizing receipts with
  | nil => exact Nat.le_refl _
  | cons first rest hypothesis =>
    exact Nat.le_trans (hypothesis _) (length_erase_le _ _)

end Registry

end RelayConnector
