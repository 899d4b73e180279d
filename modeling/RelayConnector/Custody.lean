/-
This file proves what holds of the receipt registry for every interleaving of publications and
of `take_result`.

Every receipt state belongs to one publication, which has it in custody from the moment its key
is entered until its result is stored or its key is removed again. All of the registry's
properties follow from that: an entry is in custody or has a result, and a key that is in
custody is entered with the very state of its custodian, so nobody else can have it.
-/

import RelayConnector.Registry

namespace RelayConnector

open Audit

/-! ### Custody -/

namespace Publication

/-- The routes that have been made. -/
def known : Publication → List PreparedRelayRoute
  | .reserving routes _ | .connecting routes _ | .rollingBack routes _ | .prepared routes _
  | .running routes _ | .storing routes _ _ | .finished routes _ | .cancelling routes
  | .releasing routes _ => routes
  | _ => []

/-- The routes whose keys the publication has entered and not removed. -/
def entered : Publication → List PreparedRelayRoute
  | .connecting routes _ | .rollingBack routes _ | .prepared routes _ | .running routes _
  | .storing routes _ _ | .finished routes _ | .cancelling routes | .releasing routes _ => routes
  | _ => []

/-- The routes in custody: their keys are entered and their results are still to be stored. -/
def reserved : Publication → List PreparedRelayRoute
  | .connecting routes _ | .rollingBack routes _ | .prepared routes _ | .running routes _
  | .cancelling routes | .releasing routes _ => routes
  | .storing _ rest _ => rest.map Prod.fst
  | _ => []

/-- Results are being stored, or are all stored. -/
def begun : Publication → Bool
  | .storing _ _ _ | .finished _ _ => true
  | _ => false

/-- The routes of a publication have different keys and states, and the states are its own. -/
structure Lawful (number : Nat) (publication : Publication) : Prop where
  own : ∀ route ∈ publication.known, route.state.publication = number
  keys : (publication.known.map (·.key)).Nodup
  states : (publication.known.map (·.state)).Nodup
  entered : publication.entered.Sublist publication.known
  reserved : publication.reserved.Sublist publication.entered
  inputs : ∀ inputs, publication = .checking inputs → (inputs.map (·.key)).Nodup

variable {number : Nat} {publication : Publication}

theorem Lawful.of_unknown (known : publication.known = []) (entered : publication.entered = [])
    (reserved : publication.reserved = [])
    (inputs : ∀ inputs, publication = .checking inputs → (inputs.map (·.key)).Nodup) :
    publication.Lawful number where
  own := by simp [known]
  keys := by simp [known]
  states := by simp [known]
  entered := by simp [entered]
  reserved := by simp [reserved]
  inputs := inputs

variable (lawful : publication.Lawful number)

include lawful

/-- A publication with the same routes as a lawful one is lawful. -/
theorem Lawful.of_known {next : Publication} (known : next.known = publication.known)
    (entered : next.entered.Sublist next.known) (reserved : next.reserved.Sublist next.entered)
    (unchecked : ∀ inputs, next ≠ .checking inputs) : next.Lawful number where
  own := by rw [known]; exact lawful.own
  keys := by rw [known]; exact lawful.keys
  states := by rw [known]; exact lawful.states
  entered := entered
  reserved := reserved
  inputs inputs checking := absurd checking (unchecked inputs)

/-- Two routes with one state are one route. -/
theorem Lawful.key_unique {first second : PreparedRelayRoute} (one : first ∈ publication.entered)
    (two : second ∈ publication.entered)
    (state : first.state = second.state) : first.key = second.key := by
  rw [List.inj_on_of_nodup_map lawful.states (lawful.entered.mem one) (lawful.entered.mem two)
    state]

theorem Lawful.own_of_entered {route : PreparedRelayRoute} (member : route ∈ publication.entered) :
    route.state.publication = number :=
  lawful.own route (lawful.entered.mem member)

theorem Lawful.own_of_reserved {route : PreparedRelayRoute}
    (member : route ∈ publication.reserved) : route.state.publication = number :=
  lawful.own_of_entered (lawful.reserved.mem member)

end Publication

variable {preparations : List RelayTransportPreparation}
  {rest : List (PreparedRelayRoute × RelayTransportOutcome)}

namespace Registry

variable {factory : RelayConnectorFactory} {registry : Registry} {number : Nat}

/-- What every step keeps of the registry and its publications. -/
structure Custody (factory : RelayConnectorFactory) (registry : Registry) : Prop where
  lawful : ∀ number, (registry.publications number).Lawful number
  capacity : registry.receipts.entries.length ≤ factory.receiptCapacity
  registered : ∀ key state, registry.receipts.lookup key = some state →
    ⟨key, state⟩ ∈ (registry.publications state.publication).entered
  held : ∀ number, ∀ route ∈ (registry.publications number).reserved,
    registry.receipts.lookup route.key = some route.state ∧ registry.results route.state = none
  settled : ∀ number, ∀ route ∈ (registry.publications number).entered,
    route ∈ (registry.publications number).reserved ∨ (registry.results route.state).isSome = true
  begun : ∀ state result, registry.results state = some result →
    (registry.publications state.publication).begun = true ∧
      ⟨result.key, state⟩ ∈ (registry.publications state.publication).entered

theorem Custody.note (custody : registry.Custody factory) (event : RegistryEvent) :
    (registry.note event).Custody factory :=
  ⟨custody.lawful, custody.capacity, custody.registered, custody.held, custody.settled,
    custody.begun⟩

theorem goto_self (place : Publication) :
    (registry.goto number place).publications number = place :=
  Function.update_self ..

theorem goto_of_ne {other : Nat} (different : other ≠ number) (place : Publication) :
    (registry.goto number place).publications other = registry.publications other :=
  Function.update_of_ne different ..

variable {next : Publication} {state : RelayPublishReceiptState} {routes : List PreparedRelayRoute}

theorem storeResult_of_none (empty : registry.results state = none) (result : RelayPublishResult) :
    registry.storeResult state result =
      { registry with
        results := Function.update registry.results state (some result)
        log := .stored state result :: registry.log } := by
  simp [storeResult, empty, Registry.note]

section Custody

variable (custody : registry.Custody factory)

include custody

/-- A step of one publication is in order if it is so for the publication itself, and if the
entries and the results of all others stay as they are. -/
theorem Custody.advances {after : Registry}
    (publications : after.publications = registry.publications) (lawful : next.Lawful number)
    (capacity : after.receipts.entries.length ≤ factory.receiptCapacity)
    (entries : ∀ key state, state.publication ≠ number →
      (after.receipts.lookup key = some state ↔ registry.receipts.lookup key = some state))
    (results : ∀ state, state.publication ≠ number → after.results state = registry.results state)
    (registered : ∀ key state, state.publication = number →
      after.receipts.lookup key = some state → ⟨key, state⟩ ∈ next.entered)
    (held : ∀ route ∈ next.reserved,
      after.receipts.lookup route.key = some route.state ∧ after.results route.state = none)
    (settled : ∀ route ∈ next.entered,
      route ∈ next.reserved ∨ (after.results route.state).isSome = true)
    (begun : ∀ state result, state.publication = number → after.results state = some result →
      next.begun = true ∧ ⟨result.key, state⟩ ∈ next.entered) :
    (after.goto number next).Custody factory := by
  have elsewhere : ∀ {other}, other ≠ number →
      (after.goto number next).publications other = registry.publications other := by
    intro other different
    rw [goto_of_ne different, publications]
  refine ⟨fun other => ?_, capacity, fun key state found => ?_, fun other route member => ?_,
    fun other route member => ?_, fun state result stored => ?_⟩
  · by_cases same : other = number
    · rw [same, goto_self]
      exact lawful
    · rw [elsewhere same]
      exact custody.lawful other
  · by_cases same : state.publication = number
    · rw [same, goto_self]
      exact registered key state same found
    · rw [elsewhere same]
      exact custody.registered key state ((entries key state same).mp found)
  · by_cases same : other = number
    · rw [same, goto_self] at member
      exact held route member
    · rw [elsewhere same] at member
      have theirs : route.state.publication ≠ number :=
        (custody.lawful other).own_of_reserved member ▸ same
      obtain ⟨entry, empty⟩ := custody.held other route member
      exact ⟨(entries route.key route.state theirs).mpr entry,
        (results route.state theirs).trans empty⟩
  · by_cases same : other = number
    · rw [same, goto_self] at member ⊢
      exact settled route member
    · rw [elsewhere same] at member ⊢
      have theirs : route.state.publication ≠ number :=
        (custody.lawful other).own_of_entered member ▸ same
      refine (custody.settled other route member).imp_right fun stored => ?_
      exact (congrArg _ (results route.state theirs)).trans stored
  · by_cases same : state.publication = number
    · rw [same, goto_self]
      exact begun state result same stored
    · rw [elsewhere same]
      exact custody.begun state result ((results state same).symm.trans stored)

/-- A publication goes on without touching the registry. -/
theorem Custody.moves (lawful : next.Lawful number)
    (entered : next.entered = (registry.publications number).entered)
    (reserved : next.reserved = (registry.publications number).reserved)
    (begun : (registry.publications number).begun = true → next.begun = true) :
    (registry.goto number next).Custody factory := by
  refine custody.advances rfl lawful custody.capacity (fun _ _ _ => Iff.rfl) (fun _ _ => rfl)
    (fun key state own found => ?_) (fun route member => ?_) (fun route member => ?_)
    fun state result own stored => ?_
  · rw [entered, ← own]
    exact custody.registered key state found
  · rw [reserved] at member
    exact custody.held number route member
  · rw [entered] at member
    rw [reserved]
    exact custody.settled number route member
  · obtain ⟨started, listed⟩ := custody.begun state result stored
    rw [own] at started listed
    exact ⟨begun started, entered ▸ listed⟩

theorem Custody.unstored (unbegun : (registry.publications number).begun = false)
    (own : state.publication = number) : registry.results state = none := by
  cases stored : registry.results state with
  | none => rfl
  | some result =>
    have begun := (custody.begun state result stored).1
    rw [own, unbegun] at begun
    cases begun

/-- `reserve_receipts` enters the keys of a group. -/
theorem Custody.reserves (reserving : registry.publications number = .reserving routes preparations)
    (fits : registry.receipts.entries.length + routes.length ≤ factory.receiptCapacity)
    (absent : ∀ route ∈ routes, route.key ∉ registry.receipts) :
    ((registry.lockedTo number (insertAll registry.receipts routes)).goto number
      (.connecting routes preparations)).Custody factory := by
  have lawful := custody.lawful number
  rw [reserving] at lawful
  have fresh : (Publication.connecting routes preparations).Lawful number :=
    lawful.of_known rfl (List.Sublist.refl _) (List.Sublist.refl _) nofun
  have unstored : ∀ {state : RelayPublishReceiptState}, state.publication = number →
      registry.results state = none :=
    custody.unstored (by rw [reserving]; rfl)
  have entry : ∀ route ∈ routes,
      (insertAll registry.receipts routes).lookup route.key = some route.state :=
    fun _ => lookup_insertAll_of_mem lawful.keys
  refine custody.advances rfl fresh ?_ (fun key state other => ?_) (fun _ _ => rfl)
    (fun key state own found => ?_)
    (fun route member => ⟨entry route member, unstored (lawful.own route member)⟩)
    (fun _ member => .inl member) fun state _ own stored => ?_
  · exact Nat.le_trans (Nat.le_of_eq (length_insertAll lawful.keys absent)) fits
  · by_cases new : key ∈ routes.map (·.key)
    · -- a key of the group was not entered, and is now entered with a state of the group
      obtain ⟨route, member, rfl⟩ := List.mem_map.mp new
      refine iff_of_false (fun found => other ?_) fun found => ?_
      · rw [← Option.some.inj ((entry route member).symm.trans found)]
        exact lawful.own route member
      · exact absent route member (AList.lookup_isSome.mp (by simp [found]))
    · exact iff_of_eq (congrArg (· = some state) (lookup_insertAll_of_notMem new))
  · by_cases new : key ∈ routes.map (·.key)
    · obtain ⟨route, member, rfl⟩ := List.mem_map.mp new
      obtain rfl := Option.some.inj ((entry route member).symm.trans found)
      exact member
    · -- before, the publication had entered nothing
      have entered := custody.registered key state
        ((lookup_insertAll_of_notMem new).symm.trans found)
      rw [own, reserving] at entered
      simp [Publication.entered] at entered
  · cases (unstored own).symm.trans stored

/-- A publication that stores no results removes its keys. -/
theorem Custody.releases (reserved : (registry.publications number).reserved = routes)
    (entered : (registry.publications number).entered = routes)
    (unbegun : (registry.publications number).begun = false)
    (gone : next.known = [] ∧ next.entered = [] ∧ next.reserved = [])
    (unchecked : ∀ inputs, next ≠ .checking inputs) :
    ((registry.lockedTo number (removeAll registry.receipts routes)).goto number next).Custody
      factory := by
  obtain ⟨unknown, unentered, unreserved⟩ := gone
  have lawful : next.Lawful number :=
    .of_unknown unknown unentered unreserved
      fun inputs checking => absurd checking (unchecked inputs)
  refine custody.advances rfl lawful ?_ (fun key state other => ?_) (fun _ _ => rfl)
    (fun key state own found => ?_) (by simp [unreserved]) (by simp [unentered])
    fun state _ own stored => ?_
  · exact Nat.le_trans (length_removeAll_le _ _) custody.capacity
  · by_cases listed : key ∈ routes.map (·.key)
    · -- a key of the group was entered with a state of the group, and is removed
      refine iff_of_false (fun found => ?_) fun found => other ?_
      · cases (lookup_removeAll_of_mem listed).symm.trans found
      · obtain ⟨route, member, rfl⟩ := List.mem_map.mp listed
        rw [← reserved] at member
        have entry := (custody.held number route member).1
        rw [← Option.some.inj (entry.symm.trans found)]
        exact (custody.lawful number).own_of_reserved member
    · exact iff_of_eq (congrArg (· = some state) (lookup_removeAll_of_notMem listed))
  · have kept : key ∉ routes.map (·.key) := by
      intro listed
      cases (lookup_removeAll_of_mem listed).symm.trans found
    have member := custody.registered key state
      ((lookup_removeAll_of_notMem kept).symm.trans found)
    rw [own, entered] at member
    exact absurd (List.mem_map.mpr ⟨_, member, rfl⟩) kept
  · cases (custody.unstored unbegun own).symm.trans stored

/-- The result of the first route that is left is stored. -/
theorem Custody.stores {route : PreparedRelayRoute}
    {outcome : RelayTransportOutcome} {firstError next : Option ConnectorError}
    (storing :
      registry.publications number = .storing routes ((route, outcome) :: rest) firstError) :
    ((registry.storeResult route.state (route.result outcome)).goto number
      (.storing routes rest next)).Custody factory := by
  have lawful := custody.lawful number
  rw [storing] at lawful
  have first : route ∈ (registry.publications number).reserved := by
    simp [storing, Publication.reserved]
  have own := (custody.lawful number).own_of_reserved first
  have reserved : (rest.map Prod.fst).Sublist routes :=
    (List.sublist_cons_self _ _).trans lawful.reserved
  -- the routes that are left have other states than the one that is stored
  have others : ∀ other ∈ rest.map Prod.fst, other.state ≠ route.state := by
    have distinct := (lawful.reserved.map (·.state)).nodup lawful.states
    simp only [Publication.reserved, List.map_cons, List.nodup_cons] at distinct
    intro other member same
    exact distinct.1 (same ▸ List.mem_map.mpr ⟨other, member, rfl⟩)
  have next : (Publication.storing routes rest next).Lawful number :=
    lawful.of_known rfl (List.Sublist.refl _) reserved nofun
  rw [storeResult_of_none (custody.held number route first).2]
  refine custody.advances rfl next custody.capacity (fun _ _ _ => Iff.rfl) (fun state other => ?_)
    (fun key state own found => ?_) (fun left member => ?_) (fun entered member => ?_)
    fun state result mine stored => ⟨rfl, ?_⟩
  · have different : state ≠ route.state := by
      rintro rfl
      exact other own
    exact Function.update_of_ne different ..
  · have member := custody.registered key state found
    rwa [own, storing] at member
  · have before : left ∈ (registry.publications number).reserved := by
      rw [storing]
      exact List.mem_cons_of_mem _ member
    obtain ⟨entry, empty⟩ := custody.held number left before
    exact ⟨entry, (Function.update_of_ne (others left member) ..).trans empty⟩
  · have before := custody.settled number entered (by rw [storing]; exact member)
    rw [storing] at before
    rcases before with left | stored
    · rcases List.mem_cons.mp left with rfl | later
      · exact .inr (by simp)
      · exact .inl later
    · refine .inr ?_
      dsimp only
      rw [Function.update_apply]
      split
      · rfl
      · exact stored
  · dsimp only at stored
    rw [Function.update_apply] at stored
    split at stored
    next same =>
      cases stored
      exact same ▸ lawful.reserved.mem List.mem_cons_self
    next =>
      have listed := (custody.begun state result stored).2
      rwa [mine, storing] at listed

/-- `take_result` removes an entry that has a result. -/
theorem Custody.takes {key : RelayPublishReceiptKey}
    (entry : registry.receipts.lookup key = some state)
    (stored : (registry.results state).isSome = true) :
    (registry.lockedTo none (registry.receipts.erase key)).Custody factory := by
  refine ⟨custody.lawful, Nat.le_trans (length_erase_le _ _) custody.capacity,
    fun other state found => ?_, fun other route member => ?_, custody.settled, custody.begun⟩
  · by_cases same : other = key
    · rw [same] at found
      exact absurd found (by simp [lockedTo])
    · exact custody.registered other state ((AList.lookup_erase_ne same).symm.trans found)
  · obtain ⟨held, empty⟩ := custody.held other route member
    have different : route.key ≠ key := by
      intro same
      rw [same, entry] at held
      rw [Option.some.inj held, empty] at stored
      exact absurd stored (by simp)
    exact ⟨(AList.lookup_erase_ne different).trans held, empty⟩

end Custody

end Registry

/-! ### What an action can do -/

/-- What the log has to tell of a publication: the keys that a call of `prepare` in progress has
entered, or the routes of a worker that has run and what is still to be stored. -/
inductive Publication.Record where
  | pending (keys : List RelayPublishReceiptKey)
  | ran (routes : List PreparedRelayRoute)
      (rest : List (PreparedRelayRoute × RelayTransportOutcome))

def Publication.record : Publication → Option Record
  | .checking _ | .reserving _ _ => some (.pending [])
  | .connecting routes _ | .rollingBack routes _ => some (.pending (routes.map (·.key)))
  | .storing routes rest _ => some (.ran routes rest)
  | .finished routes _ => some (.ran routes [])
  | _ => none

/-- A publication goes from one place to another without touching the registry. -/
structure Publication.Continues (number : Nat) (place next : Publication) : Prop where
  lawful : next.Lawful number
  entered : next.entered = place.entered
  reserved : next.reserved = place.reserved
  begun : place.begun = true → next.begun = true
  record : next.record = none ∨ next.record = place.record

namespace Registry

variable {factory : RelayConnectorFactory} {registry : Registry} {number : Nat}

inductive Acts (factory : RelayConnectorFactory) (before : Registry) : Registry → Prop
  | idle : Acts factory before before
  | calls {number : Nat} {inputs : List EndpointPortInput}
      (absent : before.publications number = .absent) (distinct : (inputs.map (·.key)).Nodup) :
      Acts factory before
        ((before.goto number (.checking inputs)).note (.called number before.keys))
  | continues {number : Nat} {next : Publication}
      (continues : Publication.Continues number (before.publications number) next) :
      Acts factory before (before.goto number next)
  /-- `prepare` returns an error before it has entered anything. -/
  | refuses {number : Nat} (error : ConnectorError)
      (pending : (before.publications number).record = some (.pending []))
      (entered : (before.publications number).entered = []) :
      Acts factory before (before.fail number error)
  | reserves {number : Nat} {routes : List PreparedRelayRoute}
      {preparations : List RelayTransportPreparation}
      (reserving : before.publications number = .reserving routes preparations)
      (fits : before.receipts.entries.length + routes.length ≤ factory.receiptCapacity)
      (absent : ∀ route ∈ routes, route.key ∉ before.receipts) :
      Acts factory before
        ((before.lockedTo number (insertAll before.receipts routes)).goto number
          (.connecting routes preparations))
  | rollsBack {number : Nat} {routes : List PreparedRelayRoute} {error : ConnectorError}
      (rollingBack : before.publications number = .rollingBack routes error) :
      Acts factory before
        ((before.lockedTo number (removeAll before.receipts routes)).fail number error)
  | releases {number : Nat} {routes : List PreparedRelayRoute} {result : Except ConnectorError Unit}
      (releasing : before.publications number = .releasing routes result) :
      Acts factory before
        ((before.lockedTo number (removeAll before.receipts routes)).goto number
          (.cancelled result))
  | runs {number : Nat} {routes : List PreparedRelayRoute} {publisher : PreparedFramePublisher}
      (running : before.publications number = .running routes publisher) (answers : RunAnswers) :
      Acts factory before ((before.goto number
        (.storing routes (routes.zip (factory.nativeRun answers publisher routes)) none)).note
          (.ran number routes publisher answers))
  | stores {number : Nat} {routes : List PreparedRelayRoute} {route : PreparedRelayRoute}
      {outcome : RelayTransportOutcome} {rest : List (PreparedRelayRoute × RelayTransportOutcome)}
      {firstError next : Option ConnectorError}
      (storing : before.publications number =
        .storing routes ((route, outcome) :: rest) firstError) :
      Acts factory before ((before.storeResult route.state (route.result outcome)).goto number
        (.storing routes rest next))
  | takes {key : RelayPublishReceiptKey} {state : RelayPublishReceiptState}
      {result : RelayPublishResult} (entry : before.receipts.lookup key = some state)
      (stored : before.results state = some result) :
      Acts factory before
        ((before.lockedTo none (before.receipts.erase key)).note (.taken key state result))

/-- A publication goes on with the routes it has. -/
theorem Custody.acts_goto (custody : registry.Custody factory) {place next : Publication}
    (current : registry.publications number = place) (known : next.known = place.known)
    (entered : next.entered = place.entered) (reserved : next.reserved = place.reserved)
    (begun : place.begun = true → next.begun = true)
    (record : next.record = none ∨ next.record = place.record)
    (unchecked : ∀ inputs, next ≠ .checking inputs) :
    Acts factory registry (registry.goto number next) := by
  have lawful := custody.lawful number
  rw [current] at lawful
  refine .continues ?_
  rw [current]
  refine ⟨lawful.of_known known ?_ ?_ unchecked, entered, reserved, begun, record⟩
  · rw [entered, known]
    exact lawful.entered
  · rw [reserved, entered]
    exact lawful.reserved

theorem takeResult_acts (key : RelayPublishReceiptKey) :
    Acts factory registry (registry.takeResult key) := by
  unfold takeResult
  split
  · exact .idle
  next state entry =>
    split
    · exact .idle
    next result stored => exact .takes entry stored

theorem reserveReceipts_acts {routes : List PreparedRelayRoute}
    (reserving : registry.publications number = .reserving routes preparations) :
    Acts factory registry
      (registry.reserveReceipts factory number routes preparations) := by
  unfold reserveReceipts
  split
  · exact .refuses _ (by rw [reserving]; rfl) (by rw [reserving]; rfl)
  next fits =>
    split
    · exact .refuses _ (by rw [reserving]; rfl) (by rw [reserving]; rfl)
    next absent => exact .reserves reserving (Nat.not_lt.mp fits) (by simpa using absent)

theorem checkInputs_lawful {inputs : List EndpointPortInput} {routes : List PreparedRelayRoute}
    (distinct : (inputs.map (·.key)).Nodup)
    (checked : factory.checkInputs number inputs = .ok (routes, preparations)) :
    (Publication.reserving routes preparations).Lawful number := by
  obtain ⟨keys, states⟩ := factory.checkInputs_keys checked
  refine ⟨fun route member => ?_, ?_, ?_, List.nil_sublist _, List.Sublist.refl _, nofun⟩
  · have listed : route.state ∈ routes.map (·.state) := List.mem_map.mpr ⟨route, member, rfl⟩
    rw [states] at listed
    obtain ⟨index, -, same⟩ := List.mem_map.mp listed
    rw [← same]
  · rw [show (Publication.reserving routes preparations).known = routes from rfl, keys]
    exact distinct
  · rw [show (Publication.reserving routes preparations).known = routes from rfl, states]
    refine List.Nodup.map (fun first second same => ?_) (List.nodup_range' 1)
    exact (RelayPublishReceiptState.mk.inj same).2

theorem advance_acts (custody : registry.Custody factory) (number : Nat)
    (answers : RegistryAnswers) :
    Acts factory registry (registry.advance factory number answers) := by
  have lawful := custody.lawful number
  unfold advance
  split
  next inputs checking =>
    rw [checking] at lawful
    split
    · exact .refuses _ (by rw [checking]; rfl) (by rw [checking]; rfl)
    next routes preparations checked =>
      refine .continues ⟨checkInputs_lawful (lawful.inputs inputs rfl) checked, ?_, ?_, ?_, ?_⟩ <;>
        rw [checking]
      · rfl
      · rfl
      · exact nofun
      · exact .inr rfl
  next routes preparations reserving => exact reserveReceipts_acts reserving
  next routes preparations connecting =>
    split
    · exact custody.acts_goto connecting rfl rfl rfl nofun (.inr rfl) nofun
    · exact custody.acts_goto connecting rfl rfl rfl nofun (.inl rfl) nofun
  next routes error rollingBack => exact .rollsBack rollingBack
  next routes publisher running =>
    have length := factory.nativeRun_length answers.run publisher routes
    rw [if_neg (not_not.mpr length)]
    exact .runs running answers.run
  next routes route outcome rest firstError storing => exact .stores storing
  next routes firstError storing =>
    exact custody.acts_goto storing rfl rfl rfl (fun _ => rfl) (.inr rfl) nofun
  next routes cancelling => exact custody.acts_goto cancelling rfl rfl rfl nofun (.inl rfl) nofun
  next routes result releasing => exact .releases releasing
  all_goals exact .idle

theorem act_acts (custody : registry.Custody factory) {action : RegistryAction}
    (distinct : ∀ number inputs, action = .prepare number inputs → (inputs.map (·.key)).Nodup) :
    Acts factory registry (registry.act factory action) := by
  cases action with
  | prepare number inputs =>
    simp only [act]
    split
    next absent => exact .calls absent (distinct number inputs rfl)
    next => exact .idle
  | run number =>
    simp only [act]
    split
    next prepared => exact custody.acts_goto prepared rfl rfl rfl nofun (.inl rfl) nofun
    next => exact .idle
  | cancel number =>
    simp only [act]
    split
    next prepared => exact custody.acts_goto prepared rfl rfl rfl nofun (.inl rfl) nofun
    next => exact .idle
  | advance number answers => exact advance_acts custody number answers
  | take key => exact takeResult_acts key

theorem Acts.custody {after : Registry} (acts : Acts factory registry after)
    (custody : registry.Custody factory) : after.Custody factory := by
  cases acts with
  | idle => exact custody
  | calls absent distinct =>
    refine (custody.moves (.of_unknown rfl rfl rfl ?_) ?_ ?_ ?_).note _
    · rintro _ ⟨⟩
      exact distinct
    · rw [absent]
      rfl
    · rw [absent]
      rfl
    · rw [absent]
      exact nofun
  | continues continues =>
    exact custody.moves continues.lawful continues.entered continues.reserved continues.begun
  | @refuses number error pending entered =>
    have reserved : (registry.publications number).reserved = [] :=
      List.eq_nil_of_sublist_nil (entered ▸ (custody.lawful number).reserved)
    have unbegun : (registry.publications number).begun = false := by
      cases place : registry.publications number <;>
        simp_all [Publication.record, Publication.begun]
    have failed : (registry.goto number (.failed error)).Custody factory := by
      refine custody.moves (.of_unknown rfl rfl rfl nofun) entered.symm reserved.symm ?_
      simp [unbegun]
    exact failed.note _
  | reserves reserving fits absent => exact custody.reserves reserving fits absent
  | @rollsBack number routes error rollingBack =>
    have failed : ((registry.lockedTo number (removeAll registry.receipts routes)).goto number
        (.failed error)).Custody factory := by
      refine custody.releases ?_ ?_ ?_ ⟨rfl, rfl, rfl⟩ nofun <;> rw [rollingBack] <;> rfl
    exact failed.note _
  | releases releasing =>
    refine custody.releases ?_ ?_ ?_ ⟨rfl, rfl, rfl⟩ nofun <;> rw [releasing] <;> rfl
  | @runs number routes publisher running answers =>
    have lawful := custody.lawful number
    rw [running] at lawful
    have reserved : (Publication.storing routes
        (routes.zip (factory.nativeRun answers publisher routes)) none).reserved = routes :=
      List.map_fst_zip (factory.nativeRun_length answers publisher routes).ge
    have next : (Publication.storing routes
        (routes.zip (factory.nativeRun answers publisher routes)) none).Lawful number := by
      refine lawful.of_known rfl (.refl _) ?_ nofun
      rw [reserved]
      exact .refl _
    refine (custody.moves next ?_ ?_ ?_).note _
    · rw [running]
      rfl
    · rw [running, reserved]
      rfl
    · rw [running]
      exact nofun
  | stores storing => exact custody.stores storing
  | takes entry stored => exact (custody.takes entry (by rw [stored]; rfl)).note _

end Registry

/-! ### What the log tells -/

def RegistryEvent.isCallOf (number : Nat) : RegistryEvent → Bool
  | .called other _ => other == number
  | _ => false

/-- The keys that a call of `prepare` found. -/
def foundBy (number : Nat) (log : List RegistryEvent) : Option (List RelayPublishReceiptKey) :=
  log.findSome? fun
    | .called other found => if other = number then some found else none
    | _ => none

/-- Since that call no other publication, and no `take_result`, has entered or removed the key. -/
def Undisturbed (number : Nat) (key : RelayPublishReceiptKey) (log : List RegistryEvent) : Prop :=
  ∀ actor before after, .locked actor before after ∈ since (·.isCallOf number) log →
    actor ≠ some number → (key ∈ before ↔ key ∈ after)

/-- A failed `prepare` leaves the keys it found, as far as others have left them alone; a result is
stored once, and is that of a route of a worker that has run; and what is taken under a key has been
stored with that key and not been taken before. -/
def RegistryEvent.Sound (factory : RelayConnectorFactory) (event : RegistryEvent)
    (earlier : List RegistryEvent) : Prop :=
  match event with
  | .failed number left => ∃ found, foundBy number earlier = some found ∧
      ∀ key, Undisturbed number key earlier → (key ∈ left ↔ key ∈ found)
  | .stored state result => (∀ other, .stored state other ∉ earlier) ∧
      ∃ routes publisher answers, .ran state.publication routes publisher answers ∈ earlier ∧
        ∃ yield ∈ routes.zip (factory.nativeRun answers publisher routes),
          yield.1.state = state ∧ yield.1.result yield.2 = result
  | .taken key state result => .stored state result ∈ earlier ∧ result.key = key ∧
      ∀ key other, .taken key state other ∉ earlier
  | _ => True

section Log

variable {number : Nat} {key : RelayPublishReceiptKey} {event : RegistryEvent}
  {log : List RegistryEvent}

theorem foundBy_cons (uncalled : event.isCallOf number = false) :
    foundBy number (event :: log) = foundBy number log := by
  cases event <;> simp_all [foundBy, RegistryEvent.isCallOf]

theorem undisturbed_of_cons (uncalled : event.isCallOf number = false)
    (undisturbed : Undisturbed number key (event :: log)) : Undisturbed number key log := by
  intro actor before after member
  have since : since (·.isCallOf number) ([event] ++ log) = _ :=
    since_append (by simpa using uncalled)
  refine undisturbed actor before after ?_
  rw [← List.singleton_append, since]
  exact List.mem_append_right _ member

theorem Undisturbed.head {actor : Option Nat} {before after : List RelayPublishReceiptKey}
    (undisturbed : Undisturbed number key (.locked actor before after :: log))
    (foreign : actor ≠ some number) : key ∈ before ↔ key ∈ after :=
  undisturbed actor before after (List.mem_cons_self ..) foreign

end Log

/-- What is known of a call of `prepare` in progress: the keys it has entered were absent when it
was called, and the others are as it found them. -/
def Tracks (number : Nat) (pending keys : List RelayPublishReceiptKey)
    (log : List RegistryEvent) : Prop :=
  ∃ found, foundBy number log = some found ∧ ∀ key, Undisturbed number key log →
    (key ∈ pending → key ∉ found) ∧ (key ∉ pending → (key ∈ keys ↔ key ∈ found))

namespace Tracks

variable {number : Nat} {pending keys : List RelayPublishReceiptKey} {log : List RegistryEvent}

theorem starts (number : Nat) (keys : List RelayPublishReceiptKey) (log : List RegistryEvent) :
    Tracks number [] keys (.called number keys :: log) :=
  ⟨keys, by simp [foundBy], by simp⟩

/-- Events other than a change of the registry. -/
theorem cons (tracks : Tracks number pending keys log) {event : RegistryEvent}
    (uncalled : event.isCallOf number = false) : Tracks number pending keys (event :: log) := by
  obtain ⟨found, call, known⟩ := tracks
  exact ⟨found, (foundBy_cons uncalled).trans call,
    fun key undisturbed => known key (undisturbed_of_cons uncalled undisturbed)⟩

/-- Others change the registry. -/
theorem foreign (tracks : Tracks number pending keys log) {actor : Option Nat}
    (foreign : actor ≠ some number) (after : List RelayPublishReceiptKey) :
    Tracks number pending after (.locked actor keys after :: log) := by
  obtain ⟨found, call, known⟩ := tracks
  refine ⟨found, (foundBy_cons rfl).trans call, fun key undisturbed => ?_⟩
  obtain ⟨mine, others⟩ := known key (undisturbed_of_cons rfl undisturbed)
  exact ⟨mine, fun other => (undisturbed.head foreign).symm.trans (others other)⟩

/-- The call enters keys that are absent. -/
theorem reserves (tracks : Tracks number [] keys log) {entered after : List RelayPublishReceiptKey}
    (absent : ∀ key ∈ entered, key ∉ keys)
    (others : ∀ key, key ∉ entered → (key ∈ after ↔ key ∈ keys)) :
    Tracks number entered after (.locked number keys after :: log) := by
  obtain ⟨found, call, known⟩ := tracks
  refine ⟨found, (foundBy_cons rfl).trans call, fun key undisturbed => ?_⟩
  have before := (known key (undisturbed_of_cons rfl undisturbed)).2 (by simp)
  exact ⟨fun entered => fun member => absent key entered (before.mpr member),
    fun other => (others key other).trans before⟩

/-- The call removes what it has entered. -/
theorem rollsBack (tracks : Tracks number pending keys log)
    {after : List RelayPublishReceiptKey} (gone : ∀ key ∈ pending, key ∉ after)
    (others : ∀ key, key ∉ pending → (key ∈ after ↔ key ∈ keys)) :
    Tracks number [] after (.locked number keys after :: log) := by
  obtain ⟨found, call, known⟩ := tracks
  refine ⟨found, (foundBy_cons rfl).trans call, fun key undisturbed => ⟨by simp, fun _ => ?_⟩⟩
  obtain ⟨mine, theirs⟩ := known key (undisturbed_of_cons rfl undisturbed)
  by_cases entered : key ∈ pending
  · exact iff_of_false (gone key entered) (mine entered)
  · exact (others key entered).trans (theirs entered)

theorem sound (tracks : Tracks number [] keys log) (factory : RelayConnectorFactory) :
    RegistryEvent.Sound factory (.failed number keys) log := by
  obtain ⟨found, call, known⟩ := tracks
  exact ⟨found, call, fun key undisturbed => (known key undisturbed).2 (by simp)⟩

end Tracks

/-- A worker has run, and has stored the results of its routes up to those that are left. -/
def Ran (factory : RelayConnectorFactory) (number : Nat) (routes : List PreparedRelayRoute)
    (rest : List (PreparedRelayRoute × RelayTransportOutcome)) (log : List RegistryEvent) : Prop :=
  ∃ publisher answers done, .ran number routes publisher answers ∈ log ∧
    routes.zip (factory.nativeRun answers publisher routes) = done ++ rest ∧
    ∀ yield ∈ done, .stored yield.1.state (yield.1.result yield.2) ∈ log

theorem Ran.cons {factory : RelayConnectorFactory} {number : Nat} {routes : List PreparedRelayRoute}
    {log : List RegistryEvent} (ran : Ran factory number routes rest log) (event : RegistryEvent) :
    Ran factory number routes rest (event :: log) := by
  obtain ⟨publisher, answers, done, noted, split, stored⟩ := ran
  exact ⟨publisher, answers, done, List.mem_cons_of_mem _ noted, split,
    fun yield member => List.mem_cons_of_mem _ (stored yield member)⟩

namespace Publication.Record

variable {factory : RelayConnectorFactory} {number : Nat} {record : Publication.Record}
  {keys : List RelayPublishReceiptKey} {log : List RegistryEvent}

/-- The log tells what it has to. -/
def Told (factory : RelayConnectorFactory) (number : Nat) (keys : List RelayPublishReceiptKey)
    (log : List RegistryEvent) : Publication.Record → Prop
  | .pending entered => Tracks number entered keys log
  | .ran routes rest => Ran factory number routes rest log

theorem Told.cons (told : record.Told factory number keys log) {event : RegistryEvent}
    (uncalled : event.isCallOf number = false) :
    record.Told factory number keys (event :: log) := by
  cases record with
  | pending => exact Tracks.cons told uncalled
  | ran => exact Ran.cons told event

theorem Told.foreign (told : record.Told factory number keys log) {actor : Option Nat}
    (foreign : actor ≠ some number) (after : List RelayPublishReceiptKey) :
    record.Told factory number after (.locked actor keys after :: log) := by
  cases record with
  | pending => exact Tracks.foreign told foreign after
  | ran => exact Ran.cons told _

end Publication.Record

namespace Registry

variable {factory : RelayConnectorFactory} {registry after : Registry} {number : Nat}

/-- What every step keeps of the log. -/
structure Recorded (factory : RelayConnectorFactory) (registry : Registry) : Prop where
  stored : ∀ state result, registry.results state = some result ↔
    .stored state result ∈ registry.log
  taken : ∀ key state result, .taken key state result ∈ registry.log →
    (registry.results state).isSome = true ∧ ∀ other, registry.receipts.lookup other ≠ some state
  told : ∀ number record, (registry.publications number).record = some record →
    record.Told factory number registry.keys registry.log
  audited : Audited (RegistryEvent.Sound factory) registry.log

variable {receipts : Receipts} {key : RelayPublishReceiptKey} {routes : List PreparedRelayRoute}
  {next : Publication}

theorem mem_keys_iff : key ∈ receipts.keys ↔ (receipts.lookup key).isSome = true :=
  AList.lookup_isSome.symm

theorem mem_keys_insertAll (other : key ∉ routes.map (·.key)) :
    key ∈ (insertAll receipts routes).keys ↔ key ∈ receipts.keys := by
  rw [mem_keys_iff, mem_keys_iff, lookup_insertAll_of_notMem other]

theorem mem_keys_removeAll (other : key ∉ routes.map (·.key)) :
    key ∈ (removeAll receipts routes).keys ↔ key ∈ receipts.keys := by
  rw [mem_keys_iff, mem_keys_iff, lookup_removeAll_of_notMem other]

theorem notMem_keys_removeAll :
    ∀ key ∈ routes.map (·.key), key ∉ (removeAll receipts routes).keys := by
  intro key member
  rw [mem_keys_iff, lookup_removeAll_of_mem member]
  simp

theorem lookup_of_removeAll {state : RelayPublishReceiptState}
    (found : (removeAll receipts routes).lookup key = some state) :
    receipts.lookup key = some state := by
  by_cases member : key ∈ routes.map (·.key)
  · rw [lookup_removeAll_of_mem member] at found
    exact absurd found (by simp)
  · rwa [lookup_removeAll_of_notMem member] at found

/-- The publications of others have the records that they had. -/
theorem record_goto {other : Nat} {record : Publication.Record}
    (found : ((registry.goto number next).publications other).record = some record) :
    other = number ∧ next.record = some record ∨
      other ≠ number ∧ (registry.publications other).record = some record := by
  by_cases same : other = number
  · rw [same, goto_self] at found
    exact .inl ⟨same, found⟩
  · rw [goto_of_ne same] at found
    exact .inr ⟨same, found⟩

section Recorded

variable (recorded : registry.Recorded factory)

include recorded

theorem Recorded.calls (inputs : List EndpointPortInput) :
    ((registry.goto number (.checking inputs)).note (.called number registry.keys)).Recorded
      factory := by
  refine ⟨fun state result => ?_, fun key state result member => ?_, fun other pending found => ?_,
    trivial, recorded.audited⟩
  · exact (recorded.stored state result).trans (by simp [Registry.note, goto])
  · exact recorded.taken key state result (by simpa [Registry.note, goto] using member)
  · rcases record_goto found with ⟨rfl, own⟩ | ⟨different, theirs⟩
    · obtain rfl := Option.some.inj own
      exact .starts ..
    · exact (recorded.told other pending theirs).cons
        (by simpa [RegistryEvent.isCallOf] using different.symm)

theorem Recorded.continues
    (record : next.record = none ∨ next.record = (registry.publications number).record) :
    (registry.goto number next).Recorded factory := by
  refine ⟨recorded.stored, recorded.taken, fun other found current => ?_, recorded.audited⟩
  rcases record_goto current with ⟨rfl, own⟩ | ⟨-, theirs⟩
  · rcases record with none | same
    · rw [none] at own
      exact absurd own (by simp)
    · exact recorded.told other found (same.symm.trans own)
  · exact recorded.told other found theirs

theorem Recorded.notesFailure (tracks : Tracks number [] registry.keys registry.log) :
    (registry.note (.failed number registry.keys)).Recorded factory := by
  refine ⟨fun state result => ?_, fun key state result member => ?_, fun other found current => ?_,
    tracks.sound factory, recorded.audited⟩
  · exact (recorded.stored state result).trans (by simp [Registry.note])
  · exact recorded.taken key state result (by simpa [Registry.note] using member)
  · exact (recorded.told other found current).cons rfl

/-- A publication changes the registry, and enters no state that was taken. -/
theorem Recorded.locked (untaken : ∀ key state, receipts.lookup key = some state →
      registry.receipts.lookup key = some state ∨ registry.results state = none)
    (told : ∀ record, next.record = some record → record.Told factory number receipts.keys
      (.locked number registry.receipts.keys receipts.keys :: registry.log)) :
    ((registry.lockedTo number receipts).goto number next).Recorded factory := by
  refine ⟨fun state result => ?_, fun key state result member => ?_, fun other pending found => ?_,
    trivial, recorded.audited⟩
  · exact (recorded.stored state result).trans (by simp [lockedTo, goto])
  · obtain ⟨stored, absent⟩ :=
      recorded.taken key state result (by simpa [lockedTo, goto] using member)
    refine ⟨stored, fun other found => ?_⟩
    rcases untaken other state found with old | empty
    · exact absent other old
    · rw [empty] at stored
      exact absurd stored (by simp)
  · rcases record_goto found with ⟨rfl, own⟩ | ⟨different, theirs⟩
    · exact told pending own
    · exact (recorded.told other pending theirs).foreign (by simpa using different.symm) _

theorem Recorded.reserves (custody : registry.Custody factory)
    (reserving : registry.publications number = .reserving routes preparations)
    (absent : ∀ route ∈ routes, route.key ∉ registry.receipts) :
    ((registry.lockedTo number (insertAll registry.receipts routes)).goto number
      (.connecting routes preparations)).Recorded factory := by
  have lawful := custody.lawful number
  rw [reserving] at lawful
  refine recorded.locked (fun key state found => ?_) fun pending own => ?_
  · by_cases new : key ∈ routes.map (·.key)
    · obtain ⟨route, member, rfl⟩ := List.mem_map.mp new
      have entry : (insertAll registry.receipts routes).lookup route.key = some route.state :=
        lookup_insertAll_of_mem lawful.keys member
      obtain rfl := Option.some.inj (entry.symm.trans found)
      exact .inr (custody.unstored (by rw [reserving]; rfl) (lawful.own route member))
    · rw [lookup_insertAll_of_notMem new] at found
      exact .inl found
  · obtain rfl := Option.some.inj own
    refine Tracks.reserves (recorded.told number (.pending []) (by rw [reserving]; rfl)) ?_
      fun key other => mem_keys_insertAll other
    intro key member
    obtain ⟨route, listed, rfl⟩ := List.mem_map.mp member
    exact absent route listed

theorem Recorded.rollsBack {error : ConnectorError}
    (rollingBack : registry.publications number = .rollingBack routes error) :
    ((registry.lockedTo number (removeAll registry.receipts routes)).fail number
      error).Recorded factory := by
  have released : ((registry.lockedTo number (removeAll registry.receipts routes)).goto number
      (.failed error)).Recorded factory :=
    recorded.locked (fun key state found => .inl (lookup_of_removeAll found)) nofun
  have tracks := Tracks.rollsBack (recorded.told number (.pending (routes.map (·.key)))
    (by rw [rollingBack]; rfl)) notMem_keys_removeAll fun key other => mem_keys_removeAll other
  exact released.notesFailure tracks

theorem Recorded.runs (routes : List PreparedRelayRoute)
    (publisher : PreparedFramePublisher) (answers : RunAnswers) :
    ((registry.goto number (.storing routes
      (routes.zip (factory.nativeRun answers publisher routes)) none)).note
        (.ran number routes publisher answers)).Recorded factory := by
  refine ⟨fun state result => ?_, fun key state result member => ?_, fun other record found => ?_,
    trivial, recorded.audited⟩
  · exact (recorded.stored state result).trans (by simp [Registry.note, goto])
  · exact recorded.taken key state result (by simpa [Registry.note, goto] using member)
  · rcases record_goto found with ⟨rfl, own⟩ | ⟨-, theirs⟩
    · obtain rfl := Option.some.inj own
      exact ⟨publisher, answers, [], List.mem_cons_self, rfl, nofun⟩
    · exact (recorded.told other record theirs).cons rfl

/-- The result of the first route that is left is stored. -/
theorem Recorded.stores (custody : registry.Custody factory)
    {route : PreparedRelayRoute} {outcome : RelayTransportOutcome}
    {firstError next : Option ConnectorError}
    (storing :
      registry.publications number = .storing routes ((route, outcome) :: rest) firstError) :
    ((registry.storeResult route.state (route.result outcome)).goto number
      (.storing routes rest next)).Recorded factory := by
  have first : route ∈ (registry.publications number).reserved := by
    simp [storing, Publication.reserved]
  have empty := (custody.held number route first).2
  rw [storeResult_of_none empty]
  have new : ∀ other, .stored route.state other ∉ registry.log := by
    intro other member
    rw [← recorded.stored, empty] at member
    simp at member
  obtain ⟨publisher, answers, done, ran, split, stored⟩ : Ran factory number routes
      ((route, outcome) :: rest) registry.log :=
    recorded.told number (.ran routes ((route, outcome) :: rest)) (by rw [storing]; rfl)
  refine ⟨fun other value => ?_, fun key other value member => ?_, fun other record found => ?_,
    ⟨new, routes, publisher, answers, ?_, (route, outcome), ?_, rfl, rfl⟩, recorded.audited⟩
  · by_cases same : other = route.state
    · subst same
      simp [goto, new, eq_comm]
    · simp [goto, same, recorded.stored]
  · obtain ⟨stored, absent⟩ := recorded.taken key other value (by simpa [goto] using member)
    have different : other ≠ route.state := by
      rintro rfl
      rw [empty] at stored
      exact absurd stored (by simp)
    exact ⟨(congrArg Option.isSome (Function.update_of_ne different ..)).trans stored, absent⟩
  · rcases record_goto found with ⟨rfl, own⟩ | ⟨-, theirs⟩
    · obtain rfl := Option.some.inj own
      refine ⟨publisher, answers, done ++ [(route, outcome)], List.mem_cons_of_mem _ ran,
        by rw [split, List.append_assoc, List.singleton_append], fun yield member => ?_⟩
      rcases List.mem_append.mp member with before | last
      · exact List.mem_cons_of_mem _ (stored yield before)
      · obtain rfl := List.mem_singleton.mp last
        exact List.mem_cons_self
    · exact (recorded.told other record theirs).cons rfl
  · exact (custody.lawful number).own_of_reserved first ▸ ran
  · rw [split]
    simp

theorem Recorded.takes (custody : registry.Custody factory)
    {state : RelayPublishReceiptState} {result : RelayPublishResult}
    (entry : registry.receipts.lookup key = some state)
    (stored : registry.results state = some result) :
    ((registry.lockedTo none (registry.receipts.erase key)).note
      (.taken key state result)).Recorded factory := by
  have untaken : ∀ other value, .taken other state value ∉ registry.log :=
    fun other value member => (recorded.taken other state value member).2 key entry
  have survives : ∀ other value, (registry.receipts.erase key).lookup other = some value →
      other ≠ key ∧ registry.receipts.lookup other = some value := by
    intro other value found
    have different : other ≠ key := by
      rintro rfl
      rw [AList.lookup_erase] at found
      exact absurd found (by simp)
    exact ⟨different, (AList.lookup_erase_ne different).symm.trans found⟩
  refine ⟨fun other value => ?_, fun other value taken member => ?_,
    fun number pending found => ?_, ⟨?_, ?_, ?_⟩, trivial, recorded.audited⟩
  · exact (recorded.stored other value).trans (by simp [lockedTo, Registry.note])
  · have cases : other = key ∧ value = state ∨ .taken other value taken ∈ registry.log := by
      simp only [Registry.note, lockedTo, List.mem_cons, RegistryEvent.taken.injEq, reduceCtorEq,
        false_or] at member
      exact member.imp (fun same => ⟨same.1, same.2.1⟩) id
    rcases cases with ⟨-, rfl⟩ | old
    · refine ⟨by simp [lockedTo, Registry.note, stored], fun third found => ?_⟩
      obtain ⟨different, present⟩ := survives third value found
      have first := custody.registered key value entry
      have second := custody.registered third value present
      exact different ((custody.lawful _).key_unique second first rfl)
    · obtain ⟨isStored, absent⟩ := recorded.taken other value taken old
      exact ⟨isStored, fun third found => absent third (survives third value found).2⟩
  · have foreign : (none : Option Nat) ≠ some number := by simp
    exact ((recorded.told number pending found).foreign foreign _).cons rfl
  · exact List.mem_cons_of_mem _ ((recorded.stored state result).mp stored)
  · exact (custody.lawful _).key_unique (custody.begun state result stored).2
      (custody.registered key state entry) rfl
  · intro other value member
    exact untaken other value (by simpa [lockedTo] using member)

end Recorded

theorem Acts.recorded (acts : Acts factory registry after) (custody : registry.Custody factory)
    (recorded : registry.Recorded factory) : after.Recorded factory := by
  cases acts with
  | idle => exact recorded
  | calls absent distinct => exact recorded.calls _
  | continues continues => exact recorded.continues continues.record
  | @refuses number error pending entered =>
    have failed : (registry.goto number (.failed error)).Recorded factory :=
      recorded.continues (.inl rfl)
    exact failed.notesFailure (recorded.told number (.pending []) pending)
  | reserves reserving fits absent => exact recorded.reserves custody reserving absent
  | rollsBack rollingBack => exact recorded.rollsBack rollingBack
  | releases releasing =>
    exact recorded.locked (fun key state found => .inl (lookup_of_removeAll found)) nofun
  | runs _ answers => exact recorded.runs _ _ answers
  | stores storing => exact recorded.stores custody storing
  | takes entry stored => exact recorded.takes custody entry stored

theorem run_custody (factory : RelayConnectorFactory) (actions : List RegistryAction)
    (distinct : ∀ number inputs, .prepare number inputs ∈ actions → (inputs.map (·.key)).Nodup) :
    (run factory actions).Custody factory ∧ (run factory actions).Recorded factory := by
  suffices kept : ∀ registry : Registry, registry.Custody factory → registry.Recorded factory →
      (actions.foldl (fun registry action => registry.act factory action) registry).Custody
        factory ∧
      (actions.foldl (fun registry action => registry.act factory action) registry).Recorded
        factory by
    refine kept {} ?_ ?_
    · exact ⟨fun _ => .of_unknown rfl rfl rfl nofun, Nat.zero_le _, nofun, nofun, nofun, nofun⟩
    · exact ⟨fun _ _ => iff_of_false nofun nofun, nofun, nofun, trivial⟩
  induction actions with
  | nil => exact fun _ custody recorded => ⟨custody, recorded⟩
  | cons action rest hypothesis =>
    intro registry custody recorded
    have acts : Acts factory registry (registry.act factory action) :=
      act_acts custody fun number inputs same =>
        distinct number inputs (same ▸ List.mem_cons_self ..)
    refine hypothesis (fun number inputs member => ?_) _ (acts.custody custody)
      (acts.recorded custody recorded)
    exact distinct number inputs (List.mem_cons_of_mem _ member)

/-! ### Every interleaving -/

/-- What holds of a registry at every moment.

A route is reserved while its `prepare` is in progress, or its worker is neither finished nor
cancelled, and its result is still to be stored. No key is reserved twice; an entry of the
registry is reserved or has a result, which `take_result` can take; and a worker whose `run` has
returned has stored for each of its routes what the transport's own `run` yielded for it. -/
structure Sound (factory : RelayConnectorFactory) (registry : Registry) : Prop where
  capacity : registry.keys.length ≤ factory.receiptCapacity
  exclusive : ∀ first second, ∀ route ∈ (registry.publications first).reserved,
    ∀ other ∈ (registry.publications second).reserved, route.key = other.key → first = second
  entered : ∀ number, ∀ route ∈ (registry.publications number).reserved,
    registry.receipts.lookup route.key = some route.state
  reclaimable : ∀ key state, registry.receipts.lookup key = some state →
    ⟨key, state⟩ ∈ (registry.publications state.publication).reserved ∨
      (registry.results state).isSome = true
  stored : ∀ number routes outcome, registry.publications number = .finished routes outcome →
    ∃ publisher answers, .ran number routes publisher answers ∈ registry.log ∧
      ∀ (index : Nat) (route : PreparedRelayRoute) (yield : RelayTransportOutcome),
        routes[index]? = some route →
        (factory.nativeRun answers publisher routes)[index]? = some yield →
        .stored route.state (route.result yield) ∈ registry.log
  history : ∀ later event earlier, registry.log = later ++ event :: earlier →
    event.Sound factory earlier

theorem sound_of_custody (custody : registry.Custody factory)
    (recorded : registry.Recorded factory) : registry.Sound factory where
  capacity := by
    have length : registry.keys.length = registry.receipts.entries.length := List.length_map ..
    rw [length]
    exact custody.capacity
  exclusive first second route one other two same := by
    have left := (custody.held first route one).1
    have right := (custody.held second other two).1
    rw [same, right] at left
    have state := Option.some.inj left
    have mine := (custody.lawful first).own_of_reserved one
    have theirs := (custody.lawful second).own_of_reserved two
    exact mine.symm.trans ((congrArg _ state.symm).trans theirs)
  entered number route member := (custody.held number route member).1
  reclaimable key state entry := custody.settled _ _ (custody.registered key state entry)
  stored number routes outcome finished := by
    obtain ⟨publisher, answers, done, ran, split, stored⟩ : Ran factory number routes [] _ :=
      recorded.told number (.ran routes []) (by rw [finished]; rfl)
    refine ⟨publisher, answers, ran, fun index route yield listed made => ?_⟩
    refine stored (route, yield) (List.mem_of_getElem? (i := index) ?_)
    rw [← List.append_nil done, ← split, List.getElem?_zip_eq_some]
    exact ⟨listed, made⟩
  history later event earlier := recorded.audited.at_split

/-- For every interleaving of calls on one factory whose `prepare` calls have different keys each,
the registry is sound; and a run of the native transport yields the outcomes of its routes, one
each and in their order. -/
theorem receipt_registry_sound (factory : RelayConnectorFactory) (actions : List RegistryAction)
    (distinct : ∀ number inputs, .prepare number inputs ∈ actions → (inputs.map (·.key)).Nodup) :
    (run factory actions).Sound factory ∧
      ∀ (answers : RunAnswers) (publisher : PreparedFramePublisher)
        (routes : List PreparedRelayRoute),
        (factory.nativeRun answers publisher routes).length = routes.length ∧
          ∀ index route, routes[index]? = some route →
            ∃ outcome : RelayTransportOutcome,
              (factory.nativeRun answers publisher routes)[index]? = some outcome ∧
              outcome.Reports answers index route := by
  obtain ⟨custody, recorded⟩ := run_custody factory actions distinct
  refine ⟨sound_of_custody custody recorded, fun answers publisher routes => ?_⟩
  exact ⟨factory.nativeRun_length answers publisher routes,
    fun index route => factory.nativeRun_reports answers⟩

/-! ### A run in which a slot is used again -/

/-- A bus of a WebRTC publisher. -/
def busNode (bus : String) : NodeConfig where
  get key :=
    if key = sourceTokenKey then some "token"
    else if key = relayUrlKey then some "https://relay.example"
    else if key = relaySessionIdKey ∨ key = publisherGroupIdKey then some "session"
    else if key = busIdKey then some bus
    else none
  isSensitive key := key == sourceTokenKey

def busInput (route : Nat) (bus : String) : EndpointPortInput where
  key := ⟨0, route⟩
  nodeConfiguration := busNode bus
  audio := some ⟨48000, 2, .f32Interleaved⟩

/-- Room for two receipts. -/
def smallFactory : RelayConnectorFactory where
  receiptCapacity := 2
  control := none
  libraries :=
    { parseUrl := fun text =>
        if text = "https://relay.example" then
          some { scheme := "https", host := some (.domain "relay.example") }
        else none
      acceptsSecret := fun _ => true
      encodeJson := fun _ => none
      decodeJson := fun _ => none }
  maxMessageBytes := 256
  secretErrorText := ""

/-- A group of two buses runs; meanwhile a second publication finds no room, and once a result is
taken a third takes the slot and gives it back when its handshake fails. -/
def slotActions : List RegistryAction :=
  [.prepare 0 [busInput 0 "first", busInput 1 "second"], .advance 0 {}, .advance 0 {},
    .prepare 1 [busInput 2 "third"], .advance 1 {}, .advance 0 {}, .run 0, .advance 1 {},
    .advance 0 {}, .advance 0 {}, .take ⟨0, 0⟩, .prepare 2 [busInput 0 "first"], .advance 2 {},
    .advance 2 {}, .advance 0 {}, .advance 2 { transport := { handshake := .error "timeout" } },
    .take ⟨0, 0⟩, .advance 2 {}, .advance 0 {}, .take ⟨0, 0⟩]

theorem receipt_registry_sound_slots :
    (run smallFactory slotActions).Sound smallFactory ∧
      (run smallFactory slotActions).keys = [⟨0, 1⟩] ∧
      ((run smallFactory slotActions).log.any fun
        | .failed 1 left => left == [⟨0, 1⟩, ⟨0, 0⟩]
        | _ => false) = true ∧
      ((run smallFactory slotActions).log.any fun
        | .failed 2 left => left == [⟨0, 1⟩]
        | _ => false) = true ∧
      ((run smallFactory slotActions).log.countP fun
        | .stored _ _ => true
        | _ => false) = 2 ∧
      ((run smallFactory slotActions).log.countP fun
        | .taken key _ _ => key == ⟨0, 0⟩
        | _ => false) = 1 := by
  refine ⟨(receipt_registry_sound smallFactory slotActions ?_).1, by decide +kernel⟩
  intro number inputs member
  simp only [slotActions, List.mem_cons, RegistryAction.prepare.injEq, reduceCtorEq, false_or,
    List.not_mem_nil, or_false] at member
  rcases member with ⟨-, rfl⟩ | ⟨-, rfl⟩ | ⟨-, rfl⟩ <;> decide

end Registry

end RelayConnector
