/-
This file proves that the gateway accounts for every frame it receives.

The frames the gateway is done with form a ledger for each bus, in the order in which
they were received: what was received is the ledger and the frame in hand. The counters
of a stream are the totals of its ledger, as far as a 64-bit word can hold them.
-/

import RelayConnector.Conservation
import RelayConnector.Exhaustion
import RelayConnector.Transmission

namespace RelayConnector

open Words GatewayWorld

/-! ### Ledgers -/

/-- What has become of the frames of a bus: an outcome, or none if `encode_packet` refused. -/
abbrev Ledger := List (Option FrameOutcome × EncodedAudioFrame)

namespace Ledger

/-- The frames with an outcome. -/
def frames (ledger : Ledger) (outcome : Option FrameOutcome) : List EncodedAudioFrame :=
  (ledger.filter fun account => account.1 == outcome).map Prod.snd

def total (ledger : Ledger) (outcome : Option FrameOutcome) : Nat := (ledger.frames outcome).length

/-- The payload bytes of the frames that were sent. -/
def payloadBytes (ledger : Ledger) : Nat :=
  ((ledger.frames (some .sent)).map fun frame => frame.payload.length).sum

/-- What `ingress_recovery_opus_drops` counts: frames older than the cutoff, and failed sends. -/
def drops (ledger : Ledger) : Nat :=
  ledger.total (some .superseded) + ledger.total (some .undelivered)

theorem frames_sublist (ledger : Ledger) (outcome : Option FrameOutcome) :
    (ledger.frames outcome).Sublist (ledger.map Prod.snd) :=
  List.filter_sublist.map Prod.snd

theorem frames_append (first second : Ledger) (outcome : Option FrameOutcome) :
    (first ++ second).frames outcome = first.frames outcome ++ second.frames outcome := by
  rw [frames, List.filter_append, List.map_append, frames, frames]

theorem total_append (first second : Ledger) (outcome : Option FrameOutcome) :
    total (first ++ second) outcome = first.total outcome + second.total outcome := by
  rw [total, frames_append, List.length_append, total, total]

/-- Every frame has one outcome or none. -/
theorem length_eq (ledger : Ledger) :
    ledger.length = ledger.total (some .sent) + ledger.total (some .cancelled) + ledger.drops +
      ledger.total (some .stale) + ledger.total none := by
  induction ledger with
  | nil => rfl
  | cons account rest hypothesis =>
    have split : ∀ outcome, total (account :: rest) outcome =
        total [account] outcome + Ledger.total rest outcome := total_append [account] rest
    have one : [account].length = total [account] (some .sent) + total [account] (some .cancelled) +
        drops [account] + total [account] (some .stale) + total [account] none := by
      obtain ⟨outcome, frame⟩ := account
      cases outcome with
      | none => rfl
      | some outcome => cases outcome <;> rfl
    simp only [drops, split, List.length_cons, List.length_nil] at one hypothesis ⊢
    omega

end Ledger

/-- The counters of a stream are the totals of its ledger. -/
structure Tallied (statistics : PublishStreamStats) (ledger : Ledger) : Prop where
  sent : statistics.ingressFramesSent = min (ledger.total (some .sent)) u64Max
  bytes : statistics.ingressPayloadBytesSent = min ledger.payloadBytes u64Max
  dropped : statistics.ingressRecoveryOpusDrops = min ledger.drops u64Max

/-- The counters that a ledger determines. -/
def PublishStreamStats.delivery (statistics : PublishStreamStats) : Nat × Nat × Nat :=
  (statistics.ingressFramesSent, statistics.ingressPayloadBytesSent,
    statistics.ingressRecoveryOpusDrops)

namespace Tallied

variable {statistics after : PublishStreamStats} {ledger : Ledger} {frame : EncodedAudioFrame}
  (tallied : Tallied statistics ledger)

include tallied

theorem congr (same : after.delivery = statistics.delivery) : Tallied after ledger := by
  obtain ⟨sent, rest⟩ := Prod.mk.inj same
  obtain ⟨bytes, dropped⟩ := Prod.mk.inj rest
  exact ⟨sent.trans tallied.sent, bytes.trans tallied.bytes, dropped.trans tallied.dropped⟩

/-- A frame for which no counter of the stream is raised. -/
theorem uncounted {outcome : Option FrameOutcome}
    (elsewhere : outcome = none ∨ outcome = some .cancelled ∨ outcome = some .stale) :
    Tallied statistics (ledger ++ [(outcome, frame)]) := by
  refine ⟨?_, ?_, ?_⟩
  · rw [tallied.sent, Ledger.total_append]
    rcases elsewhere with rfl | rfl | rfl <;> rfl
  · rw [tallied.bytes, Ledger.payloadBytes, Ledger.payloadBytes, Ledger.frames_append]
    rcases elsewhere with rfl | rfl | rfl <;> simp [Ledger.frames]
  · rw [tallied.dropped, Ledger.drops, Ledger.drops, Ledger.total_append, Ledger.total_append]
    rcases elsewhere with rfl | rfl | rfl <;> rfl

theorem countSent :
    Tallied (statistics.countSent frame.payload.length) (ledger ++ [(some .sent, frame)]) := by
  refine ⟨?_, ?_, ?_⟩
  · show saturatingAdd statistics.ingressFramesSent 1 = _
    rw [tallied.sent, saturatingAdd_min, Ledger.total_append]
    rfl
  · show saturatingAdd statistics.ingressPayloadBytesSent frame.payload.length = _
    rw [tallied.bytes, saturatingAdd_min, Ledger.payloadBytes, Ledger.payloadBytes,
      Ledger.frames_append, List.map_append, List.sum_append]
    rfl
  · show statistics.ingressRecoveryOpusDrops = _
    rw [tallied.dropped, Ledger.drops, Ledger.drops, Ledger.total_append, Ledger.total_append]
    rfl

theorem countDrop {outcome : FrameOutcome}
    (dropped : outcome = .superseded ∨ outcome = .undelivered) :
    Tallied statistics.countDrop (ledger ++ [(some outcome, frame)]) := by
  refine ⟨?_, ?_, ?_⟩
  · show statistics.ingressFramesSent = _
    rw [tallied.sent, Ledger.total_append]
    rcases dropped with rfl | rfl <;> rfl
  · show statistics.ingressPayloadBytesSent = _
    rw [tallied.bytes, Ledger.payloadBytes, Ledger.payloadBytes, Ledger.frames_append]
    rcases dropped with rfl | rfl <;> simp [Ledger.frames]
  · show saturatingAdd statistics.ingressRecoveryOpusDrops 1 = _
    rw [tallied.dropped, saturatingAdd_min, Ledger.drops, Ledger.drops, Ledger.total_append,
      Ledger.total_append]
    rcases dropped with rfl | rfl
    · exact congrArg (min · u64Max) (Nat.add_right_comm _ _ _)
    · rfl

end Tallied

/-! ### The frame in hand -/

/-- The frame the gateway has received and is not done with. -/
def Phase.inHand : Phase → Option (Nat × EncodedAudioFrame)
  | .holding bus frame => some (bus, frame)
  | .wanted bus frame => some (bus, frame)
  | .sending bus frame _ _ => some (bus, frame)
  | _ => none

/-- What a note says has become of a frame of a bus. -/
def GatewayNote.accountOn (bus : Nat) :
    GatewayNote → Option (Option FrameOutcome × EncodedAudioFrame)
  | .settled other outcome frame => if other = bus then some (some outcome, frame) else none
  | .unencodable other frame => if other = bus then some (none, frame) else none
  | _ => none

/-- The frames of a bus that the gateway is done with, oldest first. -/
def GatewayWorld.ledger (bus : Nat) (world : GatewayWorld) : Ledger :=
  world.transmitted (GatewayNote.accountOn bus)

variable {bus : Nat} {world start : GatewayWorld} {frame : EncodedAudioFrame} {phase : Phase}

theorem mem_ledger {outcome : Option FrameOutcome}
    (member : frame ∈ (world.ledger bus).frames outcome) :
    ∃ entry ∈ world.notes, entry.accountOn bus = some (outcome, frame) := by
  obtain ⟨⟨found, _⟩, account, rfl⟩ := List.mem_map.mp member
  obtain ⟨listed, same⟩ := List.mem_filter.mp account
  obtain ⟨entry, entered, accounts⟩ := List.mem_filterMap.mp listed
  have equal : found = outcome := eq_of_beq same
  exact ⟨entry, List.mem_reverse.mp entered, equal ▸ accounts⟩

/-- A frame with an outcome has a note of it. -/
theorem settled_mem_notes {outcome : FrameOutcome}
    (member : frame ∈ (world.ledger bus).frames (some outcome)) :
    .settled bus outcome frame ∈ world.notes := by
  obtain ⟨entry, entered, accounts⟩ := mem_ledger member
  cases entry with
  | settled other found settled =>
    rw [GatewayNote.accountOn] at accounts
    split at accounts
    next same =>
      cases accounts
      rwa [← same]
    next => cases accounts
  | unencodable =>
    rw [GatewayNote.accountOn] at accounts
    split at accounts <;> cases accounts
  | _ => cases accounts

/-- So has a frame that was refused. -/
theorem unencodable_mem_notes (member : frame ∈ (world.ledger bus).frames none) :
    .unencodable bus frame ∈ world.notes := by
  obtain ⟨entry, entered, accounts⟩ := mem_ledger member
  cases entry with
  | unencodable other refused =>
    rw [GatewayNote.accountOn] at accounts
    split at accounts
    next same =>
      cases accounts
      rwa [← same]
    next => cases accounts
  | settled =>
    rw [GatewayNote.accountOn] at accounts
    split at accounts <;> cases accounts
  | _ => cases accounts

/-- While the gateway is in the loop, every bus has a connection. -/
def Phase.Connected (gateway : Gateway) : Phase → Prop
  | .attached | .resuming _ =>
    ∀ bus < gateway.buses, (gateway.active bus).connection.isSome = true
  | .holding held _ | .wanted held _ | .sending held _ _ _ =>
    held < gateway.buses ∧ ∀ bus < gateway.buses, (gateway.active bus).connection.isSome = true
  | .installing _ _ next rest =>
    (∀ bus < next, (gateway.active bus).connection.isSome = true) ∧
      next + rest.length = gateway.buses
  | _ => True

/-- What ties a stream to the relay. -/
def ActiveIngress.link (active : ActiveIngress) : Option IngressConnection × Nat :=
  (active.connection, active.channels)

theorem isSome_of_link {first second : ActiveIngress} (same : first.link = second.link) :
    first.connection.isSome = second.connection.isSome :=
  congrArg (·.1.isSome) same

theorem link_settleFrame (bus : Nat) (outcome : FrameOutcome) (frame : EncodedAudioFrame)
    (world : GatewayWorld) (other : Nat) :
    ((settleFrame bus outcome frame world).publisher.active other).link =
      (world.publisher.active other).link :=
  view_settleFrame ActiveIngress.link (fun _ _ => rfl) bus outcome frame world other

theorem Reach.connected (initially : Phase.attached.Connected start.publisher)
    (reached : Reach start phase world) : phase.Connected world.publisher := by
  refine reached.invariant (motive := fun phase world => phase.Connected world.publisher)
    initially (fun _ _ _ _ connected => connected) ?_
  intro phase world next after _ connected step
  cases step with
  | receive _ bus _ _ inside => exact ⟨inside, connected⟩
  | disconnect =>
    intro bus inside
    refine (view_setActive (·.connection.isSome) ?_ bus).trans (connected bus inside)
    rfl
  | cancelled | superseded | stale | flushed =>
    intro bus inside
    refine (isSome_of_link ?_).trans (connected.2 bus inside)
    exact link_settleFrame _ _ _ world bus
  | admitAll _ _ _ complete =>
    refine ⟨fun _ impossible => absurd impossible (Nat.not_lt_zero _), ?_⟩
    exact (Nat.zero_add _).trans complete
  | install _ plan renewed bus connection rest =>
    refine ⟨fun other before => ?_, ?_⟩
    · by_cases equal : other = bus
      · subst equal
        simp [GatewayWorld.install, updateGateway, World.note, Gateway.setActive,
          ActiveIngress.install]
      · have earlier : other < bus := Nat.lt_of_le_of_ne (Nat.le_of_lt_succ before) equal
        simpa [GatewayWorld.install, updateGateway, World.note, Gateway.setActive, equal] using
          connected.1 other earlier
    · exact (Nat.add_right_comm bus 1 rest.length).trans
        ((Nat.add_assoc bus rest.length 1).trans connected.2)
  | adopt =>
    intro bus inside
    exact connected.1 bus (Nat.lt_of_lt_of_eq inside connected.2.symm)
  | resume | want | pack | seeUnrevoked | seeCurrent | seeUnexpired | unguarded | write | socket =>
    exact connected
  | _ => trivial

/-! ### The account of a run -/

/-- What was received on a bus is its ledger and the frame in hand, and its counters are the totals
of its ledger. -/
structure Accounted (phase : Phase) (world : GatewayWorld) : Prop where
  taken : ∀ bus, (world.shared.pipes bus).taken =
    (world.ledger bus).map Prod.snd ++ World.inHandOn bus phase.inHand
  tallied : ∀ bus, Tallied (world.publisher.active bus).statistics (world.ledger bus)

theorem ledger_settleFrame (bus : Nat) (outcome : FrameOutcome) (frame : EncodedAudioFrame)
    (world : GatewayWorld) (other : Nat) :
    (settleFrame bus outcome frame world).ledger other =
      world.ledger other ++ if bus = other then [(some outcome, frame)] else [] := by
  have notes : (settleFrame bus outcome frame world).notes =
      [.settled bus outcome frame] ++ world.notes := notes_settleFrame bus outcome frame world
  rw [ledger, World.transmitted_of_notes notes, ledger, List.reverse_singleton]
  by_cases equal : bus = other <;> simp [GatewayNote.accountOn, equal]

/-- The streams after an outcome: only the bus of the frame has counted it. -/
theorem statistics_settleFrame_of_ne {other : Nat} (differs : bus ≠ other) (outcome : FrameOutcome)
    (frame : EncodedAudioFrame) (world : GatewayWorld) :
    (settleFrame bus outcome frame world).publisher.active other =
      world.publisher.active other := by
  cases outcome <;>
    simp [settleFrame, World.updatePipe, updateGateway, World.note, Gateway.setActive,
      Ne.symm differs]

theorem Tallied.settleFrame
    (tallied : Tallied (world.publisher.active bus).statistics (world.ledger bus))
    (outcome : FrameOutcome) (frame : EncodedAudioFrame) :
    Tallied ((settleFrame bus outcome frame world).publisher.active bus).statistics
      (world.ledger bus ++ [(some outcome, frame)]) := by
  cases outcome with
  | cancelled => exact tallied.uncounted (.inr (.inl rfl))
  | stale => exact tallied.uncounted (.inr (.inr rfl))
  | superseded =>
    simpa [GatewayWorld.settleFrame, updateGateway, World.note, Gateway.setActive,
      ActiveIngress.count] using tallied.countDrop (.inl rfl)
  | undelivered =>
    simpa [GatewayWorld.settleFrame, updateGateway, World.note, Gateway.setActive,
      ActiveIngress.count] using tallied.countDrop (.inr rfl)
  | sent =>
    simpa [GatewayWorld.settleFrame, updateGateway, World.note, Gateway.setActive,
      ActiveIngress.count] using tallied.countSent

namespace Accounted

variable {phase next : Phase} {world after : GatewayWorld}

/-- Nothing is received and nothing decided. -/
theorem keep (accounted : Accounted phase world) (hand : next.inHand = phase.inHand)
    (taken : ∀ bus, (after.shared.pipes bus).taken = (world.shared.pipes bus).taken)
    (entries : List GatewayNote) (notes : after.notes = entries ++ world.notes)
    (silent : ∀ bus, entries.filterMap (GatewayNote.accountOn bus) = [])
    (counters : ∀ bus, (after.publisher.active bus).statistics.delivery =
      (world.publisher.active bus).statistics.delivery) : Accounted next after := by
  have same : ∀ bus, after.ledger bus = world.ledger bus := by
    intro bus
    rw [ledger, World.transmitted_of_notes notes, List.filterMap_reverse, silent bus,
      List.reverse_nil, List.append_nil, ledger]
  refine ⟨fun bus => ?_, fun bus => ?_⟩
  · rw [taken, same, hand]
    exact accounted.taken bus
  · rw [same]
    exact (accounted.tallied bus).congr (counters bus)

variable {frame : EncodedAudioFrame}

theorem receive (accounted : Accounted .attached world) {bus : Nat} {rest : List EncodedAudioFrame}
    (head : (world.shared.pipes bus).encoded = frame :: rest) :
    Accounted (.holding bus frame) (GatewayWorld.receive bus world).2 := by
  refine ⟨fun other => ?_, accounted.tallied⟩
  have before := accounted.taken other
  simp only [Phase.inHand, World.inHandOn, List.append_nil] at before ⊢
  show _ = (world.ledger other).map Prod.snd ++ _
  by_cases equal : bus = other
  · subst equal
    simpa [GatewayWorld.receive, World.updatePipe, Pipe.tryRecv, head] using before
  · simpa [GatewayWorld.receive, World.updatePipe, equal, Ne.symm equal] using before

/-- The frame in hand gets an outcome. -/
theorem settle {bus : Nat} (accounted : Accounted phase world)
    (hand : phase.inHand = some (bus, frame)) (outcome : FrameOutcome)
    (empty : next.inHand = none) : Accounted next (settleFrame bus outcome frame world) := by
  refine ⟨fun other => ?_, fun other => ?_⟩
  · rw [settleFrame_taken, accounted.taken other, ledger_settleFrame, hand, empty]
    by_cases equal : bus = other <;> simp [World.inHandOn, equal]
  · rw [ledger_settleFrame]
    by_cases equal : bus = other
    · subst equal
      rw [if_pos rfl]
      exact (accounted.tallied bus).settleFrame outcome frame
    · rw [if_neg equal, List.append_nil, statistics_settleFrame_of_ne equal]
      exact accounted.tallied other

/-- The frame in hand is refused. -/
theorem refuse {bus : Nat} (accounted : Accounted phase world)
    (hand : phase.inHand = some (bus, frame)) (empty : next.inHand = none) :
    Accounted next (world.note (.unencodable bus frame)) := by
  have ledger : ∀ other, GatewayWorld.ledger other (world.note (.unencodable bus frame)) =
      world.ledger other ++ if bus = other then [(none, frame)] else [] := by
    intro other
    have notes : (world.note (.unencodable bus frame)).notes =
        [.unencodable bus frame] ++ world.notes := rfl
    rw [GatewayWorld.ledger, World.transmitted_of_notes notes, GatewayWorld.ledger,
      List.reverse_singleton]
    by_cases equal : bus = other <;> simp [GatewayNote.accountOn, equal]
  refine ⟨fun other => ?_, fun other => ?_⟩
  · show (world.shared.pipes other).taken = _
    rw [accounted.taken other, ledger, hand, empty]
    by_cases equal : bus = other <;> simp [World.inHandOn, equal]
  · rw [ledger]
    show Tallied (world.publisher.active other).statistics _
    by_cases equal : bus = other
    · rw [if_pos equal]
      exact (accounted.tallied other).uncounted (.inl rfl)
    · rw [if_neg equal, List.append_nil]
      exact accounted.tallied other

theorem step (accounted : Accounted phase world) (connected : phase.Connected world.publisher)
    (step : Step phase world next after) : Accounted next after := by
  cases step with
  | receive _ _ _ _ _ head => exact accounted.receive head
  | cancelled | superseded | stale | flushed | abandon => exact accounted.settle rfl _ rfl
  | unencodable => exact accounted.refuse rfl rfl
  | disconnected _ bus frame missing =>
    have present := connected.2 bus connected.1
    rw [missing] at present
    cases present
  | disconnect | advance | recordInputDrops =>
    refine accounted.keep rfl (fun _ => rfl) [] rfl (fun _ => rfl) ?_
    refine view_setActive (·.statistics.delivery) ?_
    rfl
  | install =>
    refine accounted.keep rfl (fun _ => rfl) [_, _] rfl (fun _ => rfl) ?_
    refine view_setActive (·.statistics.delivery) ?_
    rfl
  | foundExpired | pause | ready | prepareFails | refuse | late | admitAll | reject | stopRejected
    | revokedRejected | report | write | socket =>
    exact accounted.keep rfl (fun _ => rfl) [_] rfl (fun _ => rfl) fun _ => rfl
  | _ => exact accounted.keep rfl (fun _ => rfl) [] rfl (fun _ => rfl) fun _ => rfl

end Accounted

theorem Reach.accounted (connected : Phase.attached.Connected start.publisher)
    (initially : Accounted .attached start) (reached : Reach start phase world) :
    Accounted phase world := by
  refine reached.invariant (motive := Accounted) initially ?_ ?_
  · intro phase world action _ accounted
    refine ⟨fun bus => ?_, fun bus => ?_⟩
    · rw [World.perform_taken, accounted.taken bus, ledger, ledger, World.transmitted,
        World.transmitted, World.perform_notes]
    · rw [ledger, World.transmitted, World.perform_notes]
      exact accounted.tallied bus
  · exact fun phase world next after reached accounted step =>
      accounted.step (reached.connected connected) step

/-! ### Refused frames -/

/-- The run is ending with Protocol. -/
def Phase.Refused : Phase → Prop
  | .broken error => error = .failure .protocol
  | .ended error _ _ => error = some (.failure .protocol)
  | .finished error => error = some (.failure .protocol)
  | _ => False

def GatewayNote.isRefusal : GatewayNote → Bool
  | .unencodable .. => true
  | _ => false

/-- The frames refused so far, on any bus. -/
def GatewayWorld.refusals (world : GatewayWorld) : List GatewayNote :=
  world.notes.filter GatewayNote.isRefusal

theorem total_none_le_refusals (bus : Nat) (world : GatewayWorld) :
    (world.ledger bus).total none ≤ world.refusals.length := by
  have each : ∀ notes : List GatewayNote,
      Ledger.total (notes.filterMap (GatewayNote.accountOn bus)) none ≤
        (notes.filter GatewayNote.isRefusal).length := by
    intro notes
    induction notes with
    | nil => exact Nat.le_refl _
    | cons entry rest hypothesis =>
      cases entry with
      | settled other outcome frame =>
        by_cases same : other = bus <;>
          simpa [GatewayNote.accountOn, same, Ledger.total, Ledger.frames, List.filter_cons,
            GatewayNote.isRefusal] using hypothesis
      | unencodable other frame =>
        by_cases same : other = bus
        · simpa [GatewayNote.accountOn, same, Ledger.total, Ledger.frames, List.filter_cons,
            GatewayNote.isRefusal] using hypothesis
        · simpa [GatewayNote.accountOn, same, Ledger.total, Ledger.frames, List.filter_cons,
            GatewayNote.isRefusal] using Nat.le_succ_of_le hypothesis
      | _ => exact hypothesis
  have all := each world.notes.reverse
  rwa [List.filter_reverse, List.length_reverse] at all

/-- At most one frame is ever refused, and the run then ends with Protocol. -/
structure RefusedOnce (phase : Phase) (world : GatewayWorld) : Prop where
  single : world.refusals.length ≤ 1
  ends : world.refusals ≠ [] → phase.Refused

namespace RefusedOnce

variable {phase next : Phase} {world after : GatewayWorld}

theorem of_nil (none : world.refusals = []) : RefusedOnce phase world :=
  ⟨by simp [none], fun some => absurd none some⟩

/-- Other entries refuse nothing. -/
theorem keep (refused : RefusedOnce phase world) (entries : List GatewayNote)
    (notes : after.notes = entries ++ world.notes)
    (silent : entries.filter GatewayNote.isRefusal = []) (ends : phase.Refused → next.Refused) :
    RefusedOnce next after := by
  have same : after.refusals = world.refusals := by
    rw [GatewayWorld.refusals, notes, List.filter_append, silent, List.nil_append,
      GatewayWorld.refusals]
  refine ⟨?_, ?_⟩
  · rw [same]
    exact refused.single
  · rw [same]
    exact fun some => ends (refused.ends some)

theorem step (refused : RefusedOnce phase world) (step : Step phase world next after) :
    RefusedOnce next after := by
  cases step with
  | unencodable =>
    have before : world.refusals = [] := by
      by_contra some
      exact refused.ends some
    refine ⟨?_, fun _ => rfl⟩
    rw [GatewayWorld.refusals, World.notes_note, List.filter_cons_of_pos rfl]
    exact (congrArg (·.length + 1) before).le
  | giveUp => exact refused.keep [] rfl rfl (congrArg some)
  | recover _ error _ recovers =>
    refine refused.keep [] rfl rfl fun protocol => ?_
    have same : error = .failure .protocol := protocol
    subst same
    rcases recovers with recoverable | ⟨_, changed⟩
    · cases recoverable
    · cases changed
  | report | socket => exact refused.keep [_] rfl rfl id
  | pauseForGood | recordInputDrops | closeDown => exact refused.keep [] rfl rfl id
  | install => exact refused.keep [_, _] rfl rfl False.elim
  | foundExpired | cancelled | superseded | stale | write | flushed | abandon | pause | ready
    | prepareFails | refuse | late | admitAll | reject | stopRejected | revokedRejected =>
    exact refused.keep [_] rfl rfl False.elim
  | _ => exact refused.keep [] rfl rfl False.elim

end RefusedOnce

theorem Reach.refusedOnce (initially : start.refusals = []) (reached : Reach start phase world) :
    RefusedOnce phase world := by
  refine reached.invariant (motive := RefusedOnce) (.of_nil initially) ?_
    fun _ _ _ _ _ refused step => refused.step step
  intro phase world action _ refused
  exact refused.keep [] (world.perform_notes action) rfl id

/-! ### Why a frame can be refused -/

/-- Connections for consecutive buses, each with the number of channels of its bus. -/
def Matched (channels : Nat → Nat) : Nat → List IngressConnection → Prop
  | _, [] => True
  | bus, connection :: rest => connection.channels = channels bus ∧ Matched channels (bus + 1) rest

theorem Matched.append {channels : Nat → Nat} {connection : IngressConnection}
    {connections : List IngressConnection} (matched : Matched channels bus connections)
    (next : connection.channels = channels (bus + connections.length)) :
    Matched channels bus (connections ++ [connection]) := by
  induction connections generalizing bus with
  | nil => exact ⟨next, trivial⟩
  | cons first rest hypothesis =>
    refine ⟨matched.1, hypothesis matched.2 ?_⟩
    rw [next, List.length_cons, Nat.add_right_comm, Nat.add_assoc]

/-- The connections in hand have the channels of their buses. -/
def Phase.Matches (channels : Nat → Nat) : Phase → Prop
  | .admitting round => Matched channels 0 round.connections
  | .dialling round _ layout _ =>
    Matched channels 0 round.connections ∧ layout = channels round.bus
  | .offered round connection | .checking round connection =>
    Matched channels 0 round.connections ∧ connection.channels = channels round.bus
  | .installing _ _ bus rest => Matched channels bus rest
  | _ => True

/-- A refusal is one of `encode_packet`, on a bus of the group. -/
def GatewayNote.Justified (buses : Nat) (channels : Nat → Nat) : GatewayNote → Prop
  | .unencodable bus frame =>
    bus < buses ∧ ∃ message, encodePacket frame (channels bus) = .error message
  | _ => True

/-- Streams and connections keep the number of channels they began with. -/
structure Channelled (buses : Nat) (channels : Nat → Nat) (phase : Phase) (world : GatewayWorld) :
    Prop where
  streams : ∀ bus, (world.publisher.active bus).channels = channels bus
  installed : ∀ bus connection, (world.publisher.active bus).connection = some connection →
    connection.channels = channels bus
  inHand : phase.Matches channels
  justified : ∀ entry ∈ world.notes, entry.Justified buses channels

namespace Channelled

variable {buses : Nat} {channels : Nat → Nat} {phase next : Phase} {world after : GatewayWorld}

/-- The streams keep their connections, and nothing is refused. -/
theorem keep (channelled : Channelled buses channels phase world)
    (links : ∀ bus, (after.publisher.active bus).link = (world.publisher.active bus).link)
    (inHand : next.Matches channels) (entries : List GatewayNote)
    (notes : after.notes = entries ++ world.notes)
    (silent : ∀ entry ∈ entries, entry.Justified buses channels) :
    Channelled buses channels next after := by
  refine ⟨fun bus => ?_, fun bus connection has => ?_, inHand, fun entry member => ?_⟩
  · exact (congrArg Prod.snd (links bus)).trans (channelled.streams bus)
  · exact channelled.installed bus connection ((congrArg Prod.fst (links bus)).symm.trans has)
  · rw [notes] at member
    rcases List.mem_append.mp member with new | old
    · exact silent entry new
    · exact channelled.justified entry old

theorem install (channelled : Channelled buses channels phase world) {bus revision : Nat}
    {connection : IngressConnection} {renewed : Bool} (inHand : next.Matches channels)
    (fitting : connection.channels = channels bus) :
    Channelled buses channels next
      (GatewayWorld.install bus connection revision renewed world) := by
  refine ⟨fun other => ?_, fun other found has => ?_, inHand, fun entry member => ?_⟩
  · rw [← channelled.streams other]
    by_cases equal : other = bus
    · subst equal
      simp [GatewayWorld.install, updateGateway, World.note, Gateway.setActive,
        ActiveIngress.install]
    · simp [GatewayWorld.install, updateGateway, World.note, Gateway.setActive, equal]
  · by_cases equal : other = bus
    · subst equal
      have same : connection = found := by
        simpa [GatewayWorld.install, updateGateway, World.note, Gateway.setActive,
          ActiveIngress.install] using has
      rw [← same]
      exact fitting
    · refine channelled.installed other found ?_
      simpa [GatewayWorld.install, updateGateway, World.note, Gateway.setActive, equal] using has
  · rcases List.mem_cons.mp member with rfl | member
    · trivial
    · rcases List.mem_cons.mp member with rfl | member
      · trivial
      · exact channelled.justified entry member

theorem step (channelled : Channelled buses channels phase world)
    (connected : phase.Connected world.publisher) (size : world.publisher.buses = buses)
    (step : Step phase world next after) : Channelled buses channels next after := by
  have quiet : ∀ entry ∈ ([] : List GatewayNote), entry.Justified buses channels :=
    fun _ impossible => nomatch impossible
  have single : ∀ entry : GatewayNote, entry.Justified buses channels →
      ∀ other ∈ [entry], other.Justified buses channels := by
    intro entry justified other member
    rw [List.mem_singleton.mp member]
    exact justified
  have inHand := channelled.inHand
  cases step with
  | unencodable _ bus frame connection message installed refused =>
    refine channelled.keep (fun _ => rfl) trivial [_] rfl
      (single _ ⟨size ▸ connected.1, message, ?_⟩)
    rw [← channelled.installed bus connection installed]
    exact refused
  | disconnect | recordInputDrops =>
    refine channelled.keep (view_setActive _ ?_) trivial [] rfl quiet
    rfl
  | advance =>
    refine channelled.keep (view_setActive _ ?_) inHand [] rfl quiet
    rfl
  | cancelled | superseded | stale | flushed | abandon =>
    exact channelled.keep (link_settleFrame _ _ _ world) trivial [_] rfl (single _ trivial)
  | install => exact channelled.install inHand.2 inHand.1
  | detach | closeDown =>
    exact ⟨channelled.streams, fun _ _ impossible => (nomatch impossible), trivial,
      channelled.justified⟩
  | begin => exact channelled.keep (fun _ => rfl) trivial [] rfl quiet
  | dial _ round =>
    exact channelled.keep (fun _ => rfl) ⟨inHand, channelled.streams round.bus⟩ [] rfl quiet
  | ready => exact channelled.keep (fun _ => rfl) inHand [_] rfl (single _ trivial)
  | prepared => exact channelled.keep (fun _ => rfl) inHand [] rfl quiet
  | accept _ round connection =>
    refine channelled.keep (fun _ => rfl) (inHand.1.append ?_) [] rfl quiet
    rw [Nat.zero_add]
    exact inHand.2
  | admitAll | socket => exact channelled.keep (fun _ => rfl) inHand [_] rfl (single _ trivial)
  | foundExpired | write | pause | prepareFails | refuse | late | reject | stopRejected
    | revokedRejected | report =>
    exact channelled.keep (fun _ => rfl) trivial [_] rfl (single _ trivial)
  | _ => exact channelled.keep (fun _ => rfl) trivial [] rfl quiet

end Channelled

theorem Reach.channelled {channels : Nat → Nat}
    (connected : Phase.attached.Connected start.publisher)
    (initially : Channelled start.publisher.buses channels .attached start)
    (reached : Reach start phase world) :
    Channelled start.publisher.buses channels phase world := by
  refine reached.invariant (motive := Channelled start.publisher.buses channels) initially ?_ ?_
  · intro phase world action _ channelled
    exact channelled.keep (fun _ => rfl) channelled.inHand [] (world.perform_notes action)
      fun _ impossible => nomatch impossible
  · exact fun phase world next after reached channelled step =>
      channelled.step (reached.connected connected) reached.buses step

/-! ### What the publisher has counted -/

/-- The threads of a bus leave alone what the publisher counts. -/
theorem Course.counts_foldl {moves : List PipeMove} (course : Course)
    (threads : ∀ move ∈ moves, move.ofThread = true) :
    (moves.foldl move course).cancelledTaken = course.cancelledTaken ∧
      (moves.foldl move course).staleTaken = course.staleTaken := by
  induction moves generalizing course with
  | nil => exact ⟨rfl, rfl⟩
  | cons first rest hypothesis =>
    obtain ⟨thread, others⟩ := List.forall_mem_cons.mp threads
    obtain ⟨cancelled, stale⟩ := hypothesis (course.move first) others
    cases first with
    | feed | encode => exact ⟨cancelled, stale⟩
    | receive | countCancelled | countStale | hangUp => cases thread

theorem GatewayWorld.ledger_of_journal {after : GatewayWorld} {entries : List GatewayNote}
    (journal : after.journal = entries.map .note ++ world.journal) (bus : Nat) :
    after.ledger bus =
      world.ledger bus ++ entries.reverse.filterMap (GatewayNote.accountOn bus) := by
  have notes : after.notes = entries ++ world.notes := by
    rw [World.notes, journal, List.filterMap_append, List.filterMap_map]
    simp [World.notes]
  exact World.transmitted_of_notes notes

/-- A bus has taken its course, and what its publisher has counted there is in the ledger. -/
def Charged (layout : BusLayout) (bus : Nat) (world : GatewayWorld) : Prop :=
  ∃ moves, World.Charts layout bus moves world ∧
    (Course.run layout moves).cancelledTaken = (world.ledger bus).total (some .cancelled) ∧
    (Course.run layout moves).staleTaken = (world.ledger bus).total (some .stale)

namespace Charged

variable {layout : BusLayout} {bus : Nat} {world after : GatewayWorld}

variable (charged : Charged layout bus world)

include charged

theorem perform (action : Action) : Charged layout bus (world.perform action) := by
  obtain ⟨moves, charts, cancelled, stale⟩ := charged
  obtain ⟨more, threads, charts⟩ := charts.perform action
  have counts := (Course.run layout moves).counts_foldl threads
  rw [← Course.run_append] at counts
  have ledger : GatewayWorld.ledger bus (world.perform action) = world.ledger bus := by
    rw [GatewayWorld.ledger, World.transmitted, World.perform_notes, GatewayWorld.ledger,
      World.transmitted]
  exact ⟨moves ++ more, charts, by rw [counts.1, cancelled, ledger],
    by rw [counts.2, stale, ledger]⟩

/-- The publisher leaves the bus alone, and of the frames it is done with it counts none there. -/
theorem keep (entries : List GatewayNote)
    (journal : after.journal = entries.map .note ++ world.journal)
    (pipe : after.shared.pipes bus = world.shared.pipes bus)
    (uncounted : ∀ entry ∈ entries, ∀ account, entry.accountOn bus = some account →
      account.1 ≠ some .cancelled ∧ account.1 ≠ some .stale) :
    Charged layout bus after := by
  obtain ⟨moves, charts, cancelled, stale⟩ := charged
  have ledger := ledger_of_journal journal bus
  have none : ∀ outcome, (outcome = .cancelled ∨ outcome = .stale) →
      Ledger.total (entries.reverse.filterMap (GatewayNote.accountOn bus)) (some outcome) = 0 := by
    intro outcome counted
    simp only [Ledger.total, Ledger.frames, List.length_map, List.length_eq_zero_iff,
      List.filter_eq_nil_iff, List.mem_filterMap, List.mem_reverse, beq_iff_eq]
    rintro account ⟨entry, member, same⟩ equal
    obtain ⟨first, second⟩ := uncounted entry member account same
    rcases counted with rfl | rfl
    · exact first equal
    · exact second equal
  refine ⟨moves, charts.kept entries journal pipe, ?_, ?_⟩
  · rw [ledger, Ledger.total_append, none _ (.inl rfl), cancelled, Nat.add_zero]
  · rw [ledger, Ledger.total_append, none _ (.inr rfl), stale, Nat.add_zero]

/-- The publisher serves the bus, and counts there what it is done with. -/
theorem serve (entries : List GatewayNote)
    (journal : after.journal = entries.map .note ++ world.journal) (move : PipeMove)
    (served : move.ofPublisher = true)
    (reaches : ∀ course : Course, course.pipe = world.shared.pipes bus →
      (course.move move).pipe = after.shared.pipes bus)
    (counts : ∀ course : Course,
      (course.move move).cancelledTaken = course.cancelledTaken +
        Ledger.total (entries.reverse.filterMap (GatewayNote.accountOn bus)) (some .cancelled) ∧
      (course.move move).staleTaken = course.staleTaken +
        Ledger.total (entries.reverse.filterMap (GatewayNote.accountOn bus)) (some .stale)) :
    Charged layout bus after := by
  obtain ⟨moves, charts, cancelled, stale⟩ := charged
  have ledger := ledger_of_journal journal bus
  refine ⟨moves ++ [move], charts.moved entries journal move served reaches, ?_, ?_⟩
  · rw [Course.run_concat, (counts _).1, cancelled, ledger, Ledger.total_append]
  · rw [Course.run_concat, (counts _).2, stale, ledger, Ledger.total_append]

theorem receive (received : Nat) : Charged layout bus (GatewayWorld.receive received world).2 := by
  by_cases same : received = bus
  · subst same
    refine charged.serve [] rfl .receive rfl (fun course pipe => ?_) fun _ => ⟨rfl, rfl⟩
    simp [Course.move, pipe, GatewayWorld.receive, World.updatePipe]
  · refine charged.keep [] rfl ?_ (by simp)
    simp [GatewayWorld.receive, World.updatePipe, Ne.symm same]

theorem settle (settled : Nat) (outcome : FrameOutcome)
    (frame : EncodedAudioFrame) : Charged layout bus (settleFrame settled outcome frame world) := by
  have journal : (settleFrame settled outcome frame world).journal =
      [GatewayNote.settled settled outcome frame].map .note ++ world.journal := by
    cases outcome <;> rfl
  by_cases same : settled = bus
  · subst same
    cases outcome with
    | cancelled =>
      refine charged.serve _ journal .countCancelled rfl (fun course pipe => ?_) fun _ => ?_
      · simp [Course.move, pipe, settleFrame, World.updatePipe, World.note]
      · simp [Course.move, GatewayNote.accountOn, Ledger.total, Ledger.frames]
    | stale =>
      refine charged.serve _ journal (.countStale 1) rfl (fun course pipe => ?_) fun _ => ?_
      · simp [Course.move, pipe, settleFrame, World.updatePipe, World.note]
      · simp [Course.move, GatewayNote.accountOn, Ledger.total, Ledger.frames]
    | superseded | undelivered | sent =>
      exact charged.keep _ journal rfl (by simp [GatewayNote.accountOn])
  · refine charged.keep _ journal ?_ (by simp [GatewayNote.accountOn, same])
    cases outcome with
    | cancelled | stale => simp [settleFrame, World.updatePipe, World.note, Ne.symm same]
    | superseded | undelivered | sent => rfl

theorem step {phase next : Phase}
    (step : Step phase world next after) : Charged layout bus after := by
  cases step with
  | receive => exact charged.receive _
  | cancelled | superseded | stale | flushed | abandon => exact charged.settle _ _ _
  | unencodable =>
    exact charged.keep [_] rfl rfl (by simp [GatewayNote.accountOn])
  | install => exact charged.keep [_, _] rfl rfl (by simp [GatewayNote.accountOn])
  | foundExpired | pause | ready | prepareFails | refuse | late | admitAll | reject | stopRejected
    | revokedRejected | report | write | socket =>
    exact charged.keep [_] rfl rfl (by simp [GatewayNote.accountOn])
  | _ => exact charged.keep [] rfl rfl (by simp)

end Charged

/-! ### Launched runs -/

namespace Launch

variable {recovery : Option PreparedIngressRecovery} (launch : Launch recovery)

theorem connected_world : Phase.attached.Connected launch.world.publisher := by
  intro bus inside
  rw [launch.active_connection (launch.buses_eq ▸ inside)]
  rfl

theorem ledger_world (bus : Nat) : launch.world.ledger bus = [] :=
  launch.transmitted_world _ fun _ _ _ => rfl

theorem accounted_world : Accounted .attached launch.world := by
  refine ⟨fun bus => ?_, fun bus => ?_⟩
  · rw [launch.ledger_world]
    rfl
  · rw [launch.ledger_world]
    simp only [world, Gateway.start]
    split <;> exact ⟨rfl, rfl, rfl⟩

theorem charts_world (bus : Nat) :
    World.Charts (launch.lane bus).toBusLayout bus [] launch.world := by
  rw [World.Charts, launch.pipeEvents_world]
  exact ⟨rfl, rfl, rfl, rfl, rfl, rfl⟩

/-- Wherever a launched run stands, its buses have taken their courses, and what its gateway has
counted is in the ledger. -/
theorem charged {phase : Phase} {world : GatewayWorld} (reached : Reach launch.world phase world)
    (bus : Nat) : Charged (launch.lane bus).toBusLayout bus world := by
  refine reached.invariant (motive := fun _ world =>
    Charged (launch.lane bus).toBusLayout bus world) ?_ ?_ ?_
  · exact ⟨[], launch.charts_world bus, by rw [launch.ledger_world]; rfl,
      by rw [launch.ledger_world]; rfl⟩
  · exact fun _ _ action _ charged => charged.perform action
  · exact fun _ _ _ _ _ charged step => charged.step step

theorem refusals_world : launch.world.refusals = [] := by
  rw [refusals, List.filter_eq_nil_iff]
  intro entry member
  obtain ⟨_, _, _, rfl⟩ := launch.mem_notes_world.mp member
  exact Bool.false_ne_true

/-- The number of channels of a stream. -/
def channels (bus : Nat) : Nat := (launch.world.publisher.active bus).channels

theorem channels_supported {bus : Nat} (inside : bus < launch.lanes.length) :
    launch.channels bus = 1 ∨ launch.channels bus = 2 := by
  have lane : launch.channels bus = (launch.lanes[bus]).channels := by
    simp [channels, world, Gateway.start, connections, Lane.connection, inside]
  rw [lane]
  exact (launch.lanes[bus]).supported

theorem channelled_world :
    Channelled launch.world.publisher.buses launch.channels .attached launch.world := by
  refine ⟨fun _ => rfl, fun bus connection has => ?_, trivial, fun entry member => ?_⟩
  · simp only [channels, world, Gateway.start] at has ⊢
    split at has
    · cases has
      rfl
    · cases has
  · obtain ⟨_, _, _, rfl⟩ := launch.mem_notes_world.mp member
    trivial

variable (schedule : List Turn)

/-- The frames of a ledger are in the order of encoding. -/
theorem ledger_sublist (bus : Nat) :
    (((launch.last schedule).ledger bus).map Prod.snd).Sublist
      ((launch.last schedule).encodedOn bus) := by
  obtain ⟨phase, reached⟩ := launch.reached schedule
  have accounted := reached.accounted launch.connected_world launch.accounted_world
  refine List.Sublist.trans ?_ (launch.numbered schedule bus).taken_sublist
  rw [accounted.taken bus]
  exact List.sublist_append_left _ _

/-- The counter of sent frames never reaches its limit: the sample clock runs out first. -/
theorem sent_le (bus : Nat) : ((launch.last schedule).ledger bus).total (some .sent) ≤ u64Max := by
  obtain ⟨phase, reached⟩ := launch.reached schedule
  have packed := (reached.packed fun entry member => by
    obtain ⟨_, _, _, rfl⟩ := launch.mem_notes_world.mp member
    trivial).2
  have numbered := launch.numbered schedule bus
  have kept : (((launch.last schedule).ledger bus).frames (some .sent)).Sublist
      ((launch.last schedule).encodedOn bus) :=
    (Ledger.frames_sublist _ _).trans (launch.ledger_sublist schedule bus)
  have small : ∀ number ∈ (((launch.last schedule).ledger bus).frames (some .sent)).map
      EncodedAudioFrame.number, number < u64Max := by
    intro number listed
    obtain ⟨frame, sent, rfl⟩ := List.mem_map.mp listed
    obtain ⟨packet, encodes⟩ : ∃ packet, Encodes packet frame := packed _ (settled_mem_notes sent)
    obtain ⟨stamp, fits⟩ := stamp_of_encodes numbered (kept.subset sent) encodes
    rw [stamp] at fits
    unfold opusFrameSamples at fits
    unfold u64Max
    omega
  have few := Subsequence.length_le_of_increasing (numbered.enumerated.increasing kept) small
  rwa [List.length_map] at few

end Launch

/-- What the encoder of a bus has counted as cancelled. -/
def cancelledIn (events : List PipeEvent) : Nat :=
  (disposedIn events).times .cancelledFrame + (disposedIn events).times .cancelledPacket +
    (disposedIn events).times .cancelledEncoded

/-- What the gateway has counted as cancelled and as stale is in the ledger, and the encoder counts
as cancelled what its events say. -/
theorem Charged.counted {layout : BusLayout} (charged : Charged layout bus world) :
    (world.shared.pipes bus).counters.cancelledOutputFrames =
        shown ((world.ledger bus).total (some .cancelled) +
          cancelledIn (World.pipeEvents bus world.journal)) ∧
      (world.shared.pipes bus).counters.publisherStaleDrops =
        shown ((world.ledger bus).total (some .stale)) := by
  obtain ⟨moves, charts, cancelled, stale⟩ := charged
  have counters := (Course.run_accounts layout moves).1.counters
  rw [charts.pipe] at counters
  rw [counters, Course.tally, charts.disposed, cancelled, stale, cancelledIn]
  exact ⟨congrArg shown (by omega), rfl⟩

/-- The account of a bus when the run has returned. -/
theorem frames_conserved {recovery : Option PreparedIngressRecovery} (launch : Launch recovery)
    (schedule : List Turn) (result : IngressRunResult)
    (returns : (launch.run schedule).1 = .ok result) (bus : Nat)
    (inside : bus < launch.lanes.length) :
    ∃ statistics, result.statistics[bus]? = some statistics ∧
      ((launch.last schedule).shared.pipes bus).taken =
        ((launch.last schedule).ledger bus).map Prod.snd ∧
      ((launch.last schedule).shared.pipes bus).taken.length =
        statistics.ingressFramesSent + ((launch.last schedule).ledger bus).total (some .cancelled) +
          ((launch.last schedule).ledger bus).drops +
          ((launch.last schedule).ledger bus).total (some .stale) +
          ((launch.last schedule).ledger bus).total none ∧
      ((launch.last schedule).shared.pipes bus).counters.cancelledOutputFrames =
        shown (((launch.last schedule).ledger bus).total (some .cancelled) +
          cancelledIn (World.pipeEvents bus (launch.last schedule).journal)) ∧
      ((launch.last schedule).shared.pipes bus).counters.publisherStaleDrops =
        shown (((launch.last schedule).ledger bus).total (some .stale)) ∧
      statistics.ingressRecoveryOpusDrops = min ((launch.last schedule).ledger bus).drops u64Max ∧
      statistics.ingressPayloadBytesSent =
        min ((launch.last schedule).ledger bus).payloadBytes u64Max ∧
      ((launch.last schedule).ledger bus).total none ≤ 1 ∧
      (((launch.last schedule).ledger bus).total none ≠ 0 →
        result.error = some (.failure .protocol)) ∧
      ((∀ frame ∈ (launch.last schedule).encodedOn bus,
          1 ≤ frame.payload.length ∧ frame.payload.length ≤ maxOpusPayloadBytes) →
        ∀ frame ∈ ((launch.last schedule).ledger bus).frames none,
          2 ^ 64 ≤ opusFrameSamples * frame.number) := by
  obtain ⟨reached, statistics⟩ := launch.returned returns
  have accounted := reached.accounted launch.connected_world launch.accounted_world
  have refused := reached.refusedOnce launch.refusals_world
  have fewer := total_none_le_refusals bus (launch.last schedule)
  have taken : ((launch.last schedule).shared.pipes bus).taken =
      ((launch.last schedule).ledger bus).map Prod.snd :=
    (accounted.taken bus).trans (List.append_nil _)
  have tallied := accounted.tallied bus
  obtain ⟨cancelled, stale⟩ := (launch.charged reached bus).counted
  refine ⟨_, ?_, taken, ?_, cancelled, stale, tallied.dropped, tallied.bytes,
    fewer.trans refused.single, ?_, ?_⟩
  · rw [statistics, List.getElem?_map, List.getElem?_range, Option.map_some]
    rw [reached.buses, launch.buses_eq]
    exact inside
  · rw [taken, List.length_map, Ledger.length_eq, tallied.sent,
      min_eq_left (launch.sent_le schedule bus)]
  · intro some
    refine refused.ends fun none => some (Nat.le_zero.mp ?_)
    rw [none] at fewer
    exact fewer
  · intro payloads frame member
    have encoded : frame ∈ (launch.last schedule).encodedOn bus :=
      ((Ledger.frames_sublist _ _).trans (launch.ledger_sublist schedule bus)).subset member
    obtain ⟨stamp, duration⟩ := (launch.numbered schedule bus).stamps frame encoded
    obtain ⟨_, message, refusal⟩ :=
      (reached.channelled launch.connected_world launch.channelled_world).justified _
        (unencodable_mem_notes member)
    obtain ⟨nonempty, bounded⟩ := payloads frame encoded
    by_contra early
    have aligned : frame.rtpTime % opusFrameSamples = 0 := by
      rw [stamp, saturatingMul_of_le (Nat.le_sub_one_of_lt (Nat.not_le.mp early))]
      exact Nat.mul_mod_right _ _
    have packed := encodePacket_eq_ok.mpr ⟨launch.channels_supported inside, duration,
      List.ne_nil_of_length_pos nonempty, bounded, aligned, rfl⟩
    rw [refusal] at packed
    cases packed

/-- A packet is sent, and then the relay closes for good. -/
def closedRun : List Turn :=
  firstPacket ++ quietTurns 8 ++ { read := .ok (.close (some .policy)) } :: quietTurns 8

theorem frames_conserved_closed :
    ∃ result statistics, ((sampleLaunch 1).run closedRun).1 = .ok result ∧
      result.statistics[0]? = some statistics ∧
      (((sampleLaunch 1).last closedRun).shared.pipes 0).taken.length = 1 ∧
      statistics.ingressFramesSent = 1 := by
  have returns : ∃ result, ((sampleLaunch 1).run closedRun).1 = .ok result := by
    have ok : ((sampleLaunch 1).run closedRun).1.isOk = true := by decide +kernel
    cases ended : ((sampleLaunch 1).run closedRun).1 with
    | ok result => exact ⟨result, rfl⟩
    | error halt =>
      rw [ended] at ok
      cases ok
  obtain ⟨result, returns⟩ := returns
  obtain ⟨statistics, has, -, conserved, -⟩ :=
    frames_conserved (sampleLaunch 1) closedRun result returns 0 Nat.one_pos
  have taken : (((sampleLaunch 1).last closedRun).shared.pipes 0).taken.length = 1 := by
    decide +kernel
  have others : (((sampleLaunch 1).last closedRun).ledger 0).total (some .cancelled) = 0 ∧
      (((sampleLaunch 1).last closedRun).ledger 0).drops = 0 ∧
      (((sampleLaunch 1).last closedRun).ledger 0).total (some .stale) = 0 ∧
      (((sampleLaunch 1).last closedRun).ledger 0).total none = 0 := by
    decide +kernel
  refine ⟨result, statistics, returns, has, taken, ?_⟩
  omega

/-! ### A clock that has run out -/

/-- One bus without recovery. -/
def bareLaunch : Launch none where
  ambient := {}
  control := { credential := sampleCredential, revision := 1 }
  lanes := [default]
  context := true
  grouped := nofun
  coherent := coherent_sampleCredential
  known := nofun

/-- The codec, where it answers, answers with a payload that a packet can carry. -/
def Action.payloadFits : Action → Bool
  | .encoder _ (some payload) => 1 ≤ payload.length && payload.length ≤ maxOpusPayloadBytes
  | _ => true

/-- The first packet is sent, and the one whose stamp is the largest word takes its place. -/
def afterExhaustion : List Turn :=
  quietTurns 13 ++ { before := [.encoder 0 (some [1])] } :: quietTurns 8

def exhaustedRun : List Turn :=
  { before := exhaustClock.map (PipeAction.on 0) } :: afterExhaustion

theorem payloadFits_exhaustClock : ∀ action ∈ exhaustClock, (action.on 0).payloadFits = true := by
  have passed : ∀ action ∈ passSilence, (action.on 0).payloadFits = true := by decide
  have offered : ∀ action ∈ captureSilence ++ List.replicate 7 encodeOnce,
      (action.on 0).payloadFits = true := by decide
  intro action member
  rcases List.mem_append.mp member with many | last
  · obtain ⟨piece, replicated, inside⟩ := List.mem_flatten.mp many
    rw [List.eq_of_mem_replicate replicated] at inside
    exact passed action inside
  · exact offered action last

theorem run_exhaustedRun : bareLaunch.run exhaustedRun =
    runWithRecovery bareLaunch.connections none true ({} :: afterExhaustion)
      (bareLaunch.world.driven 0 ((default : BusLayout).pipe.drive {} exhaustClock)) := by
  rw [Launch.run, exhaustedRun, runWithRecovery_settle, World.settle_on]
  rfl

/-- Two frames are received and one is counted: the stamp of the other stands at the end of the
clock, which is no multiple of a packet, and `encode_packet` refuses it. -/
theorem exhausted_clock_refused :
    (∀ turn ∈ exhaustedRun, ∀ action ∈ turn.before, action.payloadFits = true) ∧
      (bareLaunch.run exhaustedRun).1.toOption.map (fun result =>
        (result.error, result.statistics.map fun statistics =>
          (statistics.ingressFramesSent, statistics.ingressRecoveryOpusDrops))) =
        some (some (.failure .protocol), [(1, 0)]) ∧
      ((bareLaunch.last exhaustedRun).shared.pipes 0).taken.length = 2 ∧
      (bareLaunch.last exhaustedRun).notes.any GatewayNote.isRefusal = true := by
  refine ⟨?_, ?_⟩
  · intro turn member
    rcases List.mem_cons.mp member with rfl | later
    · simpa using payloadFits_exhaustClock
    · have quiet : ∀ turn ∈ afterExhaustion, ∀ action ∈ turn.before,
          action.payloadFits = true := by decide
      exact quiet turn later
  · -- only what the publisher reads of the bus is evaluated
    rw [Launch.last, run_exhaustedRun, World.driven, Pipe.eq_of_view view_exhaustClock]
    decide +kernel

end RelayConnector
