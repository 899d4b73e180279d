/-
This file proves that both publishers transmit what is encoded at most once, in order
and under exact numbers.

The rules of forwarding are invariants of both lifecycles: a step leaves the frame in
hand alone, receives it, transmits it or drops it. Both meet in the numbering of the
pipe.
-/

import RelayConnector.Forwarding
import RelayConnector.PublishLoop

namespace RelayConnector

open Scheduled

/-! ### The WebRTC publisher -/

/-- The frame that a note writes on a bus. -/
def RtcNote.writtenOn (bus : Nat) : RtcNote → Option EncodedAudioFrame
  | .media other frame => if other = bus then some frame else none
  | _ => none

/-- The frame in hand, until it is written. -/
def RtcPhase.unwritten : RtcPhase → Option (Nat × EncodedAudioFrame)
  | .holding bus frame => some (bus, frame)
  | .cleared bus frame => some (bus, frame)
  | _ => none

section Owner

variable {Owner : Type} {phase next : RtcPhase} {world after : World Owner RtcNote}

/-- A step of the owner handles the pipes and adds notes. -/
theorem RtcStep.handled (step : RtcStep phase world next after) :
    (∀ bus, (world.shared.pipes bus).Handled (after.shared.pipes bus)) ∧
      ∃ entries : List RtcNote, after.journal = entries.map .note ++ world.journal := by
  cases step with
  | receive => exact ⟨world.handled_updatePipe fun _ => .received, [], rfl⟩
  | countStale => exact ⟨world.handled_updatePipe fun _ => .stale _, [], rfl⟩
  | discard => exact ⟨world.handled_updatePipe fun _ => .cancelled, [_], rfl⟩
  | input | candidate | drained | write => exact ⟨fun _ => .kept, [_], rfl⟩
  | clear | own | fail => exact ⟨fun _ => .kept, [], rfl⟩

/-- A step of the owner transmits at most the frame in hand. -/
theorem RtcStep.forwards (step : RtcStep phase world next after)
    (forwards : World.Forwards RtcNote.writtenOn phase.unwritten world) :
    World.Forwards RtcNote.writtenOn next.unwritten after := by
  have same : ∀ bus, (world.shared.pipes bus).taken = (world.shared.pipes bus).taken :=
    fun _ => rfl
  cases step with
  | receive _ _ bus frame rest _ head => exact forwards.receive head
  | countStale _ bus _ staleDrops =>
    exact forwards.keep (world.updatePipe_taken (Pipe.countStale staleDrops) fun _ => rfl) [] rfl
      fun _ => rfl
  | discard =>
    exact forwards.settle (world.updatePipe_taken Pipe.countCancelled fun _ => rfl) [_] rfl
      fun _ => rfl
  | write => exact forwards.write fun _ => rfl
  | input | candidate | drained => exact forwards.settle same [_] rfl fun _ => rfl
  | clear | own => exact forwards.keep same [] rfl fun _ => rfl
  | fail => exact forwards.drop

theorem RtcReach.histories {start : World Owner RtcNote} {first : Nat → Pipe}
    (initially : World.Histories (fun _ => True) first start)
    (reached : RtcReach start phase world) : World.Histories (fun _ => True) first world := by
  refine reached.invariant (motive := fun _ world => World.Histories (fun _ => True) first world)
    initially (fun _ _ action histories => histories.perform trivial action) ?_
  intro phase world next after histories step
  obtain ⟨handled, entries, journal⟩ := step.handled
  exact histories.handle handled entries journal

theorem RtcReach.forwards {start : World Owner RtcNote}
    (initially : World.Forwards RtcNote.writtenOn none start)
    (reached : RtcReach start phase world) :
    World.Forwards RtcNote.writtenOn phase.unwritten world :=
  reached.invariant
    (motive := fun phase world => World.Forwards RtcNote.writtenOn phase.unwritten world)
    initially (fun _ _ action forwards => forwards.perform action)
    fun _ _ _ _ forwards step => step.forwards forwards

end Owner

namespace RtcLaunch

theorem histories (launch : RtcLaunch) (schedule : List RtcTurn) :
    World.Histories (fun _ => True) (fun bus => (launch.lane bus).pipe) (launch.last schedule) := by
  obtain ⟨phase, reached⟩ := launch.reached schedule
  exact reached.histories fun _ => .start

/-- What was written on a bus is a subsequence of what was received. -/
theorem written_sublist (launch : RtcLaunch) (schedule : List RtcTurn) (bus : Nat) :
    ((launch.last schedule).transmitted (RtcNote.writtenOn bus)).Sublist
      ((launch.last schedule).shared.pipes bus).taken := by
  obtain ⟨phase, reached⟩ := launch.reached schedule
  have initially : World.Forwards RtcNote.writtenOn none launch.world :=
    fun _ => List.nil_sublist _
  exact (List.sublist_append_left _ _).trans (reached.forwards initially bus)

end RtcLaunch

/-! ### The gateway's packets -/

theorem map_handedOver (world : GatewayWorld) (bus : Nat) :
    (world.transmitted (GatewayNote.handedOver bus)).map Prod.fst =
      world.transmitted (GatewayNote.sentOn bus) := by
  rw [World.transmitted, List.map_filterMap]
  rfl

/-- What is handed to `ws.write` is the packet of its frame. -/
theorem Launch.encodes {recovery : Option PreparedIngressRecovery} (launch : Launch recovery)
    (schedule : List Turn) {bus : Nat} {sent : EncodedAudioFrame × List UInt8}
    (member : sent ∈ (launch.last schedule).transmitted (GatewayNote.handedOver bus)) :
    Encodes sent.2 sent.1 := by
  obtain ⟨phase, reached⟩ := launch.reached schedule
  have packed := (reached.packed fun entry member => by
    obtain ⟨_, _, _, rfl⟩ := launch.mem_notes_world.mp member
    trivial).2
  obtain ⟨entry, entered, handed⟩ := List.mem_filterMap.mp member
  cases entry with
  | media other frame packet gateway paused =>
    have encodes := packed _ (List.mem_reverse.mp entered)
    rw [GatewayNote.handedOver] at handed
    split at handed
    · cases handed
      exact encodes
    · cases handed
  | _ => cases handed

/-- A frame that has a packet has its number as sample time, however long the run: once the sample
clock has stopped at the largest word, nothing is packed any more. -/
theorem stamp_of_encodes {pipe : Pipe} {events : List PipeEvent} {frame : EncodedAudioFrame}
    {packet : List UInt8} (numbered : pipe.Numbered events) (member : frame ∈ encodedIn events)
    (encodes : Encodes packet frame) :
    frame.rtpTime = opusFrameSamples * frame.number ∧ frame.rtpTime < 2 ^ 64 := by
  obtain ⟨channels, encoded⟩ := encodes
  have stamp := (numbered.stamps frame member).1
  have aligned : frame.rtpTime % opusFrameSamples = 0 := (encodePacket_eq_ok.mp encoded).2.2.2.2.1
  refine ⟨?_, ?_⟩
  · rw [stamp, Words.saturatingMul]
    refine min_eq_left (Nat.le_of_not_lt fun beyond => ?_)
    rw [stamp, Words.saturatingMul, min_eq_right beyond.le] at aligned
    exact absurd aligned (by decide)
  · rw [stamp]
    exact Nat.lt_of_le_of_lt (min_le_right _ _) (by decide)

/-- A packet of the gateway carries its number. -/
theorem Launch.stamped {recovery : Option PreparedIngressRecovery} (launch : Launch recovery)
    (schedule : List Turn) {bus : Nat} {sent : EncodedAudioFrame × List UInt8}
    (member : sent ∈ (launch.last schedule).transmitted (GatewayNote.handedOver bus)) :
    sent.1.rtpTime = opusFrameSamples * sent.1.number ∧ sequenceField sent.2 = sent.1.number := by
  obtain ⟨channels, encoded⟩ := launch.encodes schedule member
  have numbered := launch.numbered schedule bus
  have received : sent.1 ∈ World.encodedOn bus (launch.last schedule) := by
    refine numbered.taken_sublist.subset ((launch.transmitted_sublist schedule bus).subset ?_)
    rw [← map_handedOver]
    exact List.mem_map_of_mem member
  obtain ⟨stamp, fits⟩ := stamp_of_encodes numbered received ⟨channels, encoded⟩
  refine ⟨stamp, ?_⟩
  rw [sequenceField_encodePacket encoded fits, stamp,
    Nat.mul_div_cancel_left _ (by decide : 0 < opusFrameSamples)]

/-- Both publishers, whichever of the packets handed to their sockets count as transmitted: as
long as the sample clock has not run out, they are transmitted at most once, in the order of
encoding and under exact numbers. -/
theorem transmission_in_order :
    (∀ (recovery : Option PreparedIngressRecovery) (launch : Launch recovery)
      (schedule : List Turn) (bus : Nat) (sent : List (EncodedAudioFrame × List UInt8)),
      sent.Sublist ((launch.last schedule).transmitted (GatewayNote.handedOver bus)) →
      opusFrameSamples * ((launch.last schedule).encodedOn bus).length < 2 ^ 64 →
      InOrder ((launch.last schedule).encodedOn bus) (sent.map Prod.fst) ∧
        ∀ entry ∈ sent, sequenceField entry.2 = entry.1.number) ∧
    ∀ (launch : RtcLaunch) (schedule : List RtcTurn) (bus : Nat) (sent : List EncodedAudioFrame),
      sent.Sublist ((launch.last schedule).transmitted (RtcNote.writtenOn bus)) →
      opusFrameSamples * ((launch.last schedule).encodedOn bus).length < 2 ^ 64 →
      InOrder ((launch.last schedule).encodedOn bus) sent := by
  constructor
  · intro recovery launch schedule bus sent sublist fits
    have frames : (sent.map Prod.fst).Sublist ((launch.last schedule).shared.pipes bus).taken := by
      refine List.Sublist.trans ?_ (launch.transmitted_sublist schedule bus)
      rw [← map_handedOver]
      exact sublist.map Prod.fst
    exact ⟨(launch.numbered schedule bus).inOrder frames fits,
      fun entry member => (launch.stamped schedule (sublist.subset member)).2⟩
  · intro launch schedule bus sent sublist fits
    have numbered := Pipe.Numbered.of_history (launch.lane bus).numbered_pipe
      (launch.histories schedule bus)
    exact numbered.inOrder (sublist.trans (launch.written_sublist schedule bus)) fits

/-- Four packets are encoded; the third finds the queue full and is dropped. -/
def skippedPacket : List Turn :=
  firstPacket ++ quietTurns 8 ++
    { before := passFrame 0 1 20000000 ++ passFrame 0 2 40000000 } :: quietTurns 17 ++
    { before := passFrame 0 3 60000000 } :: quietTurns 17

/-- One bus for two packets, of which the publisher takes the freshest. -/
def sampleRtcLaunch : RtcLaunch where
  ambient := {}
  control := { credential := sampleCredential, revision := 1 }
  lanes :=
    [{ (default : BusLayout) with
        encodedDepth := 2
        roomy := ⟨Nat.one_pos, Nat.two_pos⟩
        backlogPolicy := .dropStale }]

/-- The feeder of a bus without recovery takes three steps for a frame. -/
def passUngated (sequenceNumber timestampNs : Nat) : List Action :=
  List.replicate 3 (.feeder 0 (some (capturedSilence 960 sequenceNumber timestampNs))) ++
    List.replicate 8 (.encoder 0 (some [1]))

/-- Two packets are queued at once, a third after the second was written. -/
def stalePacket : List RtcTurn :=
  let quiet : RtcTurn := { poll := .ok (.timeout 1000000000) }
  List.replicate 11 quiet ++
    { quiet with before := passUngated 0 0 ++ passUngated 1 20000000 } :: List.replicate 8 quiet ++
    { quiet with before := passUngated 2 40000000 } :: List.replicate 9 quiet

theorem transmission_in_order_dropped :
    (((sampleLaunch 1).last skippedPacket).transmitted (GatewayNote.handedOver 0)).map
        (sequenceField ·.2) = [0, 1, 3] ∧
      InOrder (((sampleLaunch 1).last skippedPacket).encodedOn 0)
        ((((sampleLaunch 1).last skippedPacket).transmitted (GatewayNote.handedOver 0)).map
          Prod.fst) ∧
      ((sampleRtcLaunch.last stalePacket).transmitted (RtcNote.writtenOn 0)).map (·.rtpTime) =
        [960, 1920] ∧
      InOrder ((sampleRtcLaunch.last stalePacket).encodedOn 0)
        ((sampleRtcLaunch.last stalePacket).transmitted (RtcNote.writtenOn 0)) :=
  ⟨by decide +kernel,
    (transmission_in_order.1 _ (sampleLaunch 1) skippedPacket 0 _ (List.Sublist.refl _)
      (by decide +kernel)).1,
    by decide +kernel,
    transmission_in_order.2 sampleRtcLaunch stalePacket 0 _ (List.Sublist.refl _)
      (by decide +kernel)⟩

end RelayConnector
