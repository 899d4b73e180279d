/-
This file asks which losses a receiver can see in the packets of the gateway.

Sequence and sample clock advance with every packet encoded and with nothing else, so
they expose what was lost after encoding, and only that. PCM that the feeder or the
packetizer discards leaves no trace: the next packet carries the next number.
-/

import RelayConnector.Transmission

namespace RelayConnector

open Subsequence

/-! ### PCM lost before encoding -/

/-- The feeder drops a frame while delivery is paused or because its channel is full, or a partial
packet is discarded at a gap. -/
def Disposal.beforeEncoding : Disposal → Bool
  | .paused | .channelFull | .sequenceGap => true
  | _ => false

def PipeEvent.lostSamples : PipeEvent → List PcmSample
  | .disposed reason samples => if reason.beforeEncoding then samples else []
  | _ => []

/-- In a stretch of a history: the samples discarded in it, of frames popped by the feeder in it. -/
def lostIn (events : List PipeEvent) : List PcmSample :=
  (events.flatMap PipeEvent.lostSamples).filter fun sample =>
    sample.origin.any fun index => (receivedIn events).any (·.index == index)

/-- The packet that an event hands over on a bus. -/
def Event.handedOver (bus : Nat) : Event GatewayNote → Option (EncodedAudioFrame × List UInt8)
  | .note entry => entry.handedOver bus
  | _ => none

/-- The latest packet handed over on a bus, with what was entered after it and before it. -/
def latestPacket (bus : Nat) : List (Event GatewayNote) →
    Option (List (Event GatewayNote) × (EncodedAudioFrame × List UInt8) × List (Event GatewayNote))
  | [] => none
  | event :: rest =>
    match event.handedOver bus with
    | some sent => some ([], sent, rest)
    | none => (latestPacket bus rest).map fun (after, found) => (event :: after, found)

/-- The last two packets handed over on a bus, and what was entered between them. -/
def lastTwoPackets (bus : Nat) (journal : List (Event GatewayNote)) :
    Option ((EncodedAudioFrame × List UInt8) × List (Event GatewayNote) ×
      (EncodedAudioFrame × List UInt8)) := do
  let (_, second, rest) ← latestPacket bus journal
  let (between, first, _) ← latestPacket bus rest
  return (first, between, second)

section Packets

variable {bus : Nat} {journal between : List (Event GatewayNote)}
  {first second sent : EncodedAudioFrame × List UInt8}

theorem handedOver_of_latestPacket {after rest : List (Event GatewayNote)}
    (latest : latestPacket bus journal = some (after, sent, rest)) :
    journal.filterMap (Event.handedOver bus) =
      sent :: rest.filterMap (Event.handedOver bus) := by
  induction journal generalizing after with
  | nil => cases latest
  | cons event older hypothesis =>
    rw [latestPacket] at latest
    split at latest
    next handed =>
      cases latest
      exact List.filterMap_cons_some handed
    next silent =>
      obtain ⟨⟨later, found⟩, latest, same⟩ := Option.map_eq_some_iff.mp latest
      cases same
      rw [List.filterMap_cons_none silent, hypothesis latest]

theorem handedOver_of_lastTwoPackets
    (consecutive : lastTwoPackets bus journal = some (first, between, second)) :
    ∃ earlier, journal.filterMap (Event.handedOver bus) = second :: first :: earlier := by
  obtain ⟨⟨_, _, rest⟩, latest, older⟩ := Option.bind_eq_some_iff.mp consecutive
  obtain ⟨⟨_, _, earlier⟩, next, same⟩ := Option.bind_eq_some_iff.mp older
  cases same
  exact ⟨_, by rw [handedOver_of_latestPacket latest, handedOver_of_latestPacket next]⟩

theorem transmitted_eq_reverse (world : GatewayWorld) (bus : Nat) :
    world.transmitted (GatewayNote.handedOver bus) =
      (world.journal.filterMap (Event.handedOver bus)).reverse := by
  rw [World.transmitted, World.notes, List.filterMap_reverse, List.filterMap_filterMap]
  congr 2
  funext event
  cases event <;> rfl

end Packets

/-! ### Packets lost after encoding -/

/-- Sequence and sample clock of a packet leave a gap behind those of another. -/
def Jumps (first second : EncodedAudioFrame × List UInt8) : Prop :=
  sequenceField first.2 + 1 < sequenceField second.2 ∧
    first.1.rtpTime + opusFrameSamples < second.1.rtpTime

/-- A packet was encoded on a bus between two others and not transmitted. -/
def Omitted (world : GatewayWorld) (bus : Nat)
    (first second : EncodedAudioFrame × List UInt8) : Prop :=
  ∃ frame ∈ world.encodedOn bus, first.1.number < frame.number ∧
    frame.number < second.1.number ∧ frame ∉ world.transmitted (GatewayNote.sentOn bus)

/-- Two packets that follow each other on a bus leave a gap if and only if a packet was omitted
between them. -/
theorem jumps_iff_omitted {recovery : Option PreparedIngressRecovery} (launch : Launch recovery)
    (schedule : List Turn) {bus : Nat} {before after : List (EncodedAudioFrame × List UInt8)}
    {first second : EncodedAudioFrame × List UInt8}
    (follows : (launch.last schedule).transmitted (GatewayNote.handedOver bus) =
      before ++ first :: second :: after) :
    Jumps first second ↔ Omitted (launch.last schedule) bus first second := by
  have member : ∀ sent ∈ [first, second],
      sent ∈ (launch.last schedule).transmitted (GatewayNote.handedOver bus) := by
    intro sent either
    rw [follows]
    rcases List.mem_pair.mp either with rfl | rfl <;> simp
  obtain ⟨firstTime, firstField⟩ := launch.stamped schedule (member first (by simp))
  obtain ⟨secondTime, secondField⟩ := launch.stamped schedule (member second (by simp))
  have numbered := launch.numbered schedule bus
  have frames : (launch.last schedule).transmitted (GatewayNote.sentOn bus) =
      before.map Prod.fst ++ first.1 :: second.1 :: after.map Prod.fst := by
    rw [← map_handedOver, follows, List.map_append, List.map_cons, List.map_cons]
  have gap := numbered.enumerated.gap_eq_omitted
    ((launch.transmitted_sublist schedule bus).trans numbered.taken_sublist) frames
  have jumps : first.1.number + 1 < second.1.number ↔
      0 < (omitted EncodedAudioFrame.number ((launch.last schedule).encodedOn bus)
        ((launch.last schedule).transmitted (GatewayNote.sentOn bus)) first.1 second.1).length := by
    rw [World.encodedOn, ← gap]
    omega
  have clock : first.1.rtpTime + opusFrameSamples < second.1.rtpTime ↔
      first.1.number + 1 < second.1.number := by
    rw [firstTime, secondTime, ← Nat.mul_succ]
    exact Nat.mul_lt_mul_left (by decide)
  rw [Jumps, firstField, secondField, clock, and_self, jumps, List.length_pos_iff_exists_mem]
  simp only [mem_omitted, Omitted]

/-- PCM that is lost between two packets shows in sequence and sample clock if and only if it is
less than a packet or some packet was omitted as well. -/
theorem lost_audio_exposed_iff {recovery : PreparedIngressRecovery}
    (launch : Launch (some recovery)) (schedule : List Turn) (bus : Nat)
    (later upTo : List (Event GatewayNote))
    (split : (launch.last schedule).journal = later ++ upTo)
    (first second : EncodedAudioFrame × List UInt8) (between : List (Event GatewayNote))
    (consecutive : lastTwoPackets bus upTo = some (first, between, second)) :
    (opusFrameSamples * (launch.lane bus).channels ≤
        (lostIn (World.pipeEvents bus between)).length → Jumps first second) ↔
      ((lostIn (World.pipeEvents bus between)).length <
          opusFrameSamples * (launch.lane bus).channels ∨
        Omitted (launch.last schedule) bus first second) := by
  obtain ⟨earlier, handed⟩ := handedOver_of_lastTwoPackets consecutive
  have follows : (launch.last schedule).transmitted (GatewayNote.handedOver bus) =
      earlier.reverse ++ first :: second ::
        (later.filterMap (Event.handedOver bus)).reverse := by
    rw [transmitted_eq_reverse, split, List.filterMap_append, handed]
    simp
  rw [jumps_iff_omitted launch schedule follows, imp_iff_not_or, Nat.not_le]

/-- The relay closes the connection. While the group is reattached the feeder pops a frame and drops
it; the frame after that is sent on the new connection. -/
def pauseOver (sequenceNumber : Nat) : List Turn :=
  untilReady ++
    { readyTurn 2 with
      before := List.replicate 4 (.feeder 0 (some
        (capturedSilence 960 sequenceNumber (20000000 * sequenceNumber)))) } ::
    quietTurns 14 ++
    { before := passFrame 0 (sequenceNumber + 1) (20000000 * (sequenceNumber + 1)) } ::
    quietTurns 12

/-- Of three packets the third finds the queue full and is dropped; then a frame is lost to a
pause. -/
def droppedThenPaused : List Turn :=
  firstPacket ++ quietTurns 4 ++
    { before := passFrame 0 1 20000000 ++ passFrame 0 2 40000000 } :: quietTurns 17 ++ pauseOver 3

theorem lost_audio_exposed_iff_dropped :
    ∃ first between second,
      lastTwoPackets 0 ((sampleLaunch 1).last droppedThenPaused).journal =
        some (first, between, second) ∧
      opusFrameSamples ≤ (lostIn (World.pipeEvents 0 between)).length ∧ Jumps first second := by
  have found : (lastTwoPackets 0 ((sampleLaunch 1).last droppedThenPaused).journal).any
      (fun (first, between, second) =>
        decide (opusFrameSamples ≤ (lostIn (World.pipeEvents 0 between)).length) &&
          (((sampleLaunch 1).last droppedThenPaused).encodedOn 0).any fun frame =>
            decide (first.1.number < frame.number ∧ frame.number < second.1.number ∧
              frame ∉ ((sampleLaunch 1).last droppedThenPaused).transmitted
                (GatewayNote.sentOn 0))) = true := by
    decide +kernel
  obtain ⟨⟨first, between, second⟩, consecutive, facts⟩ := (Option.any_eq_true ..).mp found
  obtain ⟨lost, omitted⟩ := (Bool.and_eq_true ..).mp facts
  obtain ⟨frame, encoded, skipped⟩ := List.any_eq_true.mp omitted
  have lost := of_decide_eq_true lost
  exact ⟨first, between, second, consecutive, lost,
    (lost_audio_exposed_iff (sampleLaunch 1) droppedThenPaused 0 [] _ (List.nil_append _).symm first
      second between consecutive).mpr (.inr ⟨frame, encoded, of_decide_eq_true skipped⟩) lost⟩

/-- The first packet is sent, and a frame is lost to a pause before the next. -/
def frameWhilePaused : List Turn := firstPacket ++ quietTurns 4 ++ pauseOver 1

/-- Twenty milliseconds of PCM are lost between two packets whose sequence fields and sample times
follow each other without a gap. -/
theorem lost_pcm_not_exposed :
    (lastTwoPackets 0 ((sampleLaunch 1).last frameWhilePaused).journal).any
      (fun (first, between, second) =>
        decide (opusFrameSamples ≤ (lostIn (World.pipeEvents 0 between)).length) &&
          (sequenceField second.2 == sequenceField first.2 + 1) &&
          (second.1.rtpTime == first.1.rtpTime + opusFrameSamples)) = true := by
  decide +kernel

end RelayConnector
