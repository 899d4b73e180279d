/-
This file compares what the gateway counts with what its sockets have taken.

Every socket has a buffer: `ws.write` appends a message to it, and `ws.flush` writes of
it as much as the peer takes. A send is counted as sent when a flush has written
everything, and as a drop when it gives up. A drop takes nothing back: the packet stays
in the buffer of a socket that is flushed once more, behind a close frame, when the
connection is cancelled. So the packets that are written completely are those counted
as sent exactly if no socket takes the rest of a packet whose send has failed.
-/

import RelayConnector.Accounting

namespace RelayConnector

open Words GatewayWorld

/-! ### What the sockets have taken -/

namespace GatewayWorld

/-- The packet of a frame is completely written to some socket, if a message takes `size` bytes
there. -/
def Completed (size : Outgoing → Nat) (bus : Nat) (frame : EncodedAudioFrame)
    (world : GatewayWorld) : Prop :=
  ∃ session packet,
    .media bus frame packet ∈ (Fifo.after size (world.operations session)).complete

variable {world : GatewayWorld}

/-- What is written is not taken back. -/
theorem Completed.of_notes {size : Outgoing → Nat} {bus : Nat} {frame : EncodedAudioFrame}
    {after : GatewayWorld} (completed : world.Completed size bus frame) {entries : List GatewayNote}
    (notes : after.notes = entries ++ world.notes) : after.Completed size bus frame := by
  obtain ⟨session, packet, complete⟩ := completed
  refine ⟨session, packet, ?_⟩
  rw [operations, World.transmitted_of_notes notes]
  exact Fifo.mem_complete_append complete _

/-- The send of a packet ends well when everything is flushed. -/
theorem completed_of_flushed {size : Outgoing → Nat} {bus : Nat} {frame : EncodedAudioFrame}
    {packet : List UInt8} (flushed : Flushed (.media bus frame packet) world) :
    world.Completed size bus frame := by
  obtain ⟨before, later, operations, -⟩ := flushed
  refine ⟨world.publisher.socket bus, packet, ?_⟩
  rw [show world.operations (world.publisher.socket bus) = _ from operations]
  exact Fifo.mem_complete_of_flushed (List.mem_append_right _ List.mem_cons_self)

/-- What was noted last on a socket is the last that was done to it. -/
theorem getLast?_operations {session : Nat} {operation : Fifo.Operation Outgoing}
    (newest : world.notes.head? = some (.socket session operation)) :
    (world.operations session).getLast? = some operation := by
  obtain ⟨earlier, notes⟩ := List.head?_eq_some_iff.mp newest
  rw [operations, World.transmitted, notes, List.reverse_cons, List.filterMap_append]
  simp [GatewayNote.operationOn]

end GatewayWorld

/-! ### The sockets along a run -/

/-- A packet is being sent: it is not flushed yet, or was just now. -/
def Underway (phase : Phase) (world : GatewayWorld) (session bus : Nat)
    (frame : EncodedAudioFrame) (packet : List UInt8) (later : List (Fifo.Operation Outgoing)) :
    Prop :=
  phase = .sending bus frame packet .written ∧ session = world.publisher.socket bus ∧
    ∃ operation, world.notes.head? = some (.socket session operation) ∧
      (Fifo.ending later = .pending ∨ Fifo.ending later = .flushed ∧ operation = .flush none)

/-- A packet was sent, and the flushes directly behind it have written everything; or it could not
be delivered, and they have not. -/
def Decided (world : GatewayWorld) (bus : Nat) (frame : EncodedAudioFrame)
    (later : List (Fifo.Operation Outgoing)) : Prop :=
  .settled bus .sent frame ∈ world.notes ∧ Fifo.ending later = .flushed ∨
    .settled bus .undelivered frame ∈ world.notes ∧ Fifo.ending later ≠ .flushed

/-- What was sent is complete, and what is done to a socket directly behind a packet says how its
send ends. -/
structure Offered (size : Outgoing → Nat) (phase : Phase) (world : GatewayWorld) : Prop where
  sent : ∀ bus frame, .settled bus .sent frame ∈ world.notes → world.Completed size bus frame
  stands : ∀ session bus frame packet queued before later,
    world.operations session = before ++ .write (.media bus frame packet) queued :: later →
      Underway phase world session bus frame packet later ∨ Decided world bus frame later

section Packet

variable {world after : GatewayWorld} {bus : Nat} {frame : EncodedAudioFrame}
  {later : List (Fifo.Operation Outgoing)} {operation : Fifo.Operation Outgoing}

/-- While a packet is under way, the only access is a flush of its socket. -/
theorem Underway.flushes {phase : Phase} {session : Nat} {packet : List UInt8} {message : Outgoing}
    (underway : Underway phase world session bus frame packet later)
    (access : Access world phase message operation) :
    message.session world.publisher = session ∧ Fifo.ending later = .pending ∧
      ∃ written, operation = .flush written := by
  obtain ⟨rfl, rfl, found, newest, stands⟩ := underway
  cases access with
  | write _ _ _ _ handed => cases handed.symm.trans newest
  | flush _ _ _ written unflushed =>
    refine ⟨rfl, stands.resolve_right ?_, written, rfl⟩
    rintro ⟨-, rfl⟩
    obtain ⟨_, _, operations, pending⟩ := unflushed
    exact Fifo.getLast?_of_pending operations pending (getLast?_operations newest)
  | writeClose _ _ _ idle | flushClose _ _ _ idle _ => cases idle

theorem Decided.of_notes (decided : Decided world bus frame later) {entries : List GatewayNote}
    (notes : after.notes = entries ++ world.notes) : Decided after bus frame later := by
  rw [Decided, notes]
  exact decided.imp (And.imp_left (List.mem_append_right _))
    (And.imp_left (List.mem_append_right _))

/-- Only a flush that writes everything, and comes directly behind the packet, could undo it. -/
theorem Decided.append (decided : Decided world bus frame later)
    (harmless : Fifo.ending later = .pending → operation ≠ .flush none) :
    Decided world bus frame (later ++ [operation]) := by
  rw [Decided, Fifo.ending_append]
  refine decided.imp (And.imp_right fun flushed => ?_) (And.imp_right fun fails => ?_)
  · rw [flushed, if_neg nofun]
  · split
    next pending =>
      cases operation with
      | write => nofun
      | flush written =>
        cases written with
        | none => exact absurd rfl (harmless pending)
        | some => nofun
    next => exact fails

end Packet

namespace Offered

variable {size : Outgoing → Nat} {phase next : Phase} {world after : GatewayWorld}

/-- Nothing is sent, and nothing done to a socket. -/
theorem keep (offered : Offered size phase world)
    (idle : ∀ bus frame packet, phase ≠ .sending bus frame packet .written)
    (entries : List GatewayNote) (notes : after.notes = entries ++ world.notes)
    (unsent : ∀ bus frame, .settled bus .sent frame ∉ entries)
    (silent : ∀ session, entries.filterMap (GatewayNote.operationOn session) = []) :
    Offered size next after := by
  refine ⟨fun bus frame sent => ?_, fun session bus frame packet queued before later split => ?_⟩
  · rw [notes] at sent
    have before := (List.mem_append.mp sent).resolve_left (unsent bus frame)
    exact (offered.sent bus frame before).of_notes notes
  · rw [operations, World.transmitted_of_notes notes, List.filterMap_reverse, silent,
      List.reverse_nil, List.append_nil] at split
    rcases offered.stands _ _ _ _ _ _ _ split with underway | decided
    · exact absurd underway.1 (idle bus frame packet)
    · exact .inr (decided.of_notes notes)

/-- The packet in hand was sent, or could not be delivered. -/
theorem settle {bus : Nat} {frame : EncodedAudioFrame} {packet : List UInt8} {stage : Stage}
    {outcome : FrameOutcome} (offered : Offered size (.sending bus frame packet stage) world)
    (complete : outcome = .sent → world.Completed size bus frame)
    (decides : ∀ session before later queued,
      Underway (.sending bus frame packet stage) world session bus frame packet later →
      world.operations session = before ++ .write (.media bus frame packet) queued :: later →
      outcome = .sent ∧ Fifo.ending later = .flushed ∨
        outcome = .undelivered ∧ Fifo.ending later ≠ .flushed) :
    Offered size next (settleFrame bus outcome frame world) := by
  have notes : (settleFrame bus outcome frame world).notes =
      [.settled bus outcome frame] ++ world.notes := notes_settleFrame bus outcome frame world
  refine ⟨fun other settled sent => ?_, fun session other found packet queued before later split =>
    .inr ?_⟩
  · rw [notes] at sent
    rcases List.mem_append.mp sent with now | before
    · cases List.mem_singleton.mp now
      exact (complete rfl).of_notes notes
    · exact (offered.sent other settled before).of_notes notes
  · rw [operations, World.transmitted_of_notes notes] at split
    replace split := (List.append_nil _).symm.trans split
    rcases offered.stands _ _ _ _ _ _ _ split with underway | decided
    · cases underway.1
      rw [Decided, notes]
      rcases decides _ _ _ _ underway split with ⟨rfl, flushed⟩ | ⟨rfl, fails⟩
      · exact .inl ⟨List.mem_cons_self, flushed⟩
      · exact .inr ⟨List.mem_cons_self, fails⟩
    · exact decided.of_notes notes

/-- A socket is written to or flushed. -/
theorem socket (offered : Offered size phase world) {message : Outgoing}
    {operation : Fifo.Operation Outgoing} (access : Access world phase message operation) :
    Offered size phase (operate message operation world) := by
  have notes : (operate message operation world).notes =
      [.socket (message.session world.publisher) operation] ++ world.notes := rfl
  refine ⟨fun bus frame sent => ?_, fun session bus frame packet queued before later split => ?_⟩
  · rw [notes] at sent
    exact (offered.sent bus frame ((List.mem_append.mp sent).resolve_left (by simp))).of_notes notes
  rw [operations_operate] at split
  by_cases here : message.session world.publisher = session
  · subst here
    rw [if_pos rfl] at split
    rcases List.eq_nil_or_concat' later with rfl | ⟨earlier, last, rfl⟩
    · -- the packet is offered now
      obtain ⟨-, same⟩ := List.append_inj' split rfl
      cases same
      cases access with
      | write => exact .inl ⟨rfl, rfl, _, rfl, .inl rfl⟩
    · obtain ⟨older, same⟩ :=
        List.append_inj' (split.trans (List.append_assoc before (_ :: earlier) [last]).symm) rfl
      cases same
      rcases offered.stands _ _ _ _ _ _ _ older with underway | decided
      · obtain ⟨-, pending, written, rfl⟩ := underway.flushes access
        exact .inl ⟨underway.1, underway.2.1, _, rfl, Fifo.ending_flush pending written⟩
      by_cases harmless : Fifo.ending earlier = .pending → operation ≠ .flush none
      · exact .inr ((decided.append harmless).of_notes notes)
      · -- what is flushed is the last message written, so it is this packet
        obtain ⟨pending, rfl⟩ := Classical.not_imp.mp harmless |>.imp_right not_not.mp
        cases access with
        | flush _ _ _ _ unflushed =>
          obtain ⟨_, _, operations, still⟩ := unflushed
          cases Fifo.eq_of_pending (older.symm.trans operations) pending still
          exact .inl ⟨rfl, rfl, _, rfl, Fifo.ending_flush pending none⟩
        | flushClose _ _ _ _ unflushed =>
          obtain ⟨_, _, operations, still⟩ := unflushed
          cases Fifo.eq_of_pending (older.symm.trans operations) pending still
  · rw [if_neg here, List.append_nil] at split
    rcases offered.stands _ _ _ _ _ _ _ split with underway | decided
    · exact absurd (underway.flushes access).1 here
    · exact .inr (decided.of_notes notes)

theorem step (offered : Offered size phase world) (step : Step phase world next after) :
    Offered size next after := by
  cases step with
  | flushed _ _ _ _ flushed =>
    refine offered.settle (fun _ => completed_of_flushed flushed) ?_
    rintro session before later queued ⟨-, rfl, operation, -, pending | ends⟩ split
    · obtain ⟨_, _, operations, -⟩ := flushed
      refine absurd ?_ (Fifo.getLast?_of_pending split pending)
      exact (congrArg List.getLast? operations).trans List.getLast?_concat
    · exact .inl ⟨rfl, ends.1⟩
  | abandon _ _ _ _ _ _ _ unflushed =>
    refine offered.settle nofun ?_
    rintro session before later queued ⟨same, rfl, operation, newest, stands⟩ -
    refine .inr ⟨rfl, fun flushed => ?_⟩
    obtain ⟨_, rfl⟩ := stands.resolve_left (by rw [flushed]; nofun)
    cases same
    obtain ⟨_, _, _, operations, pending⟩ := unflushed rfl
    exact Fifo.getLast?_of_pending operations pending (getLast?_operations newest)
  | socket _ _ _ _ access => exact offered.socket access
  | install => exact offered.keep nofun [_, _] rfl (by simp) fun _ => rfl
  | foundExpired | cancelled | superseded | stale | unencodable | write | pause | ready
    | prepareFails | refuse | late | admitAll | reject | stopRejected | revokedRejected | report =>
    exact offered.keep nofun [_] rfl (by simp) fun _ => rfl
  | _ => exact offered.keep nofun [] rfl (by simp) fun _ => rfl

end Offered

variable {world : GatewayWorld} {frame : EncodedAudioFrame}

theorem Reach.offered {start : GatewayWorld} {size : Outgoing → Nat}
    (initially : Offered size .attached start) {phase : Phase} (reached : Reach start phase world) :
    Offered size phase world := by
  refine reached.invariant (motive := Offered size) initially ?_ ?_
  · intro phase world action _ offered
    refine ⟨fun bus frame sent => ?_, fun session bus frame packet queued before later split => ?_⟩
    · rw [World.perform_notes] at sent
      exact (offered.sent bus frame sent).of_notes
        (show _ = [] ++ world.notes from world.perform_notes action)
    · rw [operations_perform] at split
      rw [Underway, Decided, World.perform_notes, World.perform_publisher]
      exact offered.stands _ _ _ _ _ _ _ split
  · exact fun _ _ _ _ _ offered step => offered.step step

/-! ### Launched runs -/

theorem Ledger.mem_frames {ledger : Ledger} {outcome : Option FrameOutcome} :
    frame ∈ ledger.frames outcome ↔ (outcome, frame) ∈ ledger := by
  rw [frames, List.mem_map]
  constructor
  · rintro ⟨⟨found, _⟩, member, rfl⟩
    obtain ⟨listed, same⟩ := List.mem_filter.mp member
    exact eq_of_beq same ▸ listed
  · exact fun listed => ⟨_, List.mem_filter.mpr ⟨listed, beq_self_eq_true _⟩, rfl⟩

theorem mem_ledger_of_settled {bus : Nat} {outcome : FrameOutcome}
    (settled : .settled bus outcome frame ∈ world.notes) :
    (some outcome, frame) ∈ world.ledger bus :=
  List.mem_filterMap.mpr ⟨_, List.mem_reverse.mpr settled, if_pos rfl⟩

namespace Launch

variable {recovery : Option PreparedIngressRecovery} (launch : Launch recovery)

theorem offered_world (size : Outgoing → Nat) : Offered size .attached launch.world := by
  refine ⟨fun bus frame member => ?_, fun session bus frame packet queued before later split => ?_⟩
  · obtain ⟨_, _, _, same⟩ := launch.mem_notes_world.mp member
    cases same
  · rw [operations, launch.transmitted_world _ fun _ _ _ => rfl] at split
    simp at split

variable (schedule : List Turn)

/-- No frame is received twice. -/
theorem nodup_taken (bus : Nat) : ((launch.last schedule).shared.pipes bus).taken.Nodup := by
  have numbered := launch.numbered schedule bus
  have increasing := numbered.enumerated.increasing numbered.taken_sublist
  exact List.Nodup.of_map _ (increasing.imp Nat.ne_of_lt)

/-- A frame has one outcome at most, and none while it is in hand. -/
theorem outcome_unique {bus : Nat} {phase : Phase} {frame : EncodedAudioFrame}
    {outcome : Option FrameOutcome} (reached : Reach launch.world phase (launch.last schedule))
    (listed : (outcome, frame) ∈ (launch.last schedule).ledger bus) :
    phase.inHand ≠ some (bus, frame) ∧
      ∀ other, (other, frame) ∈ (launch.last schedule).ledger bus → other = outcome := by
  have accounted := reached.accounted launch.connected_world launch.accounted_world
  have nodup := launch.nodup_taken schedule bus
  rw [accounted.taken bus, List.nodup_append] at nodup
  obtain ⟨settled, -, apart⟩ := nodup
  refine ⟨fun hand => ?_, fun other also => ?_⟩
  · refine apart frame (List.mem_map.mpr ⟨_, listed, rfl⟩) frame ?_ rfl
    rw [hand]
    simp [World.inHandOn]
  · exact congrArg Prod.fst (List.inj_on_of_nodup_map settled also listed rfl)

/-- How the send of a packet has ended, and how the flushes directly behind it have, go together.
The frame of a packet is done with, or in hand. -/
theorem settled_of_offered {bus session : Nat} {phase : Phase} {frame : EncodedAudioFrame}
    {packet : List UInt8} {queued : Bool} {before later : List (Fifo.Operation Outgoing)}
    (reached : Reach launch.world phase (launch.last schedule))
    (split : (launch.last schedule).operations session =
      before ++ .write (.media bus frame packet) queued :: later) :
    phase.inHand = some (bus, frame) ∨
      (some .sent, frame) ∈ (launch.last schedule).ledger bus ∧ Fifo.ending later = .flushed ∨
      (some .undelivered, frame) ∈ (launch.last schedule).ledger bus ∧
        Fifo.ending later ≠ .flushed := by
  have offered := reached.offered (launch.offered_world fun _ => 0)
  rcases offered.stands _ _ _ _ _ _ _ split with underway | decided
  · exact .inl (by rw [underway.1, Phase.inHand])
  · exact .inr (decided.imp (And.imp_left mem_ledger_of_settled)
      (And.imp_left mem_ledger_of_settled))

end Launch

/-- At any moment of a run, whatever the sockets do: of the frames that the gateway is done with,
those whose packet is completely written to a socket are exactly those counted as sent, if and only
if every socket answers as follows, from the write of such a packet on. If not one of the flushes
directly behind it is Ok, before something else is written to that socket, then no later flush of
the socket is, and together they write fewer bytes than stood in the buffer up to the end of the
packet. The counter is the number of the frames sent, no frame is counted twice, and when the run
has returned the gateway is done with every frame whose packet was completely written. -/
theorem completed_packets_sent_iff {recovery : Option PreparedIngressRecovery}
    (launch : Launch recovery) (schedule : List Turn) (size : Outgoing → Nat) :
    ((∀ bus outcome frame, (outcome, frame) ∈ (launch.last schedule).ledger bus →
        ((launch.last schedule).Completed size bus frame ↔ outcome = some .sent)) ↔
      ∀ session bus packet before later,
        ∀ frame ∈ ((launch.last schedule).ledger bus).map Prod.snd,
          (launch.last schedule).operations session =
            before ++ .write (.media bus frame packet) true :: later →
          Fifo.ending later ≠ .flushed →
          .flush none ∉ later ∧
            (Fifo.counts later).sum <
              (Fifo.after size before).backlog + size (.media bus frame packet)) ∧
    (∀ bus, ((launch.last schedule).publisher.active bus).statistics.ingressFramesSent =
        (((launch.last schedule).ledger bus).frames (some .sent)).length ∧
      (((launch.last schedule).ledger bus).map Prod.snd).Nodup) ∧
    ∀ result, (launch.run schedule).1 = .ok result →
      result.statistics = ((List.range launch.lanes.length).map fun bus =>
        ((launch.last schedule).publisher.active bus).statistics) ∧
      ∀ bus frame, (launch.last schedule).Completed size bus frame →
        ∃ outcome, (outcome, frame) ∈ (launch.last schedule).ledger bus := by
  obtain ⟨phase, reached⟩ := launch.reached schedule
  have offered := reached.offered (launch.offered_world size)
  have accounted := reached.accounted launch.connected_world launch.accounted_world
  refine ⟨⟨fun counted session bus packet before later frame done split fails => ?_,
    fun unfinished bus outcome frame listed => ⟨fun completed => ?_, ?_⟩⟩,
    fun bus => ⟨?_, ?_⟩, fun result returns => ?_⟩
  · -- had the flushes come to its end, the packet would be complete and counted
    rw [← Fifo.not_reaches]
    intro reaches
    obtain ⟨⟨outcome, _⟩, listed, rfl⟩ := List.mem_map.mp done
    obtain ⟨free, unique⟩ := launch.outcome_unique schedule reached listed
    obtain rfl := (counted bus outcome _ listed).mp
      ⟨session, packet, Fifo.mem_complete_iff.mpr ⟨before, later, split, reaches⟩⟩
    rcases launch.settled_of_offered schedule reached split with hand | sent | dropped
    · exact free hand
    · exact fails sent.2
    · cases unique _ dropped.1
  · obtain ⟨free, unique⟩ := launch.outcome_unique schedule reached listed
    obtain ⟨session, packet, complete⟩ := completed
    obtain ⟨before, later, split, reaches⟩ := Fifo.mem_complete_iff.mp complete
    rcases launch.settled_of_offered schedule reached split with hand | sent | dropped
    · exact absurd hand free
    · exact (unique _ sent.1).symm
    · have short := unfinished session bus packet before later frame
        (List.mem_map.mpr ⟨_, listed, rfl⟩) split dropped.2
      exact absurd reaches (Fifo.not_reaches.mpr short)
  · rintro rfl
    exact offered.sent bus frame (settled_mem_notes (Ledger.mem_frames.mpr listed))
  · exact (accounted.tallied bus).sent.trans (min_eq_left (launch.sent_le schedule bus))
  · have nodup := launch.nodup_taken schedule bus
    rw [accounted.taken bus] at nodup
    exact nodup.of_append_left
  · obtain ⟨finished, statistics⟩ := launch.returned returns
    rw [finished.buses, launch.buses_eq] at statistics
    refine ⟨statistics, fun bus frame completed => ?_⟩
    obtain ⟨session, packet, complete⟩ := completed
    obtain ⟨before, later, split, -⟩ := Fifo.mem_complete_iff.mp complete
    rcases launch.settled_of_offered schedule finished split with hand | sent | dropped
    · cases hand
    · exact ⟨_, sent.1⟩
    · exact ⟨_, dropped.1⟩

/-- A masked frame with fewer than 126 bytes of payload has six bytes in front of it. -/
def shortFrame : Outgoing → Nat
  | .media _ _ packet => 6 + packet.length
  | .close _ => 6

/-- The first packet is written, the control is revoked before it is flushed, and then the
connection is lost: the flush behind the close frame fails and has written nothing. -/
def lostSend : List Turn :=
  firstPacket ++ { before := [.control (.revoke 0), .control (.advance 0)] } ::
    List.replicate 8 { flush := .error .io }

def GatewayNote.isOn (session : Nat) : GatewayNote → Bool
  | .socket other _ => other == session
  | _ => true

theorem completed_packets_sent_iff_lost :
    ((sampleLaunch 1).run lostSend).1.isOk = true ∧
    (((sampleLaunch 1).last lostSend).ledger 0).total (some .undelivered) = 1 ∧
      ∀ bus frame, ((sampleLaunch 1).last lostSend).Completed shortFrame bus frame ↔
        frame ∈ (((sampleLaunch 1).last lostSend).ledger bus).frames (some .sent) := by
  have returns : ((sampleLaunch 1).run lostSend).1.isOk = true := by decide +kernel
  have alone : ((sampleLaunch 1).last lostSend).notes.all (·.isOn 0) = true := by decide +kernel
  have closes : (((sampleLaunch 1).last lostSend).operations 0).tail =
      [.write (.close 0) true, .flush (some 0)] := by decide +kernel
  obtain ⟨iff, -, returned⟩ := completed_packets_sent_iff (sampleLaunch 1) lostSend shortFrame
  have counted := iff.mpr fun session bus packet before later frame _ split _ => by
    obtain ⟨entry, entered, same⟩ := List.mem_filterMap.mp
      (split ▸ List.mem_append_right before List.mem_cons_self :
        .write (.media bus frame packet) true ∈
          ((sampleLaunch 1).last lostSend).operations session)
    have on := List.all_eq_true.mp alone entry (List.mem_reverse.mp entered)
    obtain rfl : session = 0 := by
      cases entry with
      | socket other _ =>
        rw [GatewayNote.operationOn] at same
        split at same
        next equal => exact equal ▸ eq_of_beq on
        next => cases same
      | _ => cases same
    rw [split] at closes
    cases before with
    | nil =>
      obtain rfl : later = _ := closes
      exact ⟨by simp, by simp [Fifo.counts, shortFrame]⟩
    | cons first before =>
      simpa using congrArg (Fifo.Operation.write (Outgoing.media bus frame packet) true ∈ ·) closes
  refine ⟨returns, by decide +kernel, fun bus frame => ⟨fun completed => ?_, fun sent => ?_⟩⟩
  · cases ended : ((sampleLaunch 1).run lostSend).1 with
    | error halt =>
      rw [ended] at returns
      cases returns
    | ok result =>
      obtain ⟨outcome, listed⟩ := (returned result ended).2 bus frame completed
      rw [(counted bus outcome frame listed).mp completed] at listed
      exact Ledger.mem_frames.mpr listed
  · exact (counted bus _ frame (Ledger.mem_frames.mp sent)).mpr rfl

/-- The first packet is written, and the control is revoked before it is flushed: the send gives
up and the run ends, with a close frame that is written and flushed. -/
def revokedSend : List Turn :=
  firstPacket ++ { before := [.control (.revoke 0), .control (.advance 0)] } :: quietTurns 8

/-- The frame of a message for a bus. -/
def Outgoing.frameOn (bus : Nat) : Outgoing → Option EncodedAudioFrame
  | .media other frame _ => if other = bus then some frame else none
  | .close _ => none

theorem GatewayWorld.completed_of_mem {size : Outgoing → Nat} {bus session : Nat}
    (member : frame ∈ (Fifo.after size (world.operations session)).complete.filterMap
      (Outgoing.frameOn bus)) : world.Completed size bus frame := by
  obtain ⟨message, complete, same⟩ := List.mem_filterMap.mp member
  cases message with
  | close => cases same
  | media other found packet =>
    rw [Outgoing.frameOn] at same
    split at same
    next equal =>
      cases same
      exact ⟨session, packet, equal ▸ complete⟩
    next => cases same

/-- The run returns with the packet counted as dropped and not as sent, and the relay has all of
it. -/
theorem dropped_packet_completed :
    (((sampleLaunch 1).run revokedSend).1.toOption.map fun result =>
      (result.error, result.statistics.map fun statistics =>
        (statistics.ingressFramesSent, statistics.ingressRecoveryOpusDrops))) =
      some (some (.failure .credential), [(0, 1)]) ∧
    ∃ frame ∈ (((sampleLaunch 1).last revokedSend).ledger 0).frames (some .undelivered),
      ((sampleLaunch 1).last revokedSend).Completed shortFrame 0 frame := by
  have taken : ∃ frame ∈ (((sampleLaunch 1).last revokedSend).ledger 0).frames (some .undelivered),
      frame ∈ (Fifo.after shortFrame
        (((sampleLaunch 1).last revokedSend).operations 0)).complete.filterMap
          (Outgoing.frameOn 0) := by
    decide +kernel
  obtain ⟨frame, dropped, complete⟩ := taken
  exact ⟨by decide +kernel, frame, dropped, completed_of_mem complete⟩

end RelayConnector
