/-
This file keeps the books of the WebRTC publisher, as the ledger does for the gateway.

Every frame received from a bus is written to the peer connection, dropped with its
cancelled output, or dropped for a fresher one. The counters are the totals of the three,
and `run_publish_loop` returns without an error only when every bus is exhausted. So an
orderly end leaves nothing that was captured unaccounted for.
-/

import RelayConnector.Conservation
import RelayConnector.Rotation
import RelayConnector.Transmission

namespace RelayConnector

open Scheduled Words

/-- The frame that a note drops on a bus because its output was cancelled. -/
def RtcNote.discardedOn (bus : Nat) : RtcNote → Option EncodedAudioFrame
  | .cancelled other frame => if other = bus then some frame else none
  | _ => none

def RtcNote.isMedia : RtcNote → Bool
  | .media _ _ => true
  | _ => false

/-! ### The other threads leave the books alone -/

theorem FeederStep.counters_eq {pipe after : Pipe} {ambient : Ambient}
    {received : List SourceFrame} {away : Disposals}
    (step : FeederStep pipe ambient after received away) : after.counters = pipe.counters := by
  cases step <;> rfl

/-- Stale frames are counted by the publisher only. -/
theorem EncoderStep.publisherStaleDrops_eq {pipe after : Pipe} {away : Disposals} {padding : Nat}
    {failed : Bool} (step : EncoderStep pipe after away padding failed) :
    after.counters.publisherStaleDrops = pipe.counters.publisherStaleDrops := by
  have resumed : ∀ (counted : Pipe) (next : Resume),
      (counted.resume next).counters = counted.counters := by
    intro counted next
    cases next <;> rfl
  have charged : ∀ reason, (pipe.charge reason).counters.publisherStaleDrops =
      pipe.counters.publisherStaleDrops := by
    intro reason
    cases reason <;> rfl
  cases step with
  | skip _ _ reason => exact charged reason
  | queue => rw [resumed]
  | giveUp => rw [resumed, charged]
  | _ => rfl

namespace World

variable {Publisher Note : Type}

theorem perform_publisherStaleDrops (world : World Publisher Note) (action : Action) (bus : Nat) :
    ((world.perform action).shared.pipes bus).counters.publisherStaleDrops =
      (world.shared.pipes bus).counters.publisherStaleDrops :=
  world.perform_bus (motive := fun pipe _ => pipe.counters.publisherStaleDrops = _) action bus rfl
    (fun arrival => by rw [((world.shared.pipes bus).feed_steps _ arrival).counters_eq])
    (fun codec => ((world.shared.pipes bus).encode_steps _ codec).publisherStaleDrops_eq)

@[simp] theorem note_shared (entry : Note) (world : World Publisher Note) :
    (world.note entry).shared = world.shared := rfl

@[simp] theorem note_publisher (entry : Note) (world : World Publisher Note) :
    (world.note entry).publisher = world.publisher := rfl

@[simp] theorem updatePipe_publisher (bus : Nat) (change : Pipe → Pipe)
    (world : World Publisher Note) :
    (world.updatePipe bus change).publisher = world.publisher := rfl

@[simp] theorem updatePipe_self (bus : Nat) (change : Pipe → Pipe) (world : World Publisher Note) :
    (world.updatePipe bus change).shared.pipes bus = change (world.shared.pipes bus) :=
  Function.update_self ..

theorem updatePipe_of_ne {bus other : Nat} (differs : other ≠ bus) (change : Pipe → Pipe)
    (world : World Publisher Note) :
    (world.updatePipe bus change).shared.pipes other = world.shared.pipes other :=
  Function.update_of_ne differs ..

@[simp] theorem transmitted_note {Item : Type} (sent : Note → Option Item) (entry : Note)
    (world : World Publisher Note) :
    (world.note entry).transmitted sent = world.transmitted sent ++ (sent entry).toList := by
  cases has : sent entry <;> simp [transmitted, has]

@[simp] theorem transmitted_updatePipe {Item : Type} (sent : Note → Option Item) (bus : Nat)
    (change : Pipe → Pipe) (world : World Publisher Note) :
    (world.updatePipe bus change).transmitted sent = world.transmitted sent := rfl

end World

@[simp] theorem Rtc.updatePublisher_shared (change : RtcPublisher → RtcPublisher)
    (world : RtcWorld) : (updatePublisher change world).shared = world.shared := rfl

@[simp] theorem Rtc.updatePublisher_publisher (change : RtcPublisher → RtcPublisher)
    (world : RtcWorld) : (updatePublisher change world).publisher = change world.publisher := rfl

@[simp] theorem Rtc.transmitted_updatePublisher {Item : Type} (sent : RtcNote → Option Item)
    (change : RtcPublisher → RtcPublisher) (world : RtcWorld) :
    (updatePublisher change world).transmitted sent = world.transmitted sent := rfl

/-! ### The books -/

/-- The account of one bus: frames were taken from it and written, cancelled or dropped as stale,
or are in hand. -/
structure RtcAccount (backlog : PublisherBacklogPolicy) (stale hand : List EncodedAudioFrame)
    (pipe : Pipe) (active : ActivePublishStream) (written cancelled : List EncodedAudioFrame) :
    Prop where
  policy : active.backlogPolicy = backlog
  exhausted : active.disconnected = true → pipe.Exhausted
  taken : pipe.taken.Perm (written ++ cancelled ++ stale ++ hand)
  counted : pipe.counters.publisherStaleDrops = shown stale.length
  sent : active.statistics.rtpSent = min written.length u64Max
  bytes : active.statistics.bytesSent = min (written.map (·.payload.length)).sum u64Max
  preserved : backlog = .preserve → stale = []

/-- The frames of a bus that are in hand. -/
def handOn (bus : Nat) : Option (Nat × List EncodedAudioFrame) → List EncodedAudioFrame
  | some (other, frames) => if other = bus then frames else []
  | none => []

/-- The policy of a bus. -/
def policyOf (policies : List PublisherBacklogPolicy) (bus : Nat) : PublisherBacklogPolicy :=
  policies[bus]?.getD .preserve

/-- The books of a group, with the stale frames of each bus and the frames in hand. -/
structure RtcBooks (policies : List PublisherBacklogPolicy)
    (stale : Nat → List EncodedAudioFrame) (hand : Option (Nat × List EncodedAudioFrame))
    (world : RtcWorld) : Prop where
  size : world.publisher.buses = policies.length
  total : world.publisher.rtcWriterWritesTotal =
    min (world.notes.countP RtcNote.isMedia) u64Max
  accounts : ∀ bus, RtcAccount (policyOf policies bus) (stale bus) (handOn bus hand)
    (world.shared.pipes bus) (world.publisher.active bus)
    (world.transmitted (RtcNote.writtenOn bus)) (world.transmitted (RtcNote.discardedOn bus))

/-- The books are right for some stale frames on each bus. -/
def Booked (policies : List PublisherBacklogPolicy) (hand : Option (Nat × List EncodedAudioFrame))
    (world : RtcWorld) : Prop :=
  ∃ stale, RtcBooks policies stale hand world

namespace Booked

variable {policies : List PublisherBacklogPolicy}
  {hand : Option (Nat × List EncodedAudioFrame)} {world : RtcWorld}

theorem perform (booked : Booked policies hand world) (action : Action) :
    Booked policies hand (world.perform action) := by
  obtain ⟨stale, books⟩ := booked
  refine ⟨stale, books.size, ?_, fun bus => ?_⟩
  · rw [World.perform_notes]
    exact books.total
  · have account := books.accounts bus
    have same : ∀ sent : RtcNote → Option EncodedAudioFrame,
        (world.perform action).transmitted sent = world.transmitted sent := by
      intro sent
      rw [World.transmitted, World.perform_notes, World.transmitted]
    rw [same, same]
    exact ⟨account.policy,
      fun flagged => world.perform_exhausted action (account.exhausted flagged),
      (List.Perm.of_eq (world.perform_taken action bus)).trans account.taken,
      (world.perform_publisherStaleDrops action bus).trans account.counted, account.sent,
      account.bytes, account.preserved⟩

theorem stable : Stable Rtc.settleTurn (Booked policies hand) :=
  fun turn world booked =>
    World.settle_induction (fun _ action booked => booked.perform action) turn.before world booked

theorem observed : Rtc.Observed (fun _ => True) (Booked policies hand) :=
  ⟨fun _ _ => trivial, stable⟩

/-- Inputs and drains are in no account. -/
theorem note (booked : Booked policies hand world) {entry : RtcNote}
    (silent : entry = .input ∨ entry = .drained) : Booked policies hand (world.note entry) := by
  obtain ⟨stale, books⟩ := booked
  refine ⟨stale, books.size, ?_, fun bus => ?_⟩
  · rcases silent with rfl | rfl <;> exact books.total
  · have account := books.accounts bus
    rcases silent with rfl | rfl <;>
      simpa [RtcNote.writtenOn, RtcNote.discardedOn] using account

/-- What the owner changes besides its streams is in no account. -/
theorem own (booked : Booked policies hand world) {change : RtcPublisher → RtcPublisher}
    (buses : ∀ publisher, (change publisher).buses = publisher.buses)
    (total : ∀ publisher, (change publisher).rtcWriterWritesTotal = publisher.rtcWriterWritesTotal)
    (active : ∀ publisher, (change publisher).active = publisher.active) :
    Booked policies hand (Rtc.updatePublisher change world) := by
  obtain ⟨stale, books⟩ := booked
  refine ⟨stale, (buses _).trans books.size, (total _).trans books.total, fun bus => ?_⟩
  have account := books.accounts bus
  rw [← active world.publisher] at account
  exact account

variable {bus : Nat} {frame : EncodedAudioFrame}

/-- A frame is taken from a bus. -/
theorem receive {frames rest : List EncodedAudioFrame} (booked : Booked policies hand world)
    (free : ∀ other, other ≠ bus → handOn other hand = []) (held : handOn bus hand = frames)
    (queue : (world.shared.pipes bus).encoded = frame :: rest) :
    Booked policies (some (bus, frames ++ [frame]))
      (world.updatePipe bus fun pipe => pipe.tryRecv.2) := by
  obtain ⟨stale, books⟩ := booked
  refine ⟨stale, books.size, books.total, fun other => ?_⟩
  have account := books.accounts other
  simp only [World.transmitted_updatePipe, World.updatePipe_publisher]
  by_cases same : other = bus
  · subst same
    rw [World.updatePipe_self, Pipe.tryRecv, queue]
    refine { account with exhausted := fun flagged => ?_, taken := ?_ }
    · -- a stream that was given up has nothing to receive
      rw [(account.exhausted flagged).2] at queue
      cases queue
    · have taken := account.taken
      rw [held] at taken
      simpa [handOn] using taken.append_right [frame]
  · rw [World.updatePipe_of_ne same]
    refine { account with taken := ?_ }
    rw [handOn, if_neg (Ne.symm same), ← free other same]
    exact account.taken

/-- Stale frames in hand are counted and forgotten. -/
theorem countStale {overtaken frames : List EncodedAudioFrame}
    (booked : Booked policies (some (bus, overtaken ++ frames)) world)
    (lossy : policyOf policies bus ≠ .preserve) :
    Booked policies (some (bus, frames))
      (world.updatePipe bus (Pipe.countStale overtaken.length)) := by
  obtain ⟨stale, books⟩ := booked
  refine ⟨Function.update stale bus (stale bus ++ overtaken), books.size, books.total,
    fun other => ?_⟩
  have account := books.accounts other
  simp only [World.transmitted_updatePipe, World.updatePipe_publisher]
  by_cases same : other = bus
  · subst same
    rw [World.updatePipe_self, Function.update_self]
    refine { account with taken := ?_, counted := ?_, preserved := fun preserves => ?_ }
    · simpa [handOn, Pipe.countStale] using account.taken
    · simp [Pipe.countStale, account.counted]
    · exact absurd preserves lossy
  · rw [World.updatePipe_of_ne same, Function.update_of_ne same]
    refine { account with taken := ?_ }
    simpa [handOn, Ne.symm same] using account.taken

/-- The frame in hand is dropped with its cancelled output. -/
theorem discard (booked : Booked policies (some (bus, [frame])) world) :
    Booked policies none (Rtc.discard bus frame world) := by
  obtain ⟨stale, books⟩ := booked
  refine ⟨stale, books.size, books.total, fun other => ?_⟩
  have account := books.accounts other
  simp only [Rtc.discard, World.transmitted_note, Rtc.transmitted_updatePublisher,
    World.transmitted_updatePipe, World.note_shared, Rtc.updatePublisher_shared,
    World.note_publisher, Rtc.updatePublisher_publisher, World.updatePipe_publisher,
    RtcPublisher.rotate, RtcNote.writtenOn, RtcNote.discardedOn, Option.toList_none,
    List.append_nil]
  by_cases same : bus = other
  · subst same
    rw [World.updatePipe_self]
    refine { account with taken := account.taken.trans ?_ }
    have swapped : (stale bus ++ [frame]).Perm ([frame] ++ stale bus) := List.perm_append_comm
    simpa [handOn] using swapped.append_left
      (world.transmitted (RtcNote.writtenOn bus) ++ world.transmitted (RtcNote.discardedOn bus))
  · rw [World.updatePipe_of_ne (Ne.symm same)]
    simp only [same, if_false, Option.toList_none, List.append_nil]
    refine { account with taken := ?_ }
    simpa [handOn, same] using account.taken

/-- The frame in hand is written and counted. -/
theorem write (booked : Booked policies (some (bus, [frame])) world) :
    Booked policies none (Rtc.updatePublisher (·.countWrite bus frame.payload.length)
      (world.note (.media bus frame))) := by
  obtain ⟨stale, books⟩ := booked
  refine ⟨stale, books.size, ?_, fun other => ?_⟩
  · have noted : (Rtc.updatePublisher (·.countWrite bus frame.payload.length)
        (world.note (.media bus frame))).notes = .media bus frame :: world.notes := rfl
    rw [noted, List.countP_cons_of_pos rfl]
    simp [RtcPublisher.countWrite, books.total, saturatingAdd_min]
  · have account := books.accounts other
    simp only [Rtc.transmitted_updatePublisher, World.transmitted_note, World.note_shared,
      Rtc.updatePublisher_shared, Rtc.updatePublisher_publisher, World.note_publisher,
      RtcPublisher.countWrite, RtcPublisher.setActive, RtcNote.writtenOn, RtcNote.discardedOn,
      Option.toList_none, List.append_nil]
    by_cases same : bus = other
    · subst same
      rw [Function.update_self, if_pos rfl]
      refine { account with taken := account.taken.trans ?_, sent := ?_, bytes := ?_ }
      · have swapped : (world.transmitted (RtcNote.discardedOn bus) ++ stale bus ++ [frame]).Perm
            ([frame] ++ _) := List.perm_append_comm
        simpa [handOn] using swapped.append_left (world.transmitted (RtcNote.writtenOn bus))
      · simp [account.sent, saturatingAdd_min]
      · simp [account.bytes, saturatingAdd_min]
    · rw [Function.update_of_ne (Ne.symm same)]
      simp only [same, if_false, Option.toList_none, List.append_nil]
      refine { account with taken := ?_ }
      simpa [handOn, same] using account.taken

/-- A stream is given up. -/
theorem disconnect (booked : Booked policies hand world)
    (exhausted : (world.shared.pipes bus).Exhausted) :
    Booked policies hand (Rtc.updatePublisher (·.disconnect bus) world) := by
  obtain ⟨stale, books⟩ := booked
  refine ⟨stale, books.size, books.total, fun other => ?_⟩
  have account := books.accounts other
  by_cases same : other = bus
  · subst same
    have active : (Rtc.updatePublisher (·.disconnect other) world).publisher.active other =
        { world.publisher.active other with disconnected := true } := by
      simp [Rtc.updatePublisher, RtcPublisher.disconnect, RtcPublisher.setActive]
    rw [active]
    exact { account with exhausted := fun _ => exhausted }
  · have active : (Rtc.updatePublisher (·.disconnect bus) world).publisher.active other =
        world.publisher.active other := by
      simp [Rtc.updatePublisher, RtcPublisher.disconnect, RtcPublisher.setActive, same]
    rw [active]
    exact account

end Booked

/-! ### The loop keeps its books -/

namespace Rtc

variable {policies : List PublisherBacklogPolicy}
  {hand : Option (Nat × List EncodedAudioFrame)}

/-- A command that keeps the books, and of which nothing is asked where it fails. -/
abbrev KeepsBooks (policies : List PublisherBacklogPolicy) {Value : Type}
    (command : RtcPublishing Value) : Prop :=
  Triple (fun _ => True) (Booked policies none) command (fun _ => Booked policies none)
    fun _ _ => True

theorem receive_booked (bus : Nat) (frames : List EncodedAudioFrame)
    (free : ∀ other, other ≠ bus → handOn other hand = []) (held : handOn bus hand = frames) :
    Triple (fun _ => True) (Booked policies hand) (receive bus)
      (fun received world => match received with
        | .frame frame => Booked policies (some (bus, frames ++ [frame])) world
        | .empty => Booked policies hand world
        | .disconnected => Booked policies hand world ∧ (world.shared.pipes bus).Exhausted)
      fun _ _ => True := by
  refine receive_triple bus (fun _ _ => trivial) Booked.stable (fun _ booked _ => booked) ?_ ?_
  · exact fun _ booked queue ended => ⟨booked, ended, queue⟩
  · exact fun _ _ _ booked queue => booked.receive free held queue

/-- A frame is in hand behind those that it overtook. -/
def Freshest (policies : List PublisherBacklogPolicy) (bus : Nat) (frame : EncodedAudioFrame)
    (staleDrops : Nat) (world : RtcWorld) : Prop :=
  ∃ overtaken, Booked policies (some (bus, overtaken ++ [frame])) world ∧
    overtaken.length = staleDrops

/-- The frames of a backlog are in hand; a policy that preserves takes one. -/
theorem tryRecvFrame_booked (bus : Nat) :
    Triple (fun _ => True) (Booked policies none) (tryRecvFrame bus (policyOf policies bus))
      (fun backlog world => match backlog with
        | .frame frame staleDrops => Freshest policies bus frame staleDrops world ∧
            (policyOf policies bus = .preserve → staleDrops = 0)
        | .empty => Booked policies none world
        | .disconnected => Booked policies none world ∧ (world.shared.pipes bus).Exhausted)
      fun _ _ => True := by
  refine .bind _ (receive_booked bus [] (fun _ _ => rfl) rfl) fun first => ?_
  cases first with
  | empty => exact .done fun _ => id
  | disconnected => exact .done fun _ => id
  | frame frame =>
    cases policy : policyOf policies bus with
    | preserve => exact .done fun _ booked => ⟨⟨[], booked, rfl⟩, fun _ => rfl⟩
    | dropStale =>
      refine .bind (fun freshest => Freshest policies bus freshest.1 freshest.2)
        (Triple.strengthen (Triple.iterate (fun current =>
          Freshest policies bus current.1 current.2) (fun _ _ _ => trivial) (fun current => ?_)
          (frame, 0)) fun _ booked => ⟨[], booked, rfl⟩) fun freshest => ?_
      · refine .exists_pre fun overtaken => .and_pre fun length => ?_
        refine .bind _ (receive_booked bus (overtaken ++ [current.1]) ?_ (if_pos rfl))
          fun next => ?_
        · exact fun other differs => if_neg (Ne.symm differs)
        cases next with
        | frame next =>
          exact .done fun _ booked => ⟨overtaken ++ [current.1], booked, by simp [length]⟩
        | empty => exact .done fun _ booked => ⟨overtaken, booked, length⟩
        | disconnected => exact .done fun _ found => ⟨overtaken, found.1, length⟩
      · exact .done fun _ booked => ⟨booked, by simp⟩

theorem drain_booked (count : Nat → Nat) : KeepsBooks policies (drain count) := by
  refine .bind _ (Booked.observed.drainAllOutputs fun _ booked => booked.note (.inr rfl))
    fun deadline => ?_
  exact .update fun _ booked => booked.own (fun _ => rfl) (fun _ => rfl) fun _ => rfl

theorem serve_booked (bus : Nat) (frame : EncodedAudioFrame) (staleDrops : Nat)
    (preserves : policyOf policies bus = .preserve → staleDrops = 0) :
    Triple (fun _ => True) (Freshest policies bus frame staleDrops)
      (serve bus frame staleDrops) (fun _ => Booked policies none) fun _ _ => True := by
  have observed : Observed (fun _ => True) (Booked policies (some (bus, [frame]))) :=
    Booked.observed
  refine .bind (fun _ => Booked policies (some (bus, [frame]))) (.ite (fun stale =>
    Triple.update ?_) fun fresh => .done ?_) fun _ => ?_
  · rintro _ ⟨overtaken, booked, rfl⟩
    refine booked.countStale fun kept => ?_
    have none := preserves kept
    omega
  · rintro _ ⟨overtaken, booked, length⟩
    obtain rfl : overtaken = [] := List.eq_nil_of_length_eq_zero (by omega)
    exact booked
  refine .bind _ (observed.load _) fun inactive => ?_
  cases inactive with
  | true => exact .update fun _ booked => booked.discard
  | false =>
    refine .bind _ (observed.ask _) fun writer => ?_
    refine .bind _ (observed.failIf _ _) fun _ => ?_
    -- the frame is counted once the write has returned
    refine .bind (fun _ world => ∃ before, Booked policies (some (bus, [frame])) before ∧
      world = before.note (.media bus frame)) (observed.mutate (fun _ _ => trivial)
        fun world booked => ⟨world, booked, rfl⟩) fun _ => ?_
    refine .bind (fun _ => Booked policies none) (.update ?_) fun _ => ?_
    · rintro _ ⟨before, booked, rfl⟩
      exact booked.write
    refine .bind _ (drain_booked _) fun _ => ?_
    exact .update fun _ booked => booked.own (fun _ => rfl) (fun _ => rfl) fun _ => rfl

theorem scan_booked (order : List Nat) : KeepsBooks policies (scan order) := by
  induction order with
  | nil => exact .done fun _ => id
  | cons bus rest hypothesis =>
    refine .bind (fun active world => Booked policies none world ∧
      active.backlogPolicy = policyOf policies bus) (.inspect ?_) fun active => ?_
    · exact fun _ booked => ⟨booked, booked.elim fun _ books => (books.accounts bus).policy⟩
    refine .and_pre fun policy => ?_
    refine .ite (fun _ => hypothesis) fun _ => ?_
    rw [policy]
    refine .bind _ (tryRecvFrame_booked bus) fun backlog => ?_
    cases backlog with
    | frame frame staleDrops =>
      refine .and_pre fun preserves => ?_
      exact .bind _ (serve_booked bus frame staleDrops preserves) fun _ =>
        Triple.done fun _ => id
    | empty => exact hypothesis
    | disconnected =>
      exact .bind (fun _ => Booked policies none)
        (.update fun _ found => found.1.disconnect found.2) fun _ => hypothesis

/-- All buses of the group are given up. -/
def Parted (policies : List PublisherBacklogPolicy) (world : RtcWorld) : Prop :=
  Booked policies none world ∧
    ∀ bus < policies.length, (world.publisher.active bus).disconnected = true

theorem idle_booked :
    Triple (fun _ => True) (Booked policies none) idle
      (Repeats (Booked policies none) fun _ => Parted policies) fun _ _ => True := by
  have observed : Observed (fun _ => True) (Booked policies none) := Booked.observed
  refine .bind (fun done world => Booked policies none world ∧
    (done = true → ∀ bus < policies.length, (world.publisher.active bus).disconnected = true))
    (.inspect fun world booked => ⟨booked, fun all bus inside => ?_⟩) fun done => ?_
  · obtain ⟨_, books⟩ := booked
    exact List.all_eq_true.mp all bus (List.mem_range.mpr (books.size ▸ inside))
  refine .ite (fun all => .done fun _ found => ⟨found.1, found.2 all⟩) fun _ => ?_
  refine Triple.strengthen ?_ fun _ found => found.1
  refine .bind (fun _ => Booked policies none) ?_ fun _ => ?_
  · refine .bind _ (observed.inspect _) fun lastWsPing => ?_
    refine .bind _ (observed.load _) fun now => ?_
    refine .ite (fun _ => ?_) fun _ => .done fun _ => id
    refine .bind _ (observed.call _) fun _ => .bind _ (observed.load _) fun now => ?_
    exact .update fun _ booked => booked.own (fun _ => rfl) (fun _ => rfl) fun _ => rfl
  refine .bind _ (observed.ask _) fun read => ?_
  split
  next => exact observed.fail _
  next => exact .done fun _ => id

theorem publishRound_booked :
    Triple (fun _ => True) (Booked policies none) publishRound
      (Repeats (Booked policies none) fun _ => Parted policies) fun _ _ => True := by
  have observed : Observed (fun _ => True) (Booked policies none) := Booked.observed
  have handles : ∀ context, Triple (fun _ => True) (Booked policies none)
      (do
        mutate .input context
        drain (wrappingAdd · 1)
        return none)
      (Repeats (Booked policies none) fun (_ : Unit) => Parted policies) fun _ _ => True := by
    intro context
    refine .bind _ (observed.mutate (fun _ _ => trivial)
      fun _ booked => booked.note (.inl rfl)) fun _ => ?_
    exact .bind _ (drain_booked _) fun _ => .done fun _ => id
  refine .bind _ (observed.load _) fun now => ?_
  refine .bind _ (observed.inspect _) fun nextRtcTimeout => ?_
  refine .ite (fun _ => handles _) fun _ => ?_
  refine .bind _ (observed.ask _) fun datagram => ?_
  split
  next => exact .bind _ (observed.call _) fun _ => handles _
  next => exact observed.fail _
  next =>
    refine .bind _ (observed.inspect _) fun order => ?_
    refine .bind _ (scan_booked order) fun received => ?_
    exact .ite (fun _ => .done fun _ => id) fun _ => idle_booked

theorem negotiate_booked (streams : List PublisherBacklogPolicy) :
    KeepsBooks policies (negotiate streams) := by
  have observed : Observed (fun _ => True) (Booked policies none) := Booked.observed
  induction streams with
  | nil => exact .done fun _ => id
  | cons _ rest hypothesis =>
    refine .bind _ (observed.ask _) fun writer => ?_
    exact .bind _ (observed.failIf _ _) fun _ => hypothesis

theorem prepare_booked (streams : List PublisherBacklogPolicy) :
    KeepsBooks policies (prepare streams) := by
  have observed : Observed (fun _ => True) (Booked policies none) := Booked.observed
  refine .bind _ (observed.failIf _ _) fun _ => ?_
  refine .bind _ (negotiate_booked streams) fun _ => ?_
  refine .bind _ (observed.call _) fun _ => .bind _ (observed.call _) fun _ => ?_
  refine .bind _ (observed.call _) fun _ => ?_
  refine .bind _ (observed.load _) fun nextRtcTimeout => ?_
  refine .bind _ (observed.load _) fun runStart => ?_
  refine .bind _ (observed.load _) fun lastWsPing => ?_
  refine .bind (fun _ => Booked policies none) (.update fun _ booked => ?_) fun _ =>
    Triple.done fun _ => id
  exact booked.own (fun _ => rfl) (fun _ => rfl) fun _ => rfl

theorem parted_stable : Stable settleTurn (Parted policies) :=
  fun turn world parted =>
    World.settle_induction (motive := Parted policies)
      (fun _ action parted => ⟨parted.1.perform action, parted.2⟩) turn.before world parted

/-- The statistics that are returned are those of the streams that were given up. -/
theorem runPublishLoop_booked (policies : List PublisherBacklogPolicy) :
    Triple (fun _ => True) (fun world => Booked policies none
      (updatePublisher (fun _ => start policies) world)) (runPublishLoop policies)
      (fun stats world => Parted policies world ∧
        stats.streams = (List.range policies.length).map
          (fun bus => (world.publisher.active bus).statistics) ∧
        stats.writes = world.publisher.rtcWriterWritesTotal) fun _ _ => True := by
  have parted : Observed (fun _ => True) (Parted policies) := ⟨fun _ _ => trivial, parted_stable⟩
  refine .bind (fun _ => Booked policies none) (.update fun _ => id) fun _ => ?_
  refine .bind _ (prepare_booked policies) fun runStart => ?_
  refine .bind (fun _ => Parted policies) (.forever (fun _ _ => trivial)
    publishRound_booked) fun _ => ?_
  refine .bind _ (parted.attempt_call _) fun _ => ?_
  refine .bind _ (parted.attempt_call _) fun _ => ?_
  refine .bind _ (parted.load _) fun now => ?_
  refine .bind (fun last world => Parted policies world ∧ last = world.publisher)
    (.inspect fun _ parted => ⟨parted, rfl⟩) fun last => ?_
  refine .done ?_
  rintro world ⟨parted, rfl⟩
  obtain ⟨_, books⟩ := parted.1
  exact ⟨parted, by rw [books.size], rfl⟩

end Rtc

/-! ### What was captured is accounted for -/

namespace RtcLaunch

variable (launch : RtcLaunch)

/-- Wherever a launched run is found, its buses have taken their courses. -/
theorem charted (schedule : List RtcTurn) :
    World.Charted (fun bus => (launch.lane bus).toBusLayout) (launch.last schedule) := by
  obtain ⟨phase, reached⟩ := launch.reached schedule
  refine reached.invariant (motive := fun _ world =>
    World.Charted (fun bus => (launch.lane bus).toBusLayout) world) ?_ ?_ ?_
  · exact fun _ => ⟨[], rfl, rfl, rfl, rfl, rfl, rfl⟩
  · exact fun _ _ action charted => charted.perform action
  · intro _ world _ after charted step
    obtain ⟨handled, entries, journal⟩ := step.handled
    exact charted.handle handled entries journal

theorem booked_world :
    Booked launch.policies none
      (Rtc.updatePublisher (fun _ => Rtc.start launch.policies) launch.world) := by
  refine ⟨fun _ => [], rfl, rfl, fun _ => ⟨rfl, ?_, .nil, rfl, rfl, rfl, fun _ => rfl⟩⟩
  intro flagged
  cases flagged

/-- What has become of a bus that the publisher was done with, and of the statistics it returned. -/
structure SettledAt (world : RtcWorld) (statistics : PublishStreamStats) (bus : Nat) : Prop where
  exhausted : (world.shared.pipes bus).Exhausted
  account : ∃ moves, World.Charts (launch.lane bus).toBusLayout bus moves world ∧
    (Course.run (launch.lane bus).toBusLayout moves).Conserved
  /-- A frame that was received was written, cancelled or overtaken, the latter under a policy
  that allows it. -/
  frames : ∃ overtaken, (world.shared.pipes bus).taken.Perm
      (world.transmitted (RtcNote.writtenOn bus) ++
        world.transmitted (RtcNote.discardedOn bus) ++ overtaken) ∧
    (world.shared.pipes bus).counters.publisherStaleDrops = shown overtaken.length ∧
    ((launch.lane bus).backlogPolicy = .preserve → overtaken = [])
  sent : statistics.rtpSent = min (world.transmitted (RtcNote.writtenOn bus)).length u64Max
  bytes : statistics.bytesSent =
    min ((world.transmitted (RtcNote.writtenOn bus)).map (·.payload.length)).sum u64Max
  /-- A sample that was captured was disposed of for a reason that is counted, or is in such a
  frame, unless the encoder could not be started. -/
  samples : unstartedIn (World.pipeEvents bus world.journal) = false →
    (world.shared.pipes bus).feeder.ended = true ∧
      (enteredIn (World.pipeEvents bus world.journal)).Perm
        ((disposedIn (World.pipeEvents bus world.journal)).samples ++
          (world.shared.pipes bus).taken.flatMap (·.samples))

theorem policyOf_policies {bus : Nat} (inside : bus < launch.lanes.length) :
    policyOf launch.policies bus = (launch.lane bus).backlogPolicy := by
  simp [policyOf, policies, lane, inside]

theorem settledAt (schedule : List RtcTurn) {bus : Nat} (inside : bus < launch.lanes.length)
    (parted : Rtc.Parted launch.policies (launch.last schedule)) :
    launch.SettledAt (launch.last schedule)
      ((launch.last schedule).publisher.active bus).statistics bus := by
  obtain ⟨⟨stale, books⟩, given⟩ := parted
  have account := books.accounts bus
  have exhausted := account.exhausted (given bus (by simpa [policies] using inside))
  obtain ⟨moves, charts⟩ := launch.charted schedule bus
  refine ⟨exhausted, ⟨moves, charts, (Course.run_accounts _ moves).1⟩,
    ⟨stale bus, ?_, account.counted, fun preserves => ?_⟩, account.sent, account.bytes,
    charts.drained exhausted.1 exhausted.2⟩
  · simpa [handOn] using account.taken
  · exact account.preserved ((launch.policyOf_policies inside).trans preserves)

end RtcLaunch

/-- `run_publish_loop` returns its statistics only when every bus is exhausted. They then add up:
what they count is what was written, and every frame and every sample that was captured was
written or dropped for a reason that its counter shows. -/
theorem publish_loop_settles (launch : RtcLaunch) (schedule : List RtcTurn)
    (stats : Rtc.PublishStats)
    (returns : (Rtc.runPublishLoop launch.policies schedule launch.world).1 = .ok stats) :
    stats.streams.length = launch.lanes.length ∧
      stats.writes = min ((launch.last schedule).notes.countP RtcNote.isMedia) u64Max ∧
      ∀ bus (inside : bus < stats.streams.length),
        launch.SettledAt (launch.last schedule) stats.streams[bus] bus := by
  obtain ⟨parted, streams, writes⟩ : Rtc.Parted launch.policies (launch.last schedule) ∧
      stats.streams = (List.range launch.policies.length).map
        (fun bus => ((launch.last schedule).publisher.active bus).statistics) ∧
      stats.writes = (launch.last schedule).publisher.rtcWriterWritesTotal :=
    (Rtc.runPublishLoop_booked launch.policies schedule launch.world launch.booked_world).of_ok
      returns
  have size : stats.streams.length = launch.lanes.length := by
    simp [streams, RtcLaunch.policies]
  refine ⟨size, ?_, fun bus inside => ?_⟩
  · obtain ⟨_, books⟩ := parted.1
    exact writes.trans books.total
  · have settled := launch.settledAt schedule (size ▸ inside) parted
    simpa [streams] using settled

/-- Of three packets one is overtaken and two are written; then the source is stopped and the
threads of the bus end. -/
def stalePacketThenEnd : List RtcTurn :=
  let quiet : RtcTurn := { poll := .ok (.timeout 1000000000) }
  stalePacket ++
    { quiet with before := .requestStop :: List.replicate 3 (.feeder 0 none) ++
        List.replicate 4 (.encoder 0 none) } :: List.replicate 12 quiet

theorem publish_loop_settles_overtaken :
    ((sampleRtcLaunch.last stalePacketThenEnd).shared.pipes 0).counters.publisherStaleDrops = 1 ∧
      ∃ statistics : PublishStreamStats, statistics.rtpSent = 2 ∧
        sampleRtcLaunch.SettledAt (sampleRtcLaunch.last stalePacketThenEnd) statistics 0 := by
  have returns : (Rtc.runPublishLoop sampleRtcLaunch.policies stalePacketThenEnd
      sampleRtcLaunch.world).1.toOption.map (·.streams.map (·.rtpSent)) = some [2] := by
    decide +kernel
  refine ⟨by decide +kernel, ?_⟩
  cases ended : (Rtc.runPublishLoop sampleRtcLaunch.policies stalePacketThenEnd
      sampleRtcLaunch.world).1 with
  | error halt =>
    rw [ended] at returns
    cases returns
  | ok stats =>
    rw [ended] at returns
    have sent : stats.streams.map (·.rtpSent) = [2] := Option.some.inj returns
    obtain ⟨size, -, settled⟩ :=
      publish_loop_settles sampleRtcLaunch stalePacketThenEnd stats ended
    have inside : 0 < stats.streams.length := size ▸ Nat.one_pos
    refine ⟨stats.streams[0], ?_, settled 0 inside⟩
    have first := congrArg (·[0]?) sent
    simpa [inside] using first

end RelayConnector
