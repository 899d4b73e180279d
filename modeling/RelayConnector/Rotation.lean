/-
This file proves that no bus of a group is starved in the publish step: while the channel of a
bus stays non-empty, every other bus is served at most once before it.

A round of the loop serves at most one bus, and the next pass begins behind the bus that was
served. So the order in which a pass looks at the buses is rotated, and what stands before the
waiting bus in that order only gets shorter. The argument is about that order: the buses before
the waiting one have not been served since it began to wait.
-/

import RelayConnector.History
import RelayConnector.Launch
import RelayConnector.PublishLoop
import Mathlib.Data.List.Perm.Subperm
import Mathlib.Data.List.Rotate

namespace RelayConnector

open Scheduled

/-! ### The order of a pass -/

namespace RtcPublisher

theorem scanOrder_eq_rotate (publisher : RtcPublisher) :
    publisher.scanOrder = (List.range publisher.buses).rotate publisher.roundRobinStart := by
  refine List.ext_getElem (by simp [scanOrder]) fun index _ _ => ?_
  simp [scanOrder, List.getElem_rotate, Nat.add_comm]

theorem scanOrder_perm (publisher : RtcPublisher) :
    publisher.scanOrder.Perm (List.range publisher.buses) := by
  rw [scanOrder_eq_rotate]
  exact List.rotate_perm _ _

/-- After a bus was served, it stands last in the order and what followed it stands first. -/
theorem scanOrder_rotate {publisher : RtcPublisher} {front rest : List Nat} {bus : Nat}
    (order : publisher.scanOrder = front ++ bus :: rest) :
    (publisher.rotate bus).scanOrder = rest ++ (front ++ [bus]) := by
  have bound : front.length < publisher.scanOrder.length := by simp [order]
  have served : bus = (publisher.roundRobinStart + front.length) % publisher.buses := by
    have at_front : publisher.scanOrder[front.length] = bus := by simp [order]
    rw [← at_front]
    simp [scanOrder]
  have again : ∀ count, (List.range publisher.buses).rotate (count % publisher.buses) =
      (List.range publisher.buses).rotate count := fun count => by
    simpa using List.rotate_mod (List.range publisher.buses) count
  have split : publisher.scanOrder = (front ++ [bus]) ++ rest := by simp [order]
  calc (publisher.rotate bus).scanOrder
      = (List.range publisher.buses).rotate ((bus + 1) % publisher.buses) :=
        scanOrder_eq_rotate _
    _ = (List.range publisher.buses).rotate (publisher.roundRobinStart + (front.length + 1)) := by
        rw [served, Nat.mod_add_mod, again, Nat.add_assoc]
    _ = publisher.scanOrder.rotate (front ++ [bus]).length := by
        rw [scanOrder_eq_rotate, List.rotate_rotate, List.length_append, List.length_singleton]
    _ = rest ++ (front ++ [bus]) := by rw [split, List.rotate_append_length_eq]

end RtcPublisher

/-! ### What is served -/

/-- The bus whose received frame was written, or discarded as cancelled. -/
def RtcNote.served : RtcNote → Option Nat
  | .media bus _ => some bus
  | .cancelled bus _ => some bus
  | _ => none

/-- The buses served so far, newest first. -/
def services (world : RtcWorld) : List Nat := world.notes.filterMap RtcNote.served

theorem services_perform (world : RtcWorld) (action : Action) :
    services (world.perform action) = services world := by
  rw [services, World.perform_notes, services]

/-! ### The channels in the hands of the other threads -/

/-- Nothing is in the channel and nothing will be. -/
def Pipe.Exhausted (pipe : Pipe) : Prop := pipe.encoder.ended = true ∧ pipe.encoded = []

namespace Pipe

theorem feed_encoded (pipe : Pipe) (ambient : Ambient) (arrival : Option (AudioFrame UInt32)) :
    (pipe.feed ambient arrival).1.encoded = pipe.encoded ∧
      (pipe.feed ambient arrival).1.encoder = pipe.encoder := by
  unfold feed
  split <;> repeat' split
  all_goals exact ⟨rfl, rfl⟩

theorem resume_encoded (pipe : Pipe) (next : Resume) :
    (pipe.resume next).encoded = pipe.encoded := by
  cases next <;> rfl

/-- The encoder only adds to the channel. -/
theorem encode_encoded (pipe : Pipe) (ambient : Ambient) (codec : Option (List UInt8)) :
    pipe.encoded <+: (pipe.encode ambient codec).1.encoded := by
  unfold encode admitFrame pushRound sendEncoded finishTail
  simp only
  split <;> repeat' split
  all_goals first
    | exact List.prefix_rfl
    | simp [resume_encoded, countError, countCancelled]

theorem encode_of_ended {pipe : Pipe} (ended : pipe.encoder.ended = true) (ambient : Ambient)
    (codec : Option (List UInt8)) : (pipe.encode ambient codec).1 = pipe := by
  unfold encode
  split <;> simp_all [EncoderPhase.ended]

end Pipe

namespace World

variable {Publisher Note : Type}

theorem perform_encoded (world : World Publisher Note) (action : Action) (bus : Nat) :
    (world.shared.pipes bus).encoded <+: ((world.perform action).shared.pipes bus).encoded :=
  world.perform_bus (motive := fun pipe _ => _ <+: pipe.encoded) action bus List.prefix_rfl
    (fun arrival => by rw [(Pipe.feed_encoded _ _ arrival).1]) (Pipe.encode_encoded _ _)

theorem perform_exhausted (world : World Publisher Note) (action : Action) {bus : Nat}
    (exhausted : (world.shared.pipes bus).Exhausted) :
    ((world.perform action).shared.pipes bus).Exhausted :=
  world.perform_bus (motive := fun pipe _ => pipe.Exhausted) action bus exhausted
    (fun arrival => by simpa [Pipe.Exhausted, Pipe.feed_encoded] using exhausted)
    (fun codec => by rwa [Pipe.encode_of_ended exhausted.1])

end World

namespace Rtc

/-! ### One round -/

/-- Between two accesses: the order of a pass, the buses served, and some buses that wait. -/
structure Placed (order served : List Nat) (waiting : Nat → Prop) (world : RtcWorld) : Prop where
  order : world.publisher.scanOrder = order
  served : services world = served
  exhausted : ∀ bus, (world.publisher.active bus).disconnected = true →
    (world.shared.pipes bus).Exhausted
  waits : ∀ bus, waiting bus → (world.shared.pipes bus).encoded ≠ []

/-- A bus before which no waiting bus stands was served first in this order. -/
structure Serves (order : List Nat) (waiting : Nat → Prop) (front : List Nat) (bus : Nat)
    (rest : List Nat) : Prop where
  split : order = front ++ bus :: rest
  passed : ∀ other ∈ front, ¬waiting other

/-- What an observer finds in a round: nothing more was served, or one bus was. -/
def InRound (order served : List Nat) (waiting : Nat → Prop) (world : RtcWorld) : Prop :=
  services world = served ∨
    ∃ front bus rest, Serves order waiting front bus rest ∧ services world = bus :: served

/-- A bus was served and stands last. -/
def Rotated (order served : List Nat) (waiting : Nat → Prop) (world : RtcWorld) : Prop :=
  ∃ front bus rest, Serves order waiting front bus rest ∧
    Placed (rest ++ (front ++ [bus])) (bus :: served)
      (fun other => waiting other ∧ other ≠ bus) world

/-- The end of a pass. -/
def Scanned (order served : List Nat) (waiting : Nat → Prop) : Bool → RtcWorld → Prop
  | true => Rotated order served waiting
  | false => Placed order served waiting

namespace Placed

variable {order served : List Nat} {waiting : Nat → Prop} {world : RtcWorld}

theorem perform (standing : Placed order served waiting world) (action : Action) :
    Placed order served waiting (world.perform action) where
  order := standing.order
  served := (services_perform world action).trans standing.served
  exhausted bus flagged := world.perform_exhausted action (standing.exhausted bus flagged)
  waits bus waits empty := by
    have kept := world.perform_encoded action bus
    rw [empty] at kept
    exact standing.waits bus waits (List.prefix_nil.mp kept)

theorem stable : Stable settleTurn (Placed order served waiting) := fun turn world standing =>
  World.settle_induction (fun _ action standing => standing.perform action) turn.before world
    standing

section Standing

variable (standing : Placed order served waiting world)

include standing

theorem note {entry : RtcNote}
    (silent : entry.served = none) : Placed order served waiting (world.note entry) where
  order := standing.order
  served := by
    rw [services, World.notes_note, List.filterMap_cons_none silent]
    exact standing.served
  exhausted := standing.exhausted
  waits := standing.waits

theorem note_served {entry : RtcNote} {bus : Nat} (serves : entry.served = some bus) :
    Placed order (bus :: served) waiting (world.note entry) where
  order := standing.order
  served := by
    rw [services, World.notes_note, List.filterMap_cons_some serves]
    exact congrArg (bus :: ·) standing.served
  exhausted := standing.exhausted
  waits := standing.waits

/-- A change of the publisher's own variables that keeps the order and the flags. -/
theorem own {change : RtcPublisher → RtcPublisher}
    (ordered : ∀ publisher, (change publisher).scanOrder = publisher.scanOrder)
    (flags : ∀ publisher bus,
      ((change publisher).active bus).disconnected = (publisher.active bus).disconnected) :
    Placed order served waiting (updatePublisher change world) where
  order := (ordered _).trans standing.order
  served := standing.served
  exhausted bus flagged := standing.exhausted bus ((flags _ bus).symm.trans flagged)
  waits := standing.waits

/-- A change of counters. -/
theorem updatePipe {bus : Nat}
    {change : Pipe → Pipe} (encoded : ∀ pipe, (change pipe).encoded = pipe.encoded)
    (encoder : ∀ pipe, (change pipe).encoder = pipe.encoder) :
    Placed order served waiting (world.updatePipe bus change) := by
  have same : ∀ other, ((world.updatePipe bus change).shared.pipes other).encoded =
      (world.shared.pipes other).encoded ∧
      ((world.updatePipe bus change).shared.pipes other).encoder =
        (world.shared.pipes other).encoder := by
    intro other
    by_cases here : other = bus
    · subst here
      simp [World.updatePipe, encoded, encoder]
    · simp [World.updatePipe, here]
  refine ⟨standing.order, standing.served, fun other flagged => ?_, fun other waits => ?_⟩
  · rw [Pipe.Exhausted, (same other).1, (same other).2]
    exact standing.exhausted other flagged
  · rw [(same other).1]
    exact standing.waits other waits

end Standing

theorem rotate {front rest : List Nat} {bus : Nat}
    (standing : Placed (front ++ bus :: rest) served waiting world) :
    Placed (rest ++ (front ++ [bus])) served waiting
      (updatePublisher (RtcPublisher.rotate · bus) world) where
  order := RtcPublisher.scanOrder_rotate standing.order
  served := standing.served
  exhausted := standing.exhausted
  waits := standing.waits

/-- A stream is given up only when its channel is exhausted. -/
theorem disconnect (standing : Placed order served waiting world) {bus : Nat}
    (exhausted : (world.shared.pipes bus).Exhausted) :
    Placed order served waiting (updatePublisher (RtcPublisher.disconnect · bus) world) where
  order := standing.order
  served := standing.served
  exhausted other flagged := by
    by_cases here : other = bus
    · subst here
      exact exhausted
    · refine standing.exhausted other ?_
      simpa [updatePublisher, RtcPublisher.disconnect, RtcPublisher.setActive, here] using flagged
  waits := standing.waits

theorem forget (standing : Placed order served waiting world) {fewer : Nat → Prop}
    (implies : ∀ bus, fewer bus → waiting bus) : Placed order served fewer world :=
  { standing with waits := fun bus waits => standing.waits bus (implies bus waits) }

theorem not_waiting (standing : Placed order served waiting world) {bus : Nat}
    (empty : (world.shared.pipes bus).encoded = []) : ¬waiting bus :=
  fun waits => standing.waits bus waits empty

end Placed

section Round

variable {order served : List Nat} {waiting : Nat → Prop} {found : RtcWorld → Prop}

theorem observed_of_inRound (shown : ∀ world, InRound order served waiting world → found world) :
    Observed found (Placed order served waiting) :=
  ⟨fun world standing => shown world (.inl standing.served), Placed.stable⟩

/-- What a received frame, an empty and a disconnected channel say about the waiting buses. -/
theorem receive_placed (observed : Observed found (Placed order served waiting)) (bus : Nat) :
    Triple found (Placed order served waiting) (receive bus)
      (fun received world => match received with
        | .frame _ => Placed order served (fun other => waiting other ∧ other ≠ bus) world
        | .empty => Placed order served waiting world ∧ ¬waiting bus
        | .disconnected =>
          Placed order served waiting world ∧ (world.shared.pipes bus).Exhausted)
      fun _ => found := by
  refine receive_triple bus observed.shown observed.stable ?_ ?_ ?_
  · exact fun _ standing queue => ⟨standing, standing.not_waiting queue⟩
  · exact fun _ standing queue ended => ⟨standing, ended, queue⟩
  · intro world frame rest standing queue
    have elsewhere : ∀ other, other ≠ bus →
        (world.updatePipe bus fun pipe => pipe.tryRecv.2).shared.pipes other =
          world.shared.pipes other := by
      intro other away
      simp [World.updatePipe, away]
    refine ⟨standing.order, standing.served, fun other flagged => ?_, fun other waits => ?_⟩
    · have exhausted := standing.exhausted other flagged
      by_cases here : other = bus
      · -- a flagged stream has nothing to receive
        subst here
        rw [exhausted.2] at queue
        cases queue
      · rw [elsewhere other here]
        exact exhausted
    · rw [elsewhere other waits.2]
      exact standing.waits other waits.1

theorem tryRecvFrame_placed (shown : ∀ world, InRound order served waiting world → found world)
    (bus : Nat) (backlogPolicy : PublisherBacklogPolicy) :
    Triple found (Placed order served waiting) (tryRecvFrame bus backlogPolicy)
      (fun backlog world => match backlog with
        | .frame _ _ => Placed order served (fun other => waiting other ∧ other ≠ bus) world
        | .empty => Placed order served waiting world ∧ ¬waiting bus
        | .disconnected =>
          Placed order served waiting world ∧ (world.shared.pipes bus).Exhausted)
      fun _ => found := by
  have observed := observed_of_inRound shown
  have received : Observed found
      (Placed order served fun other => waiting other ∧ other ≠ bus) :=
    ⟨fun world standing => shown world (.inl standing.served), Placed.stable⟩
  refine .bind _ (receive_placed observed bus) fun first => ?_
  cases first with
  | empty => exact .done fun _ => id
  | disconnected => exact .done fun _ => id
  | frame frame =>
    cases backlogPolicy with
    | preserve => exact .done fun _ => id
    | dropStale =>
      refine .bind (fun _ => Placed order served fun other => waiting other ∧ other ≠ bus)
        (Triple.iterate (fun _ => Placed order served fun other => waiting other ∧ other ≠ bus)
          (fun _ => received.shown) (fun current => ?_) (frame, 0)) fun freshest => ?_
      · refine .bind _ (receive_placed received bus) fun next => ?_
        cases next with
        | frame next =>
          exact .done fun _ standing => standing.forget fun _ waits => ⟨waits, waits.2⟩
        | empty => exact .done fun _ holds => holds.1
        | disconnected => exact .done fun _ holds => holds.1
      · exact .done fun _ => id

theorem drain_placed (observed : Observed found (Placed order served waiting)) (count : Nat → Nat) :
    Triple found (Placed order served waiting) (drain count)
      (fun _ => Placed order served waiting) fun _ => found := by
  refine .bind _ (observed.drainAllOutputs fun _ standing => standing.note rfl) fun deadline => ?_
  exact .update fun _ standing => standing.own (fun _ => rfl) fun _ _ => rfl

theorem countWrite_flag (publisher : RtcPublisher) (bus payloadBytes other : Nat) :
    ((publisher.countWrite bus payloadBytes).active other).disconnected =
      (publisher.active other).disconnected := by
  by_cases here : other = bus
  · subst here
    simp [RtcPublisher.countWrite, RtcPublisher.setActive]
  · simp [RtcPublisher.countWrite, RtcPublisher.setActive, here]

/-- A received frame is written or discarded: its bus is served and goes to the end of the
order. -/
theorem serve_placed (shown : ∀ world, InRound order served waiting world → found world)
    {front rest : List Nat} {bus : Nat} (serves : Serves order waiting front bus rest)
    (frame : EncodedAudioFrame) (staleDrops : Nat) :
    Triple found (Placed order served fun other => waiting other ∧ other ≠ bus)
      (serve bus frame staleDrops) (fun _ => Rotated order served waiting) fun _ => found := by
  obtain rfl := serves.split
  have holding : Observed found
      (Placed (front ++ bus :: rest) served fun other => waiting other ∧ other ≠ bus) :=
    ⟨fun world standing => shown world (.inl standing.served), Placed.stable⟩
  have written : Observed found
      (Placed (front ++ bus :: rest) (bus :: served) fun other => waiting other ∧ other ≠ bus) :=
    ⟨fun world standing => shown world (.inr ⟨front, bus, rest, serves, standing.served⟩),
      Placed.stable⟩
  refine .bind (fun _ => Placed (front ++ bus :: rest) served fun other =>
    waiting other ∧ other ≠ bus) (.ite (fun _ => .update fun _ standing =>
      standing.updatePipe (fun _ => rfl) fun _ => rfl) fun _ => .done fun _ => id)
    fun _ => ?_
  refine .bind _ (holding.load _) fun inactive => ?_
  cases inactive with
  | true =>
    refine .update fun world standing => ⟨front, bus, rest, serves, ?_⟩
    have counted : Placed (front ++ bus :: rest) served (fun other => waiting other ∧ other ≠ bus)
        (world.updatePipe bus Pipe.countCancelled) :=
      standing.updatePipe (fun _ => rfl) fun _ => rfl
    exact counted.rotate.note_served rfl
  | false =>
    refine .bind _ (holding.ask _) fun writer => ?_
    refine .bind _ (holding.failIf _ _) fun _ => ?_
    refine .bind _ (holding.mutate written.shown fun _ standing =>
      standing.note_served rfl) fun _ => ?_
    refine .bind (fun _ => Placed (front ++ bus :: rest) (bus :: served) fun other =>
      waiting other ∧ other ≠ bus) (.update fun _ standing => standing.own (fun _ => rfl)
        fun publisher other => countWrite_flag publisher bus _ other) fun _ => ?_
    refine .bind _ (drain_placed written _) fun _ => ?_
    exact .update fun _ standing => ⟨front, bus, rest, serves, standing.rotate⟩

/-- A pass does not go past a waiting bus. -/
theorem scan_placed (shown : ∀ world, InRound order served waiting world → found world)
    (front remaining : List Nat) (split : order = front ++ remaining)
    (passed : ∀ other ∈ front, ¬waiting other) :
    Triple found (Placed order served waiting) (scan remaining) (Scanned order served waiting)
      fun _ => found := by
  induction remaining generalizing front with
  | nil => exact .done fun _ => id
  | cons bus rest hypothesis =>
    have next : ¬waiting bus → Triple found (Placed order served waiting) (scan rest)
        (Scanned order served waiting) fun _ => found := by
      intro skipped
      refine hypothesis (front ++ [bus]) (by simp [split]) fun other member => ?_
      rcases List.mem_append.mp member with before | last
      · exact passed other before
      · rw [List.mem_singleton.mp last]
        exact skipped
    refine .bind (fun active world => Placed order served waiting world ∧
      (active.disconnected = true → ¬waiting bus)) (.inspect fun world standing =>
        ⟨standing, fun flagged => standing.not_waiting (standing.exhausted bus flagged).2⟩)
      fun active => ?_
    refine .ite (fun flagged => ?_) fun _ => ?_
    · exact .and_pre fun skipped => next (skipped flagged)
    · refine .bind _ (tryRecvFrame_placed shown bus _).left fun backlog => ?_
      cases backlog with
      | frame frame staleDrops =>
        refine .bind _ (serve_placed shown ⟨split, passed⟩ frame staleDrops) fun _ => ?_
        exact .done fun _ => id
      | empty => exact .and_pre next
      | disconnected =>
        refine .bind (fun _ world => Placed order served waiting world ∧ ¬waiting bus)
          (.update fun world holds =>
            ⟨holds.1.disconnect holds.2, holds.1.not_waiting holds.2.2⟩) fun _ => ?_
        exact .and_pre next

theorem keepAlive_placed (observed : Observed found (Placed order served waiting)) :
    Triple found (Placed order served waiting) keepAlive
      (fun _ => Placed order served waiting) fun _ => found := by
  refine .bind _ (observed.inspect _) fun lastWsPing => ?_
  refine .bind _ (observed.load _) fun now => ?_
  refine .ite (fun _ => ?_) fun _ => .done fun _ => id
  refine .bind _ (observed.call _) fun _ => ?_
  refine .bind _ (observed.load _) fun now => ?_
  exact .update fun _ standing => standing.own (fun _ => rfl) fun _ _ => rfl

theorem idle_placed (observed : Observed found (Placed order served waiting)) :
    Triple found (Placed order served waiting) idle
      (fun _ => Placed order served waiting) fun _ => found := by
  refine .bind _ (observed.inspect _) fun done => ?_
  refine .ite (fun _ => .done fun _ => id) fun _ => ?_
  refine .bind _ (keepAlive_placed observed) fun _ => ?_
  refine .bind _ (observed.ask _) fun read => ?_
  split
  next => exact observed.fail _
  next => exact .done fun _ => id

/-- One round serves at most one bus, and no bus behind a waiting one. -/
theorem publishRound_placed (shown : ∀ world, InRound order served waiting world → found world) :
    Triple found (Placed order served waiting) publishRound
      (fun _ world => Placed order served waiting world ∨ Rotated order served waiting world)
      fun _ => found := by
  have observed := observed_of_inRound shown
  have ticks : ∀ context, Triple found (Placed order served waiting) (mutate .input context)
      (fun _ => Placed order served waiting) fun _ => found := fun _ =>
    observed.mutate observed.shown fun _ standing => standing.note rfl
  refine .bind _ (observed.load _) fun now => ?_
  refine .bind _ (observed.inspect _) fun nextRtcTimeout => ?_
  refine .ite (fun _ => ?_) fun _ => ?_
  · refine .bind _ (ticks _) fun _ => ?_
    refine .bind _ (drain_placed observed _) fun _ => ?_
    exact .done fun _ standing => .inl standing
  · refine .bind _ (observed.ask _) fun datagram => ?_
    split
    next =>
      refine .bind _ (observed.call _) fun _ => ?_
      refine .bind _ (ticks _) fun _ => ?_
      refine .bind _ (drain_placed observed _) fun _ => ?_
      exact .done fun _ standing => .inl standing
    next => exact observed.fail _
    next =>
      refine .bind (fun scanned world => Placed order served waiting world ∧
        scanned = order) (.inspect fun _ standing => ⟨standing, standing.order⟩)
        fun scanned => ?_
      refine .bind (Scanned order served waiting) (.and_pre fun same => ?_) fun received => ?_
      · subst same
        exact scan_placed shown [] scanned rfl fun _ member => nomatch member
      · cases received with
        | true => exact .done fun _ rotated => .inr rotated
        | false => exact (idle_placed observed).weaken fun _ _ standing => .inl standing

theorem prepare_placed (observed : Observed found (Placed order served waiting))
    (policies : List PublisherBacklogPolicy) :
    Triple found (Placed order served waiting) (prepare policies)
      (fun _ => Placed order served waiting) fun _ => found := by
  have negotiates : ∀ policies, Triple found (Placed order served waiting) (negotiate policies)
      (fun _ => Placed order served waiting) fun _ => found := by
    intro policies
    induction policies with
    | nil => exact .done fun _ => id
    | cons _ rest hypothesis =>
      refine .bind _ (observed.ask _) fun writer => ?_
      exact .bind _ (observed.failIf _ _) fun _ => hypothesis
  refine .bind _ (observed.failIf _ _) fun _ => ?_
  refine .bind _ (negotiates policies) fun _ => ?_
  refine .bind _ (observed.call _) fun _ => ?_
  refine .bind _ (observed.call _) fun _ => ?_
  refine .bind _ (observed.call _) fun _ => ?_
  refine .bind _ (observed.load _) fun nextRtcTimeout => ?_
  refine .bind _ (observed.load _) fun runStart => ?_
  refine .bind _ (observed.load _) fun lastWsPing => ?_
  refine .bind (fun _ => Placed order served waiting) (.update fun _ standing =>
    standing.own (fun _ => rfl) fun _ _ => rfl) fun _ => ?_
  exact .done fun _ => id

end Round

/-! ### Between two services of a bus -/

/-- Of the buses served behind `base`, newest first, none was served twice before `bus`. -/
def Bounded (buses bus : Nat) (base served : List Nat) : Prop :=
  ∀ later new, served = later ++ (new ++ base) → bus ∉ new →
    new.Nodup ∧ new.length ≤ buses - 1

/-- Buses served while another one waits. -/
structure Bypassed (buses bus : Nat) (new : List Nat) : Prop where
  inside : bus < buses
  unserved : bus ∉ new
  once : new.Nodup
  known : ∀ other ∈ new, other < buses

namespace Bypassed

variable {buses bus : Nat} {new base : List Nat}

section Bypass

variable (bypassed : Bypassed buses bus new)

include bypassed

theorem sublist {fewer : List Nat} (part : fewer.Sublist new) :
    Bypassed buses bus fewer where
  inside := bypassed.inside
  unserved member := bypassed.unserved (part.subset member)
  once := bypassed.once.sublist part
  known other member := bypassed.known other (part.subset member)

theorem length_le : new.length ≤ buses - 1 := by
  have all : (bus :: new).Nodup := List.nodup_cons.mpr ⟨bypassed.unserved, bypassed.once⟩
  have known : bus :: new ⊆ List.range buses := by
    intro other member
    rcases List.mem_cons.mp member with rfl | behind
    · exact List.mem_range.mpr bypassed.inside
    · exact List.mem_range.mpr (bypassed.known other behind)
  have bound := (List.subperm_of_subset all known).length_le
  rw [List.length_cons, List.length_range] at bound
  omega

theorem bounded : Bounded buses bus base (new ++ base) := by
  intro later fewer split _
  have suffix : new = later ++ fewer := by
    rw [← List.append_assoc] at split
    exact List.append_cancel_right split
  have part := bypassed.sublist (suffix ▸ List.sublist_append_right later fewer)
  exact ⟨part.once, part.length_le⟩

/-- After the bus was served, what came before it is left as it is. -/
theorem bounded_after (more : List Nat) :
    Bounded buses bus base (more ++ bus :: (new ++ base)) := by
  intro later fewer split unserved
  have cancelled : more ++ bus :: new = later ++ fewer := by
    have whole : (more ++ bus :: new) ++ base = (later ++ fewer) ++ base := by simpa using split
    exact List.append_cancel_right whole
  have suffix : fewer <:+ new := by
    rcases List.append_eq_append_iff.mp cancelled with ⟨between, -, inner⟩ | ⟨between, -, inner⟩
    · cases between with
      | nil =>
        rw [List.nil_append] at inner
        exact absurd (inner ▸ List.mem_cons_self) unserved
      | cons head between =>
        rw [List.cons_append, List.cons.injEq] at inner
        exact ⟨between, inner.2.symm⟩
    · exact absurd (by simp [inner]) unserved
  have part := bypassed.sublist suffix.sublist
  exact ⟨part.once, part.length_le⟩

/-- One more bus, not served before. -/
theorem cons {other : Nat} (different : other ≠ bus)
    (fresh : other ∉ new) (known : other < buses) : Bypassed buses bus (other :: new) where
  inside := bypassed.inside
  unserved := by simp [different.symm, bypassed.unserved]
  once := List.nodup_cons.mpr ⟨fresh, bypassed.once⟩
  known := List.forall_mem_cons.mpr ⟨known, bypassed.known⟩

end Bypass

end Bypassed

/-- What is served first in an order in which a bus waits: that bus, or one before it. -/
theorem Serves.cases {front rest passed after : List Nat} {bus served : Nat}
    (serves : Serves (front ++ bus :: rest) (· = bus) passed served after) :
    served = bus ∨ ∃ between, front = passed ++ served :: between ∧
      after = between ++ bus :: rest := by
  rcases List.append_eq_append_iff.mp serves.split with ⟨between, behind, inner⟩ |
    ⟨between, before, inner⟩
  · cases between with
    | nil => exact .inl (List.cons.inj inner).1.symm
    | cons head between =>
      rw [List.cons_append, List.cons.injEq] at inner
      refine absurd inner.1.symm (serves.passed head ?_)
      simp [behind]
  · cases between with
    | nil => exact .inl (List.cons.inj inner).1
    | cons head between =>
      rw [List.cons_append, List.cons.injEq] at inner
      obtain ⟨rfl, rfl⟩ := inner
      exact .inr ⟨between, before, rfl⟩

section Waiting

variable {buses bus : Nat} {base : List Nat}

/-- The bus waits; the buses before it in the order have not been served behind `base`. -/
def Queued (buses bus : Nat) (base : List Nat) (world : RtcWorld) : Prop :=
  ∃ front rest new, (front ++ bus :: rest).Perm (List.range buses) ∧ Bypassed buses bus new ∧
    (∀ other ∈ front, other ∉ new) ∧
      Placed (front ++ bus :: rest) (new ++ base) (· = bus) world

/-- The bus has been served behind `base`. -/
def Answered (buses bus : Nat) (base : List Nat) (world : RtcWorld) : Prop :=
  ∃ order more new, order.Perm (List.range buses) ∧ Bypassed buses bus new ∧
    Placed order (more ++ bus :: (new ++ base)) (fun _ => False) world

/-- The order after a bus was served has the same buses. -/
theorem Serves.perm {order passed after : List Nat} {waiting : Nat → Prop} {served : Nat}
    (serves : Serves order waiting passed served after)
    (perm : order.Perm (List.range buses)) :
    (after ++ (passed ++ [served])).Perm (List.range buses) := by
  refine List.Perm.trans ?_ perm
  have turned : (after ++ (passed ++ [served])).Perm ((passed ++ [served]) ++ after) :=
    List.perm_append_comm
  simpa [serves.split] using turned

theorem answered_round :
    Triple (fun world => Bounded buses bus base (services world)) (Answered buses bus base)
      publishRound (fun _ => Answered buses bus base)
      fun _ world => Bounded buses bus base (services world) := by
  rintro schedule world ⟨order, more, new, perm, bypassed, standing⟩
  have shown : ∀ world, InRound order (more ++ bus :: (new ++ base)) (fun _ => False) world →
      Bounded buses bus base (services world) := by
    rintro world (same | ⟨front, other, rest, -, served⟩)
    · rw [same]
      exact bypassed.bounded_after more
    · rw [served]
      exact bypassed.bounded_after (other :: more)
  refine (publishRound_placed shown).weaken ?_ schedule world standing
  rintro _ world (standing | ⟨front, other, rest, serves, standing⟩)
  · exact ⟨order, more, new, perm, bypassed, standing⟩
  · refine ⟨_, other :: more, new, serves.perm perm, bypassed, standing.forget ?_⟩
    exact fun _ impossible => impossible.elim

/-- While a bus waits, a round serves it or a bus before it, which then stands behind it. -/
theorem queued_round :
    Triple (fun world => Bounded buses bus base (services world)) (Queued buses bus base)
      publishRound (fun _ world => Queued buses bus base world ∨ Answered buses bus base world)
      fun _ world => Bounded buses bus base (services world) := by
  rintro schedule world ⟨front, rest, new, perm, bypassed, ahead, standing⟩
  have distinct : (front ++ bus :: rest).Nodup := perm.nodup_iff.mpr List.nodup_range
  have bypasses : ∀ other ∈ front, Bypassed buses bus (other :: new) := by
    intro other member
    refine bypassed.cons ?_ (ahead other member) ?_
    · exact (List.nodup_append.mp distinct).2.2 other member bus List.mem_cons_self
    · exact List.mem_range.mp (perm.subset (List.mem_append_left _ member))
  have shown : ∀ world, InRound (front ++ bus :: rest) (new ++ base) (· = bus) world →
      Bounded buses bus base (services world) := by
    rintro world (same | ⟨passed, other, after, serves, served⟩)
    · rw [same]
      exact bypassed.bounded
    · rw [served]
      rcases serves.cases with rfl | ⟨between, rfl, -⟩
      · exact bypassed.bounded_after []
      · exact (bypasses other (by simp)).bounded
  refine (publishRound_placed shown).weaken ?_ schedule world standing
  rintro _ world (standing | ⟨passed, other, after, serves, standing⟩)
  · exact .inl ⟨front, rest, new, perm, bypassed, ahead, standing⟩
  · have turned := serves.perm perm
    rcases serves.cases with rfl | ⟨between, rfl, rfl⟩
    · refine .inr ⟨_, [], new, turned, bypassed, standing.forget ?_⟩
      exact fun _ impossible => impossible.elim
    · have served := bypasses other (by simp)
      have waits : ∀ waiting, waiting = bus → waiting = bus ∧ waiting ≠ other := by
        rintro waiting rfl
        exact ⟨rfl, fun same => served.unserved (same ▸ List.mem_cons_self)⟩
      refine .inl ⟨between, rest ++ (passed ++ [other]), other :: new, ?_, served, ?_, ?_⟩
      · simpa using turned
      · intro later member
        have apart : later ≠ other := by
          rintro rfl
          simp [List.nodup_append, member] at distinct
        have unserved : later ∉ new := ahead later (by simp [member])
        simp [apart, unserved]
      · simpa using standing.forget waits

/-- However many rounds are made once a bus waits, it is not bypassed twice by the same one. -/
theorem waiting_passes (count : Nat) :
    Triple (fun world => Bounded buses bus base (services world))
      (fun world => Queued buses bus base world ∨ Answered buses bus base world)
      (Command.passes publishRound count)
      (fun _ world => Bounded buses bus base (services world))
      fun _ world => Bounded buses bus base (services world) := by
  have shown : ∀ world, Queued buses bus base world ∨ Answered buses bus base world →
      Bounded buses bus base (services world) := by
    rintro world (⟨front, rest, new, -, bypassed, -, standing⟩ |
      ⟨order, more, new, -, bypassed, standing⟩)
    · exact standing.served ▸ bypassed.bounded
    · exact standing.served ▸ bypassed.bounded_after more
  have round : Triple (fun world => Bounded buses bus base (services world))
      (fun world => Queued buses bus base world ∨ Answered buses bus base world) publishRound
      (fun _ world => Queued buses bus base world ∨ Answered buses bus base world)
      fun _ world => Bounded buses bus base (services world) := by
    rintro schedule world (queued | answered)
    · exact queued_round schedule world queued
    · exact (answered_round.weaken fun _ _ answered => .inr answered) schedule world answered
  induction count with
  | zero => exact .done fun _ holds => shown _ holds
  | succ count hypothesis =>
    refine .bind _ round fun outcome => ?_
    cases outcome with
    | some _ => exact .done fun _ holds => shown _ holds
    | none => exact hypothesis

/-- A bus that is found waiting at the end of a round waits behind at most the one bus that was
served in it. -/
theorem queued_of_round {order : List Nat} {world middle : RtcWorld}
    {schedule rest : List RtcTurn} {outcome : Option Unit} (inside : bus < buses)
    (perm : order.Perm (List.range buses)) (standing : Placed order base (fun _ => False) world)
    (round : publishRound schedule world = (.ok outcome, rest, middle))
    (waits : (middle.shared.pipes bus).encoded ≠ []) :
    Queued buses bus base middle ∨ Answered buses bus base middle := by
  have ends := (publishRound_placed (fun world _ => trivial) :
    Triple (fun _ => True) (Placed order base fun _ => False) publishRound _ _) schedule world
      standing
  rw [round] at ends
  have waiting : ∀ {order served : List Nat} {dropped : Nat → Prop},
      Placed order served dropped middle → Placed order served (· = bus) middle :=
    fun standing => { standing with waits := by rintro _ rfl; exact waits }
  have nothing : Bypassed buses bus [] := ⟨inside, by simp, by simp, by simp⟩
  rcases ends with standing | ⟨passed, other, after, serves, standing⟩
  · have member : bus ∈ order := perm.mem_iff.mpr (List.mem_range.mpr inside)
    obtain ⟨front, rest, rfl⟩ := List.append_of_mem member
    exact .inl ⟨front, rest, [], perm, nothing, by simp, waiting standing⟩
  · have turned := serves.perm perm
    by_cases same : other = bus
    · subst same
      exact .inr ⟨_, [], [], turned, nothing, standing.forget fun _ => False.elim⟩
    · have distinct : (after ++ (passed ++ [other])).Nodup :=
        turned.nodup_iff.mpr List.nodup_range
      have member : bus ∈ after ++ passed := by
        have whole : bus ∈ after ++ (passed ++ [other]) :=
          turned.mem_iff.mpr (List.mem_range.mpr inside)
        simpa [Ne.symm same] using whole
      obtain ⟨front, rest, split⟩ := List.append_of_mem member
      have ordered : after ++ (passed ++ [other]) = front ++ bus :: (rest ++ [other]) := by
        rw [← List.append_assoc, split]
        simp
      rw [ordered] at turned distinct standing
      have known : other < buses := List.mem_range.mp (turned.subset (by simp))
      refine .inl ⟨front, rest ++ [other], [other], turned, nothing.cons same (by simp) known, ?_,
        waiting standing⟩
      intro earlier before
      rw [List.mem_singleton]
      exact (List.nodup_append.mp distinct).2.2 earlier before other (by simp)

end Waiting

/-! ### Whole runs -/

/-- What `run_publish_loop` does before its loop. -/
def opening (policies : List PublisherBacklogPolicy) : RtcPublishing Nat := do
  Command.update (updatePublisher fun _ => start policies)
  prepare policies

/-- `run_publish_loop` up to so many rounds of its loop; `true` when it is not left before. -/
def publishRounds (policies : List PublisherBacklogPolicy) (count : Nat) : RtcPublishing Bool := do
  let _ ← opening policies
  Command.passes publishRound count

/-- The world between two rounds. -/
def Between (buses : Nat) (world : RtcWorld) : Prop :=
  ∃ order served, order.Perm (List.range buses) ∧ Placed order served (fun _ => False) world

theorem publishRound_between (buses : Nat) :
    Triple (fun _ => True) (Between buses) publishRound (fun _ => Between buses)
      fun _ _ => True := by
  rintro schedule world ⟨order, served, perm, standing⟩
  refine (publishRound_placed fun _ _ => trivial).weaken ?_ schedule world standing
  rintro _ world (standing | ⟨front, bus, rest, serves, standing⟩)
  · exact ⟨order, served, perm, standing⟩
  · exact ⟨_, _, serves.perm perm, standing.forget fun _ => False.elim⟩

/-- The loop is entered with the buses in their own order. -/
theorem opening_between (policies : List PublisherBacklogPolicy) :
    Triple (fun _ => True) (fun world : RtcWorld => world.notes = []) (opening policies)
      (fun _ => Between policies.length) fun _ _ => True := by
  refine .bind (fun _ => Placed (start policies).scanOrder [] fun _ => False)
    (.update fun world silent => ?_) fun _ => ?_
  · refine ⟨rfl, ?_, (fun _ flagged => nomatch flagged), fun _ => False.elim⟩
    show world.notes.filterMap RtcNote.served = []
    rw [silent, List.filterMap_nil]
  · refine (prepare_placed ⟨fun _ _ => trivial, Placed.stable⟩ policies).weaken ?_
    exact fun _ world standing => ⟨_, _, (start policies).scanOrder_perm, standing⟩

end Rtc

/-- The first rounds of a run: the world after them, or where the run ended or is found before. -/
def RtcLaunch.rounds (launch : RtcLaunch) (count : Nat) (schedule : List RtcTurn) :
    Except (Halt PublishError) Bool × List RtcTurn × RtcWorld :=
  Rtc.publishRounds launch.policies count schedule launch.world

/-- While the channel of a bus stays non-empty, every other bus is served at most once before it.

Let the channel be non-empty at the end of a round. It became so in this round or before, and it
stays so until the bus is served, since only the publisher takes frames out. `new` is what was
served from the beginning of that round up to a later moment, the bus itself not being served. -/
theorem grouped_buses_bounded_bypass (launch : RtcLaunch) (count more : Nat)
    (schedule : List RtcTurn)
    (goes : (launch.rounds (count + 1) schedule).1 = .ok true) (bus : Nat)
    (inside : bus < launch.lanes.length)
    (waits : ((launch.rounds (count + 1) schedule).2.2.shared.pipes bus).encoded ≠ [])
    (later new : List Nat)
    (split : services (launch.rounds (count + 1 + more) schedule).2.2 =
      later ++ (new ++ services (launch.rounds count schedule).2.2))
    (unserved : bus ∉ new) :
    (∀ other, new.count other ≤ 1) ∧ new.length ≤ launch.lanes.length - 1 := by
  have policies : launch.policies.length = launch.lanes.length := by simp [RtcLaunch.policies]
  have opened := Rtc.opening_between launch.policies schedule launch.world rfl
  rcases entry : Rtc.opening launch.policies schedule launch.world with ⟨result, turns, entered⟩
  rw [entry] at opened
  have rounds : ∀ value, result = .ok value → ∀ count, launch.rounds count schedule =
      Command.passes Rtc.publishRound count turns entered := by
    rintro value rfl count
    show Command.andThen (Rtc.opening launch.policies) _ schedule launch.world = _
    rw [Command.andThen, entry]
  cases result with
  | error halt =>
    have halted : launch.rounds (count + 1) schedule = (.error halt, turns, entered) := by
      show Command.andThen (Rtc.opening launch.policies) _ schedule launch.world = _
      rw [Command.andThen, entry]
    rw [halted] at goes
    cases goes
  | ok value =>
    simp only [rounds value rfl] at goes waits split
    rcases run : Command.passes Rtc.publishRound (count + 1) turns entered with
      ⟨outcome, rest, middle⟩
    rw [run] at goes waits
    obtain rfl : outcome = .ok true := goes
    obtain ⟨before, world, first, round⟩ := Command.passes_succ_inv run
    rw [Command.passes_add run more, first] at split
    have stands : Rtc.Between launch.lanes.length world := by
      have kept := (Triple.passes ((Rtc.publishRound_between launch.lanes.length).weaken
        fun outcome _ between => by cases outcome <;> exact between) count) turns entered
        (policies ▸ opened)
      rw [first] at kept
      exact kept rfl
    obtain ⟨order, served, perm, standing⟩ := stands
    obtain rfl := standing.served
    have queued := Rtc.queued_of_round inside perm standing round waits
    have bounded := (Rtc.waiting_passes more rest middle queued).anywhere (fun _ => id)
      (fun _ _ => id) fun _ _ => id
    obtain ⟨once, bound⟩ := bounded later new split unserved
    exact ⟨List.nodup_iff_count_le_one.mp once, bound⟩

/-- Two buses, each with room for one packet. -/
def pairedLaunch : RtcLaunch where
  ambient := {}
  control := { credential := sampleCredential, revision := 1 }
  lanes := List.replicate 2 default

/-- A packet comes in on both buses before the second round; the third serves the second bus. -/
def bothBuses : List RtcTurn :=
  let quiet : RtcTurn := { poll := .ok (.timeout 1000000000) }
  let pass (bus : Nat) : List Action :=
    List.replicate 3 (.feeder bus (some (capturedSilence 960 0 0))) ++
      List.replicate 8 (.encoder bus (some [1]))
  List.replicate 11 quiet ++ { quiet with before := pass 0 ++ pass 1 } :: List.replicate 13 quiet

theorem grouped_buses_bounded_bypass_once :
    services (pairedLaunch.rounds 3 bothBuses).2.2 = [1, 0] ∧
      (∀ other, [0].count other ≤ 1) ∧ [0].length ≤ pairedLaunch.lanes.length - 1 :=
  ⟨by decide +kernel,
    grouped_buses_bounded_bypass pairedLaunch 1 1 bothBuses (by decide +kernel) 1 (by decide)
      (by decide +kernel) [1] [0] (by decide +kernel) (by decide)⟩

end RelayConnector
