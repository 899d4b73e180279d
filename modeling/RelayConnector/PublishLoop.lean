/-
This file gives the life of a thread that owns a peer connection as a machine, and shows
that the publishing loop stays inside it.

A phase says whether the peer connection has been drained since it was last changed, and
which frame the thread has in hand. A frame is received, found active and written; the
peer connection is changed by an input, a candidate or a write, and then drained. What
the owner keeps for itself may change at any time.
-/

import RelayConnector.Publisher

namespace RelayConnector

open Scheduled

/-- Where the owner of a peer connection stands. -/
inductive RtcPhase where
  /-- The peer connection was handed over, drained or not. -/
  | handed
  /-- The peer connection is drained and there is no frame in hand. -/
  | ready
  /-- A frame has been received. -/
  | holding (bus : Nat) (frame : EncodedAudioFrame)
  /-- The generation of the frame was found active. -/
  | cleared (bus : Nat) (frame : EncodedAudioFrame)
  /-- The peer connection was changed and has not been drained since. -/
  | dirty
  /-- An error is being returned. -/
  | failed

namespace RtcPhase

/-- An input may be handled. -/
def receptive : RtcPhase → Bool
  | .handed => true
  | .ready => true
  | _ => false

/-- The peer connection may be polled. -/
def pollable : RtcPhase → Bool
  | .handed => true
  | .ready => true
  | .dirty => true
  | _ => false

/-- A frame of the bus may be received; it replaces one that is in hand. -/
def awaits (bus : Nat) : RtcPhase → Bool
  | .ready => true
  | .holding other _ => bus == other
  | _ => false

end RtcPhase

variable {Owner : Type}

/-- The steps of the owner. -/
inductive RtcStep : RtcPhase → World Owner RtcNote → RtcPhase → World Owner RtcNote → Prop
  | input (world : World Owner RtcNote) (phase : RtcPhase) (receptive : phase.receptive = true) :
      RtcStep phase world .dirty (world.note .input)
  | candidate (world : World Owner RtcNote) :
      RtcStep .ready world .dirty (world.note .candidate)
  | drained (world : World Owner RtcNote) (phase : RtcPhase) (pollable : phase.pollable = true) :
      RtcStep phase world .ready (world.note .drained)
  | receive (world : World Owner RtcNote) (phase : RtcPhase) (bus : Nat)
      (frame : EncodedAudioFrame) (rest : List EncodedAudioFrame) (awaits : phase.awaits bus = true)
      (head : (world.shared.pipes bus).encoded = frame :: rest) :
      RtcStep phase world (.holding bus frame) (world.updatePipe bus fun pipe => pipe.tryRecv.2)
  | countStale (world : World Owner RtcNote) (bus : Nat) (frame : EncodedAudioFrame)
      (staleDrops : Nat) :
      RtcStep (.holding bus frame) world (.holding bus frame)
        (world.updatePipe bus (Pipe.countStale staleDrops))
  | discard (world : World Owner RtcNote) (bus : Nat) (frame : EncodedAudioFrame) :
      RtcStep (.holding bus frame) world .ready
        ((world.updatePipe bus Pipe.countCancelled).note (.cancelled bus frame))
  | clear (world : World Owner RtcNote) (bus : Nat) (frame : EncodedAudioFrame)
      (active : world.shared.inactive frame.outputGeneration = false) :
      RtcStep (.holding bus frame) world (.cleared bus frame) world
  | write (world : World Owner RtcNote) (bus : Nat) (frame : EncodedAudioFrame) :
      RtcStep (.cleared bus frame) world .dirty (world.note (.media bus frame))
  | own (world : World Owner RtcNote) (phase : RtcPhase) (change : Owner → Owner) :
      RtcStep phase world phase (Rtc.updatePublisher change world)
  | fail (world : World Owner RtcNote) (phase : RtcPhase) : RtcStep phase world .failed world

/-- The states an owner can be in: it takes a step, or another thread acts. -/
inductive RtcReach (start : World Owner RtcNote) : RtcPhase → World Owner RtcNote → Prop
  | start : RtcReach start .handed start
  | act {phase : RtcPhase} {world : World Owner RtcNote} (reached : RtcReach start phase world)
      (action : Action) : RtcReach start phase (world.perform action)
  | step {phase next : RtcPhase} {world after : World Owner RtcNote}
      (reached : RtcReach start phase world) (step : RtcStep phase world next after) :
      RtcReach start next after

/-- The invariant rule of the machine. -/
theorem RtcReach.invariant {start : World Owner RtcNote}
    {motive : RtcPhase → World Owner RtcNote → Prop} (initially : motive .handed start)
    (acts : ∀ phase world action, motive phase world → motive phase (world.perform action))
    (steps : ∀ phase world next after, motive phase world →
      RtcStep phase world next after → motive next after)
    {phase : RtcPhase} {world : World Owner RtcNote} (reached : RtcReach start phase world) :
    motive phase world := by
  induction reached with
  | start => exact initially
  | act _ action hypothesis => exact acts _ _ action hypothesis
  | step _ step hypothesis => exact steps _ _ _ _ hypothesis step

namespace Rtc

/-- The machine reaches this world. -/
def Located (start world : World Owner RtcNote) : Prop := ∃ phase, RtcReach start phase world

variable {start : World Owner RtcNote} {phase : RtcPhase} {Value : Type}
  {after : Value → World Owner RtcNote → Prop}

theorem reach_stable : Stable settleTurn (RtcReach start phase) := by
  intro turn world reached
  exact World.settle_induction (fun _ action reached => reached.act action) turn.before world
    reached

theorem observable (world : World Owner RtcNote) (reached : RtcReach start phase world) :
    Located start world := ⟨phase, reached⟩

theorem failing (world : World Owner RtcNote) (reached : RtcReach start phase world) :
    RtcReach start .failed world := reached.step (.fail world phase)

/-- A command that fails wherever it fails and returns as stated. -/
abbrev Runs (start : World Owner RtcNote) (phase : RtcPhase) (command : Negotiating Owner Value)
    (after : Value → World Owner RtcNote → Prop) : Prop :=
  Triple (Located start) (RtcReach start phase) command after fun _ => RtcReach start .failed

/-- A command that leaves the phase as it is. -/
abbrev Stays (start : World Owner RtcNote) (phase : RtcPhase) (command : Negotiating Owner Value) :
    Prop :=
  Runs start phase command fun _ => RtcReach start phase

/-- A load keeps what the other threads keep. -/
theorem load_keeps {pre : World Owner RtcNote → Prop}
    {fails : PublishError → World Owner RtcNote → Prop}
    (located : ∀ world, pre world → Located start world) (stable : Stable settleTurn pre)
    (read : World Owner RtcNote → Value) :
    Triple (Located start) pre (load read) (fun value world => pre world ∧ value = read world)
      fails :=
  Triple.atomic located stable fun _ _ before => ⟨before, rfl⟩

theorem load_spec (read : World Owner RtcNote → Value) :
    Runs start phase (load read) fun value world =>
      RtcReach start phase world ∧ value = read world :=
  load_keeps observable reach_stable read

theorem load_stays (read : World Owner RtcNote → Value) : Stays start phase (load read) :=
  (load_spec read).weaken fun _ _ found => found.1

theorem ask_stays (answer : RtcTurn → Value) : Stays start phase (ask answer) :=
  Triple.atomic observable reach_stable fun _ _ => id

/-- A call changes nothing, also when it fails. -/
theorem call_spec (context : String) :
    Triple (Located start) (RtcReach start phase) (call context) (fun _ => RtcReach start phase)
      fun _ => RtcReach start phase := by
  refine .atomic observable reach_stable fun turn world reached => ?_
  cases turn.call <;> exact reached

theorem call_stays (context : String) : Stays start phase (call context) :=
  (call_spec context).consequence (fun _ => id) (fun _ _ => id)
    fun _ => failing

/-- A mutation is made whether or not it returns an error. -/
theorem mutate_spec {next : RtcPhase} {entry : RtcNote} {context : String}
    (step : ∀ world : World Owner RtcNote, RtcStep phase world next (world.note entry)) :
    Runs start phase (mutate entry context) fun _ => RtcReach start next := by
  refine .atomic observable reach_stable fun turn world reached => ?_
  have moved := reached.step (step world)
  cases turn.call with
  | ok _ => exact moved
  | error message => exact failing _ moved

theorem update_stays (change : Owner → Owner) :
    Stays start phase (Command.update (updatePublisher change)) :=
  Triple.update fun world reached => reached.step (.own world phase change)

theorem failIf_stays (condition : Bool) (error : PublishError) :
    Stays start phase (Command.failIf condition error) :=
  Triple.failIf (fun world _ reached => failing world reached) fun _ _ => id

theorem fail_spec (error : PublishError) :
    Runs start phase (Command.fail error : Negotiating Owner Value) after :=
  Triple.fail failing

theorem done_stays (value : Value) : Stays start phase (pure value : Negotiating Owner Value) :=
  Triple.done fun _ => id

theorem inspect_stays (read : World Owner RtcNote → Value) :
    Stays start phase (Command.inspect read) :=
  Triple.inspect fun _ => id

/-- `drain_all_outputs` returns only after `poll_output` has returned a timeout. -/
theorem drainAllOutputs_spec (pollable : phase.pollable = true) :
    Runs start phase drainAllOutputs fun _ => RtcReach start .ready := by
  refine .forever observable ?_
  refine .bind _ (ask_stays _) fun output => ?_
  split
  next => exact fail_spec _
  next => exact fail_spec _
  next deadline =>
    refine .bind (fun _ => RtcReach start .ready) (.update ?_) fun _ => ?_
    · exact fun world reached => reached.step (.drained world phase pollable)
    · exact .done fun _ => id
  next =>
    refine .bind _ (ask_stays _) fun sent => ?_
    split
    next => exact fail_spec _
    next => exact .done fun _ => id
  next => exact .done fun _ => id

/-! ### The publishing loop -/

section Publisher

variable {start : RtcWorld} {phase : RtcPhase}

theorem drain_spec (count : Nat → Nat) :
    Runs start .dirty (drain count) fun _ => RtcReach start .ready :=
  Triple.bind _ (drainAllOutputs_spec rfl) fun _ => update_stays _

/-- The rule for `try_recv`: a channel without a frame is left as it is. -/
theorem receive_triple {found holds : RtcWorld → Prop}
    {after : Pipe.Received → RtcWorld → Prop} {fails : PublishError → RtcWorld → Prop}
    (bus : Nat) (shown : ∀ world, holds world → found world) (stable : Stable settleTurn holds)
    (empty : ∀ world, holds world → (world.shared.pipes bus).encoded = [] → after .empty world)
    (disconnected : ∀ world, holds world → (world.shared.pipes bus).encoded = [] →
      (world.shared.pipes bus).encoder.ended = true → after .disconnected world)
    (frame : ∀ world frame rest, holds world →
      (world.shared.pipes bus).encoded = frame :: rest →
      after (.frame frame) (world.updatePipe bus fun pipe => pipe.tryRecv.2)) :
    Triple found holds (receive bus) after fails := by
  refine .atomic shown stable fun turn world held => ?_
  cases queue : (world.shared.pipes bus).encoded with
  | nil =>
    have same : (world.shared.pipes bus).tryRecv.2 = world.shared.pipes bus := by
      simp [Pipe.tryRecv, queue]
    rw [World.updatePipe, same, Function.update_eq_self]
    cases ended : (world.shared.pipes bus).encoder.ended with
    | true => simpa [Pipe.tryRecv, queue, ended] using disconnected world held queue ended
    | false => simpa [Pipe.tryRecv, queue, ended] using empty world held queue
  | cons first rest =>
    have received : (world.shared.pipes bus).tryRecv.1 = .frame first := by
      simp [Pipe.tryRecv, queue]
    rw [received]
    exact frame world first rest held queue

/-- A received frame is then in hand; nothing happens if there is none. -/
theorem receive_spec (bus : Nat) (awaits : phase.awaits bus = true) :
    Runs start phase (receive bus) fun received => match received with
      | .frame frame => RtcReach start (.holding bus frame)
      | _ => RtcReach start phase := by
  refine receive_triple bus observable reach_stable (fun _ reached _ => reached)
    (fun _ reached _ _ => reached) fun world frame rest reached queue => ?_
  exact reached.step (.receive world phase bus frame rest awaits queue)

theorem tryRecvFrame_spec (bus : Nat) (backlogPolicy : PublisherBacklogPolicy) :
    Runs start .ready (tryRecvFrame bus backlogPolicy) fun backlog => match backlog with
      | .frame frame _ => RtcReach start (.holding bus frame)
      | _ => RtcReach start .ready := by
  refine .bind _ (receive_spec bus rfl) fun received => ?_
  cases received with
  | empty => exact .done fun _ => id
  | disconnected => exact .done fun _ => id
  | frame frame =>
    cases backlogPolicy with
    | preserve => exact .done fun _ => id
    | dropStale =>
      -- the local variable of the search is what is in hand
      refine .bind (fun freshest => RtcReach start (.holding bus freshest.1))
        (Triple.iterate (fun current => RtcReach start (.holding bus current.1))
          (fun _ => observable) (fun current => ?_) (frame, 0)) fun freshest => ?_
      · refine .bind _ (receive_spec bus (beq_self_eq_true bus)) fun next => ?_
        cases next <;> exact .done fun _ => id
      · exact .done fun _ => id

theorem serve_spec (bus : Nat) (frame : EncodedAudioFrame) (staleDrops : Nat) :
    Runs start (.holding bus frame) (serve bus frame staleDrops)
      fun _ => RtcReach start .ready := by
  have counted : Stays start (.holding bus frame) (countStale bus staleDrops) :=
    Triple.ite (fun _ => .update fun world reached =>
      reached.step (.countStale world bus frame staleDrops)) fun _ => done_stays ()
  refine .bind _ counted fun _ => ?_
  refine .bind _ (load_spec _) fun inactive => ?_
  cases inactive with
  | true =>
    refine .update fun world found => ?_
    -- the counter and the rotation touch different parts of the world
    have dropped := found.1.step (.discard world bus frame)
    exact dropped.step (.own _ .ready (RtcPublisher.rotate · bus))
  | false =>
    refine .bind _ ((ask_stays _).strengthen fun world found =>
      found.1.step (.clear world bus frame found.2.symm)) fun writer => ?_
    refine .bind _ (failIf_stays _ _) fun _ => ?_
    refine .bind _ (mutate_spec fun world => .write world bus frame) fun _ => ?_
    refine .bind _ (update_stays _) fun _ => ?_
    exact .bind _ (drain_spec _) fun _ => update_stays _

theorem scan_stays (order : List Nat) : Stays start .ready (scan order) := by
  induction order with
  | nil => exact done_stays false
  | cons bus rest hypothesis =>
    refine .bind _ (inspect_stays _) fun active => ?_
    refine .ite (fun _ => hypothesis) fun _ => ?_
    refine .bind _ (tryRecvFrame_spec bus _) fun backlog => ?_
    cases backlog with
    | frame frame staleDrops =>
      exact .bind _ (serve_spec bus frame staleDrops) fun _ => done_stays true
    | empty => exact hypothesis
    | disconnected => exact .bind _ (update_stays _) fun _ => hypothesis

theorem keepAlive_stays : Stays start .ready keepAlive := by
  refine .bind _ (inspect_stays _) fun lastWsPing => ?_
  refine .bind _ (load_stays _) fun now => ?_
  refine .ite (fun _ => ?_) fun _ => done_stays ()
  refine .bind _ (call_stays _) fun _ => ?_
  exact .bind _ (load_stays _) fun _ => update_stays _

theorem idle_stays : Stays start .ready idle := by
  refine .bind _ (inspect_stays _) fun done => ?_
  refine .ite (fun _ => done_stays _) fun _ => ?_
  refine .bind _ keepAlive_stays fun _ => ?_
  refine .bind _ (ask_stays _) fun read => ?_
  split
  next => exact fail_spec _
  next => exact done_stays _

/-- An input, and the drain after it. -/
theorem input_spec (receptive : phase.receptive = true) (context : String) :
    Runs start phase (mutate .input context) fun _ => RtcReach start .dirty :=
  mutate_spec fun world => .input world phase receptive

theorem publishRound_stays : Stays start .ready publishRound := by
  refine .bind _ (load_stays _) fun now => ?_
  refine .bind _ (inspect_stays _) fun nextRtcTimeout => ?_
  refine .ite (fun _ => ?_) fun _ => ?_
  · refine .bind _ (input_spec rfl _) fun _ => ?_
    exact .bind _ (drain_spec _) fun _ => done_stays none
  · refine .bind _ (ask_stays _) fun datagram => ?_
    split
    next =>
      refine .bind _ (call_stays _) fun _ => ?_
      refine .bind _ (input_spec rfl _) fun _ => ?_
      exact .bind _ (drain_spec _) fun _ => done_stays none
    next => exact fail_spec _
    next =>
      refine .bind _ (inspect_stays _) fun order => ?_
      refine .bind _ (scan_stays order) fun received => ?_
      exact .ite (fun _ => done_stays none) fun _ => idle_stays

/-- The peer connection was handed over and its first timeout is due. -/
def Due (start world : RtcWorld) : Prop :=
  RtcReach start .handed world ∧ world.publisher.nextRtcTimeout ≤ world.shared.now

theorem due_stable : Stable settleTurn (Due start) := by
  intro turn world due
  refine World.settle_induction (motive := Due start) (fun world action due => ?_) turn.before world
    due
  exact ⟨due.1.act action, due.2.trans (world.now_le_perform action)⟩

/-- The first round handles the timeout: it was set when the loop was entered. -/
theorem firstRound_spec :
    Triple (Located start) (Due start) publishRound
      (fun outcome world => outcome = none ∧ RtcReach start .ready world)
      fun _ => RtcReach start .failed := by
  refine .bind _ (load_keeps (fun world due => observable world due.1) due_stable _) fun now => ?_
  refine .bind (fun next world => Due start world ∧ next ≤ now)
    (.inspect fun world found => ⟨found.1, found.2 ▸ found.1.2⟩) fun next => ?_
  refine .ite (fun _ => ?_) fun late => ?_
  · refine .bind _ ((input_spec rfl _).strengthen fun _ found => found.1.1) fun _ => ?_
    refine .bind _ (drain_spec _) fun _ => ?_
    exact .done fun _ reached => ⟨rfl, reached⟩
  · exact fun _ _ found => absurd found.2 late

theorem loop_spec :
    Triple (Located start) (Due start) (Command.forever publishRound)
      (fun _ => RtcReach start .ready) fun _ => RtcReach start .failed := by
  have round : Triple (Located start) (fun world => Due start world ∨ RtcReach start .ready world)
      publishRound (Repeats (fun world => Due start world ∨ RtcReach start .ready world)
        fun _ => RtcReach start .ready) fun _ => RtcReach start .failed := by
    rintro schedule world (due | reached)
    · refine (firstRound_spec.weaken ?_) schedule world due
      rintro outcome world ⟨rfl, reached⟩
      exact .inr reached
    · refine (publishRound_stays.weaken ?_) schedule world reached
      rintro (_ | _) world reached
      · exact .inr reached
      · exact reached
  refine (Triple.forever ?_ round).strengthen fun _ due => .inl due
  rintro world (due | reached)
  · exact observable world due.1
  · exact observable world reached

theorem negotiate_stays (policies : List PublisherBacklogPolicy) :
    Stays start phase (negotiate policies) := by
  induction policies with
  | nil => exact done_stays ()
  | cons _ rest hypothesis =>
    refine .bind _ (ask_stays _) fun writer => ?_
    exact .bind _ (failIf_stays _ _) fun _ => hypothesis

theorem prepare_spec (policies : List PublisherBacklogPolicy) :
    Runs start .handed (prepare policies) fun _ => Due start := by
  refine .bind _ (failIf_stays _ _) fun _ => ?_
  refine .bind _ (negotiate_stays policies) fun _ => ?_
  refine .bind _ (call_stays _) fun _ => ?_
  refine .bind _ (call_stays _) fun _ => ?_
  refine .bind _ (call_stays _) fun _ => ?_
  refine .bind _ (load_spec _) fun nextRtcTimeout => ?_
  -- the clock only goes on after the first timeout was set
  have later : Stable settleTurn fun world : RtcWorld =>
      RtcReach start .handed world ∧ nextRtcTimeout ≤ world.shared.now := by
    intro turn world found
    refine World.settle_induction (motive := fun world => RtcReach start .handed world ∧
      nextRtcTimeout ≤ world.shared.now) (fun world action found => ?_) turn.before world found
    exact ⟨found.1.act action, found.2.trans (world.now_le_perform action)⟩
  have located : ∀ world : RtcWorld, RtcReach start .handed world ∧
      nextRtcTimeout ≤ world.shared.now → Located start world :=
    fun world found => observable world found.1
  refine .bind _ ((load_keeps located later _).strengthen
    fun _ found => ⟨found.1, found.2.le⟩) fun runStart => ?_
  refine .bind _ (load_keeps located later _).left fun lastWsPing => ?_
  refine .bind (fun _ => Due start) (.update ?_) fun _ => .done fun _ => id
  exact fun world found => ⟨found.1.1.step (.own world .handed _), found.1.2⟩

/-- Wherever a run of `run_publish_loop` is found, the machine reaches that world. -/
theorem runPublishLoop_reaches (policies : List PublisherBacklogPolicy) :
    Runs start .handed (runPublishLoop policies) fun _ => RtcReach start .ready := by
  have goodbye : Stays start .ready (Command.attempt (call "")) :=
    (Triple.attempt (call_spec "")).weaken fun result _ => by cases result <;> exact id
  refine .bind _ (update_stays _) fun _ => ?_
  refine .bind _ (prepare_spec policies) fun runStart => ?_
  refine .bind _ loop_spec fun _ => ?_
  refine .bind _ goodbye fun _ => ?_
  refine .bind _ goodbye fun _ => ?_
  refine .bind _ (load_stays _) fun now => ?_
  exact .bind _ (inspect_stays _) fun last => done_stays _

end Publisher

/-! ### Assertions between two accesses -/

section Observed

variable {Owner Value : Type} {found pre : World Owner RtcNote → Prop}

/-- An assertion in which an observer finds what it may find, and that the other threads keep. -/
structure Observed (found pre : World Owner RtcNote → Prop) : Prop where
  shown : ∀ world, pre world → found world
  stable : Stable settleTurn pre

namespace Observed

theorem load (observed : Observed found pre) (read : World Owner RtcNote → Value) :
    Triple found pre (load read) (fun _ => pre) fun _ => found :=
  Triple.atomic observed.shown observed.stable fun _ _ => id

theorem ask (observed : Observed found pre) (answer : RtcTurn → Value) :
    Triple found pre (ask answer) (fun _ => pre) fun _ => found :=
  Triple.atomic observed.shown observed.stable fun _ _ => id

theorem call (observed : Observed found pre) (context : String) :
    Triple found pre (call context) (fun _ => pre) fun _ => found := by
  refine .atomic observed.shown observed.stable fun turn world holds => ?_
  cases turn.call with
  | ok _ => exact holds
  | error message => exact observed.shown world holds

/-- A call whose error is ignored. -/
theorem attempt_call (observed : Observed found pre) (context : String)
    {fails : PublishError → World Owner RtcNote → Prop} :
    Triple found pre (Command.attempt (Rtc.call context)) (fun _ => pre) fails := by
  have called : Triple found pre (Rtc.call context) (fun _ => pre) fun _ => pre := by
    refine .atomic observed.shown observed.stable fun turn world holds => ?_
    cases turn.call <;> exact holds
  exact called.attempt.weaken fun result _ => by cases result <;> exact id

theorem inspect (_ : Observed found pre) (read : World Owner RtcNote → Value) :
    Triple found pre (Command.inspect read : Negotiating Owner Value) (fun _ => pre)
      fun _ => found :=
  Triple.inspect fun _ => id

theorem failIf (observed : Observed found pre) (condition : Bool) (error : PublishError) :
    Triple found pre (Command.failIf condition error : Negotiating Owner Unit) (fun _ => pre)
      fun _ => found :=
  Triple.failIf (fun world _ holds => observed.shown world holds) fun _ _ => id

theorem fail (observed : Observed found pre) (error : PublishError)
    {after : Value → World Owner RtcNote → Prop} :
    Triple found pre (Command.fail error : Negotiating Owner Value) after fun _ => found :=
  Triple.fail fun world holds => observed.shown world holds

theorem mutate (observed : Observed found pre) {entry : RtcNote} {context : String}
    {after : World Owner RtcNote → Prop} (shown : ∀ world, after world → found world)
    (noted : ∀ world, pre world → after (world.note entry)) :
    Triple found pre (mutate entry context) (fun _ => after) fun _ => found := by
  refine .atomic observed.shown observed.stable fun turn world holds => ?_
  cases turn.call with
  | ok _ => exact noted world holds
  | error message => exact shown _ (noted world holds)

theorem drainAllOutputs (observed : Observed found pre)
    (noted : ∀ world, pre world → pre (world.note .drained)) :
    Triple found pre drainAllOutputs (fun _ => pre) fun _ => found := by
  refine .forever observed.shown ?_
  refine .bind _ (observed.ask _) fun output => ?_
  split
  next => exact observed.fail _
  next => exact observed.fail _
  next deadline =>
    refine .bind (fun _ => pre) (.update noted) fun _ => ?_
    exact .done fun _ => id
  next =>
    refine .bind _ (observed.ask _) fun sent => ?_
    split
    next => exact observed.fail _
    next => exact .done fun _ => id
  next => exact .done fun _ => id

end Observed

end Observed

end Rtc

/-- The machine reaches the world in which a run returns or is found. -/
theorem RtcLaunch.reached (launch : RtcLaunch) (schedule : List RtcTurn) :
    Rtc.Located launch.world (launch.last schedule) :=
  (Rtc.runPublishLoop_reaches launch.policies schedule launch.world .start).anywhere
    (fun _ => id) (fun _ => Rtc.observable) fun _ => Rtc.observable

end RelayConnector
