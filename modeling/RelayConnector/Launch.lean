/-
This file says how a run of the gateway begins: what `runtime.rs` has prepared when it
calls `run_with_recovery`, and that whatever follows stays inside the lifecycle.

A launch holds only what can vary. Everything else about the beginning is computed from
it, so a group whose connections come from different rounds, or whose pipes have already
moved, cannot be launched.
-/

import RelayConnector.Simulation

namespace RelayConnector

open Scheduled GatewayWorld

/-- What is prepared for one bus: its connection and the channels to its worker threads. -/
structure Lane extends BusLayout where
  /-- The generation of the READY message that `prepare` received. -/
  sourceGeneration : Nat
  /-- The token of the bus's own configuration, which is presented if there is no recovery. -/
  token : String

namespace Lane

instance : Inhabited Lane where
  default := { (default : BusLayout) with sourceGeneration := 1, token := "token" }

/-- The connection of the bus; the sockets of the group are numbered like its buses. -/
def connection (lane : Lane) (bus : Nat) (admission : Admission) : IngressConnection where
  channels := lane.channels
  sourceGeneration := lane.sourceGeneration
  session := bus
  admission := admission

end Lane

/-- What a run starts from. With recovery there is one configuration a bus, and the held
credential is one the control has given out. -/
structure Launch (recovery : Option PreparedIngressRecovery) where
  ambient : Ambient
  control : SharedControl
  lanes : List Lane
  context : Bool
  grouped : ∀ held, recovery = some held → held.configurations.length = lanes.length
  coherent : control.Coherent
  known : ∀ held, recovery = some held → control.Knows held.credential

namespace Launch

variable {recovery : Option PreparedIngressRecovery}

/-- The revision of the credential the group was admitted with; 0 without recovery. -/
def revision (_ : Launch recovery) : Nat := (recovery.map (·.credential.revision)).getD 0

/-- What a bus was admitted with: the held credential, if there is recovery. -/
def admission (launch : Launch recovery) (lane : Lane) : Admission :=
  ⟨0, launch.revision, (recovery.map (·.credential.token)).getD lane.token⟩

def lane (launch : Launch recovery) (bus : Nat) : Lane := launch.lanes[bus]?.getD default

/-- The connection of a bus at the start. -/
def connection (launch : Launch recovery) (bus : Nat) : IngressConnection :=
  (launch.lane bus).connection bus (launch.admission (launch.lane bus))

def connections (launch : Launch recovery) : List IngressConnection :=
  launch.lanes.mapIdx fun bus lane => lane.connection bus (launch.admission lane)

/-- The READY messages of the preparation. -/
def journal (launch : Launch recovery) : List (Event GatewayNote) :=
  launch.lanes.mapIdx fun bus lane => .note (.ready bus bus lane.sourceGeneration)

/-- The world in which `publish_group` begins. -/
def world (launch : Launch recovery) : GatewayWorld where
  shared :=
    { launch.ambient with
      paused := recovery.map fun _ => false
      control := launch.control
      pipes := fun bus => (launch.lane bus).pipe }
  publisher := Gateway.start launch.connections recovery launch.context
  journal := launch.journal

/-- A run under a schedule. -/
def run (launch : Launch recovery) (schedule : List Turn) :
    Except (Halt IngressError) IngressRunResult × List Turn × GatewayWorld :=
  runWithRecovery launch.connections recovery launch.context schedule launch.world

/-- The world in which the run returns, or is found when the schedule is used up. -/
def last (launch : Launch recovery) (schedule : List Turn) : GatewayWorld :=
  (launch.run schedule).2.2

/-- The first iterations of `publish_group`; `true` when the loop goes on. -/
def iterations (launch : Launch recovery) (count : Nat) (schedule : List Turn) :
    Except (Halt IngressError) Bool × List Turn × GatewayWorld :=
  Command.passes publishRound count schedule launch.world

variable (launch : Launch recovery)

theorem length_connections :
    launch.connections.length = launch.lanes.length := List.length_mapIdx

theorem run_ends (schedule : List Turn) :
    Ends (Located launch.world)
      (fun result last => Reach launch.world (.finished result.error) last ∧
        result.statistics = (List.range last.publisher.buses).map fun bus =>
          (last.publisher.active bus).statistics)
      (fun _ _ => False) (launch.run schedule) :=
  runWithRecovery_reaches launch.connections recovery launch.context launch.world
    (fun held given => (launch.grouped held given).trans launch.length_connections.symm) schedule

/-- Wherever a run is found, the lifecycle reaches that world. -/
theorem reached (schedule : List Turn) : Located launch.world (launch.last schedule) :=
  (launch.run_ends schedule).anywhere (fun _ => id)
    (fun _ _ ends => ends.1.located) fun _ _ impossible => impossible.elim

/-- Between two iterations the group is attached. -/
theorem between {count : Nat} {schedule : List Turn}
    (goes : (launch.iterations count schedule).1 = .ok true) :
    Reach launch.world .attached (launch.iterations count schedule).2.2 := by
  have grouped : ∀ held, launch.world.publisher.recovery = some held →
      held.configurations.length = launch.world.publisher.buses := fun held given =>
    (launch.grouped held given).trans launch.length_connections.symm
  have ends := Triple.passes (publishRound_spec grouped) count schedule launch.world .start
  exact ends.of_ok goes rfl

/-- What happens between the end of one iteration and the end of a later one. -/
theorem between_later {count more : Nat} {schedule : List Turn}
    (goes : (launch.iterations count schedule).1 = .ok true)
    (continues : (launch.iterations (count + more) schedule).1 = .ok true) :
    Reach (launch.iterations count schedule).2.2 .attached
      (launch.iterations (count + more) schedule).2.2 := by
  have reached := launch.between goes
  rcases run : launch.iterations count schedule with ⟨result, rest, middle⟩
  rw [run] at goes reached
  obtain rfl : result = .ok true := goes
  have grouped : ∀ held, middle.publisher.recovery = some held →
      held.configurations.length = middle.publisher.buses := by
    intro held given
    have kept := reached.configurations
    rw [given, Option.map_some] at kept
    obtain ⟨first, isFirst, same⟩ := Option.map_eq_some_iff.mp kept.symm
    rw [reached.buses, ← same]
    exact (launch.grouped first isFirst).trans launch.length_connections.symm
  have later : launch.iterations (count + more) schedule =
      Command.passes publishRound more rest middle := Command.passes_add run more
  rw [later] at continues ⊢
  have ends := Triple.passes (publishRound_spec grouped) more rest middle .start
  exact ends.of_ok continues rfl

/-- A run that returns has reached the end of its lifecycle with the error it returns. -/
theorem returned {schedule : List Turn} {result : IngressRunResult}
    (returns : (launch.run schedule).1 = .ok result) :
    Reach launch.world (.finished result.error) (launch.last schedule) ∧
      result.statistics = (List.range (launch.last schedule).publisher.buses).map fun bus =>
        ((launch.last schedule).publisher.active bus).statistics :=
  (launch.run_ends schedule).of_ok returns

/-- At the start every bus of the group has its own connection. -/
theorem active_connection {bus : Nat} (inside : bus < launch.lanes.length) :
    (launch.world.publisher.active bus).connection = some (launch.connection bus) := by
  simp [world, Gateway.start, connections, connection, lane, inside]

/-- The mark of a bus starts at the generation of its connection. -/
theorem highestGeneration_world {bus : Nat} {lane : Lane} (has : launch.lanes[bus]? = some lane) :
    (launch.world.publisher.active bus).highestGeneration = lane.sourceGeneration := by
  simp [world, Gateway.start, connections, has, Lane.connection]

/-- At the start nothing is noted but the READY messages of the preparation. -/
theorem mem_notes_world {entry : GatewayNote} :
    entry ∈ launch.world.notes ↔ ∃ bus lane, launch.lanes[bus]? = some lane ∧
      .ready bus bus lane.sourceGeneration = entry := by
  simp only [World.notes, world, journal, List.mem_filterMap, List.mem_mapIdx]
  constructor
  · rintro ⟨_, ⟨bus, inside, rfl⟩, same⟩
    exact ⟨bus, launch.lanes[bus], List.getElem?_eq_getElem inside, Option.some.inj same⟩
  · rintro ⟨bus, lane, has, rfl⟩
    obtain ⟨inside, rfl⟩ := List.getElem?_eq_some_iff.mp has
    exact ⟨_, ⟨bus, inside, rfl⟩, rfl⟩

theorem transmitted_world {Item : Type} (sent : GatewayNote → Option Item)
    (silent : ∀ bus session generation, sent (.ready bus session generation) = none) :
    launch.world.transmitted sent = [] := by
  rw [World.transmitted, List.filterMap_eq_nil_iff]
  intro entry member
  obtain ⟨_, _, _, rfl⟩ := launch.mem_notes_world.mp (List.mem_reverse.mp member)
  exact silent ..

theorem buses_eq : launch.world.publisher.buses = launch.lanes.length :=
  launch.length_connections

end Launch

/-! ### A sample group, for runs that can be computed -/

def sampleConfiguration : RelayRouteConfiguration where
  relayUrl := "https://relay.example"
  relaySessionId := "session"
  sourceToken := "token"
  busId := "bus"
  publisherGroupId := "group"
  transport := .webSocket

/-- One hour from the start of the clock. -/
def sampleCredential : PublisherCredential where
  token := "token"
  validUntil := 3600 * 1000000000
  revision := 1

def sampleRecovery (buses : Nat) : PreparedIngressRecovery where
  credential := sampleCredential
  configurations := List.replicate buses sampleConfiguration

theorem coherent_sampleCredential :
    SharedControl.Coherent { credential := sampleCredential, revision := 1 } := rfl

/-- Mono buses whose relay has sent generation 1 for each of them. -/
def sampleLaunch (buses : Nat) : Launch (some (sampleRecovery buses)) where
  ambient := {}
  control := { credential := sampleCredential, revision := 1 }
  lanes := List.replicate buses default
  context := true
  grouped := by
    rintro _ ⟨⟩
    simp [sampleRecovery]
  coherent := coherent_sampleCredential
  known := by
    rintro _ ⟨⟩
    exact ⟨Nat.le_refl _, fun _ => rfl⟩

/-- A mono frame of silence, as it is captured. -/
def capturedSilence (width sequenceNumber timestampNs : Nat) : AudioFrame UInt32 where
  samples := List.replicate width 0
  channels := 1
  sequenceNumber := sequenceNumber
  timestampNs := timestampNs
  framed := Nat.one_pos

/-- A frame of one packet goes through the threads of a bus into the queue of encoded packets. -/
def passFrame (bus sequenceNumber timestampNs : Nat) : List Action :=
  List.replicate 5 (.feeder bus (some (capturedSilence 960 sequenceNumber timestampNs))) ++
    List.replicate 8 (.encoder bus (some [1]))

def firstFrame (bus : Nat) : List Action := passFrame bus 0 0

def GatewayNote.isMedia : GatewayNote → Bool
  | .media .. => true
  | _ => false

theorem exists_media_split {notes : List GatewayNote}
    (sent : notes.any GatewayNote.isMedia = true) :
    ∃ later earlier bus frame packet gateway paused,
      notes = later ++ .media bus frame packet gateway paused :: earlier := by
  obtain ⟨entry, member, media⟩ := List.any_eq_true.mp sent
  obtain ⟨later, earlier, split⟩ := List.append_of_mem member
  cases entry with
  | media bus frame packet gateway paused => exact ⟨later, earlier, _, _, _, _, _, split⟩
  | _ => cases media

/-- Turns in which no other thread acts and the outside gives its usual answers. -/
def quietTurns (count : Nat) : List Turn := List.replicate count {}

/-- The first frame of the first bus is sent: fourteen accesses from the head of the loop to
`ws.write`. -/
def firstPacket : List Turn := { before := firstFrame 0 } :: quietTurns 13

/-- A READY message for the sample configuration. -/
def readyTurn (generation : Nat) : Turn :=
  { read := .ok (.text (some { kind := "READY", busId := "bus", sourceGeneration := generation })) }

/-- The relay closes the connection of a lone bus; the group is detached, waits for 100 ms and
dials, up to the read that waits for READY. -/
def untilReady : List Turn :=
  quietTurns 4 ++ { read := .ok (.close none) } :: quietTurns 9 ++
    { before := [.tick 100000000] } :: quietTurns 19

end RelayConnector
