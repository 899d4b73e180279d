/-
This file models the watchdog of `rtc/proxy.rs`: `before_deadline` runs an operation on
a socket while a second thread shuts that socket down when the deadline has passed.

The two threads share a one-shot channel, the socket and the clock. Every step of
either thread is a move, the clock goes on between them, and what the operation does is
up to the moves. It is shown that a result that is returned was neither late nor cut
off, that the socket which is then handed on is never shut down afterwards, and that
neither thread is ever stuck.
-/

import RelayConnector.OneShot

namespace RelayConnector

namespace Watchdog

open OneShot

variable {Value : Type}

def startupDeadline : String := "Relay connection exceeded its startup deadline"

/-- The thread that calls `before_deadline`. -/
inductive Caller (Value : Type) where
  | entering
  /-- What remained when the clock was read. -/
  | spawning (remaining : Nat)
  /-- In the operation, `blocked` while a call on the socket does not return. -/
  | operating (blocked : Bool)
  | notifying (result : Except String Value)
  | joining (result : Except String Value)
  | checking (result : Except String Value)
  /-- With the clock at the time. -/
  | returned (result : Except String Value) (clock : Nat)

/-- The thread `pks-ws-startup`. -/
inductive Worker where
  | absent
  | starting (remaining : Nat)
  /-- In `recv_timeout`. -/
  | waiting (expires : Nat)
  | shuttingDown
  | ended
  deriving DecidableEq

structure Guarded (Value : Type) where
  now : Nat
  deadline : Nat
  caller : Caller Value := .entering
  worker : Worker := .absent
  finished : Channel Unit := {}
  /-- Whether the socket was shut down. -/
  shut : Bool := false
  /-- What the operation has returned; ghost data. -/
  outcome : Option (Except String Value) := none

/-- What the caller meets with in a step. -/
inductive Answer (Value : Type) where
  /-- A thread is spawned, or a call on the socket returns. -/
  | done
  /-- No thread can be spawned. -/
  | refused (error : String)
  /-- The operation calls on the socket. -/
  | calls
  | returns (result : Except String Value)

inductive Move (Value : Type) where
  | tick (elapsed : Nat)
  | caller (answer : Answer Value)
  /-- `missed` if it looks into the channel too early. -/
  | worker (missed : Bool)

namespace Move

def isCaller : Move Value → Bool
  | .caller _ => true
  | _ => false

def isWorker : Move Value → Bool
  | .worker _ => true
  | _ => false

end Move

namespace Guarded

/-- A step of the calling thread. -/
def advanceCaller (guarded : Guarded Value) (answer : Answer Value) : Guarded Value :=
  match guarded.caller with
  | .entering =>
    if guarded.deadline < guarded.now then
      { guarded with caller := .returned (.error startupDeadline) guarded.now }
    else { guarded with caller := .spawning (guarded.deadline - guarded.now) }
  | .spawning remaining =>
    match answer with
    | .refused error => { guarded with caller := .returned (.error error) guarded.now }
    | _ => { guarded with caller := .operating false, worker := .starting remaining }
  | .operating false =>
    match answer with
    | .calls => { guarded with caller := .operating true }
    | .returns result => { guarded with caller := .notifying result, outcome := some result }
    | _ => guarded
  | .operating true =>
    -- a call on a socket that is shut down returns, whatever the peer does
    match guarded.shut, answer with
    | true, _ => { guarded with caller := .operating false }
    | false, .done => { guarded with caller := .operating false }
    | false, _ => guarded
  | .notifying result =>
    { guarded with caller := .joining result, finished := guarded.finished.send () }
  | .joining result =>
    if guarded.worker = .ended then { guarded with caller := .checking result } else guarded
  | .checking result =>
    if guarded.deadline ≤ guarded.now then
      { guarded with caller := .returned (.error startupDeadline) guarded.now }
    else { guarded with caller := .returned result guarded.now }
  | .returned _ _ => guarded

/-- A step of the watchdog. -/
def advanceWorker (guarded : Guarded Value) (missed : Bool) : Guarded Value :=
  match guarded.worker with
  | .starting remaining => { guarded with worker := .waiting (guarded.now + remaining) }
  | .waiting expires =>
    match guarded.finished.recv expires guarded.now missed with
    | .message _ => { guarded with worker := .ended }
    | .timeout => { guarded with worker := .shuttingDown }
    | .disconnected => { guarded with worker := .shuttingDown }
    | .waiting => guarded
  | .shuttingDown => { guarded with worker := .ended, shut := true }
  | .absent => guarded
  | .ended => guarded

def move (guarded : Guarded Value) : Move Value → Guarded Value
  | .tick elapsed => { guarded with now := guarded.now + elapsed }
  | .caller answer => guarded.advanceCaller answer
  | .worker missed => guarded.advanceWorker missed

def run (guarded : Guarded Value) (moves : List (Move Value)) : Guarded Value :=
  moves.foldl move guarded

theorem run_append (guarded : Guarded Value) (first second : List (Move Value)) :
    guarded.run (first ++ second) = (guarded.run first).run second :=
  List.foldl_append ..

variable {guarded : Guarded Value}

/-- What one move keeps, a run keeps. -/
theorem run_invariant (holds : Guarded Value → Prop)
    (kept : ∀ guarded move, holds guarded → holds (guarded.move move)) (initially : holds guarded)
    (moves : List (Move Value)) : holds (guarded.run moves) := by
  induction moves generalizing guarded with
  | nil => exact initially
  | cons first rest hypothesis =>
    exact hypothesis (kept guarded first initially)

/-! ### Safety -/

/-- The watchdog does not fire before the deadline. -/
def Punctual (guarded : Guarded Value) : Prop :=
  match guarded.worker with
  | .starting remaining => guarded.deadline ≤ guarded.now + remaining
  | .waiting expires => guarded.deadline ≤ expires
  | .shuttingDown => guarded.deadline ≤ guarded.now
  | _ => True

/-- What a result that is returned says: it was refused before there was a watchdog, or it is that
of the operation, in time and on a socket that is still open, or it came too late. -/
def Returns (guarded : Guarded Value) (result : Except String Value) (clock : Nat) : Prop :=
  (guarded.worker = .absent ∧ guarded.outcome = none ∧ ∃ error, result = .error error) ∨
    (guarded.worker = .ended ∧ guarded.outcome.isSome ∧
      (deadline guarded ≤ clock ∧ result = .error startupDeadline ∨
        clock < guarded.deadline ∧ guarded.outcome = some result ∧ guarded.shut = false))

/-- How far the caller has come. -/
def Placed (guarded : Guarded Value) : Prop :=
  match guarded.caller with
  | .entering => guarded.worker = .absent ∧ guarded.outcome = none ∧
      guarded.finished.slot = none
  | .spawning remaining => guarded.worker = .absent ∧ guarded.outcome = none ∧
      guarded.finished.slot = none ∧ guarded.deadline ≤ guarded.now + remaining
  | .operating _ => guarded.worker ≠ .absent ∧ guarded.outcome = none ∧
      guarded.finished.slot = none
  | .notifying result => guarded.worker ≠ .absent ∧ guarded.outcome = some result ∧
      guarded.finished.slot = none
  | .joining result => guarded.worker ≠ .absent ∧ guarded.outcome = some result ∧
      guarded.finished.slot = some ()
  | .checking result => guarded.worker = .ended ∧ guarded.outcome = some result
  | .returned result clock => guarded.Returns result clock

structure Sound (guarded : Guarded Value) : Prop where
  punctual : guarded.Punctual
  late : guarded.shut = true → guarded.deadline ≤ guarded.now ∧ guarded.worker = .ended
  opened : guarded.finished.closed = false
  /-- The watchdog ends because it was told to or because it has shut the socket down. -/
  ended : guarded.worker = .ended → guarded.shut = true ∨ guarded.finished.slot = some ()
  told : guarded.finished.slot = some () → guarded.outcome.isSome = true
  placed : guarded.Placed

theorem Sound.tick (sound : guarded.Sound) (elapsed : Nat) :
    ({ guarded with now := guarded.now + elapsed } : Guarded Value).Sound := by
  obtain ⟨punctual, late, opened, ended, told, placed⟩ := sound
  refine ⟨?_, fun shut => ⟨Nat.le_add_right_of_le (late shut).1, (late shut).2⟩, opened, ended,
    told, ?_⟩
  · unfold Punctual at punctual ⊢
    cases phase : guarded.worker <;> simp only [phase] at punctual ⊢ <;> omega
  · unfold Placed at placed ⊢
    cases phase : guarded.caller with
    | spawning remaining =>
      simp only [phase] at placed ⊢
      exact ⟨placed.1, placed.2.1, placed.2.2.1, by omega⟩
    | returned result clock =>
      simp only [phase] at placed ⊢
      exact placed
    | _ => simpa only [phase] using placed

/-- The caller finds a watchdog that was at work still there. -/
theorem Placed.of_worker (placed : guarded.Placed) (present : guarded.worker ≠ .absent)
    (busy : guarded.worker ≠ .ended) {next : Worker} (stays : next ≠ .absent) (shut : Bool) :
    ({ guarded with worker := next, shut := shut } : Guarded Value).Placed := by
  unfold Placed at placed ⊢
  cases phase : guarded.caller with
  | entering | spawning =>
    simp only [phase] at placed
    exact absurd placed.1 present
  | operating | notifying | joining =>
    simp only [phase] at placed ⊢
    exact ⟨stays, placed.2⟩
  | checking =>
    simp only [phase] at placed
    exact absurd placed.1 busy
  | returned =>
    simp only [phase] at placed
    rcases placed with ⟨absent, -⟩ | ⟨ended, -⟩
    · exact absurd absent present
    · exact absurd ended busy

theorem Sound.advanceWorker (sound : guarded.Sound) (missed : Bool) :
    (guarded.advanceWorker missed).Sound := by
  obtain ⟨punctual, late, opened, ended, told, placed⟩ := sound
  -- a watchdog at work has not shut the socket down yet
  have unshut : guarded.worker ≠ .ended → guarded.shut = true → False :=
    fun busy shut => busy (late shut).2
  unfold Punctual at punctual
  unfold Guarded.advanceWorker
  split
  next remaining phase =>
    simp only [phase] at punctual
    refine ⟨punctual, fun shut => (unshut (by simp [phase]) shut).elim, opened, by simp, told, ?_⟩
    exact placed.of_worker (by simp [phase]) (by simp [phase]) (by simp) guarded.shut
  next expires phase =>
    simp only [phase] at punctual
    have found := guarded.finished.recv_cases expires guarded.now missed
    have moves : ∀ next : Worker, next ≠ .absent →
        ({ guarded with worker := next } : Guarded Value).Placed :=
      fun next stays => placed.of_worker (by simp [phase]) (by simp [phase]) stays guarded.shut
    split
    next received =>
      rw [received] at found
      exact ⟨trivial, fun shut => (unshut (by simp [phase]) shut).elim, opened,
        fun _ => .inr found, told, moves .ended (by simp)⟩
    next received =>
      rw [received] at found
      exact ⟨Nat.le_trans punctual found, fun shut => (unshut (by simp [phase]) shut).elim,
        opened, by simp, told, moves .shuttingDown (by simp)⟩
    next received =>
      rw [received] at found
      exact absurd found.2 (by simp [opened])
    next => exact ⟨by simpa [Punctual, phase] using punctual, late, opened, ended, told, placed⟩
  next phase =>
    simp only [phase] at punctual
    refine ⟨trivial, fun _ => ⟨punctual, rfl⟩, opened, fun _ => .inl rfl, told, ?_⟩
    exact placed.of_worker (by simp [phase]) (by simp [phase]) (by simp) true
  next phase => exact ⟨by simp [Punctual, phase], late, opened, ended, told, placed⟩
  next phase => exact ⟨by simp [Punctual, phase], late, opened, ended, told, placed⟩

theorem Sound.advanceCaller (sound : guarded.Sound) (answer : Answer Value) :
    (guarded.advanceCaller answer).Sound := by
  obtain ⟨punctual, late, opened, ended, told, placed⟩ := sound
  unfold Placed at placed
  unfold Guarded.advanceCaller
  split
  next phase =>
    simp only [phase] at placed
    split
    next =>
      exact ⟨punctual, late, opened, ended, told, .inl ⟨placed.1, placed.2.1, startupDeadline, rfl⟩⟩
    next early =>
      refine ⟨punctual, late, opened, ended, told, placed.1, placed.2.1, placed.2.2, ?_⟩
      show guarded.deadline ≤ guarded.now + (guarded.deadline - guarded.now)
      omega
  next remaining phase =>
    simp only [phase] at placed
    obtain ⟨absent, none, empty, remains⟩ := placed
    split
    next error => exact ⟨punctual, late, opened, ended, told, .inl ⟨absent, none, error, rfl⟩⟩
    next =>
      refine ⟨remains, fun shut => ?_, opened, by simp, told, by simp, none, empty⟩
      have gone := (late shut).2
      rw [absent] at gone
      cases gone
  next phase =>
    simp only [phase] at placed
    split
    next => exact ⟨punctual, late, opened, ended, told, placed⟩
    next result => exact ⟨punctual, late, opened, ended, fun _ => rfl, placed.1, rfl, placed.2.2⟩
    next => exact ⟨punctual, late, opened, ended, told, by simpa [Placed, phase] using placed⟩
  next phase =>
    simp only [phase] at placed
    split
    next => exact ⟨punctual, late, opened, ended, told, placed⟩
    next => exact ⟨punctual, late, opened, ended, told, placed⟩
    next => exact ⟨punctual, late, opened, ended, told, by simpa [Placed, phase] using placed⟩
  next result phase =>
    simp only [phase] at placed
    exact ⟨punctual, late, opened, fun _ => .inr rfl, fun _ => by simp [placed.2.1], placed.1,
      placed.2.1, rfl⟩
  next result phase =>
    simp only [phase] at placed
    split
    next settled => exact ⟨punctual, late, opened, ended, told, settled, placed.2.1⟩
    next => exact ⟨punctual, late, opened, ended, told, by simpa [Placed, phase] using placed⟩
  next result phase =>
    simp only [phase] at placed
    obtain ⟨settled, returned⟩ := placed
    have present : guarded.outcome.isSome = true := by simp [returned]
    split
    next passed =>
      exact ⟨punctual, late, opened, ended, told, .inr ⟨settled, present, .inl ⟨passed, rfl⟩⟩⟩
    next early =>
      have unshut : guarded.shut = false := by
        rw [← Bool.not_eq_true]
        exact fun shut => early (late shut).1
      exact ⟨punctual, late, opened, ended, told,
        .inr ⟨settled, present, .inr ⟨Nat.lt_of_not_le early, returned, unshut⟩⟩⟩
  next => exact ⟨punctual, late, opened, ended, told, placed⟩

/-- `before_deadline` is called. -/
def start (now deadline : Nat) : Guarded Value := { now := now, deadline := deadline }

theorem start_sound (now deadline : Nat) : (start now deadline : Guarded Value).Sound :=
  ⟨trivial, by simp [start], rfl, by simp [start], by simp [start], rfl, rfl, rfl⟩

theorem run_sound (sound : guarded.Sound) (moves : List (Move Value)) :
    (guarded.run moves).Sound := by
  refine run_invariant Sound (fun guarded move sound => ?_) sound moves
  cases move with
  | tick elapsed => exact sound.tick elapsed
  | caller answer => exact sound.advanceCaller answer
  | worker missed => exact sound.advanceWorker missed

/-- A caller that has returned and a watchdog that has ended do nothing any more. -/
theorem run_of_returned {result : Except String Value} {clock : Nat}
    (returned : guarded.caller = .returned result clock) (ended : guarded.worker = .ended)
    (moves : List (Move Value)) : (guarded.run moves).shut = guarded.shut := by
  refine (run_invariant (fun later => later.caller = .returned result clock ∧
    later.worker = .ended ∧ later.shut = guarded.shut) ?_ ⟨returned, ended, rfl⟩ moves).2.2
  rintro later move ⟨returned, ended, same⟩
  cases move <;>
    simp [Guarded.move, Guarded.advanceCaller, Guarded.advanceWorker, returned, ended, same]

theorem move_deadline (guarded : Guarded Value) (move : Move Value) :
    (guarded.move move).deadline = guarded.deadline ∧
      (guarded.shut = true → (guarded.move move).shut = true) := by
  cases move with
  | tick elapsed => exact ⟨rfl, id⟩
  | caller answer =>
    simp only [Guarded.move, Guarded.advanceCaller]
    split
    next => split <;> exact ⟨rfl, id⟩
    next => split <;> exact ⟨rfl, id⟩
    next => split <;> exact ⟨rfl, id⟩
    next => split <;> exact ⟨rfl, id⟩
    next => exact ⟨rfl, id⟩
    next => split <;> exact ⟨rfl, id⟩
    next => split <;> exact ⟨rfl, id⟩
    next => exact ⟨rfl, id⟩
  | worker missed =>
    simp only [Guarded.move, Guarded.advanceWorker]
    split
    next => exact ⟨rfl, id⟩
    next => split <;> exact ⟨rfl, id⟩
    next => exact ⟨rfl, fun _ => rfl⟩
    next => exact ⟨rfl, id⟩
    next => exact ⟨rfl, id⟩

theorem run_deadline (guarded : Guarded Value) (moves : List (Move Value)) :
    (guarded.run moves).deadline = guarded.deadline :=
  run_invariant (fun later => later.deadline = guarded.deadline)
    (fun later move same => (later.move_deadline move).1.trans same) rfl moves

theorem run_shut (shut : guarded.shut = true) (moves : List (Move Value)) :
    (guarded.run moves).shut = true :=
  run_invariant (fun later => later.shut = true) (fun later move => (later.move_deadline move).2)
    shut moves

/-- A value is returned in time, and on a socket that stays open. -/
theorem Sound.returned_ok (sound : guarded.Sound) {value : Value} {clock : Nat}
    (returned : guarded.caller = .returned (.ok value) clock) :
    clock < guarded.deadline ∧ guarded.outcome = some (.ok value) ∧
      ∀ more, (guarded.run more).shut = false := by
  have placed := sound.placed
  simp only [Placed, returned] at placed
  rcases placed with ⟨-, -, error, refused⟩ | ⟨ended, -, ⟨-, refused⟩ | ⟨early, outcome, unshut⟩⟩
  · cases refused
  · cases refused
  · exact ⟨early, outcome, fun more => (run_of_returned returned ended more).trans unshut⟩

/-- Once the socket is shut down only the error of the deadline is returned. -/
theorem Sound.returned_of_shut (sound : guarded.Sound) (shut : guarded.shut = true)
    {result : Except String Value} {clock : Nat}
    (returned : guarded.caller = .returned result clock) : result = .error startupDeadline := by
  have placed := sound.placed
  simp only [Placed, returned] at placed
  rcases placed with ⟨absent, -⟩ | ⟨-, -, ⟨-, refused⟩ | ⟨-, -, unshut⟩⟩
  · rw [(sound.late shut).2] at absent
    cases absent
  · exact refused
  · rw [shut] at unshut
    cases unshut

/-! ### Progress -/

/-- The steps the watchdog has still to take once it need not wait. -/
def workerRank (guarded : Guarded Value) : Nat :=
  match guarded.worker with
  | .absent => 0
  | .starting _ => 3
  | .waiting _ => 2
  | .shuttingDown => 1
  | .ended => 0

theorem workerRank_le (guarded : Guarded Value) : guarded.workerRank ≤ 3 := by
  unfold workerRank
  split <;> decide

/-- The watchdog need not wait: it was told that the operation has returned, or its time is up. -/
def Hurried (guarded : Guarded Value) : Prop :=
  match guarded.worker with
  | .absent => False
  | .starting _ => guarded.finished.slot = some ()
  | .waiting expires => guarded.finished.slot = some () ∨ expires ≤ guarded.now
  | _ => True

/-- A caller leaves its watchdog alone, and does not take back what it has sent. -/
theorem Sound.advanceCaller_worker (sound : guarded.Sound) (present : guarded.worker ≠ .absent)
    (answer : Answer Value) :
    (guarded.advanceCaller answer).worker = guarded.worker ∧
      (guarded.advanceCaller answer).now = guarded.now ∧
      (guarded.finished.slot = some () →
        (guarded.advanceCaller answer).finished.slot = some ()) := by
  have placed := sound.placed
  unfold Placed at placed
  unfold Guarded.advanceCaller
  split
  next phase =>
    simp only [phase] at placed
    exact absurd placed.1 present
  next phase =>
    simp only [phase] at placed
    exact absurd placed.1 present
  all_goals first
    | exact ⟨rfl, rfl, fun _ => rfl⟩
    | (split <;> exact ⟨rfl, rfl, id⟩)
    | exact ⟨rfl, rfl, id⟩

/-- Nothing slows the watchdog down. -/
theorem Sound.hurried_move (sound : guarded.Sound) (hurried : guarded.Hurried) (move : Move Value) :
    (guarded.move move).Hurried ∧
      (guarded.move move).workerRank ≤ guarded.workerRank - (if move.isWorker then 1 else 0) := by
  have present : guarded.worker ≠ .absent := by
    intro absent
    simp [Hurried, absent] at hurried
  cases move with
  | tick elapsed =>
    refine ⟨?_, Nat.le_refl _⟩
    unfold Hurried at hurried ⊢
    cases phase : guarded.worker with
    | waiting expires =>
      simp only [phase, Guarded.move] at hurried ⊢
      exact hurried.imp_right (Nat.le_add_right_of_le ·)
    | _ => simp_all [Guarded.move]
  | caller answer =>
    obtain ⟨worker, now, slot⟩ := sound.advanceCaller_worker present answer
    refine ⟨?_, by simp [workerRank, Guarded.move, worker, Move.isWorker]⟩
    unfold Hurried at hurried ⊢
    simp only [Guarded.move, worker, now]
    cases phase : guarded.worker with
    | starting remaining =>
      simp only [phase] at hurried ⊢
      exact slot hurried
    | waiting expires =>
      simp only [phase] at hurried ⊢
      exact hurried.imp_left slot
    | _ => simp_all
  | worker missed =>
    simp only [Guarded.move, Move.isWorker, if_true]
    unfold Hurried at hurried
    unfold Guarded.advanceWorker
    split
    next phase =>
      simp only [phase] at hurried
      exact ⟨.inl hurried, by simp [workerRank, phase]⟩
    next expires phase =>
      simp only [phase] at hurried
      have found := guarded.finished.recv_cases expires guarded.now missed
      split
      next => exact ⟨trivial, by simp [workerRank]⟩
      next => exact ⟨trivial, by simp [workerRank, phase]⟩
      next => exact ⟨trivial, by simp [workerRank, phase]⟩
      next waits =>
        rw [waits] at found
        rcases hurried with told | due
        · rw [found.1] at told
          cases told
        · omega
    next phase => exact ⟨trivial, by simp [workerRank]⟩
    next phase => exact absurd phase present
    next phase => exact ⟨by simp [Hurried, phase], by simp [workerRank, phase]⟩

/-- A watchdog that need not wait ends with as many of its steps as it has still to take. -/
theorem Sound.ends (sound : guarded.Sound) (hurried : guarded.Hurried) (moves : List (Move Value))
    (enough : guarded.workerRank ≤ moves.countP Move.isWorker) :
    (guarded.run moves).worker = .ended := by
  induction moves generalizing guarded with
  | nil =>
    have rank : guarded.workerRank = 0 := Nat.le_zero.mp enough
    unfold workerRank at rank
    unfold Hurried at hurried
    cases phase : guarded.worker <;> simp_all [run]
  | cons first rest hypothesis =>
    obtain ⟨hurriedNext, rank⟩ := sound.hurried_move hurried first
    refine hypothesis (run_sound sound [first]) hurriedNext ?_
    rw [List.countP_cons] at enough
    omega

/-- The steps the caller has still to take once the operation has returned. -/
def callerRank (guarded : Guarded Value) : Nat :=
  match guarded.caller with
  | .notifying _ => 3
  | .joining _ => 2
  | .checking _ => 1
  | _ => 0

/-- Once the operation has returned the caller goes on with every step, except that it waits for
the watchdog to end. -/
theorem Sound.move_caller (sound : guarded.Sound) (settled : guarded.outcome.isSome = true)
    (move : Move Value) :
    (guarded.move move).outcome.isSome = true ∧
      (guarded.move move).callerRank ≤ guarded.callerRank ∧
      (move.isCaller = true → guarded.callerRank = 3 ∨ guarded.worker = .ended →
        (guarded.move move).callerRank ≤ guarded.callerRank - 1) := by
  have placed := sound.placed
  unfold Placed at placed
  cases move with
  | tick elapsed => exact ⟨settled, Nat.le_refl _, fun none => by cases none⟩
  | worker missed =>
    have same : (guarded.advanceWorker missed).outcome = guarded.outcome ∧
        (guarded.advanceWorker missed).caller = guarded.caller := by
      unfold Guarded.advanceWorker
      split
      next => exact ⟨rfl, rfl⟩
      next => split <;> exact ⟨rfl, rfl⟩
      all_goals exact ⟨rfl, rfl⟩
    refine ⟨by rw [Guarded.move, same.1]; exact settled, ?_, fun none => by cases none⟩
    simp [callerRank, Guarded.move, same.2]
  | caller answer =>
    simp only [Guarded.move]
    cases phase : guarded.caller with
    | entering | spawning | operating =>
      simp only [phase] at placed
      rw [placed.2.1] at settled
      cases settled
    | notifying result => simp [Guarded.advanceCaller, callerRank, phase, settled]
    | joining result =>
      by_cases ended : guarded.worker = .ended <;>
        simp [Guarded.advanceCaller, callerRank, phase, ended, settled]
    | checking result =>
      by_cases late : guarded.deadline ≤ guarded.now <;>
        simp [Guarded.advanceCaller, callerRank, phase, late, settled]
    | returned result clock => simp [Guarded.advanceCaller, callerRank, phase, settled]

/-- A caller whose operation has returned notifies the watchdog with its first step. -/
theorem Sound.notifies (sound : guarded.Sound) (settled : guarded.outcome.isSome = true)
    (moves : List (Move Value)) (once : guarded.callerRank ≤ 2 ∨ 0 < moves.countP Move.isCaller) :
    (guarded.run moves).outcome.isSome = true ∧ (guarded.run moves).callerRank ≤ 2 := by
  induction moves generalizing guarded with
  | nil => exact ⟨settled, once.resolve_right (Nat.lt_irrefl 0)⟩
  | cons first rest hypothesis =>
    obtain ⟨settledNext, least, lowers⟩ := sound.move_caller settled first
    refine hypothesis (run_sound sound [first]) settledNext ?_
    by_cases early : guarded.callerRank ≤ 2
    · exact .inl (Nat.le_trans least early)
    have most : guarded.callerRank ≤ 3 := by
      unfold callerRank
      split <;> decide
    have three : guarded.callerRank = 3 := by omega
    cases mine : first.isCaller with
    | true =>
      have lower := lowers mine (.inl three)
      exact .inl (by omega)
    | false =>
      rw [List.countP_cons_of_neg (by simp [mine])] at once
      exact .inr (once.resolve_left early)

/-- Whoever has notified a watchdog hurries it. -/
theorem Sound.hurried_of_notified (sound : guarded.Sound) (settled : guarded.outcome.isSome = true)
    (notified : guarded.callerRank ≤ 2) : guarded.Hurried := by
  have placed := sound.placed
  unfold Placed at placed
  unfold callerRank at notified
  unfold Hurried
  cases phase : guarded.caller with
  | entering | spawning | operating =>
    simp only [phase] at placed
    rw [placed.2.1] at settled
    cases settled
  | notifying => simp [phase] at notified
  | joining =>
    simp only [phase] at placed
    cases worker : guarded.worker <;> simp_all
  | checking =>
    simp only [phase] at placed
    simp [placed.1]
  | returned =>
    simp only [phase] at placed
    rcases placed with ⟨-, none, -⟩ | ⟨ended, -⟩
    · rw [none] at settled
      cases settled
    · simp [ended]

/-- Beside a watchdog that has ended the caller returns. -/
theorem Sound.returns (sound : guarded.Sound) (settled : guarded.outcome.isSome = true)
    (ended : guarded.worker = .ended) (moves : List (Move Value))
    (enough : guarded.callerRank ≤ moves.countP Move.isCaller) :
    (∃ result clock, (guarded.run moves).caller = .returned result clock) ∧
      (guarded.run moves).worker = .ended := by
  induction moves generalizing guarded with
  | nil =>
    have rank : guarded.callerRank = 0 := Nat.le_zero.mp enough
    have placed := sound.placed
    unfold Placed at placed
    unfold callerRank at rank
    cases phase : guarded.caller <;> simp_all [run]
  | cons first rest hypothesis =>
    obtain ⟨settledNext, least, lowers⟩ := sound.move_caller settled first
    have endedNext : (guarded.move first).worker = .ended :=
      sound.ends (by simp [Hurried, ended]) [first] (by simp [workerRank, ended])
    refine hypothesis (run_sound sound [first]) settledNext endedNext ?_
    cases mine : first.isCaller with
    | true =>
      have lower := lowers mine (.inr ended)
      rw [List.countP_cons_of_pos mine] at enough
      omega
    | false =>
      rw [List.countP_cons_of_neg (by simp [mine])] at enough
      exact Nat.le_trans least enough

end Guarded

/-- `before_deadline` in any interleaving of its two threads. A value that it returns is the
operation's own, came before the deadline, and its socket is not shut down, then or later. A
socket is shut down only after the deadline, and then nothing but the deadline's error is
returned. When the time of the watchdog is up, two of its steps shut the socket down if the
operation has not returned by then. And once the operation has returned, a step of the caller,
three of the watchdog and two more of the caller are enough to return, and the watchdog has
ended. -/
theorem deadline_is_enforced (now deadline : Nat) (moves : List (Move Value)) :
    let last := (Guarded.start now deadline : Guarded Value).run moves
    (∀ value clock, last.caller = .returned (.ok value) clock →
      clock < deadline ∧ last.outcome = some (.ok value) ∧ ∀ more, (last.run more).shut = false) ∧
    (last.shut = true → deadline ≤ last.now ∧
      ∀ more result clock, (last.run more).caller = .returned result clock →
        result = .error startupDeadline) ∧
    (∀ expires, last.worker = .waiting expires → expires ≤ last.now →
      ∀ more, 2 ≤ more.countP Move.isWorker → (last.run more).outcome = none →
        (last.run more).shut = true) ∧
    ∀ result, last.caller = .notifying result →
      ∀ first second third : List (Move Value), 1 ≤ first.countP Move.isCaller →
        3 ≤ second.countP Move.isWorker → 2 ≤ third.countP Move.isCaller →
        (∃ result clock,
          (last.run (first ++ second ++ third)).caller = .returned result clock) ∧
          (last.run (first ++ second ++ third)).worker = .ended := by
  intro last
  have sound : last.Sound := Guarded.run_sound (Guarded.start_sound now deadline) moves
  have same : last.deadline = deadline := Guarded.run_deadline _ moves
  refine ⟨fun value clock returned => ?_, fun shut => ⟨?_, fun more result clock returned => ?_⟩,
    fun expires waits due more enough running => ?_, fun result notifying first second third once
      thrice twice => ?_⟩
  · exact same ▸ sound.returned_ok returned
  · exact same ▸ (sound.late shut).1
  · exact (Guarded.run_sound sound more).returned_of_shut (Guarded.run_shut shut more) returned
  · have hurried : last.Hurried := by simp [Guarded.Hurried, waits, due]
    have ended := sound.ends hurried more (by simpa [Guarded.workerRank, waits] using enough)
    have later := Guarded.run_sound sound more
    refine (later.ended ended).resolve_right fun told => ?_
    have returned := later.told told
    rw [running] at returned
    cases returned
  · have placed := sound.placed
    simp only [Guarded.Placed, notifying] at placed
    have settled : last.outcome.isSome = true := by simp [placed.2.1]
    obtain ⟨settledFirst, notified⟩ := sound.notifies settled first (.inr once)
    have soundFirst := Guarded.run_sound sound first
    have hurried := soundFirst.hurried_of_notified settledFirst notified
    have ended := soundFirst.ends hurried second (Nat.le_trans (Guarded.workerRank_le _) thrice)
    have soundSecond := Guarded.run_sound soundFirst second
    obtain ⟨settledSecond, notifiedSecond⟩ :=
      soundFirst.notifies settledFirst second (.inl notified)
    rw [Guarded.run_append, Guarded.run_append]
    exact soundSecond.returns settledSecond ended third (Nat.le_trans notifiedSecond twice)

/-- A call on the socket does not return for ten units of time. -/
def blockedCall : List (Move Nat) :=
  [.caller .done, .caller .done, .worker false, .caller .calls, .tick 10]

/-- A call returns after three units of time, and then the operation. -/
def promptCall : List (Move Nat) :=
  [.caller .done, .caller .done, .worker false, .caller .calls, .tick 3, .caller .done,
    .caller (.returns (.ok 7))]

/-- What is left to do when the operation has returned. -/
def wayOut : List (Move Nat) :=
  [.caller .done] ++ List.replicate 3 (.worker false) ++ List.replicate 2 (.caller .done)

theorem deadline_is_enforced_calls :
    (((Guarded.start 0 10).run blockedCall).run [.worker false, .worker false]).shut = true ∧
      ((∃ result clock, (((Guarded.start 0 10).run promptCall).run wayOut).caller =
        .returned result clock) ∧ (((Guarded.start 0 10).run promptCall).run wayOut).worker =
          .ended) ∧
      ∀ more, (((Guarded.start 0 10).run (promptCall ++ wayOut)).run more).shut = false :=
  ⟨(deadline_is_enforced 0 10 blockedCall).2.2.1 10 rfl (Nat.le_refl 10) [.worker false,
      .worker false] (Nat.le_refl 2) rfl,
    (deadline_is_enforced 0 10 promptCall).2.2.2 (.ok 7) rfl [.caller .done]
      (List.replicate 3 (.worker false)) (List.replicate 2 (.caller .done)) (Nat.le_refl 1)
      (Nat.le_refl 3) (Nat.le_refl 2),
    ((deadline_is_enforced 0 10 (promptCall ++ wayOut)).1 7 3 rfl).2.2⟩

end Watchdog

end RelayConnector
