/-
This file gives the commands of one thread a meaning among other threads.

A command is run against a schedule: a list of turns, one for each atomic access
the command makes to state it shares. A turn says what the other threads do
before the access and what the outside world answers to it. A schedule that runs
out parks the command where it stands, so the states in which a command can park
are exactly the states in which the other threads, or an observer, can find it.
Quantifying over schedules is quantifying over interleavings and answers.

A triple states what holds when a command returns, when it fails and wherever it
parks. The rules below take a triple apart along the command's own text; the
loop rule asks for an invariant of one round.
-/

import Mathlib.Logic.Relation

namespace Scheduled

/-- Why a command stopped short of its value. -/
inductive Halt (Failure : Type) where
  /-- The command returned an error. -/
  | failed (failure : Failure)
  /-- The schedule was used up, or an access it waits for is not enabled. -/
  | parked
  deriving DecidableEq, Repr

/-- A command of one thread: it uses up turns of a schedule, moves the shared state and ends
with a value or a halt. -/
def Command (Turn State Failure Value : Type) : Type :=
  List Turn → State → Except (Halt Failure) Value × List Turn × State

namespace Command

variable {Turn State Failure Value Result Local : Type}

/-- The command that returns a value and touches nothing. -/
def done (value : Value) : Command Turn State Failure Value :=
  fun schedule state => (.ok value, schedule, state)

/-- Sequencing: a halt of the first command is the halt of the whole. -/
def andThen (first : Command Turn State Failure Value)
    (next : Value → Command Turn State Failure Result) : Command Turn State Failure Result :=
  fun schedule state =>
    match first schedule state with
    | (.ok value, rest, state') => next value rest state'
    | (.error halt, rest, state') => (.error halt, rest, state')

instance : Monad (Command Turn State Failure) where
  pure := done
  bind := andThen

/-- Return an error. -/
def fail (failure : Failure) : Command Turn State Failure Value :=
  fun schedule state => (.error (.failed failure), schedule, state)

/-- Return an error if a condition holds. -/
def failIf (condition : Bool) (failure : Failure) : Command Turn State Failure Unit :=
  if condition then fail failure else done ()

/-- Read what only this thread writes: no turn passes. -/
def inspect (read : State → Value) : Command Turn State Failure Value :=
  fun schedule state => (.ok (read state), schedule, state)

/-- Change what only this thread writes: no turn passes. -/
def update (change : State → State) : Command Turn State Failure Unit :=
  fun schedule state => (.ok (), schedule, change state)

/-- One access to shared state. The other threads act first, then the access is made in one
step; `ready` is the condition under which a blocking access is enabled. -/
def await (settle : Turn → State → State) (ready : State → Bool)
    (access : Turn → State → Except Failure Value × State) :
    Command Turn State Failure Value
  | [], state => (.error .parked, [], state)
  | turn :: rest, state =>
    let settled := settle turn state
    if ready settled then
      match access turn settled with
      | (.ok value, state') => (.ok value, rest, state')
      | (.error failure, state') => (.error (.failed failure), rest, state')
    else (.error .parked, rest, settled)

/-- One access to shared state that never blocks. -/
def atomic (settle : Turn → State → State)
    (access : Turn → State → Except Failure Value × State) :
    Command Turn State Failure Value :=
  await settle (fun _ => true) access

/-- Catch a returned error. A parked command stays parked. -/
def attempt (command : Command Turn State Failure Value) :
    Command Turn State Failure (Except Failure Value) :=
  fun schedule state =>
    match command schedule state with
    | (.ok value, rest, state') => (.ok (.ok value), rest, state')
    | (.error (.failed failure), rest, state') => (.ok (.error failure), rest, state')
    | (.error .parked, rest, state') => (.error .parked, rest, state')

/-- At most `count` rounds of a body that says whether it is finished. -/
def rounds (body : Command Turn State Failure (Option Value)) :
    Nat → Command Turn State Failure Value
  | 0 => fun schedule state => (.error .parked, schedule, state)
  | count + 1 => andThen body fun
    | some value => done value
    | none => rounds body count

/-- Repeat a body until it is finished. A round makes at least one access, so a schedule of
`n` turns never sees more than `n` whole rounds. -/
def forever (body : Command Turn State Failure (Option Value)) :
    Command Turn State Failure Value :=
  fun schedule state => rounds body (schedule.length + 1) schedule state

/-- So many rounds of a body, if it is not finished before; `true` when it is not. -/
def passes (body : Command Turn State Failure (Option Value)) :
    Nat → Command Turn State Failure Bool
  | 0 => done true
  | count + 1 => andThen body fun
    | some _ => done false
    | none => passes body count

variable {body : Command Turn State Failure (Option Value)} {schedule rest : List Turn}

/-- The first of some rounds. -/
theorem passes_succ_iff {count : Nat} {state after : State} :
    passes body (count + 1) schedule state = (.ok true, rest, after) ↔
      ∃ turns middle, body schedule state = (.ok none, turns, middle) ∧
        passes body count turns middle = (.ok true, rest, after) := by
  rw [passes, andThen]
  rcases body schedule state with ⟨result, turns, middle⟩
  cases result with
  | error => simp
  | ok outcome =>
    cases outcome with
    | some => simp [done]
    | none =>
      constructor
      · exact fun passed => ⟨turns, middle, rfl, passed⟩
      · rintro ⟨_, _, ⟨⟩, passed⟩
        exact passed

theorem passes_add {count : Nat} {state middle : State}
    (goes : passes body count schedule state = (.ok true, rest, middle)) (more : Nat) :
    passes body (count + more) schedule state = passes body more rest middle := by
  induction count generalizing schedule state with
  | zero =>
    obtain ⟨-, rfl, rfl⟩ : true = true ∧ schedule = rest ∧ state = middle := by
      simpa [passes, done] using goes
    rw [Nat.zero_add]
  | succ count hypothesis =>
    obtain ⟨turns, next, first, others⟩ := passes_succ_iff.mp goes
    rw [Nat.succ_add, passes, andThen, first]
    exact hypothesis others

/-- The last of some rounds. -/
theorem passes_succ_inv {count : Nat} {state after : State}
    (goes : passes body (count + 1) schedule state = (.ok true, rest, after)) :
    ∃ turns middle, passes body count schedule state = (.ok true, turns, middle) ∧
      body turns middle = (.ok none, rest, after) := by
  induction count generalizing schedule state with
  | zero =>
    obtain ⟨turns, middle, first, none⟩ := passes_succ_iff.mp goes
    cases none
    exact ⟨schedule, state, rfl, first⟩
  | succ count hypothesis =>
    obtain ⟨turns, middle, first, others⟩ := passes_succ_iff.mp goes
    obtain ⟨last, before, passed, ends⟩ := hypothesis others
    exact ⟨last, before, passes_succ_iff.mpr ⟨turns, middle, first, passed⟩, ends⟩

/-- At most `count` rounds of a body that hands a value of its own from round to round. -/
def roundsFrom (body : Local → Command Turn State Failure (Local ⊕ Value)) :
    Nat → Local → Command Turn State Failure Value
  | 0, _ => fun schedule state => (.error .parked, schedule, state)
  | count + 1, current => andThen (body current) fun
    | .inl next => roundsFrom body count next
    | .inr value => done value

/-- Repeat a body with a local variable until it is finished. -/
def iterate (body : Local → Command Turn State Failure (Local ⊕ Value)) (current : Local) :
    Command Turn State Failure Value :=
  fun schedule state => roundsFrom body (schedule.length + 1) current schedule state

end Command

/-! ### Triples -/

variable {Turn State Failure Value Result : Type}

/-- What a command's end must satisfy. -/
def Ends (always : State → Prop) (returns : Value → State → Prop)
    (fails : Failure → State → Prop) :
    Except (Halt Failure) Value × List Turn × State → Prop
  | (.ok value, _, state) => returns value state
  | (.error (.failed failure), _, state) => fails failure state
  | (.error .parked, _, state) => always state

/-- Wherever the command ended, if each way of ending implies it. -/
theorem Ends.anywhere {always : State → Prop} {returns : Value → State → Prop}
    {fails : Failure → State → Prop} {property : State → Prop}
    {outcome : Except (Halt Failure) Value × List Turn × State}
    (ends : Ends always returns fails outcome)
    (parked : ∀ state, always state → property state)
    (returned : ∀ value state, returns value state → property state)
    (failed : ∀ failure state, fails failure state → property state) : property outcome.2.2 := by
  match outcome, ends with
  | (.ok value, _, state), ends => exact returned value state ends
  | (.error (.failed failure), _, state), ends => exact failed failure state ends
  | (.error .parked, _, state), ends => exact parked state ends

theorem Ends.of_ok {always : State → Prop} {returns : Value → State → Prop}
    {fails : Failure → State → Prop} {outcome : Except (Halt Failure) Value × List Turn × State}
    (ends : Ends always returns fails outcome) {value : Value} (ok : outcome.1 = .ok value) :
    returns value outcome.2.2 := by
  match outcome, ok, ends with
  | (.ok _, _, _), rfl, ends => exact ends

/-- From a state satisfying `pre`, under every schedule: the command returns in a state
satisfying `returns`, fails in one satisfying `fails`, or parks in one satisfying `always`. -/
def Triple (always pre : State → Prop) (command : Command Turn State Failure Value)
    (returns : Value → State → Prop) (fails : Failure → State → Prop) : Prop :=
  ∀ schedule state, pre state → Ends always returns fails (command schedule state)

/-- What one round of a loop must satisfy: it leaves with a value, or keeps the invariant. -/
def Repeats (invariant : State → Prop) (returns : Value → State → Prop) :
    Option Value → State → Prop
  | some value, state => returns value state
  | none, state => invariant state

/-- An assertion the other threads keep. -/
def Stable (settle : Turn → State → State) (assertion : State → Prop) : Prop :=
  ∀ turn state, assertion state → assertion (settle turn state)

variable {access : Turn → State → Except Failure Value × State}
  {first : Command Turn State Failure Value} {body : Command Turn State Failure (Option Value)}
  {settle : Turn → State → State}

namespace Triple

variable {always pre : State → Prop} {returns : Value → State → Prop}
  {fails : Failure → State → Prop}

theorem done {value : Value} (holds : ∀ state, pre state → returns value state) :
    Triple always pre (pure value : Command Turn State Failure Value) returns fails :=
  fun _ state before => holds state before

theorem fail {failure : Failure} (holds : ∀ state, pre state → fails failure state) :
    Triple always pre (Command.fail failure : Command Turn State Failure Value)
      returns fails :=
  fun _ state before => holds state before

theorem failIf {condition : Bool} {failure : Failure} {after : Unit → State → Prop}
    (failed : ∀ state, condition = true → pre state → fails failure state)
    (passed : ∀ state, condition = false → pre state → after () state) :
    Triple always pre (Command.failIf condition failure : Command Turn State Failure Unit)
      after fails := by
  cases condition with
  | true => exact fun _ state before => failed state rfl before
  | false => exact fun _ state before => passed state rfl before

theorem inspect {read : State → Value} (holds : ∀ state, pre state → returns (read state) state) :
    Triple always pre (Command.inspect read : Command Turn State Failure Value)
      returns fails :=
  fun _ state before => holds state before

theorem update {change : State → State} {after : Unit → State → Prop}
    (holds : ∀ state, pre state → after () (change state)) :
    Triple always pre (Command.update change : Command Turn State Failure Unit)
      after fails :=
  fun _ state before => holds state before

/-- Sequencing passes the first command's postcondition on. -/
theorem bind {next : Value → Command Turn State Failure Result} (middle : Value → State → Prop)
    {after : Result → State → Prop} (left : Triple always pre first middle fails)
    (right : ∀ value, Triple always (middle value) (next value) after fails) :
    Triple always pre (first >>= next) after fails := by
  intro schedule state before
  have ends := left schedule state before
  show Ends always after fails (Command.andThen first next schedule state)
  unfold Command.andThen
  rcases run : first schedule state with ⟨result, rest, state'⟩
  rw [run] at ends
  cases result with
  | ok value => exact right value rest state' ends
  | error halt =>
    cases halt with
    | failed failure => exact ends
    | parked => exact ends

theorem ite {condition : Prop} [Decidable condition] {second : Command Turn State Failure Value}
    (yes : condition → Triple always pre first returns fails)
    (no : ¬condition → Triple always pre second returns fails) :
    Triple always pre (if condition then first else second) returns fails := by
  split
  next holds => exact yes holds
  next fails => exact no fails

variable {command : Command Turn State Failure Value}

section Consequence

variable (triple : Triple always pre command returns fails)

include triple

/-- A precondition may be strengthened, the postconditions weakened. -/
theorem consequence {pre' : State → Prop} {returns' : Value → State → Prop}
    {fails' : Failure → State → Prop} (stronger : ∀ state, pre' state → pre state)
    (returned : ∀ value state, returns value state → returns' value state)
    (failed : ∀ failure state, fails failure state → fails' failure state) :
    Triple always pre' command returns' fails' := by
  intro schedule state before
  have ends := triple schedule state (stronger state before)
  rcases run : command schedule state with ⟨result, rest, state'⟩
  rw [run] at ends
  cases result with
  | ok value => exact returned value state' ends
  | error halt =>
    cases halt with
    | failed failure => exact failed failure state' ends
    | parked => exact ends

/-- Start from a stronger precondition. -/
theorem strengthen {pre' : State → Prop} (stronger : ∀ state, pre' state → pre state) :
    Triple always pre' command returns fails :=
  triple.consequence stronger (fun _ _ => id) fun _ _ => id

/-- Forget what is known besides. -/
theorem left {known : State → Prop} :
    Triple always (fun state => pre state ∧ known state) command returns fails :=
  triple.strengthen fun _ holds => holds.1

/-- End in a weaker postcondition. -/
theorem weaken {returns' : Value → State → Prop}
    (returned : ∀ value state, returns value state → returns' value state) :
    Triple always pre command returns' fails :=
  triple.consequence (fun _ => id) returned fun _ _ => id

end Consequence

/-- A precondition that leaves something open. -/
theorem exists_pre {Index : Sort*} {family : Index → State → Prop}
    (each : ∀ index, Triple always (family index) command returns fails) :
    Triple always (fun state => ∃ index, family index state) command returns fails :=
  fun schedule state ⟨index, before⟩ => each index schedule state before

/-- A precondition that also states a fact about no state. -/
theorem and_pre {fact : Prop} (given : fact → Triple always pre command returns fails) :
    Triple always (fun state => pre state ∧ fact) command returns fails :=
  fun schedule state ⟨before, holds⟩ => given holds schedule state before

/-- One blocking access: the precondition holds while the command waits and is kept by the
other threads; the access establishes the postcondition. -/
theorem await {ready : State → Bool} (observable : ∀ state, pre state → always state)
    (stable : Stable settle pre)
    (holds : ∀ turn state, pre state → ready state = true →
      match access turn state with
      | (.ok value, state') => returns value state'
      | (.error failure, state') => fails failure state') :
    Triple always pre (Command.await settle ready access) returns fails := by
  intro schedule state before
  cases schedule with
  | nil => exact observable state before
  | cons turn rest =>
    have settled := stable turn state before
    unfold Command.await
    simp only
    split
    next enabled =>
      have after := holds turn _ settled enabled
      rcases outcome : access turn (settle turn state) with ⟨result, state'⟩
      rw [outcome] at after
      cases result with
      | ok value => exact after
      | error failure => exact after
    next => exact observable _ settled

/-- One access that never blocks. -/
theorem atomic (observable : ∀ state, pre state → always state) (stable : Stable settle pre)
    (holds : ∀ turn state, pre state →
      match access turn state with
      | (.ok value, state') => returns value state'
      | (.error failure, state') => fails failure state') :
    Triple always pre (Command.atomic settle access) returns fails :=
  await observable stable fun turn state before _ => holds turn state before

/-- Catching an error turns both postconditions into one. -/
theorem attempt {fails' : Failure → State → Prop}
    (triple : Triple always pre command returns fails) :
    Triple always pre (Command.attempt command)
      (fun result state =>
        match result with
        | .ok value => returns value state
        | .error failure => fails failure state) fails' := by
  intro schedule state before
  have ends := triple schedule state before
  unfold Command.attempt
  rcases run : command schedule state with ⟨result, rest, state'⟩
  rw [run] at ends
  cases result with
  | ok value => exact ends
  | error halt =>
    cases halt with
    | failed failure => exact ends
    | parked => exact ends

/-- The loop rule: an invariant of one round, observable between rounds. -/
theorem forever (observable : ∀ state, pre state → always state)
    (round : Triple always pre body (Repeats pre returns) fails) :
    Triple always pre (Command.forever body) returns fails := by
  have bounded : ∀ count, Triple always pre (Command.rounds body count) returns fails := by
    intro count
    induction count with
    | zero => exact fun _ state before => observable state before
    | succ count hypothesis =>
      refine Triple.bind _ round fun outcome => ?_
      cases outcome with
      | some value => exact Triple.done fun _ => id
      | none => exact hypothesis
  exact fun schedule state before => bounded _ schedule state before

/-- Between two rounds of a loop its invariant holds. -/
theorem passes (round : Triple always pre body (Repeats pre returns) fails) (count : Nat) :
    Triple always pre (Command.passes body count) (fun going state => going = true → pre state)
      fails := by
  induction count with
  | zero => exact Triple.done fun _ before _ => before
  | succ count hypothesis =>
    refine Triple.bind _ round fun outcome => ?_
    cases outcome with
    | some _ => exact Triple.done fun _ _ impossible => nomatch impossible
    | none => exact hypothesis

/-- The loop rule with a local variable: the invariant may speak about it. -/
theorem iterate {Local : Type} (invariant : Local → State → Prop)
    {body : Local → Command Turn State Failure (Local ⊕ Value)}
    (observable : ∀ current state, invariant current state → always state)
    (round : ∀ current, Triple always (invariant current) (body current)
      (fun result state => result.elim (invariant · state) (returns · state)) fails)
    (current : Local) :
    Triple always (invariant current) (Command.iterate body current) returns fails := by
  have bounded : ∀ count current,
      Triple always (invariant current) (Command.roundsFrom body count current) returns fails := by
    intro count
    induction count with
    | zero => exact fun current _ state before => observable current state before
    | succ count hypothesis =>
      intro current
      refine Triple.bind _ (round current) fun outcome => ?_
      cases outcome with
      | inl next => exact hypothesis next
      | inr value => exact Triple.done fun _ => id
  exact fun schedule state before => bounded _ current schedule state before

/-- Where a command parks, less may be said. -/
theorem observe {always' : State → Prop} (triple : Triple always pre command returns fails)
    (weaker : ∀ state, always state → always' state) :
    Triple always' pre command returns fails := by
  intro schedule state before
  have ends := triple schedule state before
  rcases run : command schedule state with ⟨result, rest, state'⟩
  rw [run] at ends
  cases result with
  | ok value => exact ends
  | error halt =>
    cases halt with
    | failed failure => exact ends
    | parked => exact weaker state' ends

/-- What two triples say of a command holds together. -/
theorem and {always' pre' : State → Prop} {returns' : Value → State → Prop}
    {fails' : Failure → State → Prop} (left : Triple always pre command returns fails)
    (right : Triple always' pre' command returns' fails') :
    Triple (fun state => always state ∧ always' state) (fun state => pre state ∧ pre' state) command
      (fun value state => returns value state ∧ returns' value state)
      fun failure state => fails failure state ∧ fails' failure state := by
  intro schedule state before
  have first := left schedule state before.1
  have second := right schedule state before.2
  rcases run : command schedule state with ⟨result, rest, state'⟩
  rw [run] at first second
  cases result with
  | ok value => exact ⟨first, second⟩
  | error halt =>
    cases halt with
    | failed failure => exact ⟨first, second⟩
    | parked => exact ⟨first, second⟩

end Triple

/-! ### Assertions that a command keeps -/

/-- The command keeps an assertion, however it ends and wherever it parks. -/
def Preserves (holds : State → Prop) (command : Command Turn State Failure Value) : Prop :=
  Triple holds holds command (fun _ => holds) fun _ => holds

namespace Preserves

variable {holds : State → Prop}

theorem done (value : Value) : Preserves holds (pure value : Command Turn State Failure Value) :=
  Triple.done fun _ => id

theorem fail (failure : Failure) :
    Preserves holds (Command.fail failure : Command Turn State Failure Value) :=
  Triple.fail fun _ => id

theorem failIf (condition : Bool) (failure : Failure) :
    Preserves holds (Command.failIf condition failure : Command Turn State Failure Unit) :=
  Triple.failIf (fun _ _ => id) fun _ _ => id

theorem inspect (read : State → Value) :
    Preserves holds (Command.inspect read : Command Turn State Failure Value) :=
  Triple.inspect fun _ => id

theorem update {change : State → State} (keeps : ∀ state, holds state → holds (change state)) :
    Preserves holds (Command.update change : Command Turn State Failure Unit) :=
  Triple.update keeps

theorem bind {next : Value → Command Turn State Failure Result} (left : Preserves holds first)
    (right : ∀ value, Preserves holds (next value)) : Preserves holds (first >>= next) :=
  Triple.bind _ left right

theorem ite {condition : Prop} [Decidable condition] {second : Command Turn State Failure Value}
    (yes : Preserves holds first) (no : Preserves holds second) :
    Preserves holds (if condition then first else second) :=
  Triple.ite (fun _ => yes) fun _ => no

variable {command : Command Turn State Failure Value}

/-- A command whose errors are caught does not fail. -/
theorem attempts {fails : Failure → State → Prop} (kept : Preserves holds command) :
    Triple holds holds (Command.attempt command) (fun _ => holds) fails := by
  refine (Triple.attempt kept).weaken fun result _ held => ?_
  cases result <;> exact held

theorem attempt (kept : Preserves holds command) : Preserves holds (Command.attempt command) :=
  kept.attempts

theorem await {ready : State → Bool} (stable : Stable settle holds)
    (keeps : ∀ turn state, holds state → holds (access turn state).2) :
    Preserves holds (Command.await settle ready access) := by
  refine Triple.await (fun _ => id) stable fun turn state held _ => ?_
  have kept := keeps turn state held
  rcases outcome : access turn state with ⟨result, state'⟩
  rw [outcome] at kept
  cases result <;> exact kept

theorem atomic (stable : Stable settle holds)
    (keeps : ∀ turn state, holds state → holds (access turn state).2) :
    Preserves holds (Command.atomic settle access) :=
  await stable keeps

theorem forever (kept : Preserves holds body) : Preserves holds (Command.forever body) := by
  refine Triple.forever (fun _ => id) (kept.weaken fun result _ held => ?_)
  cases result <;> exact held

/-- A kept assertion in a command that may give it up later. -/
theorem within {always : State → Prop} (kept : Preserves holds command)
    (implies : ∀ state, holds state → always state) :
    Triple always holds command (fun _ => holds) fun _ => always :=
  (kept.observe implies).consequence (fun _ => id) (fun _ _ => id)
    fun _ state held => implies state held

end Preserves

end Scheduled
