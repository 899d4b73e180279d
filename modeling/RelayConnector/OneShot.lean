/-
This file is a small library for a channel that carries at most one message and is
received from with a timeout, as `std::sync::mpsc` has it.

A receiver that waits for a limited time looks at the channel first and at the clock
then. A message that comes between the two can be missed, but only when the time is up.
-/

namespace OneShot

/-- A channel of capacity one: the message in it, and whether its sender is gone. -/
structure Channel (Message : Type) where
  slot : Option Message := none
  closed : Bool := false

/-- What a receiver finds. -/
inductive Received (Message : Type) where
  | message (message : Message)
  | disconnected
  | timeout
  /-- It goes on waiting. -/
  | waiting

namespace Channel

variable {Message : Type}

/-- `try_send` on a channel that was not used yet. -/
def send (channel : Channel Message) (message : Message) : Channel Message :=
  { channel with slot := some message }

/-- One look of `recv_timeout`: `missed` if it comes too late for what is in the channel. -/
def recv (channel : Channel Message) (expires now : Nat) (missed : Bool) : Received Message :=
  if missed && decide (expires ≤ now) then .timeout
  else
    match channel.slot with
    | some message => .message message
    | none =>
      if channel.closed then .disconnected
      else if expires ≤ now then .timeout
      else .waiting

/-- What a receiver finds tells about the channel and the clock: only what was sent is received, a
timeout is never early, and nobody waits for what is there or when the time is up. -/
theorem recv_cases (channel : Channel Message) (expires now : Nat) (missed : Bool) :
    match channel.recv expires now missed with
    | .message message => channel.slot = some message
    | .disconnected => channel.slot = none ∧ channel.closed = true
    | .timeout => expires ≤ now
    | .waiting => channel.slot = none ∧ channel.closed = false ∧ now < expires := by
  by_cases late : missed = true ∧ expires ≤ now
  · simp [recv, late]
  have looks : (missed && decide (expires ≤ now)) = false := by simpa using late
  cases found : channel.slot with
  | some message => simp [recv, looks, found]
  | none =>
    cases gone : channel.closed with
    | true => simp [recv, looks, found, gone]
    | false =>
      by_cases due : expires ≤ now
      · simp [recv, found, gone, due]
      · simp [recv, found, gone, due, Nat.lt_of_not_le due]

end Channel

end OneShot
