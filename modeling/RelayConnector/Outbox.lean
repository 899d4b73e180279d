/-
This file is about a stream of bytes with a buffer in front of it.

A message is appended to the buffer whole. A flush hands bytes of the buffer to the
stream, in their order and as many as the stream takes; nothing is ever taken back. So
two numbers say how far the stream has come: how many bytes were appended, and how many
were handed over. A message is complete when its last byte was handed over.
-/

import Mathlib.Algebra.Ring.Nat
import Mathlib.Data.List.Basic

namespace Fifo

variable {Message : Type}

/-- What is done to a buffered stream. -/
inductive Operation (Message : Type) where
  /-- A message is offered to the buffer, which takes it or not. -/
  | write (message : Message) (queued : Bool)
  /-- So many bytes are handed over, or all there are. -/
  | flush (written : Option Nat)
  deriving DecidableEq, Repr

/-- The stream and its buffer. -/
structure Outbox (Message : Type) where
  /-- The messages appended so far, each with the position of its end among the bytes. -/
  messages : List (Message × Nat) := []
  /-- The bytes appended so far. -/
  queued : Nat := 0
  /-- The bytes handed over so far. -/
  written : Nat := 0
  behind : written ≤ queued := by decide

/-- How the flushes directly behind a message end. -/
inductive Ending where
  /-- None has handed over everything so far. -/
  | pending
  | flushed
  /-- Before that another message was offered. -/
  | overtaken
  deriving DecidableEq, Repr

/-- What is done after a message was offered decides how its flushes end. -/
def ending : List (Operation Message) → Ending
  | [] => .pending
  | .flush none :: _ => .flushed
  | .flush (some _) :: rest => ending rest
  | .write _ _ :: _ => .overtaken

/-- The bytes that the flushes report. -/
def counts (operations : List (Operation Message)) : List Nat :=
  operations.filterMap fun
    | .flush written => written
    | _ => none

/-- The flushes come so many bytes far: one hands over everything, or together they report as
many. -/
def Reaches (left : Nat) (operations : List (Operation Message)) : Prop :=
  .flush none ∈ operations ∨ left ≤ (counts operations).sum

namespace Outbox

/-- The bytes in the buffer. -/
def backlog (outbox : Outbox Message) : Nat := outbox.queued - outbox.written

/-- The messages whose last byte was handed over. -/
def complete (outbox : Outbox Message) : List Message :=
  (outbox.messages.filter (·.2 ≤ outbox.written)).map Prod.fst

/-- One operation, if a message has `size` bytes. -/
def apply (size : Message → Nat) (outbox : Outbox Message) : Operation Message → Outbox Message
  | .write message true =>
    { messages := outbox.messages ++ [(message, outbox.queued + size message)]
      queued := outbox.queued + size message
      written := outbox.written
      behind := Nat.le_add_right_of_le outbox.behind }
  | .write _ false => outbox
  | .flush none => { outbox with written := outbox.queued, behind := Nat.le_refl _ }
  | .flush (some count) =>
    { outbox with
      written := min (outbox.written + count) outbox.queued
      behind := Nat.min_le_right _ _ }

/-- Operations, oldest first. -/
def run (size : Message → Nat) (outbox : Outbox Message) (operations : List (Operation Message)) :
    Outbox Message :=
  operations.foldl (apply size) outbox

end Outbox

/-- A stream that began with an empty buffer. -/
def after (size : Message → Nat) (operations : List (Operation Message)) : Outbox Message :=
  Outbox.run size {} operations

/-! ### How the flushes end -/

/-- Flushes that have ended are not taken up again. -/
theorem ending_append (later more : List (Operation Message)) :
    ending (later ++ more) = if ending later = .pending then ending more else ending later := by
  fun_induction ending later with
  | case3 count rest hypothesis => exact hypothesis
  | _ => rfl

variable {later rest : List (Operation Message)} {left : Nat}

theorem ending_eq_pending :
    ending later = .pending ↔ ∀ operation ∈ later, ∃ count, operation = .flush (some count) := by
  fun_induction ending later with
  | case3 count rest hypothesis => simp [hypothesis]
  | _ => simp

/-- A flush behind pending ones leaves them pending, or hands over everything. -/
theorem ending_flush (pending : ending later = .pending) (written : Option Nat) :
    ending (later ++ [.flush written]) = .pending ∨
      ending (later ++ [.flush written]) = .flushed ∧
        Operation.flush written = (.flush none : Operation Message) := by
  rw [ending_append, if_pos pending]
  cases written with
  | none => exact .inr ⟨rfl, rfl⟩
  | some => exact .inl rfl

/-- While the flushes behind a message are pending, it is the last that was offered. -/
theorem eq_of_pending {before other behind : List (Operation Message)} {message last : Message}
    {queued taken : Bool}
    (same : before ++ .write message queued :: later = other ++ .write last taken :: behind)
    (pending : ending later = .pending) (still : ending behind = .pending) : message = last := by
  have apart : ∀ {gap later behind : List (Operation Message)} {message last queued taken},
      .write message queued :: later = gap ++ .write last taken :: behind →
      ending later = .pending → message = last := by
    intro gap later behind message last queued taken same pending
    cases gap with
    | nil => exact (Operation.write.inj (List.cons.inj same).1).1
    | cons first gap =>
      have inside : .write last taken ∈ later := by simp [(List.cons.inj same).2]
      obtain ⟨_, impossible⟩ := ending_eq_pending.mp pending _ inside
      cases impossible
  rcases List.append_eq_append_iff.mp same with ⟨gap, -, split⟩ | ⟨gap, -, split⟩
  · exact apart split pending
  · exact (apart split still).symm

/-- Pending flushes do not end with one that hands over everything. -/
theorem getLast?_of_pending {operations before : List (Operation Message)} {message : Message}
    {queued : Bool} (split : operations = before ++ .write message queued :: later)
    (pending : ending later = .pending) : operations.getLast? ≠ some (.flush none) := by
  intro last
  rw [split, List.getLast?_append_cons] at last
  rcases List.mem_cons.mp (List.mem_of_getLast? last) with impossible | inside
  · cases impossible
  · obtain ⟨_, impossible⟩ := ending_eq_pending.mp pending _ inside
    cases impossible

/-! ### How far the flushes come -/

theorem not_reaches {operations : List (Operation Message)} :
    ¬Reaches left operations ↔ .flush none ∉ operations ∧ (counts operations).sum < left := by
  rw [Reaches, not_or, Nat.not_le]

theorem reaches_nil : Reaches left ([] : List (Operation Message)) ↔ left = 0 := by
  simp [Reaches, counts]

theorem reaches_write {message : Message} {queued : Bool} :
    Reaches left (.write message queued :: rest) ↔ Reaches left rest := by
  simp [Reaches, counts]

theorem reaches_all : Reaches left (.flush none :: rest) :=
  .inl List.mem_cons_self

theorem reaches_some {count : Nat} :
    Reaches left (.flush (some count) :: rest) ↔ Reaches (left - count) rest := by
  have sum : (counts (.flush (some count) :: rest)).sum = count + (counts rest).sum := by
    simp [counts]
  rw [Reaches, Reaches, sum, List.mem_cons, Nat.sub_le_iff_le_add']
  simp

/-- Whatever is done later, the flushes have come so far. -/
theorem Reaches.append {operations : List (Operation Message)} (reaches : Reaches left operations)
    (more : List (Operation Message)) : Reaches left (operations ++ more) := by
  refine reaches.imp (List.mem_append_left more) fun enough => ?_
  rw [counts, List.filterMap_append, List.sum_append]
  exact Nat.le_add_right_of_le enough

namespace Outbox

variable {size : Message → Nat} {message : Message} {stop : Nat}

/-- One operation appends a message if it is a write that goes through. -/
theorem mem_messages_apply (outbox : Outbox Message) (operation : Operation Message) :
    (message, stop) ∈ (outbox.apply size operation).messages ↔
      (message, stop) ∈ outbox.messages ∨
        (operation = .write message true ∧ stop = outbox.queued + size message) := by
  cases operation with
  | flush written => cases written <;> simp [apply]
  | write other queued =>
    cases queued with
    | false => simp [apply]
    | true =>
      simp only [apply, List.mem_append, List.mem_singleton, Prod.mk.injEq,
        Operation.write.injEq, and_true]
      refine or_congr_right ⟨?_, ?_⟩
      · rintro ⟨rfl, ends⟩
        exact ⟨rfl, ends⟩
      · rintro ⟨rfl, ends⟩
        exact ⟨rfl, ends⟩

/-- What is appended has a write behind it, and ends where the bytes then ended. -/
theorem mem_messages_run (outbox : Outbox Message) (operations : List (Operation Message)) :
    (message, stop) ∈ (outbox.run size operations).messages ↔
      (message, stop) ∈ outbox.messages ∨ ∃ before later,
        operations = before ++ .write message true :: later ∧
          stop = (outbox.run size before).queued + size message := by
  induction operations generalizing outbox with
  | nil => simp [run]
  | cons operation rest hypothesis =>
    have later : (∃ before later, rest = before ++ .write message true :: later ∧
          stop = ((outbox.apply size operation).run size before).queued + size message) ∨
        (operation = .write message true ∧ stop = outbox.queued + size message) ↔
        ∃ before later, operation :: rest = before ++ .write message true :: later ∧
          stop = (outbox.run size before).queued + size message := by
      constructor
      · rintro (⟨before, later, rfl, ends⟩ | ⟨rfl, ends⟩)
        · exact ⟨operation :: before, later, rfl, ends⟩
        · exact ⟨[], rest, rfl, ends⟩
      · rintro ⟨before, later, split, ends⟩
        cases before with
        | nil =>
          obtain ⟨rfl, rfl⟩ := List.cons.inj split
          exact .inr ⟨rfl, ends⟩
        | cons first before =>
          obtain ⟨rfl, rfl⟩ := List.cons.inj split
          exact .inl ⟨before, later, rfl, ends⟩
    rw [← later, or_comm (a := ∃ _, _), ← or_assoc, ← mem_messages_apply]
    exact hypothesis (outbox.apply size operation)

/-- A position among the appended bytes is handed over exactly if the flushes come so far. -/
theorem le_written_run (outbox : Outbox Message) (inside : stop ≤ outbox.queued)
    (operations : List (Operation Message)) :
    stop ≤ (outbox.run size operations).written ↔ Reaches (stop - outbox.written) operations := by
  induction operations generalizing outbox with
  | nil => rw [reaches_nil, Nat.sub_eq_zero_iff_le, run, List.foldl_nil]
  | cons operation rest hypothesis =>
    have step := hypothesis (outbox.apply size operation)
    cases operation with
    | write other queued =>
      rw [reaches_write]
      cases queued with
      | false => exact step inside
      | true => exact step (Nat.le_add_right_of_le inside)
    | flush written =>
      cases written with
      | none =>
        -- everything is handed over, and the position with it
        refine iff_of_true ((step inside).mpr (.inr ?_)) reaches_all
        rw [show stop - (outbox.apply size (.flush none)).written = 0 from
          Nat.sub_eq_zero_of_le inside]
        exact Nat.zero_le _
      | some count =>
        have left : stop - min (outbox.written + count) outbox.queued =
            stop - outbox.written - count := by omega
        rw [reaches_some, ← left]
        exact step inside

end Outbox

theorem after_append_cons (size : Message → Nat) (before : List (Operation Message))
    (operation : Operation Message) (later : List (Operation Message)) :
    after size (before ++ operation :: later) =
      ((after size before).apply size operation).run size later := by
  rw [after, Outbox.run, List.foldl_append, List.foldl_cons]
  rfl

/-- A message is complete exactly if it was appended and the flushes from then on come to its end,
past what stood in the buffer before it. -/
theorem mem_complete_iff {size : Message → Nat} {message : Message}
    {operations : List (Operation Message)} :
    message ∈ (after size operations).complete ↔ ∃ before later,
      operations = before ++ .write message true :: later ∧
        Reaches ((after size before).backlog + size message) later := by
  have each : ∀ {before later stop}, operations = before ++ .write message true :: later →
      stop = (after size before).queued + size message →
      (stop ≤ (after size operations).written ↔
        Reaches ((after size before).backlog + size message) later) := by
    rintro before later stop rfl rfl
    have left : (after size before).queued + size message - (after size before).written =
        (after size before).backlog + size message :=
      Nat.sub_add_comm (after size before).behind
    rw [← left, after_append_cons]
    exact Outbox.le_written_run (Outbox.apply size (after size before) (.write message true))
      (Nat.le_refl _) later
  rw [Outbox.complete, List.mem_map]
  constructor
  · rintro ⟨⟨_, stop⟩, member, rfl⟩
    obtain ⟨listed, handed⟩ := List.mem_filter.mp member
    obtain none | ⟨before, later, split, ends⟩ := (Outbox.mem_messages_run _ _).mp listed
    · cases none
    · exact ⟨before, later, split, (each split ends).mp (of_decide_eq_true handed)⟩
  · rintro ⟨before, later, split, reaches⟩
    refine ⟨(message, _), List.mem_filter.mpr ⟨?_, decide_eq_true ((each split rfl).mpr reaches)⟩,
      rfl⟩
    exact (Outbox.mem_messages_run _ _).mpr (.inr ⟨before, later, split, rfl⟩)

variable {size : Message → Nat} {message : Message} {operations : List (Operation Message)}

/-- A complete message stays complete. -/
theorem mem_complete_append (complete : message ∈ (after size operations).complete)
    (more : List (Operation Message)) : message ∈ (after size (operations ++ more)).complete := by
  obtain ⟨before, later, rfl, reaches⟩ := mem_complete_iff.mp complete
  exact mem_complete_iff.mpr ⟨before, later ++ more, by simp, reaches.append more⟩

/-- A flush that hands over everything completes whatever was appended. -/
theorem mem_complete_of_flushed (queued : .write message true ∈ operations) :
    message ∈ (after size (operations ++ [.flush none])).complete := by
  obtain ⟨before, later, rfl⟩ := List.append_of_mem queued
  refine mem_complete_iff.mpr ⟨before, later ++ [.flush none], by simp, .inl ?_⟩
  exact List.mem_append_right _ List.mem_cons_self

end Fifo
