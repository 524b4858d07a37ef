import Mathlib.Tactic.Common

/-
  Bounded first-in first-out queues.

  The queue is the list of its elements, oldest first. A
  block of elements is put whole or not at all, and taken
  whole or not at all.

  Main declarations:
    * `Fifo.Op`, `Fifo.Reply`
    * `Fifo.perform`, `Fifo.run`
    * `Fifo.Simulates`, `Fifo.simulates_run`
-/

------------------------------------------------------------
-- Operations
------------------------------------------------------------

namespace Fifo

variable {α : Type}

/- An operation on a queue. -/
inductive Op (α : Type) where
  | put (block : List α)
  | get (count : Nat)
  | clear
deriving DecidableEq

/- The number of elements an operation moves. -/
def Op.count : Op α → Nat
  | .put block => block.length
  | .get count => count
  | .clear => 0

/- What an operation answers. -/
inductive Reply (α : Type) where
  | put (accepted : Bool)
  | got (block : Option (List α))
  | cleared
deriving DecidableEq

/- The operation was refused. -/
def Reply.refused : Reply α → Bool
  | .put accepted => !accepted
  | .got block => block.isNone
  | .cleared => false

/- An operation on a queue of at most `capacity` elements. -/
def perform
    (capacity : Nat)
    (queue : List α) :
    Op α → Reply α × List α
| .put block =>
    if queue.length + block.length ≤ capacity then
      (.put true, queue ++ block)
    else
      (.put false, queue)
| .get count =>
    if count ≤ queue.length then
      (.got (some (queue.take count)), queue.drop count)
    else
      (.got none, queue)
| .clear => (.cleared, [])

end Fifo

------------------------------------------------------------
-- Runs
------------------------------------------------------------

namespace Fifo

variable {α σ : Type}

/- The replies to a sequence of operations, and the end. -/
def run
    (step : σ → Op α → Reply α × σ)
    (state : σ) :
    List (Op α) → List (Reply α) × σ
| [] => ([], state)
| op :: ops =>
    let first := step state op
    let later := run step first.2 ops
    (first.1 :: later.1, later.2)

/-
  A machine that answers as the queue does and keeps up the
  relation to it, for the operations it allows.
-/
def Simulates
    (capacity : Nat)
    (step : σ → Op α → Reply α × σ)
    (Allowed : Op α → Prop)
    (contents : σ → List α) : Prop :=
  ∀ state op, Allowed op →
    (step state op).1 = (perform capacity (contents state) op).1 ∧
      contents (step state op).2 =
        (perform capacity (contents state) op).2

/- A step simulation is a simulation of whole runs. -/
theorem simulates_run
    {capacity : Nat}
    {step : σ → Op α → Reply α × σ}
    {Allowed : Op α → Prop}
    {contents : σ → List α}
    (hStep : Simulates capacity step Allowed contents)
    {ops : List (Op α)}
    (hAllowed : ∀ op ∈ ops, Allowed op)
    (state : σ) :
    (run step state ops).1 =
        (run (perform capacity) (contents state) ops).1 ∧
      contents (run step state ops).2 =
        (run (perform capacity) (contents state) ops).2 := by
  induction ops generalizing state with
  | nil => exact ⟨rfl, rfl⟩
  | cons op ops ih =>
      rcases hStep state op (hAllowed op List.mem_cons_self)
        with ⟨hReply, hNext⟩
      rcases ih
          (fun op hMem =>
            hAllowed op (List.mem_cons_of_mem _ hMem))
          (step state op).2
        with ⟨hReplies, hEnd⟩
      rw [hNext] at hReplies hEnd
      simp only [run]
      exact ⟨by rw [hReply, hReplies], hEnd⟩

end Fifo
