import LoopRepair.Machine

/-!
# Events and observers

The machine tells an observer each thing it does, as an event, and notes the course
of a repair, as a notice. An observer is any state with a way to take in both; it has
no way to answer. One observer ignores everything and one keeps the list of events.
-/
namespace LoopRepair

inductive Event where
  /-- The instruction ran for the first time on this path and left the accumulator so. -/
  | executed (index : Nat) (instruction : Instruction) (accumulator : Int64)
  /-- The instruction was reached again. -/
  | looped (index : Nat)
  /-- The jump led before the first instruction. -/
  | deadEnd (index : Nat) (offset : Int64)
  /-- One visit was taken back, which left the accumulator so. -/
  | retracted (index : Nat) (accumulator : Int64)
  | flipped (flip : Flip)
  | halted (outcome : Outcome)
  deriving DecidableEq, Repr

inductive Notice where
  /-- The flip of the previous repair was given up. -/
  | restored (index : Nat)
  | applied (flip : Flip) (repairs : Nat)
  | exhausted (repairs : Nat)
  deriving DecidableEq, Repr

structure Observer (σ : Type) where
  event : σ → Event → σ
  notice : σ → Notice → σ

namespace Observer

/-- Takes in nothing. -/
def silent : Observer Unit := ⟨fun s _ => s, fun s _ => s⟩

/-- Keeps every event, in order. -/
def recording : Observer (Array Event) := ⟨Array.push, fun s _ => s⟩

end Observer

/-- What came of something that the machine did: a result, the machine after it, and
the state of the observer. -/
structure Observed (σ α : Type) where
  result : α
  machine : Machine
  seen : σ

end LoopRepair
