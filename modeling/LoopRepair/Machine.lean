import LoopRepair.Program

/-!
# The machine and its undo log

The machine executes no instruction twice on one path. It counts visits in the
instructions themselves and keeps the path as a trail, newest visit first, which is
its undo log: retracting the newest visit lowers the count, takes an added argument
off the accumulator again and restores a flip made there. Rewinding retracts the
whole trail. Steps and repairs count work done and are never taken back.
-/
namespace LoopRepair

/-- Where a machine is. A jump before the first instruction counts as a loop: no path that
goes there can end. -/
inductive Phase where
  | running | looping | halted
  deriving DecidableEq, Repr

/-- What a run reports: the flip in effect, the accumulator, and the work done,
including work retracted. -/
structure Outcome where
  flip : Option Flip
  accumulator : Int64
  steps : Nat
  repairs : Nat
  deriving DecidableEq, Repr

structure Machine where
  program : Program
  pc : Nat := 0
  accumulator : Int64 := 0
  trail : List Nat := []
  flip : Option Flip := none
  phase : Phase := .running
  steps : Nat := 0
  repairs : Nat := 0
  deriving DecidableEq, Repr

namespace Machine

/-- The machine before its first step. -/
def start (p : Program) : Machine := { program := p }

/-- The indices visited on the current path, oldest first. -/
def history (m : Machine) : List Nat := m.trail.reverse

def outcome (m : Machine) : Outcome := ⟨m.flip, m.accumulator, m.steps, m.repairs⟩

/-- The accumulator once the newest visit of `i` is taken back. -/
def refunded (m : Machine) (i : Nat) : Int64 :=
  match m.program.get? i with
  | some a => m.accumulator - a.refund
  | none => m.accumulator

/-- Whether the flip in effect is one of the instruction at `i`. -/
def flippedAt (m : Machine) (i : Nat) : Bool :=
  match m.flip with
  | some f => f.index = i
  | none => false

/-- Put the operation back that the flip in effect replaced, and forget the flip. -/
def unflip (m : Machine) : Machine :=
  match m.flip with
  | some f => { m with program := m.program.restore f, flip := none }
  | none => m

/-- Take back the visit of `i`, the newest one, which leaves the visits `rest`. -/
def retract (m : Machine) (i : Nat) (rest : List Nat) : Machine :=
  let accumulator := m.refunded i
  let m := { m with
    program := m.program.update i Instruction.unvisit
    accumulator := accumulator
    trail := rest }
  if m.flippedAt i then m.unflip else m

/-- Take back the given visits, newest first, which are the whole trail. -/
def retractAll (m : Machine) : List Nat → Machine
  | [] => m
  | i :: rest => (m.retract i rest).retractAll rest

/-- Take back the whole path and a flip still in effect, and return to the first
instruction. -/
def rewind (m : Machine) : Machine :=
  { (m.retractAll m.trail).unflip with pc := 0, phase := .running }

@[simp] theorem mem_history {m : Machine} {i : Nat} : i ∈ m.history ↔ i ∈ m.trail :=
  List.mem_reverse

@[simp] theorem length_history (m : Machine) : m.history.length = m.trail.length :=
  List.length_reverse

@[simp] theorem trail_retract (m : Machine) (i : Nat) (rest : List Nat) :
    (m.retract i rest).trail = rest := by
  unfold retract unflip
  dsimp only
  repeat' split
  all_goals rfl

@[simp] theorem size_retract (m : Machine) (i : Nat) (rest : List Nat) :
    (m.retract i rest).program.size = m.program.size := by
  unfold retract unflip
  dsimp only
  repeat' split
  all_goals simp

@[simp] theorem steps_retract (m : Machine) (i : Nat) (rest : List Nat) :
    (m.retract i rest).steps = m.steps := by
  unfold retract unflip
  dsimp only
  repeat' split
  all_goals rfl

@[simp] theorem repairs_retract (m : Machine) (i : Nat) (rest : List Nat) :
    (m.retract i rest).repairs = m.repairs := by
  unfold retract unflip
  dsimp only
  repeat' split
  all_goals rfl

end Machine
end LoopRepair
