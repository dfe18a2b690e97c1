import LoopRepair.Operation
import LoopRepair.SignedDecimal

/-!
# Instructions

An instruction is an operation with a signed argument of 64 bits, and carries the
count of its visits on the path that is being executed. What it does is stated once,
for every machine: `effect` on the accumulator and `next?` on the program counter.
Addition wraps; a jump is exact, so a target before the first instruction is told
apart from every other.
-/
namespace LoopRepair

structure Instruction where
  operation : Operation
  argument : Int64
  visits : Nat := 0
  deriving DecidableEq, Repr

/-- The index `offset` places from `i`, unless it lies before the first instruction. -/
def jumpTarget? (i : Nat) (offset : Int64) : Option Nat :=
  if (i : Int) + offset.toInt < 0 then none else some ((i : Int) + offset.toInt).toNat

namespace Instruction

/-- The mnemonic, a space, and the argument with its sign. -/
def written (a : Instruction) : List Char :=
  a.operation.mnemonic ++ ' ' :: SignedDecimal.signed a.argument

instance : ToString Instruction := ⟨fun a => String.ofList a.written⟩

/-- A repair may flip every `jmp`, and every `nop` that would jump elsewhere than to
itself. -/
def flippable (a : Instruction) : Bool :=
  match a.operation with
  | .jmp => true
  | .nop => a.argument ≠ 0
  | .acc => false

/-- The accumulator after the instruction. -/
def effect (a : Instruction) (accumulator : Int64) : Int64 :=
  match a.operation with
  | .acc => accumulator + a.argument
  | .nop | .jmp => accumulator

/-- The index to be executed after this instruction, which stands at `i`. -/
def next? (a : Instruction) (i : Nat) : Option Nat :=
  match a.operation with
  | .jmp => jumpTarget? i a.argument
  | .nop | .acc => some (i + 1)

/-- One visit more. -/
def visit (a : Instruction) : Instruction := { a with visits := a.visits + 1 }

/-- One visit less, if there is one. -/
def unvisit (a : Instruction) : Instruction := { a with visits := a.visits - 1 }

/-- What undoing a visit takes off the accumulator: the argument of an `acc`
visited exactly once. -/
def refund (a : Instruction) : Int64 :=
  if a.operation = .acc ∧ a.visits = 1 then a.argument else 0

@[simp] theorem unvisit_visit (a : Instruction) : a.visit.unvisit = a := by
  simp [visit, unvisit]

/-- A first visit is taken back exactly. -/
theorem effect_sub_refund (a : Instruction) (accumulator : Int64) (h : a.visits = 0) :
    a.effect accumulator - a.visit.refund = accumulator := by
  cases a with
  | mk operation argument visits =>
    cases operation <;> simp_all [effect, refund, visit, Int64.add_sub_cancel]

end Instruction

theorem jumpTarget?_eq_none_iff {i : Nat} {offset : Int64} :
    jumpTarget? i offset = none ↔ (i : Int) + offset.toInt < 0 := by
  simp [jumpTarget?]

theorem jumpTarget?_eq_some_iff {i j : Nat} {offset : Int64} :
    jumpTarget? i offset = some j ↔ (j : Int) = (i : Int) + offset.toInt := by
  unfold jumpTarget?
  split
  · simp; omega
  · simp; omega

end LoopRepair
