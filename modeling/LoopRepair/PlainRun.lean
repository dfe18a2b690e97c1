import LoopRepair.Program

/-!
# Plain execution

What a program does on a machine that counts nothing, undoes nothing and may go on
for ever: the measure of what a repair is to achieve. It halts when the program
counter has passed the last instruction, and it is stuck before the first one, where
there is nothing to execute and nothing to pass. Main statement: a program halts
after one number of instructions with one accumulator, or not at all.
-/
namespace LoopRepair

/-- A place in a plain execution; before the first instruction there is no index. -/
structure PlainState where
  pc : Option Nat
  accumulator : Int64
  deriving DecidableEq, Repr

namespace Program

/-- The state after one more instruction, if there is one to execute. -/
def plainStep? (p : Program) (s : PlainState) : Option PlainState :=
  s.pc.bind fun i => (p.get? i).map fun a => ⟨a.next? i, a.effect s.accumulator⟩

/-- The state after `n` instructions, counted from the first of the program, if so many
are executed. -/
def plainAfter? (p : Program) : Nat → Option PlainState
  | 0 => some ⟨some 0, 0⟩
  | n + 1 => (p.plainAfter? n).bind p.plainStep?

/-- The index of the instruction that is executed after `n` others, if there is one. -/
def plainIndex? (p : Program) (n : Nat) : Option Nat :=
  (p.plainAfter? n).bind fun s => s.pc.filter (· < p.size)

/-- The indices of the first `n` instructions executed, in order, if so many are. -/
def plainIndices? (p : Program) : Nat → Option (List Nat)
  | 0 => some []
  | n + 1 => (p.plainIndices? n).bind fun l => (p.plainIndex? n).map fun i => l ++ [i]

/-- The program halts after exactly `n` instructions and leaves this accumulator. -/
def HaltsAfter (p : Program) (n : Nat) (accumulator : Int64) : Prop :=
  ∃ i, p.plainAfter? n = some ⟨some i, accumulator⟩ ∧ p.size ≤ i

def Halts (p : Program) : Prop := ∃ n accumulator, p.HaltsAfter n accumulator

theorem plainAfter?_eq_none_of_le {p : Program} {m n : Nat} (h : p.plainAfter? m = none)
    (le : m ≤ n) : p.plainAfter? n = none := by
  induction le with
  | refl => exact h
  | step _ ih => simp [plainAfter?, ih]

/-- Nothing is executed after a halt. -/
theorem HaltsAfter.plainAfter?_eq_none {p : Program} {m n : Nat} {a : Int64}
    (h : p.HaltsAfter m a) (lt : m < n) : p.plainAfter? n = none := by
  obtain ⟨i, at_end, past⟩ := h
  have last : p.plainAfter? (m + 1) = none := by
    simp [plainAfter?, at_end, plainStep?, get?_eq_none_iff.2 past]
  exact plainAfter?_eq_none_of_le last lt

/-- A program halts at one time and with one accumulator. -/
theorem HaltsAfter.unique {p : Program} {m n : Nat} {a b : Int64} (ha : p.HaltsAfter m a)
    (hb : p.HaltsAfter n b) : m = n ∧ a = b := by
  obtain ⟨i, at_a, _⟩ := id ha
  obtain ⟨j, at_b, _⟩ := id hb
  have time : m = n := by
    rcases Nat.lt_trichotomy m n with lt | eq | lt
    · simp [ha.plainAfter?_eq_none lt] at at_b
    · exact eq
    · simp [hb.plainAfter?_eq_none lt] at at_a
  subst time
  rw [at_a] at at_b
  exact ⟨rfl, by cases at_b; rfl⟩

end Program
end LoopRepair
