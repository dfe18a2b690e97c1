import LoopRepair.Program

/-!
# Exchanges

What a flip is to achieve, said without flips: a `jmp` becomes a `nop`, or a `nop` a `jmp`.
Every instruction can be exchanged; a search is content with every `jmp` and every `nop`
that would jump elsewhere than to itself. Main statements: the flips that a repair may make
stand for the exchanges that are worth a try, and to make a flip is to make its exchange.
-/
namespace LoopRepair

namespace Instruction

/-- `jmp` in place of `nop`, or `nop` in place of `jmp`. -/
def exchanged (a : Instruction) : Instruction :=
  match a.operation with
  | .nop => { a with operation := .jmp }
  | .jmp => { a with operation := .nop }
  | .acc => a

/-- The exchange is worth a try: the instruction is a `jmp`, or a `nop` whose argument is
not zero. -/
def Eligible (a : Instruction) : Prop :=
  a.operation = .jmp ∨ a.operation = .nop ∧ a.argument ≠ 0

instance (a : Instruction) : Decidable a.Eligible :=
  inferInstanceAs (Decidable (a.operation = .jmp ∨ a.operation = .nop ∧ a.argument ≠ 0))

theorem flippable_iff {a : Instruction} : a.flippable = true ↔ a.Eligible := by
  cases op : a.operation <;> simp [flippable, Eligible, op]

theorem exchanged_eq (a : Instruction) :
    a.exchanged = { a with operation := a.operation.counterpart?.getD a.operation } := by
  obtain ⟨operation, argument, visits⟩ := a
  cases operation <;> rfl

@[simp] theorem visits_exchanged (a : Instruction) : a.exchanged.visits = a.visits := by
  rw [exchanged_eq]

@[simp] theorem effect_exchanged (a : Instruction) : a.exchanged.effect = a.effect := by
  funext x
  cases op : a.operation <;> simp [effect, exchanged, op]

end Instruction

namespace Program

/-- The program with the instruction at `i` exchanged and every other one as it is. -/
def exchange (p : Program) (i : Nat) : Program := p.update i Instruction.exchanged

/-- The flip that stands for the exchange at `i`, if that is worth a try. -/
def candidate? (p : Program) (i : Nat) : Option Flip :=
  (p.get? i).bind fun a => if a.Eligible then some ⟨i, a.operation⟩ else none

theorem get?_exchange (p : Program) (i j : Nat) :
    (p.exchange i).get? j = if i = j then (p.get? j).map Instruction.exchanged else p.get? j :=
  get?_update p i j _

theorem exchange_of_size_le {p : Program} {i : Nat} (past : p.size ≤ i) : p.exchange i = p := by
  apply ext_get?
  intro j
  rw [get?_exchange]
  by_cases e : i = j
  · rw [if_pos e, ← e, get?_eq_none_iff.2 past]
    rfl
  · rw [if_neg e]

/-- The flips that a repair may make are the candidates. -/
theorem flipAt?_eq_candidate? (p : Program) (i : Nat) : p.flipAt? i = p.candidate? i := by
  rw [flipAt?, candidate?]
  cases p.get? i with
  | none => rfl
  | some a =>
      dsimp only [Option.bind_some]
      simp only [Instruction.flippable_iff]

/-- To make a flip is to make the exchange. -/
theorem apply_eq_exchange {p : Program} {f : Flip} (h : p.flipAt? f.index = some f) :
    p.apply f = p.exchange f.index := by
  obtain ⟨a, ha, _, hf⟩ := flipAt?_eq_some_iff.1 h
  apply ext_get?
  intro i
  rw [apply, get?_update, get?_exchange]
  by_cases e : f.index = i
  · rw [← e, ha, hf]
    simp [Flip.replacement, Instruction.exchanged_eq]
  · simp [e]

end Program
end LoopRepair
