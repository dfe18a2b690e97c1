import LoopRepair.Instruction

/-!
# Programs and flips

A program is a fixed number of instructions in order. A flip exchanges the operation
of one of them for its counterpart and remembers the operation that it replaced, so
that it can be restored. Neither changes the size or an argument.
-/
namespace LoopRepair

structure Program where
  instructions : Array Instruction
  deriving DecidableEq, Repr

/-- The exchange of one operation for its counterpart. -/
structure Flip where
  index : Nat
  replaced : Operation
  deriving DecidableEq, Repr

/-- The operation in place while the flip is in effect. -/
def Flip.replacement (f : Flip) : Operation := f.replaced.counterpart?.getD f.replaced

instance : ToString Flip :=
  ⟨fun f => "instruction " ++ toString f.index ++ ": " ++ toString f.replaced ++ " -> " ++
    toString f.replacement⟩

namespace Program

def ofList (l : List Instruction) : Program := ⟨l.toArray⟩

def toList (p : Program) : List Instruction := p.instructions.toList

def size (p : Program) : Nat := p.instructions.size

/-- The instruction at `i`, if there is one. -/
def get? (p : Program) (i : Nat) : Option Instruction := p.instructions[i]?

/-- The program with the instruction at `i`, if there is one, changed by `f`. -/
def update (p : Program) (i : Nat) (f : Instruction → Instruction) : Program :=
  ⟨p.instructions.modify i f⟩

/-- The flip of the instruction at `i`, if there is one that a repair may flip. -/
def flipAt? (p : Program) (i : Nat) : Option Flip :=
  match p.get? i with
  | some a => if a.flippable then some ⟨i, a.operation⟩ else none
  | none => none

/-- Put the replacement in place. -/
def apply (p : Program) (f : Flip) : Program :=
  p.update f.index fun a => { a with operation := f.replacement }

/-- Put the replaced operation back, whatever stands there now. -/
def restore (p : Program) (f : Flip) : Program :=
  p.update f.index fun a => { a with operation := f.replaced }

/-- Flip the instruction at `i`: the flip that was made, if any, and the program. -/
def flip (p : Program) (i : Nat) : Option Flip × Program :=
  match p.flipAt? i with
  | some f => (some f, p.apply f)
  | none => (none, p)

@[simp] theorem toList_ofList (l : List Instruction) : (ofList l).toList = l := rfl

@[simp] theorem ofList_toList (p : Program) : ofList p.toList = p := rfl

@[simp] theorem size_update (p : Program) (i : Nat) (f : Instruction → Instruction) :
    (p.update i f).size = p.size := by
  simp [update, size]

theorem get?_update (p : Program) (i j : Nat) (f : Instruction → Instruction) :
    (p.update i f).get? j = if i = j then (p.get? j).map f else p.get? j := by
  simp [update, get?, Array.getElem?_modify]

@[simp] theorem get?_update_self (p : Program) (i : Nat) (f : Instruction → Instruction) :
    (p.update i f).get? i = (p.get? i).map f := by
  simp [get?_update]

theorem get?_update_of_ne (p : Program) {i j : Nat} (h : i ≠ j) (f : Instruction → Instruction) :
    (p.update i f).get? j = p.get? j := by
  simp [get?_update, h]

@[simp] theorem size_apply (p : Program) (f : Flip) : (p.apply f).size = p.size := by
  simp [apply]

@[simp] theorem size_restore (p : Program) (f : Flip) : (p.restore f).size = p.size := by
  simp [restore]

/-- Programs of one size with the same instructions are equal. -/
theorem ext_get? {p q : Program} (h : ∀ i, p.get? i = q.get? i) : p = q := by
  cases p; cases q
  exact congrArg Program.mk (Array.ext_getElem? h)

theorem get?_eq_none_iff {p : Program} {i : Nat} : p.get? i = none ↔ p.size ≤ i := by
  simp [get?, size]

theorem flipAt?_eq_some_iff {p : Program} {i : Nat} {f : Flip} :
    p.flipAt? i = some f ↔
      ∃ a, p.get? i = some a ∧ a.flippable = true ∧ f = ⟨i, a.operation⟩ := by
  unfold flipAt?
  constructor
  · intro h
    split at h
    · rename_i a ha
      split at h
      · rename_i flippable
        exact ⟨a, ha, flippable, (Option.some.inj h).symm⟩
      · cases h
    · cases h
  · rintro ⟨a, ha, flippable, rfl⟩
    simp [ha, flippable]

theorem flipAt?_index {p : Program} {i : Nat} {f : Flip} (h : p.flipAt? i = some f) :
    f.index = i := by
  obtain ⟨_, _, _, rfl⟩ := flipAt?_eq_some_iff.1 h
  rfl

/-- Restoring a flip right after it was made leaves the program as it was. -/
theorem restore_apply {p : Program} {i : Nat} {f : Flip} (h : p.flipAt? i = some f) :
    (p.apply f).restore f = p := by
  obtain ⟨a, ha, _, rfl⟩ := flipAt?_eq_some_iff.1 h
  apply ext_get?
  intro j
  simp only [restore, apply, get?_update]
  split
  · rename_i e
    subst e
    simp [ha]
  · rfl

end Program
end LoopRepair
