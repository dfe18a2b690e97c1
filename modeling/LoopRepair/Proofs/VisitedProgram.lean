import LoopRepair.Exchange

/-!
# Programs on a path

What a path does to a program: it counts one visit for every entry, under the flip that
is in effect. Visits and operations are changed by updates that do not meet, so the
flip can be made or restored before or after the visits were counted, and whether an
instruction may be flipped does not depend on them. The accumulator along a path is
the fold of the effects, and no flip shows in it.
-/
namespace LoopRepair

namespace Instruction

/-- The instruction with `n` more visits. -/
def visitedTimes (n : Nat) (a : Instruction) : Instruction := { a with visits := a.visits + n }

@[simp] theorem visits_visitedTimes (n : Nat) (a : Instruction) :
    (a.visitedTimes n).visits = a.visits + n := rfl
@[simp] theorem effect_visitedTimes (n : Nat) (a : Instruction) :
    (a.visitedTimes n).effect = a.effect := rfl
@[simp] theorem next?_visitedTimes (n : Nat) (a : Instruction) :
    (a.visitedTimes n).next? = a.next? := rfl

theorem visit_visitedTimes (n : Nat) (a : Instruction) :
    (a.visitedTimes n).visit = a.visitedTimes (n + 1) := rfl

end Instruction

namespace Program

/-- The operation of the instruction at `i`, if there is one. -/
def operation? (p : Program) (i : Nat) : Option Operation := (p.get? i).map Instruction.operation

/-- The argument of the instruction at `i`, if there is one. -/
def argument? (p : Program) (i : Nat) : Option Int64 := (p.get? i).map Instruction.argument

/-- The visits of the instruction at `i`, if there is one. -/
def visits? (p : Program) (i : Nat) : Option Nat := (p.get? i).map Instruction.visits

/-- The program with one visit counted for every entry of `l`. -/
def visiting (p : Program) : List Nat → Program
  | [] => p
  | i :: l => (p.visiting l).update i Instruction.visit

/-- The program with this flip in effect. -/
def flipped (p : Program) : Option Flip → Program
  | none => p
  | some f => p.apply f

/-- The accumulator after the instructions at the indices `l`, newest first. -/
def tally (p : Program) : List Nat → Int64
  | [] => 0
  | i :: l => ((p.get? i).map fun a => a.effect (p.tally l)).getD (p.tally l)

@[simp] theorem visiting_nil (p : Program) : p.visiting [] = p := rfl
@[simp] theorem flipped_none (p : Program) : p.flipped none = p := rfl
@[simp] theorem flipped_some (p : Program) (f : Flip) : p.flipped (some f) = p.apply f := rfl

theorem tally_cons {p : Program} {i : Nat} {a : Instruction} (h : p.get? i = some a)
    (l : List Nat) : p.tally (i :: l) = a.effect (p.tally l) := by
  simp [tally,h]

@[simp] theorem size_visiting (p : Program) (l : List Nat) : (p.visiting l).size = p.size := by
  induction l with
  | nil => rfl
  | cons i l ih => rw [visiting,size_update,ih]

@[simp] theorem size_flipped (p : Program) (g : Option Flip) : (p.flipped g).size = p.size := by
  cases g <;> simp

theorem get?_visiting (p : Program) (l : List Nat) (i : Nat) :
    (p.visiting l).get? i = (p.get? i).map (Instruction.visitedTimes (l.count i)) := by
  induction l with
  | nil => cases h : p.get? i <;> simp [Instruction.visitedTimes,h]
  | cons j l ih =>
      rw [visiting,get?_update,ih]
      by_cases e : j = i
      · subst e
        simp [Instruction.visit_visitedTimes,Function.comp_def]
      · simp [e]

/-- What visits do not change in an instruction is the same along every path. -/
theorem map_get?_visiting {α : Type} {view : Instruction → α}
    (kept : ∀ n a, view (Instruction.visitedTimes n a) = view a) (p : Program) (l : List Nat)
    (i : Nat) : ((p.visiting l).get? i).map view = (p.get? i).map view := by
  rw [get?_visiting,Option.map_map]
  congr 1
  funext a
  exact kept _ a

/-- What the operation does not change in an instruction is the same whatever operation is put
in place. -/
theorem map_get?_update_operation {α : Type} {view : Instruction → α}
    (kept : ∀ op a, view { a with operation := op } = view a) (p : Program) (i : Nat)
    (op : Operation) (j : Nat) :
    ((p.update i fun a => { a with operation := op }).get? j).map view = (p.get? j).map view := by
  rw [get?_update]
  by_cases e : i = j
  · rw [if_pos e,Option.map_map]
    congr 1
    funext a
    exact kept _ a
  · rw [if_neg e]

/-- What the operation does not change in an instruction is the same under every flip. -/
theorem map_get?_flipped {α : Type} {view : Instruction → α}
    (kept : ∀ op a, view { a with operation := op } = view a) (p : Program) (g : Option Flip)
    (i : Nat) : ((p.flipped g).get? i).map view = (p.get? i).map view := by
  cases g with
  | none => rfl
  | some f => exact map_get?_update_operation kept p f.index f.replacement i

/-- Updates that commute on an instruction commute on a program. -/
theorem update_comm (p : Program) (i j : Nat) {f g : Instruction → Instruction}
    (h : ∀ a, f (g a) = g (f a)) : (p.update i f).update j g = (p.update j g).update i f := by
  apply ext_get?
  intro k
  simp only [get?_update]
  by_cases hi : i = k <;> by_cases hj : j = k <;> simp [hi,hj,Function.comp_def,h]

/-- The newest visit is taken back exactly. -/
theorem visiting_unvisit (p : Program) (i : Nat) (l : List Nat) :
    (p.visiting (i :: l)).update i Instruction.unvisit = p.visiting l := by
  apply ext_get?
  intro k
  rw [visiting,get?_update,get?_update]
  by_cases e : i = k
  · cases h : (p.visiting l).get? k <;> simp [e]
  · simp [e]

theorem update_visiting (p : Program) (j : Nat) {f : Instruction → Instruction}
    (h : ∀ a, f a.visit = (f a).visit) (l : List Nat) :
    (p.visiting l).update j f = (p.update j f).visiting l := by
  induction l with
  | nil => rfl
  | cons i l ih => rw [visiting,update_comm _ _ _ fun a => (h a).symm,ih,visiting]

theorem apply_visiting (p : Program) (f : Flip) (l : List Nat) :
    (p.visiting l).apply f = (p.apply f).visiting l := by
  rw [apply,apply,update_visiting]
  intro a
  rfl

theorem restore_visiting (p : Program) (f : Flip) (l : List Nat) :
    (p.visiting l).restore f = (p.restore f).visiting l := by
  rw [restore,restore,update_visiting]
  intro a
  rfl

theorem flipAt?_visiting (p : Program) (l : List Nat) (i : Nat) :
    (p.visiting l).flipAt? i = p.flipAt? i := by
  unfold flipAt?
  rw [get?_visiting]
  cases p.get? i <;> rfl

theorem lt_size_of_get? {p : Program} {i : Nat} {a : Instruction} (h : p.get? i = some a) :
    i < p.size := by
  apply Nat.lt_of_not_le
  intro past
  rw [get?_eq_none_iff.2 past] at h
  cases h

theorem get?_apply_of_ne (p : Program) {f : Flip} {i : Nat} (h : f.index ≠ i) :
    (p.apply f).get? i = p.get? i :=
  get?_update_of_ne p h _

/-- No flip shows in the accumulator. -/
theorem tally_apply {p : Program} {f : Flip} (h : p.flipAt? f.index = some f) (l : List Nat) :
    (p.apply f).tally l = p.tally l := by
  rw [apply_eq_exchange h]
  induction l with
  | nil => rfl
  | cons i l ih =>
      rw [tally,tally,ih,get?_exchange]
      by_cases e : f.index = i
      · cases hi : p.get? i <;> simp [e]
      · simp [e]

theorem tally_flipped {p : Program} {g : Option Flip}
    (h : ∀ f ∈ g, p.flipAt? f.index = some f) (l : List Nat) :
    (p.flipped g).tally l = p.tally l := by
  cases g with
  | none => rfl
  | some f => exact tally_apply (h f rfl) l

end Program
end LoopRepair
