import Mathlib.Data.List.Nodup
import LoopRepair.Proofs.VisitedProgram

/-!
# Flips made and restored

Instructions may be flipped one after another, some of them several times, and where nothing
may be flipped nothing is. The flips that were made are a stack: restored newest first, they
lead back to the program that they were made on, and at no time on the way has anything
changed but operations that one of them stands for. The order matters only among flips of one
instruction, whose records may contradict each other.
-/
namespace LoopRepair

namespace Instruction
variable {a : Instruction}

theorem exchanged_exchanged (a : Instruction) : a.exchanged.exchanged = a := by
  obtain ⟨operation,argument,visits⟩ := a
  cases operation <;> rfl

theorem exchanged_ne (h : a.flippable = true) : a.exchanged ≠ a := by
  obtain ⟨operation,argument,visits⟩ := a
  cases operation with
  | nop | jmp => simp [exchanged]
  | acc => simp [flippable] at h

/-- An instruction that would jump to itself is flipped once and never again. -/
theorem flippable_exchanged_iff (h : a.flippable = true) :
    a.exchanged.flippable = true ↔ a.argument ≠ 0 := by
  obtain ⟨operation,argument,visits⟩ := a
  cases operation with
  | nop =>
      have nonzero : argument ≠ 0 := by simpa [flippable] using h
      simp [exchanged,flippable,nonzero]
  | jmp => exact decide_eq_true_iff
  | acc => simp [flippable] at h

end Instruction

namespace Program
variable {p q : Program} {i : Nat} {f g : Flip} {fs gs : List Flip} {k l : List Nat}
  {a : Instruction}

/-- Flip the instructions at the indices, one after another: the flips that were made, oldest
first, and the program. -/
def flipEach (p : Program) : List Nat → List Flip × Program
  | [] => ([],p)
  | i :: l =>
      let first := p.flip i
      let later := first.2.flipEach l
      (first.1.toList ++ later.1,later.2)

/-- Put back what the flips replaced, one after another. -/
def restoreEach (p : Program) (fs : List Flip) : Program := fs.foldl restore p

/-- The program `q` has all that `p` has, but for the operations at the indices in `l`. -/
structure KeepsBut (l : List Nat) (p q : Program) : Prop where
  size : q.size = p.size
  arguments : q.argument? = p.argument?
  visits : q.visits? = p.visits?
  operations : ∀ i, i ∉ l → q.operation? i = p.operation? i

theorem flip_eq_none (h : p.flipAt? i = none) : p.flip i = (none,p) := by
  rw [flip,h]

theorem flip_eq_some (h : p.flipAt? i = some f) : p.flip i = (some f,p.apply f) := by
  rw [flip,h]

theorem flipEach_cons_of_none (h : p.flipAt? i = none) (l : List Nat) :
    p.flipEach (i :: l) = p.flipEach l := by
  rw [flipEach,flip_eq_none h]
  rfl

theorem flipEach_cons_of_some (h : p.flipAt? i = some f) (l : List Nat) :
    p.flipEach (i :: l) = (f :: ((p.apply f).flipEach l).1,((p.apply f).flipEach l).2) := by
  rw [flipEach,flip_eq_some h]
  rfl

theorem flipEach_append (p : Program) (k l : List Nat) :
    p.flipEach (k ++ l) = ((p.flipEach k).1 ++ ((p.flipEach k).2.flipEach l).1,
      ((p.flipEach k).2.flipEach l).2) := by
  induction k generalizing p with
  | nil => rfl
  | cons i k ih =>
      rw [List.cons_append,flipEach,ih,flipEach]
      simp only [List.append_assoc]

theorem restoreEach_append (p : Program) (fs gs : List Flip) :
    p.restoreEach (fs ++ gs) = (p.restoreEach fs).restoreEach gs :=
  List.foldl_append

/-- The newest flip is restored first, and the oldest one last. -/
theorem restoreEach_flipEach (p : Program) (l : List Nat) :
    (p.flipEach l).2.restoreEach (p.flipEach l).1.reverse = p := by
  induction l generalizing p with
  | nil => rfl
  | cons i l ih =>
      cases h : p.flipAt? i with
      | none => rw [flipEach_cons_of_none h,ih]
      | some f =>
          rw [flipEach_cons_of_some h,List.reverse_cons,restoreEach_append,ih]
          exact restore_apply h

theorem KeepsBut.refl (l : List Nat) (p : Program) : KeepsBut l p p :=
  ⟨rfl,rfl,rfl,fun _ _ => rfl⟩

/-- Another operation at one of the indices. -/
theorem KeepsBut.update (h : KeepsBut l p q) (hi : i ∈ l) (op : Operation) :
    KeepsBut l p (q.update i fun a => { a with operation := op }) := by
  constructor
  case size => rw [size_update,h.size]
  case arguments =>
    rw [← h.arguments]
    funext j
    exact map_get?_update_operation (fun _ _ => rfl) q i op j
  case visits =>
    rw [← h.visits]
    funext j
    exact map_get?_update_operation (fun _ _ => rfl) q i op j
  case operations =>
    intro j out
    have other : i ≠ j := fun e => out (e ▸ hi)
    rw [← h.operations j out,operation?,get?_update_of_ne q other,operation?]

theorem KeepsBut.flipEach (h : KeepsBut l p q) {k : List Nat}
    (recorded : ∀ f ∈ (q.flipEach k).1, f.index ∈ l) : KeepsBut l p (q.flipEach k).2 := by
  induction k generalizing q with
  | nil => exact h
  | cons i k ih =>
      cases made : q.flipAt? i with
      | none =>
          rw [flipEach_cons_of_none made] at recorded ⊢
          exact ih h recorded
      | some f =>
          rw [flipEach_cons_of_some made] at recorded ⊢
          obtain ⟨here,later⟩ := List.forall_mem_cons.1 recorded
          exact ih (h.update here f.replacement) later

theorem KeepsBut.restoreEach (h : KeepsBut l p q) (recorded : ∀ f ∈ fs, f.index ∈ l) :
    KeepsBut l p (q.restoreEach fs) := by
  induction fs generalizing q with
  | nil => exact h
  | cons f fs ih =>
      obtain ⟨here,later⟩ := List.forall_mem_cons.1 recorded
      exact ih (h.update here f.replaced) later

theorem restore_comm (h : f.index ≠ g.index) (p : Program) :
    (p.restore f).restore g = (p.restore g).restore f := by
  apply ext_get?
  intro i
  simp only [restore,get?_update]
  by_cases hf : f.index = i
  · have hg : g.index ≠ i := fun e => h (hf.trans e.symm)
    simp only [if_pos hf,if_neg hg]
  · simp only [if_neg hf]

/-- Flips of different instructions are restored in any order. -/
theorem restoreEach_perm (distinct : (fs.map Flip.index).Nodup) (h : fs.Perm gs) (p : Program) :
    p.restoreEach fs = p.restoreEach gs := by
  refine h.foldl_eq' ?_ p
  intro f hf g hg q
  by_cases same : f = g
  · rw [same]
  · exact restore_comm (fun e => same (List.inj_on_of_nodup_map distinct hf hg e)) q

theorem exchange_exchange (p : Program) (i : Nat) : (p.exchange i).exchange i = p := by
  apply ext_get?
  intro j
  rw [get?_exchange,get?_exchange]
  by_cases here : i = j
  · cases p.get? j <;> simp [here,Instruction.exchanged_exchanged]
  · simp [here]

theorem flip_of_flippable (ha : p.get? i = some a) (flippable : a.flippable = true) :
    p.flip i = (some ⟨i,a.operation⟩,p.exchange i) := by
  have made : p.flipAt? i = some ⟨i,a.operation⟩ := flipAt?_eq_some_iff.2 ⟨a,ha,flippable,rfl⟩
  rw [flip_eq_some made]
  congr 1
  exact apply_eq_exchange (f := ⟨i,a.operation⟩) made

theorem flip_of_not_flippable (ha : p.get? i = some a) (flippable : ¬ a.flippable = true) :
    p.flip i = (none,p) := by
  apply flip_eq_none
  rw [flipAt?,ha]
  exact if_neg flippable

/-- Flipping twice is undoing, unless the first flip made a `nop` that may not be flipped. -/
theorem flip_flip_iff (ha : p.get? i = some a) (flippable : a.flippable = true) :
    ((p.flip i).2.flip i).2 = p ↔ a.argument ≠ 0 := by
  have exchanged : (p.exchange i).get? i = some a.exchanged := by
    rw [get?_exchange,if_pos rfl,ha]
    rfl
  rw [flip_of_flippable ha flippable,← Instruction.flippable_exchanged_iff flippable]
  constructor
  · intro same
    apply Decidable.byContradiction
    intro stuck
    rw [flip_of_not_flippable exchanged stuck] at same
    have same : p.exchange i = p := same
    rw [same,ha] at exchanged
    exact Instruction.exchanged_ne flippable (Option.some.inj exchanged).symm
  · intro again
    rw [flip_of_flippable exchanged again]
    exact exchange_exchange p i

/-- However instructions are flipped, the flips that were made lead back to the program when
they are restored, newest first. On the way there and back only operations at their indices
change. If no instruction was flipped twice the order is free; and flipping once more is as good
as restoring just where the argument is not zero. -/
theorem flips_undone (p : Program) (l : List Nat) :
    let made := (p.flipEach l).1
    let after := (p.flipEach l).2
    after.restoreEach made.reverse = p ∧
      (∀ k, k <+: l → KeepsBut (made.map Flip.index) p (p.flipEach k).2) ∧
      (∀ fs, fs ⊆ made → KeepsBut (made.map Flip.index) p (after.restoreEach fs)) ∧
      ((made.map Flip.index).Nodup → ∀ fs, fs.Perm made → after.restoreEach fs = p) ∧
      ∀ i a, p.get? i = some a → a.flippable = true →
        (((p.flip i).2.flip i).2 = p ↔ a.argument ≠ 0) := by
  dsimp only
  have indices : ∀ fs, fs ⊆ (p.flipEach l).1 →
      ∀ f ∈ fs, f.index ∈ (p.flipEach l).1.map Flip.index := fun fs among f hf =>
    List.mem_map_of_mem (among hf)
  refine ⟨restoreEach_flipEach p l,?_,?_,?_,?_⟩
  · rintro k ⟨rest,rfl⟩
    refine (KeepsBut.refl _ p).flipEach (indices _ ?_)
    rw [flipEach_append]
    exact List.subset_append_left _ _
  · intro fs among
    have kept := (KeepsBut.refl _ p).flipEach (indices _ (List.Subset.refl _))
    exact kept.restoreEach (indices fs among)
  · intro distinct fs reordered
    have undone := restoreEach_flipEach p l
    have mirrored : fs.Perm (p.flipEach l).1.reverse :=
      reordered.trans (List.reverse_perm _).symm
    have distinct' : (fs.map Flip.index).Nodup := (reordered.map _).nodup_iff.2 distinct
    rw [restoreEach_perm distinct' mirrored,undone]
  · intro i a ha flippable
    exact flip_flip_iff ha flippable

/-- A `nop` that can be flipped to and fro, a `jmp` that cannot, and two more instructions. -/
def switches : Program := .ofList [⟨.nop,3,0⟩,⟨.jmp,0,1⟩,⟨.acc,5,2⟩,⟨.jmp,-1,0⟩]

theorem switches_flips_undone :
    let often := switches.flipEach [0,1,1,0,9,2,3,0]
    let once := switches.flipEach [3,1,1,0]
    often.1 = [⟨0,.nop⟩,⟨1,.jmp⟩,⟨0,.jmp⟩,⟨3,.jmp⟩,⟨0,.nop⟩] ∧
      often.2.restoreEach [⟨0,.nop⟩,⟨3,.jmp⟩,⟨0,.jmp⟩,⟨1,.jmp⟩,⟨0,.nop⟩] = switches ∧
      KeepsBut [0,1,0,3,0] switches (switches.flipEach [0,1,1]).2 ∧
      KeepsBut [0,1,0,3,0] switches (often.2.restoreEach [⟨0,.nop⟩,⟨3,.jmp⟩]) ∧
      once.1 = [⟨3,.jmp⟩,⟨1,.jmp⟩,⟨0,.nop⟩] ∧
      once.2.restoreEach [⟨1,.jmp⟩,⟨0,.nop⟩,⟨3,.jmp⟩] = switches ∧
      ((switches.flip 0).2.flip 0).2 = switches ∧ ((switches.flip 1).2.flip 1).2 ≠ switches := by
  obtain ⟨undone,onward,backward,_,twice⟩ := flips_undone switches [0,1,1,0,9,2,3,0]
  obtain ⟨_,_,_,free,_⟩ := flips_undone switches [3,1,1,0]
  refine ⟨by decide,undone,onward _ (by decide),backward _ (by decide),by decide,
    free (by decide) _ (by decide),?_,?_⟩
  · exact (twice 0 ⟨.nop,3,0⟩ (by decide) (by decide)).2 (by decide)
  · intro same
    exact (twice 1 ⟨.jmp,0,1⟩ (by decide) (by decide)).1 same rfl

end Program
end LoopRepair
