import LoopRepair.PlainRun
import LoopRepair.Proofs.VisitedProgram

/-!
# Paths of execution

A path is a plain execution that visits no instruction twice and none that counts as
visited from the outset, written as the indices executed, newest first, with the index
that comes next. The indices determine everything: the index that follows them, the
accumulator, and the place in the plain execution. A path that leads back into itself,
or before the first instruction, shows that the program does not halt.
-/
namespace LoopRepair.Program
variable {p q : Program} {l r : List Nat} {i : Nat} {n : Option Nat}

inductive Path (p : Program) : List Nat → Option Nat → Prop
  | start : Path p [] (some 0)
  | step {l : List Nat} {i : Nat} {a : Instruction} : Path p l (some i) →
      p.get? i = some a → a.visits = 0 → i ∉ l → Path p (i :: l) (a.next? i)

namespace Path

theorem of_cons (h : p.Path (i :: l) n) :
    p.Path l (some i) ∧ i ∉ l ∧ ∃ a, p.get? i = some a ∧ a.visits = 0 ∧ n = a.next? i := by
  cases h with
  | step hl ha fresh hi => exact ⟨hl,hi,_,ha,fresh,rfl⟩

theorem of_append (h : p.Path (l ++ i :: r) n) : p.Path r (some i) := by
  induction l generalizing n with
  | nil => exact h.of_cons.1
  | cons j l ih => exact ih h.of_cons.1

theorem exists_of_append {k : List Nat} (h : p.Path (k ++ l) n) : ∃ m, p.Path l m := by
  induction k generalizing n with
  | nil => exact ⟨n,h⟩
  | cons i k ih => exact ih h.of_cons.1

theorem nodup (h : p.Path l n) : l.Nodup := by
  induction h with
  | start => exact List.nodup_nil
  | step _ _ _ hi ih => exact List.nodup_cons.2 ⟨hi,ih⟩

theorem not_mem_of_append (h : p.Path (l ++ i :: r) n) : i ∉ r := by
  have older := h.nodup
  rw [List.nodup_append] at older
  exact (List.nodup_cons.1 older.2.1).1

theorem exists_fresh (h : p.Path l n) (hi : i ∈ l) : ∃ a, p.get? i = some a ∧ a.visits = 0 := by
  induction h with
  | start => cases hi
  | step _ ha fresh _ ih =>
      rcases List.mem_cons.1 hi with rfl | hi
      · exact ⟨_,ha,fresh⟩
      · exact ih hi

theorem length_le_size (h : p.Path l n) : l.length ≤ p.size := by
  have sub : l ⊆ List.range p.size := by
    intro i hi
    obtain ⟨a,ha,_⟩ := h.exists_fresh hi
    exact List.mem_range.2 (lt_size_of_get? ha)
  simpa using h.nodup.length_le_of_subset sub

/-- Only the instructions on a path matter to it. -/
theorem congr (agree : ∀ i ∈ l, p.get? i = q.get? i) (h : p.Path l n) : q.Path l n := by
  induction h with
  | start => exact .start
  | @step l i a _ ha fresh hi ih =>
      have hl : q.Path l (some i) := ih fun j hj => agree j (List.mem_cons_of_mem _ hj)
      exact .step hl (agree i List.mem_cons_self ▸ ha) fresh hi

/-- A flip elsewhere does not disturb a path. -/
theorem apply_iff {f : Flip} (hf : f.index ∉ l) : (p.apply f).Path l n ↔ p.Path l n := by
  have agree : ∀ i ∈ l, (p.apply f).get? i = p.get? i := by
    intro i hi
    exact get?_apply_of_ne p fun e => hf (e ▸ hi)
  exact ⟨congr agree,congr fun i hi => (agree i hi).symm⟩

/-- A path is the beginning of the plain execution. -/
theorem plainAfter? (h : p.Path l n) : p.plainAfter? l.length = some ⟨n,p.tally l⟩ := by
  induction h with
  | start => rfl
  | step _ ha _ _ ih =>
      simp [Program.plainAfter?,ih,plainStep?,ha,tally_cons ha]

theorem haltsAfter (h : p.Path l (some i)) (past : p.size ≤ i) :
    p.HaltsAfter l.length (p.tally l) :=
  ⟨i,h.plainAfter?,past⟩

/-- What follows an instruction on the path is on it too, or is what comes next. -/
theorem next?_mem (h : p.Path l n) (hi : i ∈ l) :
    ∃ a, p.get? i = some a ∧ (a.next? i = n ∨ ∃ j ∈ l, a.next? i = some j) := by
  induction h with
  | start => cases hi
  | @step l k b _ hb _ _ ih =>
      rcases List.mem_cons.1 hi with rfl | hi
      · exact ⟨b,hb,.inl rfl⟩
      · obtain ⟨a,ha,last | ⟨j,hj,next⟩⟩ := ih hi
        · exact ⟨a,ha,.inr ⟨k,List.mem_cons_self,last⟩⟩
        · exact ⟨a,ha,.inr ⟨j,List.mem_cons_of_mem _ hj,next⟩⟩

theorem zero_mem (h : p.Path l n) (hl : l ≠ []) : 0 ∈ l := by
  induction h with
  | start => exact absurd rfl hl
  | @step l i a before _ _ _ ih =>
      cases l with
      | nil =>
          cases before
          exact List.mem_cons_self
      | cons j l => exact List.mem_cons_of_mem _ (ih (by simp))

end Path

/-- Execution starts among the indices `l` and never leaves them for another index. -/
structure Closed (p : Program) (l : List Nat) : Prop where
  start : 0 ∈ l
  next : ∀ i ∈ l, ∃ a, p.get? i = some a ∧ ∀ j ∈ a.next? i, j ∈ l

theorem Closed.plainAfter? (h : p.Closed l) {k : Nat} {s : PlainState}
    (hs : p.plainAfter? k = some s) : ∀ i ∈ s.pc, i ∈ l := by
  induction k generalizing s with
  | zero =>
      cases hs
      intro i hi
      cases hi
      exact h.start
  | succ k ih =>
      obtain ⟨t,ht,step⟩ := Option.bind_eq_some_iff.1 hs
      obtain ⟨j,hj,step⟩ := Option.bind_eq_some_iff.1 step
      obtain ⟨a,ha,rfl⟩ := Option.map_eq_some_iff.1 step
      obtain ⟨b,hb,inside⟩ := h.next j (ih ht j hj)
      rw [ha] at hb
      cases hb
      exact inside

theorem Closed.not_halts (h : p.Closed l) : ¬ p.Halts := by
  rintro ⟨k,_,i,hk,past⟩
  obtain ⟨a,ha,_⟩ := h.next i (h.plainAfter? hk i rfl)
  exact absurd (lt_size_of_get? ha) (by omega)

/-- A path that ends in itself, or before the first instruction, is closed. -/
theorem Path.closed (h : p.Path l n) (back : ∀ i ∈ n, i ∈ l) : p.Closed l := by
  -- The empty path leads to 0, which is not on it.
  have nonempty : l ≠ [] := by
    rintro rfl
    cases h
    exact absurd (back 0 rfl) List.not_mem_nil
  refine ⟨h.zero_mem nonempty,?_⟩
  intro i hi
  obtain ⟨a,ha,last | ⟨j,hj,next⟩⟩ := h.next?_mem hi
  · exact ⟨a,ha,last ▸ back⟩
  · refine ⟨a,ha,?_⟩
    rw [next]
    intro k hk
    cases hk
    exact hj

end LoopRepair.Program
