import LoopRepair.MachineStep

/-!
# A measure that every transition lowers

Why a machine cannot go on for ever, whatever state it was put into. Executing never
raises the rank and makes an instruction visited that was not; a repair lowers the
rank, because it flips an instruction strictly deeper in the trail than the flip that
it gives up. Main statement: `weight_lt_of_stepWith`, from which runs are defined.
-/
namespace LoopRepair

/-- Whether the instruction at `i` exists and has not been visited. -/
def Program.fresh (p : Program) (i : Nat) : Bool :=
  match p.get? i with
  | some a => a.visits = 0
  | none => false

/-- How many instructions have not been visited. -/
def Program.freshCount (p : Program) : Nat := p.instructions.countP fun a => a.visits = 0

namespace Machine

/-- How many places of the trail a repair may still choose from. Once the flip in
effect has been executed these are the visits older than it. -/
def rank (m : Machine) : Nat :=
  match m.flip with
  | none => m.program.freshCount + m.trail.length + 1
  | some f =>
      if m.program.fresh f.index then
        if m.pc = f.index then m.trail.length
        else m.program.freshCount + m.trail.length
      else (m.trail.dropWhile (· ≠ f.index)).length - 1

/-- Transitions left before the rank falls, at most. -/
def patience (m : Machine) : Nat :=
  2 * m.program.freshCount + if m.phase = .running then 1 else 0

def weight (m : Machine) : Nat := m.rank * (2 * m.program.size + 2) + m.patience

end Machine

theorem Program.freshCount_le (p : Program) : p.freshCount ≤ p.size := Array.countP_le_size

theorem countP_modify_of_get {α : Type} {p : α → Bool} {f : α → α} {a : α} :
    ∀ {l : List α} {i : Nat}, l[i]? = some a → p a = true → p (f a) = false →
      (l.modify i f).countP p + 1 = l.countP p
  | [], _, h, _, _ => by simp at h
  | b :: l, 0, h, ha, hf => by
      have : b = a := by simpa using h
      subst this
      simp [ha, hf]
  | b :: l, i + 1, h, ha, hf => by
      have := countP_modify_of_get (by simpa using h : l[i]? = some a) ha hf
      simp only [List.modify_succ_cons, List.countP_cons]
      omega

namespace Program

theorem freshCount_visit {p : Program} {i : Nat} {a : Instruction} (h : p.get? i = some a)
    (ha : a.visits = 0) : (p.update i Instruction.visit).freshCount + 1 = p.freshCount := by
  unfold freshCount update
  rw [← Array.countP_toList, ← Array.countP_toList, Array.toList_modify]
  exact countP_modify_of_get (by simpa [get?] using h) (by simpa using ha)
    (by simp [Instruction.visit])

theorem fresh_visit_self {p : Program} {i : Nat} : (p.update i Instruction.visit).fresh i = false := by
  unfold fresh
  rw [get?_update_self]
  cases p.get? i <;> simp [Instruction.visit]

theorem fresh_visit_of_ne {p : Program} {i j : Nat} (h : i ≠ j) :
    (p.update i Instruction.visit).fresh j = p.fresh j := by
  unfold fresh
  rw [get?_update_of_ne p h]

end Program

namespace Machine

variable {σ : Type}

/-- A visit is paid for by one fresh instruction fewer. -/
theorem rank_visit_le {m : Machine} {a : Instruction} (h : m.program.get? m.pc = some a)
    (ha : a.visits = 0) (n : Machine)
    (program : n.program = m.program.update m.pc Instruction.visit)
    (trail : n.trail = m.pc :: m.trail) (flip : n.flip = m.flip) :
    n.rank ≤ m.rank := by
  have count := Program.freshCount_visit h ha
  have now : m.program.fresh m.pc = true := by simp [Program.fresh, h, ha]
  unfold rank
  rw [flip, program, trail]
  cases m.flip with
  | none => simp only [List.length_cons]; omega
  | some f =>
      by_cases e : m.pc = f.index
      · simp only [← e, Program.fresh_visit_self, now]
        simp
      · simp only [Program.fresh_visit_of_ne e, e]
        cases m.program.fresh f.index with
        | false => simp [e]
        | true =>
            simp only [if_true, List.length_cons]
            split <;> simp <;> omega

/-- Executing lowers the weight. -/
theorem weight_execute_lt (o : Observer σ) (s : σ) (m : Machine) (running : m.phase = .running)
    (h : (execute o s m).result ≠ .halted) : (execute o s m).machine.weight < m.weight := by
  unfold execute at h ⊢
  dsimp only at h ⊢
  split at h
  · simp at h
  · rename_i a ha
    split at h
    · rename_i visited
      simp [visited, weight, rank, patience, running]
    · rename_i visited
      have visited : a.visits = 0 := by omega
      have count := Program.freshCount_visit ha visited
      simp only [visited, ne_eq, not_true_eq_false, if_false]
      split
      all_goals
        refine Nat.add_lt_add_of_le_of_lt (Nat.mul_le_mul (rank_visit_le ha visited _ rfl rfl rfl) ?_) ?_
        · simp
        · simp [patience, running]; omega

theorem retractThrough_size (o : Observer σ) (target : Nat) (l : List Nat) (s : σ) (m : Machine) :
    (retractThrough o target l s m).2.program.size = m.program.size := by
  induction l generalizing s m with
  | nil => rfl
  | cons i rest ih =>
      unfold retractThrough
      dsimp only
      split
      · simp
      · rw [ih]; simp

theorem retractThrough_trail (o : Observer σ) (target : Nat) (l : List Nat) (s : σ) (m : Machine)
    (h : m.trail = l) :
    (retractThrough o target l s m).2.trail = (l.dropWhile (· ≠ target)).tail := by
  induction l generalizing s m with
  | nil => simpa [retractThrough] using h
  | cons i rest ih =>
      unfold retractThrough
      dsimp only
      by_cases e : i = target
      · simp [e]
      · rw [if_neg e, ih _ _ (trail_retract m i rest)]
        simp [e]

theorem abandon_size (o : Observer σ) (s : σ) (m : Machine) :
    (abandon o s m).2.program.size = m.program.size := by
  unfold abandon
  split
  · rfl
  · exact retractThrough_size o _ m.trail s m

/-- What is left of the trail once a flip is given up is no more than the rank. -/
theorem abandon_trail_le (o : Observer σ) (s : σ) (m : Machine) :
    (abandon o s m).2.trail.length ≤ m.rank := by
  cases flip : m.flip with
  | none =>
      simp only [abandon, rank, flip]
      omega
  | some f =>
      simp only [abandon, rank, flip, retractThrough_trail o _ m.trail s m rfl, List.length_tail]
      have : (m.trail.dropWhile (· ≠ f.index)).length ≤ m.trail.length :=
        (List.dropWhile_suffix _).length_le
      split
      · split <;> omega
      · exact Nat.le_refl _

/-- A repair that succeeds stands at its flip with a shorter trail. -/
theorem seekFlip_ok (o : Observer σ) (l : List Nat) (s : σ) (m : Machine) {t : Transition}
    (h : (seekFlip o l s m).result = .ok t) :
    let n := (seekFlip o l s m).machine
    n.trail.length < l.length ∧ n.phase = .running ∧ n.program.size = m.program.size ∧
      ∃ f, n.flip = some f ∧ f.index = n.pc := by
  induction l generalizing s m with
  | nil => simp [seekFlip] at h
  | cons i rest ih =>
      unfold seekFlip at h ⊢
      dsimp only at h ⊢
      split at h
      · rename_i f at_i
        exact ⟨by simp, rfl, by simp, f, rfl, Program.flipAt?_index at_i⟩
      · obtain ⟨shorter, running, size, flip⟩ := ih _ _ h
        exact ⟨by simp only [List.length_cons]; omega, running, by simpa using size, flip⟩

/-- A repair that succeeds lowers the weight. -/
theorem weight_repair_lt (o : Observer σ) (s : σ) (m : Machine) {t : Transition}
    (h : (repair o s m).result = .ok t) : (repair o s m).machine.weight < m.weight := by
  unfold repair at h ⊢
  have size := abandon_size o s { m with repairs := m.repairs + 1 }
  have bound := abandon_trail_le o s { m with repairs := m.repairs + 1 }
  generalize abandon o s { m with repairs := m.repairs + 1 } = r at h size bound
  obtain ⟨shorter, running, size', f, flip, at_pc⟩ := seekFlip_ok o _ _ _ h
  dsimp only at h shorter running size size' bound flip at_pc ⊢
  generalize (seekFlip o r.2.trail r.1 r.2).machine = n at *
  have rank : n.rank ≤ n.trail.length := by
    have : (n.trail.dropWhile (· ≠ f.index)).length ≤ n.trail.length :=
      (List.dropWhile_suffix _).length_le
    unfold rank
    simp only [flip, at_pc, if_true]
    split
    · exact Nat.le_refl _
    · rw [← at_pc]; omega
  have lower : n.rank + 1 ≤ m.rank := Nat.le_trans (Nat.lt_of_le_of_lt rank shorter) bound
  have patience : n.patience < 2 * m.program.size + 2 := by
    have := n.program.freshCount_le
    simp only [patience, running, if_true]
    omega
  calc n.weight
      < n.rank * (2 * m.program.size + 2) + (2 * m.program.size + 2) := by
        unfold weight; rw [size', size]; exact Nat.add_lt_add_left patience _
    _ = (n.rank + 1) * (2 * m.program.size + 2) := (Nat.succ_mul _ _).symm
    _ ≤ m.rank * (2 * m.program.size + 2) := Nat.mul_le_mul_right _ lower
    _ ≤ m.weight := Nat.le_add_right _ _

/-- Every transition but the last lowers the weight. -/
theorem weight_lt_of_stepWith (o : Observer σ) (s : σ) (m : Machine) {t : Transition}
    (h : (stepWith o s m).result = .ok t) (going : t ≠ .halted) :
    (stepWith o s m).machine.weight < m.weight := by
  cases phase : m.phase with
  | running =>
      simp only [stepWith, phase] at h ⊢
      refine weight_execute_lt o s m phase ?_
      rw [Except.ok.inj h]
      exact going
  | looping =>
      simp only [stepWith, phase] at h ⊢
      exact weight_repair_lt o s m h
  | halted =>
      simp only [stepWith, phase] at h
      exact absurd (Except.ok.inj h).symm going

end Machine
end LoopRepair
