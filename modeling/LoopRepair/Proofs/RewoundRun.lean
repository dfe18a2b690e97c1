import LoopRepair.Proofs.RepairSearch

/-!
# Runs after rewinding

Rewinding takes back everything but the work that has been counted, and that count has no
part in what a machine does: begun at other numbers, it only comes to other numbers. So a
run after rewinding is the run of the program from the start, whatever was done before,
with the counts of both added up.
-/
namespace LoopRepair

/-- The failure, had the repairs been counted from `r`. -/
def RepairExhausted.countingFrom (r : Nat) (e : RepairExhausted) : RepairExhausted :=
  ⟨r + e.repairs⟩

/-- The outcome, had steps and repairs been counted from `s` and `r`. -/
def Outcome.countingFrom (s r : Nat) (o : Outcome) : Outcome :=
  { o with steps := s + o.steps, repairs := r + o.repairs }

namespace Machine
variable {p : Program} {m n : Machine} {ts : List Transition} {s r : Nat} {σ : Type}

/-- The machine, had steps and repairs been counted from `s` and `r`. -/
def countingFrom (s r : Nat) (m : Machine) : Machine :=
  { m with steps := s + m.steps, repairs := r + m.repairs }

theorem execute_countingFrom (s r : Nat) (m : Machine) :
    execute .silent () (m.countingFrom s r) =
      ⟨(execute .silent () m).result,(execute .silent () m).machine.countingFrom s r,()⟩ := by
  unfold execute
  dsimp only [countingFrom]
  split
  · rfl
  · split
    · rfl
    · split <;> rfl

theorem retract_countingFrom (s r : Nat) (m : Machine) (i : Nat) (rest : List Nat) :
    (m.countingFrom s r).retract i rest = (m.retract i rest).countingFrom s r := by
  unfold retract unflip flippedAt refunded
  dsimp only [countingFrom]
  cases m.flip with
  | none => rfl
  | some f => by_cases hf : f.index = i <;> simp [hf]

theorem retractThrough_countingFrom (s r target : Nat) (l : List Nat) (m : Machine) :
    (retractThrough .silent target l () (m.countingFrom s r)).2 =
      (retractThrough .silent target l () m).2.countingFrom s r := by
  induction l generalizing m with
  | nil => rfl
  | cons i rest ih =>
      simp only [retractThrough,retract_countingFrom]
      split
      · rfl
      · exact ih _

theorem abandon_countingFrom (s r : Nat) (m : Machine) :
    (abandon .silent () (m.countingFrom s r)).2 =
      (abandon .silent () m).2.countingFrom s r := by
  unfold abandon
  dsimp only [countingFrom]
  split
  · rfl
  · exact retractThrough_countingFrom s r _ _ m

theorem seekFlip_countingFrom (s r : Nat) (l : List Nat) (m : Machine) :
    seekFlip .silent l () (m.countingFrom s r) =
      ⟨(seekFlip .silent l () m).result.mapError (RepairExhausted.countingFrom r),
        (seekFlip .silent l () m).machine.countingFrom s r,()⟩ := by
  induction l generalizing m with
  | nil => rfl
  | cons i rest ih =>
      simp only [seekFlip,retract_countingFrom]
      have same : ((m.retract i rest).countingFrom s r).program = (m.retract i rest).program := rfl
      rw [same]
      split
      · rfl
      · exact ih _

theorem repair_countingFrom (s r : Nat) (m : Machine) :
    repair .silent () (m.countingFrom s r) =
      ⟨(repair .silent () m).result.mapError (RepairExhausted.countingFrom r),
        (repair .silent () m).machine.countingFrom s r,()⟩ := by
  let counted : Machine := { m with repairs := m.repairs + 1 }
  have given := abandon_countingFrom s r counted
  change seekFlip .silent (abandon .silent () (counted.countingFrom s r)).2.trail ()
    (abandon .silent () (counted.countingFrom s r)).2 = _
  rw [given]
  exact seekFlip_countingFrom s r _ _

/-- Where the counts begin shows in the counts only. -/
theorem step_countingFrom (s r : Nat) (m : Machine) :
    (m.countingFrom s r).step =
      ⟨m.step.result.mapError (RepairExhausted.countingFrom r),
        m.step.machine.countingFrom s r,()⟩ := by
  have same : (m.countingFrom s r).phase = m.phase := rfl
  unfold step stepWith
  rw [same]
  cases m.phase with
  | running =>
      simp only [execute_countingFrom]
      rfl
  | looping => exact repair_countingFrom s r m
  | halted => rfl

/-- A run goes on as before wherever the counts begin. -/
theorem Makes.countingFrom (h : Makes m ts n) (s r : Nat) :
    Makes (m.countingFrom s r) ts (n.countingFrom s r) := by
  induction h with
  | nil m => exact .nil _
  | @cons m n t ts went going _ ih =>
      refine .cons ?_ going ?_
      · rw [step_countingFrom,went]
        rfl
      · rw [step_countingFrom]
        exact ih

theorem Concludes.countingFrom {q : Except RepairExhausted Outcome} (h : m.Concludes q)
    (s r : Nat) : (m.countingFrom s r).Concludes
      ((q.map (Outcome.countingFrom s r)).mapError (RepairExhausted.countingFrom r)) := by
  cases q with
  | ok o =>
      obtain ⟨halted,rfl⟩ := h
      refine ⟨?_,?_⟩
      · rw [step_countingFrom,halted]
        rfl
      · rw [step_countingFrom]
        rfl
  | error e =>
      have failed : m.step.result = .error e := h
      change (m.countingFrom s r).step.result = _
      rw [step_countingFrom,failed]
      rfl

theorem run_countingFrom (s r : Nat) (m : Machine) :
    (m.countingFrom s r).run =
      ⟨(m.run.result.map (Outcome.countingFrom s r)).mapError (RepairExhausted.countingFrom r),
        m.run.machine.countingFrom s r,()⟩ := by
  obtain ⟨ts,n,made,ended⟩ := m.exists_end
  obtain ⟨q,concluded⟩ := ended.concludes
  rw [(made.countingFrom s r).run,(concluded.countingFrom s r).run,made.run,concluded.run,
    step_countingFrom]

/-- Rewinding leads back to the start, and a run from there is the run of the program, with
the work that was done before counted in. -/
theorem rewind_run (h : Reachable p m) (o : Observer σ) (seen : σ) :
    m.rewind =
        { program := p
          pc := 0
          accumulator := 0
          trail := []
          flip := none
          phase := .running
          steps := m.steps
          repairs := m.repairs } ∧
      (∀ q, p.run = .ok q → (runWith o seen m.rewind).result =
        .ok ⟨q.flip,q.accumulator,m.steps + q.steps,m.repairs + q.repairs⟩) ∧
      (∀ e, p.run = .error e →
        (runWith o seen m.rewind).result = .error ⟨m.repairs + e.repairs⟩) ∧
      (runWith o seen m.rewind).machine =
        { (start p).run.machine with
          steps := m.steps + (start p).run.machine.steps
          repairs := m.repairs + (start p).run.machine.repairs } := by
  have back := h.tracks.rewind_eq
  have counted : m.rewind = (start p).countingFrom m.steps m.repairs := back
  have result : (runWith o seen m.rewind).result =
      (p.run.map (Outcome.countingFrom m.steps m.repairs)).mapError
        (RepairExhausted.countingFrom m.repairs) := by
    rw [result_runWith,counted,run_countingFrom]
    rfl
  refine ⟨back,?_,?_,?_⟩
  · intro q ran
    rw [result,ran]
    rfl
  · intro e ran
    rw [result,ran]
    rfl
  · rw [machine_runWith,counted,run_countingFrom]
    rfl

/-- Rewound while its first flip waits to be executed, the machine comes to the same end as
from the start. -/
theorem maze_rewind_run : Reachable maze ((start maze).after 4) ∧
    ((start maze).after 4).flip = some ⟨3,.jmp⟩ ∧ ((start maze).after 4).history = [0,1] ∧
    ((start maze).after 4).rewind.program = maze ∧
    maze.run = .ok ⟨some ⟨1,.jmp⟩,2,7,2⟩ ∧
    ((start maze).after 4).rewind.run.result = .ok ⟨some ⟨1,.jmp⟩,2,10,3⟩ := by
  have reachable : Reachable maze ((start maze).after 4) := Reachable.start.after 4
  have ran : maze.run = .ok ⟨some ⟨1,.jmp⟩,2,7,2⟩ := by
    rw [Program.run_eq]
    rfl
  obtain ⟨back,success,_⟩ := rewind_run reachable .silent ()
  have again := success _ ran
  exact ⟨reachable,rfl,rfl,congrArg Machine.program back,ran,again⟩

end Machine
end LoopRepair
