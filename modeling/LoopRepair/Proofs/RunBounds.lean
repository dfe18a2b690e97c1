import LoopRepair.Proofs.CallBound
import LoopRepair.Proofs.RestartAgreement

/-!
# How long a run takes and how often it repairs

From every machine that any sequence of calls can reach, a run comes to its end within
a number of calls that depends on the size of the program only. A run from the start
repairs at most once for every instruction on the path of the program that may be
flipped, and once more to find that none is left, so the counter fits in 32 bits
for every program with fewer than 2 ^ 32 - 1 instructions; and the steps, of which a call
counts one at most, then fit in 64 bits.
-/
namespace LoopRepair

/-- The number of instructions on the path of the program that a repair may flip. -/
def Program.flippableCount (p : Program) : Nat :=
  p.attempt.path.countP fun i => (p.flipAt? i).isSome

theorem Program.flippableCount_le (p : Program) : p.flippableCount ≤ p.size := by
  obtain ⟨_,path,_⟩ := p.exists_attempt
  exact Nat.le_trans List.countP_le_length path.length_le_size

/-- The repairs that a result reports. -/
def reportedRepairs : Except RepairExhausted Outcome → Nat
  | .ok o => o.repairs
  | .error e => e.repairs

namespace Program

/-- Every trial is paid for by a repair, and so is finding that none is left. -/
theorem reportedRepairs_outcomeOf (p : Program) (ts : List (Flip × Attempt))
    (steps repairs : Nat) : reportedRepairs (p.outcomeOf ts steps repairs) =
      repairs + ts.length + if (p.outcomeOf ts steps repairs).isOk then 0 else 1 := by
  rw [outcomeOf]
  cases ts.find? (·.2.halted) <;> rfl

theorem reportedRepairs_run (p : Program) :
    reportedRepairs p.run = p.tried.length + if p.run.isOk then 0 else 1 := by
  rw [run_eq,tried,List.length_map]
  cases halted : p.attempt.halted with
  | true =>
      rw [searchOutcome_of_halted halted,trials_of_halted halted]
      rfl
  | false =>
      rw [searchOutcome_of_failed halted,reportedRepairs_outcomeOf,Nat.zero_add]

theorem tried_length_le (p : Program) : p.tried.length ≤ p.flippableCount := by
  rw [flippableCount,← List.length_filterMap_eq_countP]
  exact p.tried_prefix.length_le

theorem reportedRepairs_run_le (p : Program) : reportedRepairs p.run ≤ 1 + p.flippableCount := by
  have tried := p.tried_length_le
  rw [reportedRepairs_run]
  split <;> omega

end Program

namespace Machine
variable {p : Program} {m n : Machine} {ts : List Transition} {k : Nat}

/-- Repairs are never taken back by a transition. -/
theorem Move.repairs_le {r : Except RepairExhausted Transition} (move : Move p m r n) :
    m.repairs ≤ n.repairs := by
  cases move with
  | repaired _ _ => exact Nat.le_succ _
  | exhausted _ _ => exact Nat.le_succ _
  | left _ _ | looped _ _ _ | deadEnd _ _ _ _ _ | executed _ _ _ _ _ | halted _ =>
      exact Nat.le_refl _

theorem Tracks.repairs_le_after (h : Tracks p m) (k : Nat) :
    m.repairs ≤ (m.after k).repairs := by
  induction k generalizing m with
  | zero => exact Nat.le_refl _
  | succ k ih => exact Nat.le_trans h.move.repairs_le (ih h.step)

/-- A call counts one step at most. -/
theorem Move.steps_le {r : Except RepairExhausted Transition} (move : Move p m r n) :
    n.steps ≤ m.steps + 1 := by
  cases move with
  | deadEnd _ _ _ _ _ => exact Nat.le_refl _
  | executed _ _ _ _ _ => exact Nat.le_refl _
  | left _ _ | looped _ _ _ | repaired _ _ | exhausted _ _ | halted _ => exact Nat.le_succ _

theorem Tracks.steps_after_le (h : Tracks p m) (k : Nat) : (m.after k).steps ≤ m.steps + k := by
  induction k generalizing m with
  | zero => exact Nat.le_refl _
  | succ k ih =>
      have later := ih h.step
      have now := h.move.steps_le
      rw [Machine.after]
      omega

/-- As long as no call ends the run there have been no more calls than the run takes. -/
theorem Makes.calls_le (made : Makes m ts n) (ended : n.AtEnd)
    (going : ∀ j, j + 1 < k → ¬ (m.after j).AtEnd) : k ≤ ts.length + 1 := by
  apply Nat.le_of_not_lt
  intro beyond
  rw [← made.after_eq] at ended
  exact going ts.length beyond ended

/-- The result of a run reports the repairs that its machine has made. -/
theorem Tracks.repairs_of_concludes (h : Tracks p m) {r : Except RepairExhausted Outcome}
    (concluded : m.Concludes r) : m.step.machine.repairs = reportedRepairs r := by
  cases r with
  | ok o =>
      obtain ⟨_,rfl⟩ := concluded
      rfl
  | error e =>
      have failed : m.step.result = .error e := concluded
      have move := h.move
      rw [failed] at move
      generalize m.step.machine = o at move
      cases move with
      | exhausted _ _ => rfl

/-- In a run from the start, up to the call that ends it. -/
theorem repairs_after_start_le (p : Program)
    (going : ∀ j, j + 1 < k → ¬ ((start p).after j).AtEnd) :
    ((start p).after k).repairs ≤ 1 + p.flippableCount := by
  obtain ⟨ts,n,made,_,concluded⟩ := start_searched p
  have track := made.tracks (tracks_start p)
  have last := track.repairs_of_concludes concluded
  rw [← made.after_eq,← after_succ] at last
  obtain ⟨d,hd⟩ := Nat.exists_eq_add_of_le (made.calls_le concluded.atEnd going)
  calc
    ((start p).after k).repairs ≤ (((start p).after k).after d).repairs :=
      ((tracks_start p).after k).repairs_le_after d
    _ = reportedRepairs p.run := by rw [← after_add,← hd,last,Program.run_eq]
    _ ≤ 1 + p.flippableCount := p.reportedRepairs_run_le

/-- A run from any machine that calls can reach ends within a bound on the calls, and a run
from the start within one on the repairs. -/
theorem run_bounded (h : Reachable p m) :
    (∃ k r, k + 1 ≤ (p.size + 1) * (p.size + 2) ∧ (∀ j < k, ¬ (m.after j).AtEnd) ∧
      (m.after k).Concludes r ∧ m.run = ⟨r,m.after (k + 1),()⟩) ∧
    ∀ k, (∀ j, j + 1 < k → ¬ ((start p).after j).AtEnd) →
      ((start p).after k).repairs ≤ 1 + p.flippableCount ∧ p.flippableCount ≤ p.size ∧
        (p.size < UInt32.size - 1 → ((start p).after k).repairs < UInt32.size) := by
  constructor
  · obtain ⟨ts,n,made,ended,bound⟩ := h.tracks.exists_end
    obtain ⟨r,concluded⟩ := ended.concludes
    have few := h.tracks.callsLeft_lt
    refine ⟨ts.length,r,by omega,made.not_atEnd,?_,?_⟩
    · rw [made.after_eq]
      exact concluded
    · rw [after_succ,made.after_eq,made.run,concluded.run]
  · intro k going
    have repairs := repairs_after_start_le p going
    have count := p.flippableCount_le
    refine ⟨repairs,count,?_⟩
    intro small
    omega

/-- In a run from the start of a program that is not too long, both counters fit their words
up to the call that ends the run. -/
theorem counters_fit (small : p.size < UInt32.size - 1)
    (going : ∀ j, j + 1 < k → ¬ ((start p).after j).AtEnd) :
    ((start p).after k).steps < UInt64.size ∧ ((start p).after k).repairs < UInt32.size := by
  have repairs := repairs_after_start_le p going
  have count := p.flippableCount_le
  obtain ⟨ts,n,made,ended,bound⟩ := (tracks_start p).exists_end
  have few := (tracks_start p).callsLeft_lt
  have calls := made.calls_le ended going
  have steps : ((start p).after k).steps ≤ 0 + k := (tracks_start p).steps_after_le k
  have product : (p.size + 1) * (p.size + 2) ≤ (UInt32.size - 1) * UInt32.size :=
    Nat.mul_le_mul (by omega) (by omega)
  have squared : (UInt32.size - 1) * UInt32.size < UInt64.size := by decide
  exact ⟨by omega,by omega⟩

/-- The counters at the end of such a run. -/
theorem run_counters_fit (small : p.size < UInt32.size - 1) :
    (start p).run.machine.steps < UInt64.size ∧
      (start p).run.machine.repairs < UInt32.size := by
  obtain ⟨ts,n,made,ended⟩ := (start p).exists_end
  obtain ⟨r,concluded⟩ := ended.concludes
  rw [made.run,concluded.run,← made.after_eq,← after_succ]
  refine counters_fit small fun j earlier => ?_
  exact made.not_atEnd j (Nat.lt_of_succ_lt_succ earlier)

/-- A program of two instructions that goes round for ever, unless its jump is flipped. -/
def circle : Program := .ofList [⟨.acc,1,0⟩,⟨.jmp,-1,0⟩]

theorem circle_rewound_run_bounded : Reachable circle (start circle).run.machine.rewind ∧
    ∃ k r, k + 1 ≤ 12 ∧ (start circle).run.machine.rewind.run =
      ⟨r,(start circle).run.machine.rewind.after (k + 1),()⟩ := by
  have reachable : Reachable circle (start circle).run.machine.rewind :=
    (Reachable.start.run .silent ()).rewind
  obtain ⟨⟨k,r,bound,_,_,run⟩,_⟩ := run_bounded reachable
  exact ⟨reachable,k,r,bound,run⟩

end Machine
end LoopRepair
