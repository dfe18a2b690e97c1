import Mathlib.Algebra.BigOperators.Ring.Finset
import LoopRepair.Proofs.RunBounds
import LoopRepair.Proofs.RunVerdict

/-!
# What a run costs

Steps and repairs are counted and never taken back. The attempt of a flip does not begin anew:
what was executed before the flipped instruction stays on the trail, and the flip does not
disturb it. So an attempt costs what it executes less what stands before its flip, and a run
costs the attempt of the program as it is and the attempts of the flips that it tries.
-/
namespace LoopRepair

namespace Program
variable {p : Program} {l : List Nat} {i j : Nat} {n : Option Nat} {f : Flip} {o : Outcome}
  {e : RepairExhausted}

/-- The steps that the attempt of a flip takes in a run: all that it would execute alone, but
for what stands before the flip. -/
def cost (p : Program) (f : Flip) : Int :=
  (p.apply f).attempt.path.length - p.position f.index

/-- What is spent on a trial is the cost of its flip: nothing that stands is counted twice. -/
theorem spent_eq_cost {t : Flip × Attempt} (h : t ∈ p.trials) : (p.spent t : Int) = p.cost t.1 := by
  obtain ⟨on,hf,ended⟩ := mem_trials h
  obtain ⟨k,l,split⟩ := List.append_of_mem on
  have stands : t.1.index :: l <:+ p.attempt.path := ⟨k,split.symm⟩
  have grown := (suffix_attempt_apply stands hf).length_le
  rw [spent,cost,ended,position_of_suffix stands]
  omega

theorem searchSteps_eq_sum (p : Program) :
    (p.searchSteps : Int) = p.attempt.path.length + (p.tried.map p.cost).sum := by
  have costs : (p.trials.map fun t => (p.spent t : Int)) = p.tried.map p.cost := by
    rw [tried,List.map_map]
    exact List.map_congr_left fun t ht => spent_eq_cost ht
  rw [searchSteps,← costs,Nat.cast_add,Nat.cast_list_sum,List.map_map]
  rfl

theorem position_lt (h : i :: l <:+ p.attempt.path) (hj : j ∈ l) : p.position j < p.position i := by
  obtain ⟨k,r,rfl⟩ := List.append_of_mem hj
  have older : j :: r <:+ p.attempt.path := (List.suffix_append (i :: k) (j :: r)).trans h
  rw [position_of_suffix h,position_of_suffix older,List.length_append,List.length_cons]
  omega

theorem pairwise_position (h : l <:+ p.attempt.path) :
    l.Pairwise fun i j => p.position j < p.position i := by
  induction l with
  | nil => exact .nil
  | cons i l ih => exact .cons (fun j hj => position_lt h hj) (ih ((List.suffix_cons i l).trans h))

/-- The flips are tried from the end of the path to its beginning. -/
theorem tried_positions (p : Program) :
    (p.tried.map fun f => p.position f.index).Pairwise (· > ·) := by
  have placed := (pairwise_position List.suffix_rfl).sublist p.tried_sublist
  rw [List.pairwise_map] at placed ⊢
  exact placed

/-- If no flip helps, all candidates are tried. -/
theorem tried_length_of_run_error (h : p.run = .error e) :
    p.tried.length = p.flippableCount := by
  obtain ⟨failed,all⟩ := run_error h
  have halts : ∀ t ∈ p.trialsAlong p.attempt.path, t.2.halted = false := by
    intro t ht
    obtain ⟨on,hf,ended⟩ := mem_trialsAlong.1 ht
    rw [ended]
    exact all _ on _ hf
  rw [tried,trials_of_failed failed,upToHalted_eq_self halts,map_fst_trialsAlong,flippableCount,
    List.length_filterMap_eq_countP]

end Program

namespace Machine

theorem repairs_run (p : Program) : (start p).run.machine.repairs = reportedRepairs p.run := by
  obtain ⟨_,_,made,_,concluded⟩ := start_searched p
  rw [Program.run,made.run,concluded.run]
  exact (made.tracks (tracks_start p)).repairs_of_concludes concluded

theorem steps_run (p : Program) : (start p).run.machine.steps = p.searchSteps := by
  obtain ⟨_,_,made,_,concluded,steps⟩ := start_searched_steps p
  rw [made.run,concluded.run]
  exact steps

end Machine

namespace Program

/-- What a run costs, whether it succeeds or fails: the attempt of the program, and of each
flip that is tried what does not stand before it in its attempt. The flips tried are those
that are recorded, from the last on the path backwards, and all of them if none helps. On
which programs the counters fit their words `Machine.run_counters_fit` says. -/
theorem run_costs (p : Program) :
    let m := (Machine.start p).run.machine
    (m.steps : Int) = p.attempt.path.length + (p.tried.map fun f =>
        ((p.apply f).attempt.path.length : Int) - p.position f.index).sum ∧
      (p.tried.map fun f => p.position f.index).Pairwise (· > ·) ∧
      p.tried <+: p.attempt.path.filterMap p.flipAt? ∧
      p.runRecorded.2.filterMap Event.flip? = p.tried ∧
      (∀ o, p.run = .ok o → m.repairs = p.tried.length ∧ m.outcome = o) ∧
      ∀ e, p.run = .error e → m.repairs = p.tried.length + 1 ∧ e.repairs = m.repairs ∧
        p.tried.length = p.flippableCount := by
  dsimp only
  refine ⟨?_,p.tried_positions,p.tried_prefix,p.flips_runRecorded,?_,?_⟩
  · rw [Machine.steps_run]
    exact p.searchSteps_eq_sum
  · intro o ran
    obtain ⟨_,outcome⟩ := (Machine.tracks_start p).halted_of_run ran
    refine ⟨?_,outcome⟩
    rw [Machine.repairs_run,reportedRepairs_run,ran]
    rfl
  · intro e ran
    refine ⟨?_,?_,tried_length_of_run_error ran⟩
    · rw [Machine.repairs_run,reportedRepairs_run,ran]
      rfl
    · rw [Machine.repairs_run,ran]
      rfl

/-- Seven instructions, and twice two more for what a flip at the end of the path and one in
the middle of it lead to; and a program that pays for its only flip and for the end of them. -/
theorem sample_costs : sample.tried.map (fun f => sample.position f.index) = [6,4] ∧
    ((Machine.start sample).run.machine.steps : Int) = 7 + ((8 - 6) + ((6 - 4) + 0)) ∧
    hopeless.run = .error ⟨2⟩ ∧ (Machine.start hopeless).run.machine.repairs = 2 ∧
    hopeless.flippableCount = 1 := by
  obtain ⟨steps,_⟩ := run_costs sample
  obtain ⟨_,_,_,_,_,failed⟩ := run_costs hopeless
  have ran : hopeless.run = .error ⟨2⟩ := by
    rw [run_eq]
    rfl
  obtain ⟨repairs,_,_⟩ := failed _ ran
  exact ⟨rfl,steps,ran,repairs,rfl⟩

end Program
end LoopRepair
