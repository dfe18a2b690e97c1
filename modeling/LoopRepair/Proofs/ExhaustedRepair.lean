import LoopRepair.Proofs.MachineCalls

/-!
# Repairs that fail

A repair fails once the trail is used up, and by then every entry of it has been taken
back: the machine stands on its program as that was at the outset, with nothing executed
and no flip in effect. No later repair finds anything to take back either, so every call
from then on fails at once. All that changes is the number of repairs, by one each time.
-/
namespace LoopRepair.Machine
variable {p : Program} {m n : Machine} {e : RepairExhausted} {σ : Type}
  {es : List (Option RepairExhausted)}

/-- A machine that has used up its trail on the program `p`. -/
def spent (p : Program) (pc steps repairs : Nat) : Machine :=
  { start p with pc := pc, phase := .looping, steps := steps, repairs := repairs }

theorem stepWith_spent (o : Observer σ) (s : σ) (p : Program) (pc steps repairs : Nat) :
    stepWith o s (spent p pc steps repairs) =
      ⟨.error ⟨repairs + 1⟩,spent p pc steps (repairs + 1),
        o.notice s (.exhausted (repairs + 1))⟩ := rfl

theorem runWith_spent (o : Observer σ) (s : σ) (p : Program) (pc steps repairs : Nat) :
    runWith o s (spent p pc steps repairs) =
      ⟨.error ⟨repairs + 1⟩,spent p pc steps (repairs + 1),
        o.notice s (.exhausted (repairs + 1))⟩ :=
  runWith_of_error o s rfl

/-- A repair that fails has taken back everything. -/
theorem Tracks.spent_of_error (h : Tracks p m) (failed : m.step.result = .error e) :
    e = ⟨m.repairs + 1⟩ ∧ m.step.machine = spent p m.pc m.steps (m.repairs + 1) := by
  have move := h.move
  rw [failed] at move
  generalize m.step.machine = n at move
  cases move with
  | exhausted looping _ =>
      refine ⟨rfl,?_⟩
      simp only [place,looping,spent,start]
      rfl

/-- What a call has failed with, if it did. -/
def failure? {α : Type} : Except RepairExhausted α → Option RepairExhausted
  | .ok _ => none
  | .error e => some e

/-- Calls for single transitions and for whole runs, in any order and watched by anyone,
make of the machine `m` the machine `n`. The list tells what each of them failed with. -/
inductive Calls (m : Machine) : List (Option RepairExhausted) → Machine → Prop
  | nil : Calls m [] m
  | step {n : Machine} {es : List (Option RepairExhausted)} {σ : Type} (o : Observer σ) (s : σ) :
      Calls m es n → Calls m (es ++ [failure? (stepWith o s n).result]) (stepWith o s n).machine
  | run {n : Machine} {es : List (Option RepairExhausted)} {σ : Type} (o : Observer σ) (s : σ) :
      Calls m es n → Calls m (es ++ [failure? (runWith o s n).result]) (runWith o s n).machine

/-- On a machine that has used up its trail every call fails, with one repair more than the
call before, and nothing else changes. -/
theorem Calls.of_spent {pc steps repairs : Nat} (h : Calls (spent p pc steps repairs) es n) :
    es = (List.range' (repairs + 1) es.length).map (some ⟨·⟩) ∧
      n = spent p pc steps (repairs + es.length) := by
  induction h with
  | nil => exact ⟨rfl,rfl⟩
  | step o s _ ih | run o s _ ih =>
      obtain ⟨each,rfl⟩ := ih
      simp only [stepWith_spent,runWith_spent,failure?,List.length_append,List.length_singleton]
      refine ⟨?_,rfl⟩
      rw [List.range'_concat,List.map_append,← each,Nat.one_mul,Nat.add_right_comm]
      rfl

/-- A repair that fails leaves nothing of the run behind but its counts, and no call after
it achieves anything. -/
theorem exhausted_restores (h : Reachable p m) (o : Observer σ) (s : σ)
    (failed : (stepWith o s m).result = .error e) :
    e.repairs = m.repairs + 1 ∧
      (stepWith o s m).machine =
        { m with
          program := p
          accumulator := 0
          trail := []
          flip := none
          phase := .looping
          repairs := m.repairs + 1 } ∧
      ∀ es n, Calls (stepWith o s m).machine es n →
        es = (List.range' (m.repairs + 2) es.length).map (some ⟨·⟩) ∧
          n = { (stepWith o s m).machine with repairs := m.repairs + 1 + es.length } := by
  rw [result_stepWith] at failed
  rw [machine_stepWith]
  obtain ⟨rfl,left⟩ := h.tracks.spent_of_error failed
  rw [left]
  refine ⟨rfl,rfl,?_⟩
  intro es n calls
  exact calls.of_spent

/-- A program whose only way out is closed by a trap. -/
def walled : Program := .ofList [⟨.acc,7,0⟩,⟨.jmp,-1,0⟩,⟨.acc,1,3⟩]

/-- A machine before the trap of `walled`, with the way out opened for the second time. -/
def cornered : Machine := ((start walled).after 5).rewind.after 6

theorem cornered_exhausted : Reachable walled cornered ∧ cornered.flip = some ⟨1,.jmp⟩ ∧
    cornered.accumulator = 7 ∧ cornered.step.result = .error ⟨3⟩ ∧
    cornered.step.machine.program = walled ∧ cornered.step.machine.accumulator = 0 ∧
    [failure? cornered.step.machine.run.result,
      failure? cornered.step.machine.run.machine.step.result] = [some ⟨4⟩,some ⟨5⟩] ∧
    cornered.step.machine.run.machine.step.machine =
      { cornered.step.machine with repairs := 5 } := by
  have reachable : Reachable walled cornered := (Reachable.start.after 5).rewind.after 6
  have failed : cornered.step.result = .error ⟨3⟩ := rfl
  obtain ⟨_,left,later⟩ := exhausted_restores reachable .silent () failed
  have calls := ((Calls.nil (m := cornered.step.machine)).run .silent ()).step .silent ()
  obtain ⟨each,same⟩ := later _ _ calls
  refine ⟨reachable,rfl,rfl,failed,?_,?_,each,same⟩
  · exact congrArg Machine.program left
  · exact congrArg Machine.accumulator left

end LoopRepair.Machine
