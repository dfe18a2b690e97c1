import LoopRepair.RunMeasure

/-!
# Runs

A run makes transitions until the machine halts or a repair fails. It always ends:
every transition lowers the weight of the machine.
-/
namespace LoopRepair

namespace Machine

/-- Make transitions to the end, told to an observer in the state `s`. -/
def runWith {σ : Type} (o : Observer σ) (s : σ) (m : Machine) :
    Observed σ (Except RepairExhausted Outcome) :=
  match _h : stepWith o s m with
  | ⟨.error e, n, seen⟩ => ⟨.error e, n, seen⟩
  | ⟨.ok t, n, seen⟩ =>
      if t = .halted then ⟨.ok n.outcome, n, seen⟩ else runWith o seen n
termination_by m.weight
decreasing_by
  have := weight_lt_of_stepWith o s m (t := t) (by rw [_h]) ‹_›
  rwa [_h] at this

/-- Make transitions to the end. -/
def run (m : Machine) : Observed Unit (Except RepairExhausted Outcome) :=
  runWith .silent () m

end Machine

/-- The outcome of a program. -/
def Program.run (p : Program) : Except RepairExhausted Outcome := (Machine.start p).run.result

/-- The outcome of a program and the events of its run. -/
def Program.runRecorded (p : Program) : Except RepairExhausted Outcome × List Event :=
  let r := (Machine.start p).runWith .recording #[]
  (r.result, r.seen.toList)

end LoopRepair
