import LoopRepair.Exchange
import LoopRepair.PlainRun

/-!
# Search by restarting

The naive way to repair a program, against which the machine with its undo log is to
be measured. An attempt executes a program from its first instruction until it halts,
reaches an instruction again, reaches one that counts as visited from the outset, or
jumps before the first instruction. If the program as it stands fails, the candidates
on its path are tried in turn, from the last executed to the first: each is a program of
its own, with one instruction exchanged, and attempted from the start.
-/
namespace LoopRepair

/-- How an attempt ended: the indices executed, newest first, the accumulator, and
whether the program halted. -/
structure Attempt where
  path : List Nat
  accumulator : Int64
  halted : Bool
  deriving DecidableEq, Repr

namespace Program

/-- Attempt a program from the instruction at `i`, the indices of `path` having been
executed. No more than `room` of them can follow. -/
def attemptFrom (p : Program) : Nat → Nat → Int64 → List Nat → Attempt
  | room, i, accumulator, path =>
      match p.get? i with
      | none => ⟨path, accumulator, true⟩
      | some a =>
          if a.visits ≠ 0 ∨ i ∈ path then ⟨path, accumulator, false⟩
          else match room, a.next? i with
            | 0, _ => ⟨path, accumulator, false⟩
            | _, none => ⟨i :: path, a.effect accumulator, false⟩
            | room + 1, some j => attemptFrom p room j (a.effect accumulator) (i :: path)

def attempt (p : Program) : Attempt := p.attemptFrom p.size 0 0 []

/-- The candidates along a path, each with the attempt of the program in which nothing but
its instruction is exchanged. -/
def trialsAlong (p : Program) (path : List Nat) : List (Flip × Attempt) :=
  path.filterMap fun i => (p.candidate? i).map fun f => (f, (p.exchange i).attempt)

/-- The trials that a list holds up to the first that halts. -/
def upToHalted : List (Flip × Attempt) → List (Flip × Attempt)
  | [] => []
  | t :: trials => t :: if t.2.halted then [] else upToHalted trials

theorem upToHalted_prefix_trials (trials : List (Flip × Attempt)) : upToHalted trials <+: trials := by
  induction trials with
  | nil => exact List.prefix_rfl
  | cons t trials ih =>
      rw [upToHalted, List.prefix_cons_inj]
      split
      · exact List.nil_prefix
      · exact ih

/-- Nothing that halts is left out before the first trial that does. -/
theorem find?_upToHalted (trials : List (Flip × Attempt)) :
    (upToHalted trials).find? (·.2.halted) = trials.find? (·.2.halted) := by
  induction trials with
  | nil => rfl
  | cons t trials ih =>
      rw [upToHalted]
      cases halted : t.2.halted with
      | true => simp [halted]
      | false => simpa [halted] using ih

theorem upToHalted_eq_self {trials : List (Flip × Attempt)}
    (failed : ∀ t ∈ trials, t.2.halted = false) : upToHalted trials = trials := by
  induction trials with
  | nil => rfl
  | cons t trials ih =>
      obtain ⟨first, later⟩ := List.forall_mem_cons.1 failed
      rw [upToHalted, first, ih later]
      rfl

/-- The trials that are made, in order: none if the program as it stands halts. -/
def trials (p : Program) : List (Flip × Attempt) :=
  if p.attempt.halted then [] else upToHalted (p.trialsAlong p.attempt.path)

/-- The flips that are tried, in order. -/
def tried (p : Program) : List Flip := p.trials.map Prod.fst

/-- The flip to be made, if one is needed, with the accumulator at the end; or nothing if
no flip helps. -/
def searchByRestarting (p : Program) : Option (Option Flip × Int64) :=
  if p.attempt.halted then some (none, p.attempt.accumulator)
  else ((p.trialsAlong p.attempt.path).find? (·.2.halted)).map fun t =>
    (some t.1, t.2.accumulator)

end Program
end LoopRepair
