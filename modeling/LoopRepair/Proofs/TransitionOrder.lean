import LoopRepair.Proofs.ExhaustedRepair
import LoopRepair.Proofs.TrapVisits

/-!
# The order of transitions

What a call returns tells how the machine is left, and so which call can come next. A path
that has ended is repaired by the very next call, and nothing else is. The instruction that
a repair has flipped is executed at once, since the repair has taken back its visit. A machine
that has halted stays halted, and one whose repair has failed goes on failing.
-/
namespace LoopRepair

/-- Only a jump has nowhere to go, and only one that leads before the first instruction. -/
theorem Instruction.next?_eq_none_iff {a : Instruction} {i : Nat} :
    a.next? i = none ↔ a.operation = .jmp ∧ (i : Int) + a.argument.toInt < 0 := by
  unfold next?
  cases a.operation <;> simp [jumpTarget?_eq_none_iff]

namespace Machine
variable {p : Program} {m n : Machine} {i : Nat}

/-- The call was a repair, which either flipped an instruction or failed. -/
inductive Repairs : Except RepairExhausted Transition → Prop
  | repaired {f : Flip} : Repairs (.ok (.repaired f))
  | exhausted {e : RepairExhausted} : Repairs (.error e)

/-- What a call returns, and what the next call can return after it. -/
inductive Precedes : Except RepairExhausted Transition → Except RepairExhausted Transition → Prop
  | executed {i : Nat} {r : Except RepairExhausted Transition} : ¬ Repairs r →
      Precedes (.ok (.executed i)) r
  | looped {i : Nat} {r : Except RepairExhausted Transition} : Repairs r →
      Precedes (.ok (.looped i)) r
  | deadEnd {i : Nat} {r : Except RepairExhausted Transition} : Repairs r →
      Precedes (.ok (.deadEnd i)) r
  | repaired {f : Flip} {r : Except RepairExhausted Transition} :
      r = .ok (.executed f.index) ∨ r = .ok (.deadEnd f.index) → Precedes (.ok (.repaired f)) r
  | halted : Precedes (.ok .halted) (.ok .halted)
  | exhausted {e : RepairExhausted} : Precedes (.error e) (.error ⟨e.repairs + 1⟩)

/-- How a call that returns `r` leaves the machine. -/
def phaseAfter : Except RepairExhausted Transition → Phase
  | .ok (.executed _) | .ok (.repaired _) => .running
  | .ok (.looped _) | .ok (.deadEnd _) | .error _ => .looping
  | .ok .halted => .halted

theorem Move.phase_eq {r : Except RepairExhausted Transition} (move : Move p m r n) :
    n.phase = phaseAfter r := by
  cases move with
  | left _ _ | looped _ _ _ | deadEnd _ _ _ _ _ | repaired _ _ => rfl
  | executed phase _ _ _ _ | exhausted phase _ | halted phase => exact phase

/-- Looping machines repair, and no others do. -/
theorem Move.repairs_iff {r : Except RepairExhausted Transition} (move : Move p m r n) :
    Repairs r ↔ m.phase = .looping := by
  constructor
  · intro repairs
    cases repairs <;> cases move <;> assumption
  · intro looping
    cases move with
    | repaired _ _ => exact .repaired
    | exhausted _ _ => exact .exhausted
    | left other _ | looped other _ _ | deadEnd other _ _ _ _ | executed other _ _ _ _
    | halted other =>
        rw [looping] at other
        cases other

theorem after_halted (halted : m.phase = .halted) (k : Nat) : m.after k = m := by
  induction k with
  | zero => rfl
  | succ k ih => rw [after_succ,ih,step_halted halted]

namespace Tracks

/-- The first call after a repair executes the instruction that was flipped. -/
theorem executes_of_repaired {f : Flip} (h : Tracks p m)
    (repaired : m.step.result = .ok (.repaired f)) : m.step.machine.Executes f.index := by
  obtain ⟨_,_,_,_,path,returned⟩ := h.path_of_repaired repaired
  obtain ⟨_,out,a,ha,fresh,_⟩ := path.of_cons
  have next := h.step
  rw [returned] at next ⊢
  -- The operation is exchanged, the visits are those of the program at the outset.
  have flipped : (p.apply f).get? f.index = some { a with operation := f.replacement } := by
    rw [Program.apply,Program.get?_update_self,ha]
    rfl
  exact (next.executes_of_fresh rfl flipped fresh out).1

/-- Every call comes in its order. -/
theorem precedes (h : Tracks p m) : Precedes m.step.result m.step.machine.step.result := by
  have left := h.move.phase_eq
  have next := h.step.move.repairs_iff
  rw [left] at next
  cases result : m.step.result with
  | error e =>
      obtain ⟨rfl,spent⟩ := h.spent_of_error result
      rw [spent]
      exact .exhausted
  | ok t =>
      rw [result] at left next
      cases t with
      | executed i => exact .executed fun repairs => nomatch next.1 repairs
      | looped i => exact .looped (next.2 rfl)
      | deadEnd i => exact .deadEnd (next.2 rfl)
      | repaired f => exact .repaired (h.executes_of_repaired result)
      | halted =>
          rw [step_halted left]
          exact .halted

/-- Only at a jump that leads before the first instruction does a path end in a dead end. -/
theorem jmp_of_deadEnd (h : Tracks p m) (ended : m.step.result = .ok (.deadEnd i)) :
    ∃ a, m.program.get? i = some a ∧ a.operation = .jmp ∧ (i : Int) + a.argument.toInt < 0 := by
  have move := h.move
  rw [ended] at move
  generalize m.step.machine = n at move
  cases move with
  | deadEnd _ ha _ _ last =>
      have here := h.get?_program m.pc
      rw [ha,Option.map_some] at here
      exact ⟨_,here,Instruction.next?_eq_none_iff.1 last⟩

/-- Only where the path has been, or at a trap, is a loop detected. -/
theorem visited_of_looped (h : Tracks p m) (ended : m.step.result = .ok (.looped i)) :
    i ∈ m.history ∨ p.TrapAt i := by
  have move := h.move
  rw [ended] at move
  generalize m.step.machine = n at move
  cases move with
  | @looped a _ ha seen =>
      rcases seen with trapped | on
      · have kept : (p.flipped m.flip).visits? m.pc = some a.visits := congrArg _ ha
        rw [p.visits?_flipped] at kept
        obtain ⟨b,hb,same⟩ := Option.map_eq_some_iff.1 kept
        exact .inr ⟨b,hb,same ▸ trapped⟩
      · exact .inl (mem_history.2 on)

end Tracks

/-- In every sequence of calls from the start, each call comes in its order, and a path ends
only for a reason. -/
theorem calls_in_order (p : Program) : ¬ Repairs (start p).step.result ∧ ∀ k,
    let m := (start p).after k
    let n := (start p).after (k + 1)
    Precedes m.step.result n.step.result ∧
      (∀ i, m.step.result = .ok (.deadEnd i) → ∃ a, m.program.get? i = some a ∧
        a.operation = .jmp ∧ (i : Int) + a.argument.toInt < 0) ∧
      (∀ i, m.step.result = .ok (.looped i) → i ∈ m.history ∨ p.TrapAt i) ∧
      (m.step.result = .ok .halted →
        ∀ j, n.after j = n ∧ (n.after j).step.result = .ok .halted) := by
  refine ⟨?_,fun k => ?_⟩
  · intro repairs
    cases (tracks_start p).move.repairs_iff.1 repairs
  · intro m n
    have track : Tracks p m := (tracks_start p).after k
    have same : n = m.step.machine := after_succ _ k
    rw [same]
    refine ⟨track.precedes,fun i => track.jmp_of_deadEnd,fun i => track.visited_of_looped,?_⟩
    intro result j
    have halted := track.move.phase_eq
    rw [result] at halted
    rw [after_halted halted,step_halted halted]
    exact ⟨rfl,rfl⟩

/-- On its way out of `maze` the machine comes to a dead end, repairs it, comes round to the
first instruction, and halts in the end. -/
theorem maze_in_order : ¬ Repairs (start maze).step.result ∧
    (((start maze).after 2).step.result = .ok (.deadEnd 3) ∧
      (∃ a, ((start maze).after 2).program.get? 3 = some a ∧ a.operation = .jmp ∧
        ((3 : Nat) : Int) + a.argument.toInt < 0) ∧
      Precedes (.ok (.deadEnd 3)) ((start maze).after 3).step.result) ∧
    (((start maze).after 3).step.result = .ok (.repaired ⟨3,.jmp⟩) ∧
      Precedes (.ok (.repaired ⟨3,.jmp⟩)) ((start maze).after 4).step.result) ∧
    (((start maze).after 6).step.result = .ok (.looped 0) ∧
      (0 ∈ ((start maze).after 6).history ∨ maze.TrapAt 0)) ∧
    ((start maze).after 10).step.result = .ok .halted ∧
      ∀ j, ((start maze).after 11).after j = (start maze).after 11 := by
  obtain ⟨first,order⟩ := calls_in_order maze
  obtain ⟨ended,jump,_,_⟩ := order 2
  obtain ⟨repaired,_,_,_⟩ := order 3
  obtain ⟨_,_,visited,_⟩ := order 6
  obtain ⟨_,_,_,halted⟩ := order 10
  refine ⟨first,⟨rfl,jump 3 rfl,ended⟩,⟨rfl,repaired⟩,⟨rfl,visited 0 rfl⟩,rfl,?_⟩
  intro j
  exact (halted rfl j).1

end Machine
end LoopRepair
