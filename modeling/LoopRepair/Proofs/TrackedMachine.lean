import LoopRepair.Proofs.UndoLog

/-!
# Machines that keep track

The invariant of all machines that were started on a program, and all that a transition
can do to one of them. The trail is a path of the program under the flip in effect; the
visits, the accumulator and the operations follow from it; a flip that is not on the
trail is about to be executed for the first time. Transitions and rewinding keep the
invariant, and rewinding leads back to the start.
-/
namespace LoopRepair.Machine
variable {p : Program} {m n : Machine} {a : Instruction} {g : Option Flip}

structure Tracks (p : Program) (m : Machine) : Prop where
  program : m.program = (p.flipped m.flip).visiting m.trail
  accumulator : m.accumulator = p.tally m.trail
  found : Found p m.flip
  path : ∃ next, (p.flipped m.flip).Path m.trail next ∧ (m.phase ≠ .looping → next = some m.pc)
  pending : ∀ f ∈ m.flip, f.index ∉ m.trail →
    m.phase = .running ∧ m.pc = f.index ∧ ∃ a, p.get? f.index = some a ∧ a.visits = 0
  ended : m.phase = .halted → p.size ≤ m.pc

/-- All that a transition can do to a machine that keeps track of `p`: what it returns and
what the machine is afterwards. -/
inductive Move (p : Program) (m : Machine) : Except RepairExhausted Transition → Machine → Prop
  | left : m.phase = .running → p.size ≤ m.pc → Move p m (.ok .halted) { m with phase := .halted }
  | looped {a : Instruction} : m.phase = .running → (p.flipped m.flip).get? m.pc = some a →
      a.visits ≠ 0 ∨ m.pc ∈ m.trail → Move p m (.ok (.looped m.pc)) { m with phase := .looping }
  | deadEnd {a : Instruction} : m.phase = .running → (p.flipped m.flip).get? m.pc = some a →
      a.visits = 0 → m.pc ∉ m.trail → a.next? m.pc = none →
      Move p m (.ok (.deadEnd m.pc))
        { m.place p m.flip (m.pc :: m.trail) with phase := .looping, steps := m.steps + 1 }
  | executed {a : Instruction} {i : Nat} : m.phase = .running →
      (p.flipped m.flip).get? m.pc = some a → a.visits = 0 → m.pc ∉ m.trail →
      a.next? m.pc = some i →
      Move p m (.ok (.executed m.pc))
        { m.place p m.flip (m.pc :: m.trail) with pc := i, steps := m.steps + 1 }
  | repaired {f : Flip} {r : List Nat} : m.phase = .looping →
      p.nextFlip? (Program.choices m.trail m.flip) = some (f,r) →
      Move p m (.ok (.repaired f)) { m.place p (some f) r with
        pc := f.index, phase := .running, repairs := m.repairs + 1 }
  | exhausted : m.phase = .looping → p.nextFlip? (Program.choices m.trail m.flip) = none →
      Move p m (.error ⟨m.repairs + 1⟩) { m.place p none [] with repairs := m.repairs + 1 }
  | halted : m.phase = .halted → Move p m (.ok .halted) m

theorem tracks_start (p : Program) : Tracks p (start p) where
  program := rfl
  accumulator := rfl
  found := found_none
  path := ⟨_,.start,fun _ => rfl⟩
  pending := by
    intro f hf
    cases hf
  ended := by
    intro h
    cases h

namespace Tracks

/-- The machine is one that the undo log speaks of. -/
theorem placed (h : Tracks p m) : m = m.place p m.flip m.trail := by
  rw [place,← h.program,← h.accumulator]

theorem size_program (h : Tracks p m) : m.program.size = p.size := by
  rw [h.program,Program.size_visiting,Program.size_flipped]

theorem get?_program (h : Tracks p m) (i : Nat) : m.program.get? i =
    ((p.flipped m.flip).get? i).map (Instruction.visitedTimes (m.trail.count i)) := by
  rw [h.program,Program.get?_visiting]

theorem path_running (h : Tracks p m) (running : m.phase = .running) :
    (p.flipped m.flip).Path m.trail (some m.pc) := by
  obtain ⟨next,path,here⟩ := h.path
  rw [here (by simp [running])] at path
  exact path

/-- Once a machine does not run, the flip in effect has been executed. -/
theorem flip_mem (h : Tracks p m) (stopped : m.phase ≠ .running) :
    ∀ f ∈ m.flip, f.index ∈ m.trail := by
  intro f hf
  apply Classical.byContradiction
  intro out
  exact stopped (h.pending f hf out).1

/-- An instruction at hand that cannot be executed is not one flipped just before. -/
theorem flip_mem_of_visited (h : Tracks p m) (ha : (p.flipped m.flip).get? m.pc = some a)
    (seen : a.visits ≠ 0 ∨ m.pc ∈ m.trail) : ∀ f ∈ m.flip, f.index ∈ m.trail := by
  intro f hf
  apply Classical.byContradiction
  intro out
  obtain ⟨_,here,b,hb,fresh⟩ := h.pending f hf out
  rw [Option.mem_def.1 hf,here,Program.flipped_some,Program.apply,Program.get?_update_self,hb] at ha
  cases ha
  rcases seen with seen | seen
  · exact seen fresh
  · exact out (here ▸ seen)

/-- Executing puts a pending flip on the trail. -/
theorem flip_mem_visit (h : Tracks p m) : ∀ f ∈ m.flip, f.index ∈ m.pc :: m.trail := by
  intro f hf
  by_cases on : f.index ∈ m.trail
  · exact List.mem_cons_of_mem _ on
  · exact (h.pending f hf on).2.1 ▸ List.mem_cons_self

theorem trail_length_le (h : Tracks p m) : m.trail.length ≤ p.size := by
  obtain ⟨_,path,_⟩ := h.path
  simpa using path.length_le_size

/-- Executing leaves the choices of a flip as they were. -/
theorem choices_visit (h : Tracks p m) (out : m.pc ∉ m.trail) {f : Flip}
    (hf : f ∈ m.flip) :
    Program.choices (m.pc :: m.trail) (some f) = Program.choices m.trail (some f) := by
  by_cases on : f.index ∈ m.trail
  · have other : m.pc ≠ f.index := fun e => out (e ▸ on)
    simp [Program.choices,on,other]
  · have here := (h.pending f hf on).2.1
    rw [here,Program.choices_of_not_mem on]
    exact Program.choices_append (k := []) (by simp)

/-- The flip that a repair chooses was executed, first and last, on the unflipped path, and
all that stays on the trail is older. -/
theorem of_nextFlip (h : Tracks p m) {f : Flip} {r : List Nat}
    (chosen : p.nextFlip? (Program.choices m.trail m.flip) = some (f,r)) :
    p.flipAt? f.index = some f ∧ f.index ∉ r ∧ p.Path r (some f.index) ∧
      ∃ a, p.get? f.index = some a ∧ a.visits = 0 := by
  obtain ⟨_,path,_⟩ := h.path
  obtain ⟨_,older⟩ := path.choices
  obtain ⟨hf,k,split,_⟩ := Program.nextFlip?_eq_some chosen
  rw [split] at older
  exact ⟨hf,older.not_mem_of_append,older.of_append,older.exists_fresh (by simp)⟩

theorem tally_pc (h : Tracks p m) (ha : (p.flipped m.flip).get? m.pc = some a) :
    a.effect m.accumulator = p.tally (m.pc :: m.trail) := by
  rw [h.accumulator,← Program.tally_flipped h.found,← Program.tally_flipped h.found,
    Program.tally_cons ha]

theorem visiting_pc (h : Tracks p m) :
    m.program.update m.pc Instruction.visit =
      (p.flipped m.flip).visiting (m.pc :: m.trail) := by
  rw [h.program]
  rfl

theorem move_running (h : Tracks p m) (running : m.phase = .running) :
    Move p m m.step.result m.step.machine := by
  have here := h.get?_program m.pc
  have placed := h.placed
  unfold step stepWith
  rw [running]
  simp only [execute]
  cases ha : (p.flipped m.flip).get? m.pc with
  | none =>
      rw [ha,Option.map_none] at here
      simp only [here]
      refine .left running ?_
      simpa using Program.get?_eq_none_iff.1 ha
  | some a =>
      rw [ha,Option.map_some] at here
      simp only [here]
      by_cases seen : a.visits ≠ 0 ∨ m.pc ∈ m.trail
      · have visited : (a.visitedTimes (m.trail.count m.pc)).visits ≠ 0 := by
          rw [Instruction.visits_visitedTimes]
          rcases seen with seen | seen
          · omega
          · have := List.count_pos_iff.2 seen
            omega
        rw [if_pos visited]
        exact .looped running ha seen
      · obtain ⟨fresh,out⟩ := not_or.1 seen
        have fresh : a.visits = 0 := Decidable.not_not.1 fresh
        have unvisited : ¬ (a.visitedTimes (m.trail.count m.pc)).visits ≠ 0 := by
          simp [fresh,List.count_eq_zero.2 out]
        rw [if_neg unvisited]
        simp only [Instruction.effect_visitedTimes,Instruction.next?_visitedTimes,
          h.tally_pc ha,h.visiting_pc]
        cases next : a.next? m.pc with
        | none => exact .deadEnd running ha fresh out next
        | some i => exact .executed running ha fresh out next

theorem move_looping (h : Tracks p m) (looping : m.phase = .looping) :
    Move p m m.step.result m.step.machine := by
  obtain ⟨next,path,_⟩ := h.path
  have repaired := repair_place (m := m) h.found path (h.flip_mem (by simp [looping]))
  rw [← h.placed] at repaired
  unfold step stepWith
  rw [looping]
  simp only [repaired]
  cases chosen : p.nextFlip? (Program.choices m.trail m.flip) with
  | none => exact .exhausted looping chosen
  | some c => exact .repaired looping chosen

/-- The count of repairs has no part in where a machine stands. -/
theorem placed_repairs (h : Tracks p m) (k : Nat) : ({ m with repairs := k } : Machine) =
    ({ m with repairs := k } : Machine).place p m.flip m.trail := by
  rw [place,← h.program,← h.accumulator]

/-- A repair first goes back to where its choices begin. -/
theorem abandoned {σ : Type} (h : Tracks p m) (looping : m.phase = .looping) (o : Observer σ)
    (s : σ) : (abandon o s { m with repairs := m.repairs + 1 }).2 =
      { m.place p none (Program.choices m.trail m.flip) with repairs := m.repairs + 1 } := by
  obtain ⟨_,path,_⟩ := h.path
  let counted : Machine := { m with repairs := m.repairs + 1 }
  have given := abandon_place (m := counted) h.found path (h.flip_mem (by simp [looping]))
  rw [← h.placed_repairs] at given
  have silent := congrArg Prod.snd (abandon_map o.carries_silent s counted)
  exact silent.symm.trans given

/-- Every transition is one of the seven moves. -/
theorem move (h : Tracks p m) : Move p m m.step.result m.step.machine := by
  cases phase : m.phase with
  | running => exact h.move_running phase
  | looping => exact h.move_looping phase
  | halted =>
      unfold step stepWith
      rw [phase]
      exact .halted phase

end Tracks

theorem Move.tracks {r : Except RepairExhausted Transition} (h : Tracks p m)
    (move : Move p m r n) : Tracks p n := by
  cases move with
  | left running past =>
      refine ⟨h.program,h.accumulator,h.found,?_,?_,fun _ => past⟩
      · exact ⟨_,h.path_running running,fun _ => rfl⟩
      · intro f hf out
        obtain ⟨_,here,b,hb,_⟩ := h.pending f hf out
        have := Program.lt_size_of_get? hb
        omega
  | looped running ha seen =>
      refine ⟨h.program,h.accumulator,h.found,?_,?_,?_⟩
      · exact ⟨_,h.path_running running,fun moved => absurd rfl moved⟩
      · intro f hf out
        exact absurd (h.flip_mem_of_visited ha seen f hf) out
      · intro halted
        cases halted
  | deadEnd running ha fresh out next =>
      refine ⟨rfl,rfl,h.found,?_,?_,?_⟩
      · exact ⟨_,.step (h.path_running running) ha fresh out,fun moved => absurd rfl moved⟩
      · intro f hf out
        exact absurd (h.flip_mem_visit f hf) out
      · intro halted
        cases halted
  | @executed a i running ha fresh out next =>
      refine ⟨rfl,rfl,h.found,?_,?_,?_⟩
      · refine ⟨_,.step (h.path_running running) ha fresh out,?_⟩
        intro _
        exact next
      · intro f hf out
        exact absurd (h.flip_mem_visit f hf) out
      · intro halted
        exact absurd (running.symm.trans halted) (by simp)
  | @repaired f r looping chosen =>
      obtain ⟨hf,out,older,b,hb,fresh⟩ := h.of_nextFlip chosen
      refine ⟨rfl,rfl,?_,?_,?_,?_⟩
      · intro e he
        cases he
        exact hf
      · exact ⟨_,(Program.Path.apply_iff out).2 older,fun _ => rfl⟩
      · intro e he _
        cases he
        exact ⟨rfl,rfl,b,hb,fresh⟩
      · intro halted
        cases halted
  | exhausted looping chosen =>
      refine ⟨rfl,rfl,found_none,?_,?_,?_⟩
      · exact ⟨_,.start,fun moved => absurd looping moved⟩
      · intro f hf
        cases hf
      · intro halted
        exact absurd (looping.symm.trans halted) (by simp)
  | halted ended => exact h

namespace Tracks

theorem step (h : Tracks p m) : Tracks p m.step.machine := h.move.tracks h

/-- Rewinding leads back to the start; only the work done stays counted. -/
theorem rewind_eq (h : Tracks p m) :
    m.rewind = { start p with steps := m.steps, repairs := m.repairs } := by
  obtain ⟨_,path,_⟩ := h.path
  have undone := retractAll_place (m := m) h.found path
  rw [← h.placed] at undone
  rw [rewind,undone]
  rfl

theorem rewind (h : Tracks p m) : Tracks p m.rewind := by
  rw [h.rewind_eq]
  exact ⟨rfl,rfl,found_none,⟨_,.start,fun _ => rfl⟩,(tracks_start p).pending,(tracks_start p).ended⟩

end Tracks
end LoopRepair.Machine
