import LoopRepair.Proofs.MachineCalls

/-!
# The history is an execution

The history of a machine is what the plain execution of its program does, the flip in
effect included: counted from the first instruction, that execution goes through the
indices of the history one by one and comes to where the machine is. This holds after
every sequence of calls, because a flip is made only at an instruction that is not on
the trail, and what the trail says depends on no other.
-/
namespace LoopRepair

namespace Program
variable {p : Program} {l r : List Nat} {i : Nat} {n : Option Nat} {a : Instruction}

/-- Visits do not show in the plain execution. -/
theorem plainAfter?_visiting (p : Program) (l : List Nat) :
    (p.visiting l).plainAfter? = p.plainAfter? := by
  have step : (p.visiting l).plainStep? = p.plainStep? := by
    funext s
    simp [plainStep?,get?_visiting,Function.comp_def]
  funext n
  induction n with
  | zero => rfl
  | succ n ih => rw [plainAfter?,plainAfter?,ih,step]

theorem plainIndices?_visiting (p : Program) (l : List Nat) :
    (p.visiting l).plainIndices? = p.plainIndices? := by
  funext n
  induction n with
  | zero => rfl
  | succ n ih =>
      rw [plainIndices?,plainIndices?,ih,plainIndex?,plainIndex?,plainAfter?_visiting,size_visiting]

/-- The plain execution goes along every path. -/
theorem Path.plainIndices? (h : p.Path l n) : p.plainIndices? l.length = some l.reverse := by
  induction h with
  | start => rfl
  | @step l i a before ha _ _ ih =>
      have here : p.plainIndex? l.length = some i := by
        simp [plainIndex?,before.plainAfter?,lt_size_of_get? ha]
      simp [Program.plainIndices?,ih,here]

/-- An instruction with no successor ends a path. -/
theorem Path.ends (h : p.Path (l ++ i :: r) n) (ha : p.get? i = some a)
    (last : a.next? i = none) : l = [] ∧ n = none := by
  induction l generalizing n with
  | nil =>
      obtain ⟨_,_,b,hb,_,leads⟩ := h.of_cons
      rw [ha] at hb
      cases hb
      exact ⟨rfl,leads.trans last⟩
  | cons j l ih => cases (ih h.of_cons.1).2

end Program

namespace Machine
variable {p : Program} {m : Machine} {before after : List Nat} {i : Nat} {a : Instruction}

theorem Tracks.plainIndices? (h : Tracks p m) :
    m.program.plainIndices? m.history.length = some m.history := by
  obtain ⟨_,path,_⟩ := h.path
  rw [h.program,Program.plainIndices?_visiting,length_history]
  exact path.plainIndices?

/-- The plain execution comes to the accumulator of the machine, and to its program counter
unless the path has come to its end there. -/
theorem Tracks.plainAfter? (h : Tracks p m) : ∃ next,
    m.program.plainAfter? m.history.length = some ⟨next,m.accumulator⟩ ∧
      (m.phase ≠ .looping → next = some m.pc) := by
  obtain ⟨next,path,here⟩ := h.path
  refine ⟨next,?_,here⟩
  rw [h.program,Program.plainAfter?_visiting,length_history,h.accumulator,
    ← Program.tally_flipped h.found]
  exact path.plainAfter?

/-- An instruction with no successor is the last one, and the machine has noticed. -/
theorem Tracks.last_of_deadEnd (h : Tracks p m) (split : m.history = before ++ i :: after)
    (ha : m.program.get? i = some a) (last : a.next? i = none) :
    after = [] ∧ m.phase = .looping := by
  obtain ⟨next,path,here⟩ := h.path
  have trail : m.trail = after.reverse ++ i :: before.reverse := by
    rw [← List.reverse_reverse m.trail,← history,split]
    simp
  rw [h.get?_program] at ha
  obtain ⟨b,hb,rfl⟩ := Option.map_eq_some_iff.1 ha
  rw [Instruction.next?_visitedTimes] at last
  rw [trail] at path
  obtain ⟨newest,stuck⟩ := path.ends hb last
  refine ⟨List.reverse_eq_nil_iff.1 newest,?_⟩
  apply Classical.byContradiction
  intro moved
  cases stuck.symm.trans (here moved)

/-- The history is the beginning of the plain execution of the program as it stands; of a
halted machine it is all of it. -/
theorem history_executed (h : Reachable p m) :
    m.program.plainIndices? m.history.length = some m.history ∧
      (∃ next, m.program.plainAfter? m.history.length = some ⟨next,m.accumulator⟩ ∧
        (m.phase ≠ .looping → next = some m.pc)) ∧
      (∀ before i after a, m.history = before ++ i :: after → m.program.get? i = some a →
        a.next? i = none → after = [] ∧ m.phase = .looping) ∧
      (m.phase = .halted → m.program.size ≤ m.pc ∧
        m.program.HaltsAfter m.history.length m.accumulator) := by
  have track := h.tracks
  obtain ⟨next,at_end,here⟩ := track.plainAfter?
  refine ⟨track.plainIndices?,⟨next,at_end,here⟩,?_,?_⟩
  · intro before i after a split ha last
    exact track.last_of_deadEnd split ha last
  · intro halted
    have past : m.program.size ≤ m.pc := by
      rw [track.size_program]
      exact track.ended halted
    rw [here (by simp [halted])] at at_end
    exact ⟨past,m.pc,at_end,past⟩

/-- The machine on the way out at the front, and at the end that its second flip leads to. -/
theorem maze_history_executed : Reachable maze ((start maze).after 3) ∧
    ((start maze).after 3).program.plainIndices? 3 = some [0,1,3] ∧
    Reachable maze ((start maze).after 11) ∧
    ((start maze).after 11).program.plainIndices? 3 = some [0,1,2] ∧
    ((start maze).after 11).program.HaltsAfter 3 2 := by
  have early : Reachable maze ((start maze).after 3) := Reachable.start.after 3
  have late : Reachable maze ((start maze).after 11) := Reachable.start.after 11
  have halted : ((start maze).after 11).phase = .halted := by decide
  obtain ⟨first,_⟩ := history_executed early
  obtain ⟨second,_,_,complete⟩ := history_executed late
  exact ⟨early,first,late,second,(complete halted).2⟩

end Machine
end LoopRepair
