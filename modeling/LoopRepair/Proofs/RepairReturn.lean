import LoopRepair.Proofs.MachineCalls

/-!
# A repair travels back

A repair leads to a state that the run was in before: the one in which the instruction
that is flipped now was about to be executed for the first time, when no flip was in
effect. The states of a run up to its first repair are written down in closed form, one
for every path of the program, and what stays on the trail after a repair is such a path.
However many attempts lie between the two states, nothing is left of them but the counts
of steps and repairs.
-/
namespace LoopRepair.Machine
variable {p : Program} {c m : Machine} {l : List Nat} {i j s r : Nat} {a : Instruction}
  {n : Option Nat}

/-- The call executes the instruction at `i`. -/
def Executes (m : Machine) (i : Nat) : Prop :=
  m.step.result = .ok (.executed i) ∨ m.step.result = .ok (.deadEnd i)

theorem Executes.unique (h : m.Executes i) (k : m.Executes j) : i = j := by
  rcases h with h | h <;> rcases k with k | k <;> simp_all

theorem Executes.not_repaired {f : Flip} (h : m.Executes i) :
    m.step.result ≠ .ok (.repaired f) := by
  rcases h with h | h <;> simp [h]

/-- A running machine whose next instruction is neither a trap nor on the trail executes it,
and goes where it leads. -/
theorem Tracks.executes_of_fresh (h : Tracks p m) (running : m.phase = .running)
    (ha : (p.flipped m.flip).get? m.pc = some a) (fresh : a.visits = 0)
    (out : m.pc ∉ m.trail) : m.Executes m.pc ∧ ∀ j, a.next? m.pc = some j →
      m.step.machine =
        { m.place p m.flip (m.pc :: m.trail) with pc := j, steps := m.steps + 1 } := by
  have move := h.move_running running
  generalize hr : m.step.result = result at move
  generalize hn : m.step.machine = n at move
  cases move with
  | left _ past =>
      have inside := Program.lt_size_of_get? ha
      rw [Program.size_flipped] at inside
      exact absurd past (Nat.not_le.2 inside)
  | looped _ hb seen =>
      rw [ha] at hb
      cases hb
      exact absurd seen (by simp [fresh,out])
  | deadEnd _ hb _ _ last =>
      rw [ha] at hb
      cases hb
      refine ⟨.inr hr,?_⟩
      intro j next
      rw [last] at next
      cases next
  | executed _ hb _ _ next =>
      rw [ha] at hb
      cases hb
      refine ⟨.inl hr,?_⟩
      intro j leads
      rw [next] at leads
      cases leads
      rfl
  | repaired other _ | exhausted other _ | halted other =>
      rw [running] at other
      cases other

/-- A machine without a flip that has executed the path `l` of `p` and comes to `i` next,
after so many steps and repairs. -/
def checkpoint (p : Program) (s r : Nat) (l : List Nat) (i : Nat) : Machine where
  program := p.visiting l
  pc := i
  accumulator := p.tally l
  trail := l
  steps := s
  repairs := r

theorem tracks_checkpoint (path : p.Path l (some i)) (s r : Nat) :
    Tracks p (checkpoint p s r l i) where
  program := rfl
  accumulator := rfl
  found := found_none
  path := ⟨some i,path,fun _ => rfl⟩
  pending := by
    intro f hf
    cases hf
  ended := by
    intro halted
    cases halted

/-- A run comes by the checkpoint of every path. -/
theorem after_checkpoint (path : p.Path l (some i)) (s r : Nat) :
    (checkpoint p s r [] 0).after l.length = checkpoint p (s + l.length) r l i := by
  induction l generalizing i with
  | nil =>
      cases path
      rfl
  | cons k l ih =>
      obtain ⟨before,out,a,ha,fresh,leads⟩ := path.of_cons
      have track := tracks_checkpoint before (s + l.length) r
      have next := (track.executes_of_fresh rfl ha fresh out).2 i leads.symm
      rw [List.length_cons,after_succ,ih before,next]
      rfl

/-- At the checkpoint of a path a run executes what continues the path. -/
theorem executes_checkpoint (path : p.Path (i :: l) n) (s r : Nat) :
    ((checkpoint p s r [] 0).after l.length).Executes i := by
  obtain ⟨before,out,_,ha,fresh,_⟩ := path.of_cons
  have track := tracks_checkpoint before (s + l.length) r
  rw [after_checkpoint before]
  exact (track.executes_of_fresh rfl ha fresh out).1

/-- Until then it has executed the instructions on the path, and nothing else. -/
theorem exists_executes (path : p.Path l n) (s r : Nat) (hj : j < l.length) :
    ∃ i ∈ l, ((checkpoint p s r [] 0).after j).Executes i := by
  induction l generalizing n with
  | nil => cases hj
  | cons i l ih =>
      rcases Nat.lt_or_eq_of_le (Nat.le_of_lt_succ hj) with older | rfl
      · obtain ⟨k,hk,executed⟩ := ih path.of_cons.1 older
        exact ⟨k,List.mem_cons_of_mem _ hk,executed⟩
      · exact ⟨i,List.mem_cons_self,executes_checkpoint path s r⟩

/-- Where runs begin: at the start, or freshly rewound. -/
theorem exists_checkpoint (begun : c = start p ∨ ∃ m, Reachable p m ∧ c = m.rewind) :
    ∃ s r, c = checkpoint p s r [] 0 := by
  rcases begun with rfl | ⟨m,h,rfl⟩
  · exact ⟨0,0,rfl⟩
  · rw [h.tracks.rewind_eq]
    exact ⟨m.steps,m.repairs,rfl⟩

/-- What a repair chooses lies on a path of the program that continues with it. -/
theorem Tracks.path_of_repaired {f : Flip} (h : Tracks p m)
    (repaired : m.step.result = .ok (.repaired f)) : ∃ l n, p.flipAt? f.index = some f ∧
      p.Path l (some f.index) ∧ p.Path (f.index :: l) n ∧ m.step.machine =
        { m.place p (some f) l with
          pc := f.index, phase := .running, repairs := m.repairs + 1 } := by
  have move := h.move
  rw [repaired] at move
  generalize hn : m.step.machine = n at move
  cases move with
  | @repaired f l _ chosen =>
      obtain ⟨found,out,older,a,ha,fresh⟩ := h.of_nextFlip chosen
      exact ⟨l,_,found,older,.step older ha fresh out,rfl⟩

/-- After a repair the machine is where it was before it first executed the instruction that
is flipped now, but for the flip and for the work that has been done since. -/
theorem repaired_returns {f : Flip} (begun : c = start p ∨ ∃ m, Reachable p m ∧ c = m.rewind)
    (repaired : (c.after j).step.result = .ok (.repaired f)) :
    ∃ k, k < j ∧ (c.after k).Executes f.index ∧ (∀ e < k, ¬ (c.after e).Executes f.index) ∧
      (c.after k).flip = none ∧ (c.after k).program.flipAt? f.index = some f ∧
      c.after (j + 1) = { c.after k with
        program := (c.after k).program.apply f
        flip := some f
        steps := (c.after j).steps
        repairs := (c.after j).repairs + 1 } := by
  obtain ⟨s,r,rfl⟩ := exists_checkpoint begun
  have track := (tracks_checkpoint (.start : p.Path [] _) s r).after j
  obtain ⟨l,n,found,before,path,returned⟩ := track.path_of_repaired repaired
  have here := after_checkpoint before s r
  refine ⟨l.length,?_,executes_checkpoint path s r,?_,?_,?_,?_⟩
  · -- No call up to the first execution repairs.
    apply Nat.lt_of_not_le
    intro early
    obtain ⟨_,_,executed⟩ := exists_executes path s r (Nat.lt_succ_of_le early)
    exact executed.not_repaired repaired
  · intro e earlier first
    obtain ⟨i,hi,executed⟩ := exists_executes before s r earlier
    exact path.of_cons.2.1 (executed.unique first ▸ hi)
  · rw [here]
    rfl
  · rw [here]
    exact (Program.flipAt?_visiting p l f.index).trans found
  · rw [after_succ,returned,here]
    simp only [place,checkpoint,Program.flipped_some,Program.apply_visiting]

/-- Rewound while its first flip was in effect, the machine flips at 3 once more, in vain,
before it returns to the instruction at 1. -/
theorem maze_rewound_returns : Reachable maze ((start maze).after 6) ∧
    (((start maze).after 6).rewind.after 7).step.result = .ok (.repaired ⟨1,.jmp⟩) ∧
    ∃ k, k < 7 ∧ (((start maze).after 6).rewind.after k).Executes 1 ∧
      (((start maze).after 6).rewind.after 8).history =
        (((start maze).after 6).rewind.after k).history := by
  have reachable : Reachable maze ((start maze).after 6) := Reachable.start.after 6
  have repaired : (((start maze).after 6).rewind.after 7).step.result =
      .ok (.repaired ⟨1,.jmp⟩) := rfl
  obtain ⟨k,earlier,executed,_,_,_,returned⟩ :=
    repaired_returns (.inr ⟨_,reachable,rfl⟩) repaired
  refine ⟨reachable,repaired,k,earlier,executed,?_⟩
  rw [returned]
  rfl

end LoopRepair.Machine
