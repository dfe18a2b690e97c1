import LoopRepair.Proofs.MachineCalls

/-!
# How many calls a run can take

On a machine that keeps track of its program the number of calls up to the end of a run
is bounded by what is left of two things: the places of the trail where a repair may
still flip, and the instructions that the attempt under way may still execute. A repair
trades one place for a new attempt, which is never longer than the program, with the
call that finds out that it failed and the call that repairs.
-/
namespace LoopRepair.Machine
variable {p : Program} {m n : Machine} {t : Transition} {l : List Nat} {g : Option Flip}

/-- How many repairs may still succeed. While the unflipped program runs, its trail may
still grow to the size of the program. -/
def repairsLeft (p : Program) (m : Machine) : Nat :=
  if m.phase = .running ∧ m.flip = none then p.size
  else (Program.choices m.trail m.flip).length

/-- How many calls may still be made before the one that ends the run. -/
def callsLeft (p : Program) (m : Machine) : Nat :=
  match m.phase with
  | .running => m.repairsLeft p * (p.size + 2) + (p.size - m.trail.length) + 1
  | .looping => m.repairsLeft p * (p.size + 2)
  | .halted => 0

theorem choices_length_le (l : List Nat) (g : Option Flip) :
    (Program.choices l g).length ≤ l.length := by
  cases g with
  | none => exact Nat.le_refl _
  | some f =>
      rw [Program.choices]
      split
      · have := (List.dropWhile_suffix (· ≠ f.index) (l := l)).length_le
        rw [List.length_tail]
        omega
      · exact Nat.le_refl _

theorem Tracks.repairsLeft_le (h : Tracks p m) : m.repairsLeft p ≤ p.size := by
  rw [repairsLeft]
  split
  · exact Nat.le_refl _
  · exact Nat.le_trans (choices_length_le _ _) h.trail_length_le

/-- While a machine runs its attempt, no place for a repair is gained. -/
theorem Tracks.repairsLeft_le_of_running (h : Tracks p n) (running : m.phase = .running)
    (flip : n.flip = m.flip)
    (same : ∀ f ∈ m.flip, Program.choices n.trail (some f) = Program.choices m.trail (some f)) :
    n.repairsLeft p ≤ m.repairsLeft p := by
  cases hf : m.flip with
  | none =>
      have all : m.repairsLeft p = p.size := if_pos ⟨running,hf⟩
      rw [all]
      exact h.repairsLeft_le
  | some f =>
      rw [repairsLeft,repairsLeft,flip,hf,same f hf]
      simp

theorem callsLeft_of_running (running : m.phase = .running) :
    m.callsLeft p = m.repairsLeft p * (p.size + 2) + (p.size - m.trail.length) + 1 := by
  rw [callsLeft,running]

theorem callsLeft_of_looping (looping : m.phase = .looping) :
    m.callsLeft p = m.repairsLeft p * (p.size + 2) := by
  rw [callsLeft,looping]

theorem callsLeft_lt_of_visit (before : m.phase = .running) (now : n.phase = .running)
    (rank : n.repairsLeft p ≤ m.repairsLeft p) (longer : n.trail.length = m.trail.length + 1)
    (bound : n.trail.length ≤ p.size) : n.callsLeft p < m.callsLeft p := by
  rw [callsLeft_of_running before,callsLeft_of_running now]
  have := Nat.mul_le_mul_right (p.size + 2) rank
  omega

/-- Every call but the last lowers the bound. -/
theorem Move.callsLeft_lt (h : Tracks p m) (move : Move p m (.ok t) n) (going : t ≠ .halted) :
    n.callsLeft p < m.callsLeft p := by
  have track := move.tracks h
  cases move with
  | left _ _ => exact absurd rfl going
  | looped running _ _ =>
      have rank := track.repairsLeft_le_of_running running rfl fun f _ => rfl
      rw [callsLeft_of_running running,callsLeft_of_looping rfl]
      have := Nat.mul_le_mul_right (p.size + 2) rank
      omega
  | deadEnd running _ _ out _ =>
      have rank := track.repairsLeft_le_of_running running rfl fun f hf => h.choices_visit out hf
      rw [callsLeft_of_running running,callsLeft_of_looping rfl]
      have := Nat.mul_le_mul_right (p.size + 2) rank
      omega
  | executed running _ _ out _ =>
      have rank := track.repairsLeft_le_of_running running rfl fun f hf => h.choices_visit out hf
      exact callsLeft_lt_of_visit running running rank rfl track.trail_length_le
  | @repaired f r looping chosen =>
      obtain ⟨_,k,split,_⟩ := Program.nextFlip?_eq_some chosen
      -- The place taken pays for the new attempt and for the two calls around it.
      have before : m.repairsLeft p = k.length + r.length + 1 := by
        rw [repairsLeft,if_neg (by simp [looping]),split]
        simp only [List.length_append,List.length_cons]
        omega
      have now : { m.place p (some f) r with
          pc := f.index, phase := .running, repairs := m.repairs + 1 }.repairsLeft p ≤ r.length :=
        choices_length_le r (some f)
      rw [callsLeft_of_running rfl,callsLeft_of_looping looping,before]
      have := Nat.mul_le_mul_right (p.size + 2) now
      have : (r.length + 1) * (p.size + 2) ≤ (k.length + r.length + 1) * (p.size + 2) :=
        Nat.mul_le_mul_right _ (by omega)
      rw [Nat.succ_mul] at this
      omega
  | halted _ => exact absurd rfl going

/-- A run ends within the calls that are left. -/
theorem Tracks.exists_end (h : Tracks p m) :
    ∃ ts n, Makes m ts n ∧ n.AtEnd ∧ ts.length ≤ m.callsLeft p := by
  obtain ⟨ts,n,made,ended⟩ := m.exists_end
  refine ⟨ts,n,made,ended,?_⟩
  clear ended
  induction made with
  | nil m => exact Nat.zero_le _
  | @cons m n t ts went going _ ih =>
      have lower := (went ▸ h.move).callsLeft_lt h going
      have := ih h.step
      rw [List.length_cons]
      omega

/-- No machine that keeps track has more calls left than one at the start. -/
theorem Tracks.callsLeft_lt (h : Tracks p m) : m.callsLeft p < (p.size + 1) * (p.size + 2) := by
  have rank := Nat.mul_le_mul_right (p.size + 2) h.repairsLeft_le
  rw [Nat.succ_mul]
  cases phase : m.phase with
  | running =>
      rw [callsLeft_of_running phase]
      omega
  | looping =>
      rw [callsLeft_of_looping phase]
      omega
  | halted =>
      simp only [callsLeft,phase]
      omega

end LoopRepair.Machine
