import LoopRepair.Proofs.TrackedMachine

/-!
# Sequences of calls

A machine is driven by calls: single transitions, whole runs, and rewinding, watched by
anyone, in any order, also after a failure. Each machine that can be reached in this way
keeps track of its program. A run is the transitions that single calls make, up to the
first call that finds the machine halted or fails.
-/
namespace LoopRepair.Machine
variable {p : Program} {m n : Machine} {t : Transition} {ts us : List Transition} {o : Outcome}

/-- The machine after `k` calls for a transition. -/
def after (m : Machine) : Nat → Machine
  | 0 => m
  | k + 1 => m.step.machine.after k

theorem after_add (m : Machine) (j k : Nat) : m.after (j + k) = (m.after j).after k := by
  induction j generalizing m with
  | zero => rw [Nat.zero_add,after]
  | succ j ih => rw [Nat.succ_add,after,after,ih]

theorem after_succ (m : Machine) (k : Nat) : m.after (k + 1) = (m.after k).step.machine := by
  rw [after_add]
  rfl

theorem Tracks.after (h : Tracks p m) (k : Nat) : Tracks p (m.after k) := by
  induction k generalizing m with
  | zero => exact h
  | succ k ih => exact ih h.step

/-- The next call ends a run: it finds the machine halted, or fails. -/
def AtEnd (m : Machine) : Prop := m.step.result = .ok .halted ∨ ∃ e, m.step.result = .error e

/-- The machine makes these transitions, none of which ends a run, and is then `n`. -/
inductive Makes : Machine → List Transition → Machine → Prop
  | nil (m : Machine) : Makes m [] m
  | cons {m n : Machine} {t : Transition} {ts : List Transition} :
      m.step.result = .ok t → t ≠ .halted → Makes m.step.machine ts n → Makes m (t :: ts) n

/-- The next call ends a run with this result. -/
def Concludes (m : Machine) : Except RepairExhausted Outcome → Prop
  | .ok o => m.step.result = .ok .halted ∧ m.step.machine.outcome = o
  | .error e => m.step.result = .error e

theorem Concludes.atEnd {r : Except RepairExhausted Outcome} (h : m.Concludes r) : m.AtEnd := by
  cases r with
  | ok o => exact .inl h.1
  | error e => exact .inr ⟨e,h⟩

theorem AtEnd.concludes (h : m.AtEnd) : ∃ r, m.Concludes r := by
  rcases h with h | ⟨e,h⟩
  · exact ⟨.ok m.step.machine.outcome,h,rfl⟩
  · exact ⟨.error e,h⟩

theorem Concludes.run {r : Except RepairExhausted Outcome} (h : m.Concludes r) :
    m.run = ⟨r,m.step.machine,()⟩ := by
  cases r with
  | ok o =>
      obtain ⟨halted,rfl⟩ := h
      exact runWith_of_halted .silent () halted
  | error e => exact runWith_of_error .silent () h

namespace Makes

theorem append {o : Machine} (h : Makes m ts n) (k : Makes n us o) : Makes m (ts ++ us) o := by
  induction h with
  | nil m => exact k
  | cons went going _ ih => exact .cons went going (ih k)

theorem single (went : m.step.result = .ok t) (going : t ≠ .halted) :
    Makes m [t] m.step.machine :=
  .cons went going (.nil _)

theorem run (h : Makes m ts n) : m.run = n.run := by
  induction h with
  | nil m => rfl
  | cons went going _ ih => exact (runWith_of_ok .silent () went going).trans ih

theorem after_eq (h : Makes m ts n) : m.after ts.length = n := by
  induction h with
  | nil m => rfl
  | cons _ _ _ ih => exact ih

theorem tracks (h : Makes m ts n) (track : Tracks p m) : Tracks p n :=
  h.after_eq ▸ track.after ts.length

theorem not_atEnd (h : Makes m ts n) : ∀ j < ts.length, ¬ (m.after j).AtEnd := by
  induction h with
  | nil m =>
      intro j hj
      cases hj
  | cons went going _ ih =>
      intro j hj
      cases j with
      | zero =>
          rintro (halted | ⟨e,failed⟩)
          · exact going (Except.ok.inj (went.symm.trans halted))
          · cases went.symm.trans failed
      | succ j => exact ih j (Nat.lt_of_succ_lt_succ hj)

end Makes

/-- Every run comes to its end. -/
theorem exists_end (m : Machine) : ∃ ts n, Makes m ts n ∧ n.AtEnd := by
  induction hw : m.weight using Nat.strongRecOn generalizing m with
  | ind w ih =>
      by_cases last : m.AtEnd
      · exact ⟨[],m,.nil m,last⟩
      · cases result : m.step.result with
        | error e => exact absurd (.inr ⟨e,result⟩) last
        | ok t =>
            have going : t ≠ .halted := fun e => last (.inl (e ▸ result))
            obtain ⟨ts,n,made,ended⟩ := ih _ (hw ▸ weight_step_lt result going) _ rfl
            exact ⟨t :: ts,n,.cons result going made,ended⟩

theorem Tracks.run (h : Tracks p m) : Tracks p m.run.machine := by
  obtain ⟨ts,n,made,ended⟩ := m.exists_end
  obtain ⟨r,concluded⟩ := ended.concludes
  rw [made.run,concluded.run]
  exact (made.tracks h).step

/-- A run that succeeds leaves a halted machine with the outcome that it reports. -/
theorem Tracks.halted_of_run (h : Tracks p m) (ran : m.run.result = .ok o) :
    m.run.machine.phase = .halted ∧ m.run.machine.outcome = o := by
  obtain ⟨ts,n,made,ended⟩ := m.exists_end
  obtain ⟨r,concluded⟩ := ended.concludes
  rw [made.run,concluded.run] at ran ⊢
  have reported : r = .ok o := ran
  subst reported
  obtain ⟨last,outcome⟩ := concluded
  have move := (made.tracks h).move
  rw [last] at move
  dsimp only
  generalize n.step.machine = k at move outcome ⊢
  cases move with
  | left _ _ => exact ⟨rfl,outcome⟩
  | halted phase => exact ⟨phase,outcome⟩

/-- What any sequence of calls can make of a machine started on `p`. -/
inductive Reachable (p : Program) : Machine → Prop
  | start : Reachable p (start p)
  | step {m : Machine} {σ : Type} (o : Observer σ) (s : σ) :
      Reachable p m → Reachable p (stepWith o s m).machine
  | run {m : Machine} {σ : Type} (o : Observer σ) (s : σ) :
      Reachable p m → Reachable p (runWith o s m).machine
  | rewind {m : Machine} : Reachable p m → Reachable p m.rewind

theorem Reachable.after (h : Reachable p m) (k : Nat) : Reachable p (m.after k) := by
  induction k generalizing m with
  | zero => exact h
  | succ k ih => exact ih (h.step .silent ())

theorem Reachable.tracks (h : Reachable p m) : Tracks p m := by
  induction h with
  | start => exact tracks_start p
  | step o s _ ih => exact machine_stepWith o s _ ▸ ih.step
  | run o s _ ih => exact machine_runWith o s _ ▸ ih.run
  | rewind _ ih => exact ih.rewind

/-- A program that leaves itself at the front, goes round once it is flipped at 3, and
ends once it is flipped at 1. -/
def maze : Program := .ofList [⟨.acc,2,0⟩,⟨.jmp,2,0⟩,⟨.jmp,3,0⟩,⟨.jmp,-4,0⟩,⟨.jmp,-4,0⟩]

end LoopRepair.Machine
