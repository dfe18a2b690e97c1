import LoopRepair.MachineRun

/-!
# What an observer sees, and what it cannot change

A map between the states of two observers that respects every event and every notice
respects every run: the second observer sees the image of what the first one sees, and
the results and machines are the same. With the silent observer as the second one this
says that nobody observing a machine has a part in what it does, so the modules that
follow speak of silent transitions and silent runs only.
-/
namespace LoopRepair

variable {σ τ : Type}

namespace Observed
variable {α : Type}

/-- What the same doings are to an observer whose states are images under `h`. -/
def map (h : σ → τ) (r : Observed σ α) : Observed τ α := ⟨r.result, r.machine, h r.seen⟩

@[simp] theorem result_map (h : σ → τ) (r : Observed σ α) : (r.map h).result = r.result := rfl
@[simp] theorem machine_map (h : σ → τ) (r : Observed σ α) : (r.map h).machine = r.machine := rfl
@[simp] theorem seen_map (h : σ → τ) (r : Observed σ α) : (r.map h).seen = h r.seen := rfl

end Observed

/-- `h` turns all that `o` takes in into what `o'` takes in. -/
structure Observer.Carries (o : Observer σ) (o' : Observer τ) (h : σ → τ) : Prop where
  event : ∀ s e, h (o.event s e) = o'.event (h s) e
  notice : ∀ s n, h (o.notice s n) = o'.notice (h s) n

theorem Observer.carries_silent (o : Observer σ) : o.Carries .silent fun _ => () :=
  ⟨fun _ _ => rfl, fun _ _ => rfl⟩

namespace Machine
variable {o : Observer σ} {o' : Observer τ} {h : σ → τ}

theorem execute_map (c : o.Carries o' h) (s : σ) (m : Machine) :
    execute o' (h s) m = (execute o s m).map h := by
  unfold execute
  dsimp only
  split
  · simp [Observed.map,c.event]
  · split
    · simp [Observed.map,c.event]
    · split <;> simp [Observed.map,c.event]

theorem retractThrough_map (c : o.Carries o' h) (target : Nat) (l : List Nat) (s : σ)
    (m : Machine) :
    retractThrough o' target l (h s) m =
      (h (retractThrough o target l s m).1,(retractThrough o target l s m).2) := by
  induction l generalizing s m with
  | nil => rfl
  | cons i rest ih =>
      simp only [retractThrough,← c.event]
      split
      · rfl
      · exact ih _ _

theorem abandon_map (c : o.Carries o' h) (s : σ) (m : Machine) :
    abandon o' (h s) m = (h (abandon o s m).1,(abandon o s m).2) := by
  unfold abandon
  split
  · rfl
  · simp only [retractThrough_map c,c.notice]

theorem seekFlip_map (c : o.Carries o' h) (l : List Nat) (s : σ) (m : Machine) :
    seekFlip o' l (h s) m = (seekFlip o l s m).map h := by
  induction l generalizing s m with
  | nil => simp [seekFlip,Observed.map,c.notice]
  | cons i rest ih =>
      simp only [seekFlip,← c.event]
      split
      · simp [Observed.map,c.notice]
      · exact ih _ _

theorem repair_map (c : o.Carries o' h) (s : σ) (m : Machine) :
    repair o' (h s) m = (repair o s m).map h := by
  simp only [repair,abandon_map c]
  exact seekFlip_map c _ _ _

theorem stepWith_map (c : o.Carries o' h) (s : σ) (m : Machine) :
    stepWith o' (h s) m = (stepWith o s m).map h := by
  unfold stepWith
  split
  · simp [execute_map c,Observed.map]
  · exact repair_map c s m
  · rfl

/-- A transition is the same whoever observes it. -/
theorem stepWith_silent (o : Observer σ) (s : σ) (m : Machine) :
    m.step = (stepWith o s m).map fun _ => () :=
  stepWith_map o.carries_silent s m

theorem result_stepWith (o : Observer σ) (s : σ) (m : Machine) :
    (stepWith o s m).result = m.step.result := by
  rw [stepWith_silent o s m,Observed.result_map]

theorem machine_stepWith (o : Observer σ) (s : σ) (m : Machine) :
    (stepWith o s m).machine = m.step.machine := by
  rw [stepWith_silent o s m,Observed.machine_map]

theorem runWith_of_error (o : Observer σ) (s : σ) {m : Machine} {e : RepairExhausted}
    (failed : m.step.result = .error e) :
    runWith o s m = ⟨.error e,m.step.machine,(stepWith o s m).seen⟩ := by
  rw [← result_stepWith o s] at failed
  rw [← machine_stepWith o s,runWith]
  split
  · simp_all
  · simp_all

theorem runWith_of_halted (o : Observer σ) (s : σ) {m : Machine}
    (halted : m.step.result = .ok .halted) :
    runWith o s m = ⟨.ok m.step.machine.outcome,m.step.machine,(stepWith o s m).seen⟩ := by
  rw [← result_stepWith o s] at halted
  rw [← machine_stepWith o s,runWith]
  split
  · simp_all
  · simp_all

theorem runWith_of_ok (o : Observer σ) (s : σ) {m : Machine} {t : Transition}
    (went : m.step.result = .ok t) (going : t ≠ .halted) :
    runWith o s m = runWith o (stepWith o s m).seen m.step.machine := by
  rw [← result_stepWith o s] at went
  rw [← machine_stepWith o s,runWith]
  split
  · simp_all
  · simp_all

/-- A halted machine has nothing to do and nothing to tell. -/
theorem stepWith_halted {m : Machine} (halted : m.phase = .halted) (o : Observer σ) (s : σ) :
    stepWith o s m = ⟨.ok .halted,m,s⟩ := by
  rw [stepWith,halted]

theorem step_halted {m : Machine} (halted : m.phase = .halted) : m.step = ⟨.ok .halted,m,()⟩ :=
  stepWith_halted halted .silent ()

theorem runWith_halted {m : Machine} (halted : m.phase = .halted) (o : Observer σ) (s : σ) :
    runWith o s m = ⟨.ok m.outcome,m,s⟩ := by
  have ended : m.step.result = .ok .halted := congrArg Observed.result (step_halted halted)
  rw [runWith_of_halted o s ended,stepWith_halted halted,step_halted halted]

/-- Every step but the last lowers the weight, which is what a run recurses on. -/
theorem weight_step_lt {m : Machine} {t : Transition} (went : m.step.result = .ok t)
    (going : t ≠ .halted) : m.step.machine.weight < m.weight :=
  weight_lt_of_stepWith .silent () m went going

theorem runWith_map (c : o.Carries o' h) (s : σ) (m : Machine) :
    runWith o' (h s) m = (runWith o s m).map h := by
  induction hw : m.weight using Nat.strongRecOn generalizing s m with
  | ind w ih =>
      have seen := congrArg Observed.seen (stepWith_map c s m)
      rw [Observed.seen_map] at seen
      cases result : m.step.result with
      | error e => rw [runWith_of_error o' _ result,runWith_of_error o _ result,seen]; rfl
      | ok t =>
          by_cases ht : t = .halted
          · subst ht
            rw [runWith_of_halted o' _ result,runWith_of_halted o _ result,seen]
            rfl
          · rw [runWith_of_ok o' _ result ht,runWith_of_ok o _ result ht,seen]
            exact ih _ (hw ▸ weight_step_lt result ht) _ _ rfl

/-- A run is the same whoever observes it. -/
theorem runWith_silent (o : Observer σ) (s : σ) (m : Machine) :
    m.run = (runWith o s m).map fun _ => () :=
  runWith_map o.carries_silent s m

theorem result_runWith (o : Observer σ) (s : σ) (m : Machine) :
    (runWith o s m).result = m.run.result := by
  rw [runWith_silent o s m,Observed.result_map]

theorem machine_runWith (o : Observer σ) (s : σ) (m : Machine) :
    (runWith o s m).machine = m.run.machine := by
  rw [runWith_silent o s m,Observed.machine_map]

end Machine
end LoopRepair
