import LoopRepair.Proofs.RepairSearch

/-!
# What a run says about its program

The outcome of a run holds of the plain execution, which counts no visits: a program
reported without a flip halts as it stands, and one reported with a flip halts once
that flip is made. Where no instruction counts as visited from the outset, the converse
holds as well. A failed attempt closes a set of indices that the plain execution cannot
leave; exchanging an operation outside of it changes nothing, and exchanging one inside
that a repair may not flip keeps it closed. So a run that exhausts the repairs has ruled
out every exchange, on the path or not.
-/
namespace LoopRepair

/-- An instruction that a repair may not flip leads on as before when it is exchanged, or
back to itself. -/
theorem Instruction.next?_exchanged {a : Instruction} (h : a.flippable = false) (i : Nat) :
    a.exchanged.next? i = a.next? i ∨ a.exchanged.next? i = some i := by
  obtain ⟨operation,argument,visits⟩ := a
  cases operation with
  | nop =>
      have still : argument = 0 := by simpa [flippable] using h
      subst still
      right
      change jumpTarget? i 0 = some i
      rw [jumpTarget?_eq_some_iff]
      simp
  | acc => exact .inl rfl
  | jmp => cases h

namespace Program
variable {p : Program} {l : List Nat} {i : Nat} {o : Outcome} {e : RepairExhausted}

/-- Only a flip inside can open a closed set of indices. -/
theorem Closed.exchange (h : p.Closed l) (stiff : i ∈ l → p.flipAt? i = none) :
    (p.exchange i).Closed l := by
  refine ⟨h.start,?_⟩
  intro j hj
  obtain ⟨a,ha,inside⟩ := h.next j hj
  by_cases e : i = j
  · subst e
    have fixed : a.flippable = false := by
      have := stiff hj
      simpa [flipAt?,ha] using this
    refine ⟨a.exchanged,?_,?_⟩
    · rw [get?_exchange,if_pos rfl,ha,Option.map_some]
    · rcases Instruction.next?_exchanged fixed i with same | back
      · rw [same]
        exact inside
      · rw [back]
        intro k hk
        cases hk
        exact hj
  · refine ⟨a,?_,inside⟩
    rw [get?_exchange,if_neg e,ha]

/-- A run that reports no flip is the attempt of the program. -/
theorem run_ok_none (h : p.run = .ok o) (none : o.flip = none) :
    p.attempt.halted = true ∧ o = ⟨.none,p.attempt.accumulator,p.attempt.path.length,0⟩ := by
  rw [run_eq] at h
  cases halted : p.attempt.halted with
  | true =>
      rw [searchOutcome_of_halted halted] at h
      cases h
      exact ⟨rfl,rfl⟩
  | false =>
      rw [searchOutcome_of_failed halted] at h
      obtain ⟨_,_,rfl⟩ := outcomeOf_eq_ok h
      cases none

/-- A run that reports a flip has attempted the flipped program, after the program as it
stands had failed. -/
theorem run_ok_some {f : Flip} (h : p.run = .ok o) (some : o.flip = some f) :
    p.attempt.halted = false ∧ p.flipAt? f.index = .some f ∧
      (p.apply f).attempt.halted = true ∧ o.accumulator = (p.apply f).attempt.accumulator := by
  rw [run_eq] at h
  cases halted : p.attempt.halted with
  | true =>
      rw [searchOutcome_of_halted halted] at h
      cases h
      cases some
  | false =>
      rw [searchOutcome_of_failed halted] at h
      obtain ⟨⟨g,a⟩,first,rfl⟩ := outcomeOf_eq_ok h
      cases some
      obtain ⟨_,found,ended⟩ := mem_trials (List.mem_of_find?_eq_some first)
      have works := List.find?_some first
      rw [← ended]
      exact ⟨rfl,found,works,rfl⟩

/-- A run that fails has attempted the program and every flip on its path. -/
theorem run_error (h : p.run = .error e) : p.attempt.halted = false ∧
    ∀ i ∈ p.attempt.path, ∀ f, p.flipAt? i = some f → (p.apply f).attempt.halted = false := by
  rw [run_eq] at h
  cases halted : p.attempt.halted with
  | true =>
      rw [searchOutcome_of_halted halted] at h
      cases h
  | false =>
      rw [searchOutcome_of_failed halted,trials_of_failed halted] at h
      obtain ⟨none,_⟩ := outcomeOf_eq_error h
      rw [find?_upToHalted,List.find?_eq_none] at none
      refine ⟨rfl,fun i on f hf => ?_⟩
      have index := flipAt?_index hf
      subst index
      exact Bool.eq_false_iff.2 (none (f,(p.apply f).attempt) (mem_trialsAlong.2 ⟨on,hf,rfl⟩))

/-- If a program fails without a trap, an exchange that helps is a flip on its path. -/
theorem exists_flip_of_halts_exchange (unvisited : p.Unvisited)
    (failed : p.attempt.halted = false) (h : (p.exchange i).Halts) :
    i ∈ p.attempt.path ∧ ∃ f, p.flipAt? i = some f ∧ (p.apply f).attempt.halted = true := by
  -- Off the path, or on it where no repair may flip, the failed attempt stays closed.
  by_cases stiff : i ∈ p.attempt.path → p.flipAt? i = none
  · exact absurd h ((closed_of_attempt unvisited failed).exchange stiff).not_halts
  · obtain ⟨on,flippable⟩ := Classical.not_imp.1 stiff
    obtain ⟨f,hf⟩ := Option.ne_none_iff_exists'.1 flippable
    have index := flipAt?_index hf
    subst index
    refine ⟨on,f,hf,?_⟩
    rw [apply_eq_exchange hf]
    exact (attempt_halted_iff (unvisited.exchange f.index)).2 h

theorem halts_exchange {f : Flip} (hf : p.flipAt? f.index = some f)
    (h : (p.apply f).attempt.halted = true) : (p.exchange f.index).Halts := by
  rw [← apply_eq_exchange hf]
  exact ⟨_,_,halts_of_attempt h⟩

/-- What a run reports holds of the plain execution. -/
theorem run_sound (h : p.run = .ok o) :
    (o.flip = none → p.HaltsAfter o.steps o.accumulator ∧ o.repairs = 0) ∧
      ∀ f, o.flip = some f →
        (∃ a, p.get? f.index = some a ∧ a.flippable = true ∧ a.operation = f.replaced) ∧
          p.flip f.index = (some f,p.apply f) ∧
          ∃ n, (p.apply f).HaltsAfter n o.accumulator := by
  constructor
  · intro none
    obtain ⟨halted,rfl⟩ := run_ok_none h none
    have halts := halts_of_attempt halted
    exact ⟨halts,rfl⟩
  · intro f some
    obtain ⟨_,found,halted,total⟩ := run_ok_some h some
    obtain ⟨a,ha,flippable,hf⟩ := flipAt?_eq_some_iff.1 found
    have halts := halts_of_attempt halted
    rw [← total] at halts
    refine ⟨⟨a,ha,flippable,?_⟩,?_,_,halts⟩
    · rw [hf]
    · simp only [flip,found]

/-- A program whose first flip fails, at 4, and whose second one helps, at 7. -/
def sample : Program := ofList [⟨.nop,0,0⟩,⟨.acc,1,0⟩,⟨.jmp,4,0⟩,⟨.acc,3,0⟩,⟨.jmp,-3,0⟩,
  ⟨.acc,-99,0⟩,⟨.acc,1,0⟩,⟨.jmp,-4,0⟩,⟨.acc,6,0⟩]

theorem sample_repaired : sample.run = .ok ⟨some ⟨7,.jmp⟩,8,11,2⟩ ∧
    sample.flip 7 = (some ⟨7,.jmp⟩,sample.apply ⟨7,.jmp⟩) ∧
    ∃ n, (sample.apply ⟨7,.jmp⟩).HaltsAfter n 8 := by
  have run : sample.run = .ok ⟨some ⟨7,.jmp⟩,8,11,2⟩ := by
    rw [run_eq]
    rfl
  obtain ⟨_,made,halts⟩ := (run_sound run).2 _ rfl
  exact ⟨run,made,halts⟩

/-- Without a trap, a run that exhausts the repairs has ruled out every exchange. -/
theorem not_halts_of_run_error (unvisited : p.Unvisited) (h : p.run = .error e) :
    ¬ p.Halts ∧ ∀ i, ¬ (p.exchange i).Halts := by
  obtain ⟨failed,all⟩ := run_error h
  constructor
  · rw [← attempt_halted_iff unvisited,failed]
    exact Bool.false_ne_true
  · intro i halts
    obtain ⟨on,f,hf,works⟩ := exists_flip_of_halts_exchange unvisited failed halts
    exact absurd ((all i on f hf).symm.trans works) Bool.false_ne_true

theorem halts_or_exchange_halts (h : p.run = .ok o) : p.Halts ∨ ∃ i, (p.exchange i).Halts := by
  cases flip : o.flip with
  | none => exact .inl ⟨_,_,halts_of_attempt (run_ok_none h flip).1⟩
  | some f =>
      obtain ⟨_,found,works,_⟩ := run_ok_some h flip
      exact .inr ⟨f.index,halts_exchange found works⟩

/-- Without a trap, a run succeeds exactly if one exchange or none lets the program halt. -/
theorem exists_run_ok_iff (unvisited : p.Unvisited) :
    (∃ o, p.run = .ok o) ↔ p.Halts ∨ ∃ i, (p.exchange i).Halts := by
  constructor
  · rintro ⟨o,h⟩
    exact halts_or_exchange_halts h
  · intro halts
    cases h : p.run with
    | ok o => exact ⟨o,rfl⟩
    | error e =>
        obtain ⟨stays,none⟩ := not_halts_of_run_error unvisited h
        rcases halts with halts | ⟨i,halts⟩
        · exact absurd halts stays
        · exact absurd halts (none i)

/-- Without a trap, a program is left as it is exactly if it halts. -/
theorem exists_run_ok_none_iff (unvisited : p.Unvisited) :
    (∃ o, p.run = .ok o ∧ o.flip = none) ↔ p.Halts := by
  rw [← attempt_halted_iff unvisited]
  constructor
  · rintro ⟨o,h,none⟩
    exact (run_ok_none h none).1
  · intro halted
    refine ⟨⟨none,p.attempt.accumulator,p.attempt.path.length,0⟩,?_,rfl⟩
    rw [run_eq,searchOutcome_of_halted halted]

/-- A flip that is the only exchange to let the program halt is the one reported. -/
theorem run_flip_of_unique (unvisited : p.Unvisited) (stays : ¬ p.Halts)
    (halts : (p.exchange i).Halts) (unique : ∀ j, (p.exchange j).Halts → j = i) :
    ∃ o f, p.run = .ok o ∧ o.flip = some f ∧ p.candidate? i = some f := by
  obtain ⟨o,h⟩ := (exists_run_ok_iff unvisited).2 (.inr ⟨i,halts⟩)
  cases flip : o.flip with
  | none => exact absurd ((exists_run_ok_none_iff unvisited).1 ⟨o,h,flip⟩) stays
  | some f =>
      obtain ⟨_,found,works,_⟩ := run_ok_some h flip
      have index := unique f.index (halts_exchange found works)
      rw [flipAt?_eq_candidate?,index] at found
      exact ⟨o,f,h,flip,found⟩

/-- The search is complete: it looks at the flips on one path, and misses nothing. -/
theorem run_complete (unvisited : p.Unvisited) :
    (∀ e, p.run = .error e → ¬ p.Halts ∧ ∀ i, ¬ (p.exchange i).Halts) ∧
      ((∃ o, p.run = .ok o) ↔ p.Halts ∨ ∃ i, (p.exchange i).Halts) ∧
      ((∃ o, p.run = .ok o ∧ o.flip = none) ↔ p.Halts) ∧
      (¬ p.Halts → ∀ i, (p.exchange i).Halts → (∀ j, (p.exchange j).Halts → j = i) →
        ∃ o f, p.run = .ok o ∧ o.flip = some f ∧ p.candidate? i = some f) := by
  refine ⟨?_,exists_run_ok_iff unvisited,exists_run_ok_none_iff unvisited,?_⟩
  · intro e h
    exact not_halts_of_run_error unvisited h
  · intro stays i halts unique
    exact run_flip_of_unique unvisited stays halts unique

/-- A program that no exchange lets halt: its way out at 1 leads to a way back at 2. -/
def hopeless : Program := ofList [⟨.acc,1,0⟩,⟨.jmp,-1,0⟩,⟨.jmp,-2,0⟩]

/-- A program that one exchange lets halt, at 2. At 0 and at 3 an exchange does not help: the
one jumps to itself, and the other is never reached. -/
def strayed : Program := ofList [⟨.nop,0,0⟩,⟨.acc,7,0⟩,⟨.jmp,-2,0⟩,⟨.nop,5,0⟩]

/-- Nothing saves the one program; the other is saved by the only exchange that can. -/
theorem strayed_flip_found :
    (hopeless.Unvisited ∧ hopeless.run = .error ⟨2⟩ ∧ ¬ hopeless.Halts ∧
        ∀ i, ¬ (hopeless.exchange i).Halts) ∧
      strayed.Unvisited ∧ ¬ strayed.Halts ∧ (strayed.exchange 2).Halts ∧
        (∀ j, (strayed.exchange j).Halts → j = 2) ∧
        ∃ o, strayed.run = .ok o ∧ o.flip = some ⟨2,.jmp⟩ := by
  have lost : hopeless.run = .error ⟨2⟩ := by
    rw [run_eq]
    rfl
  have unvisited : strayed.Unvisited := by decide
  obtain ⟨_,_,_,found⟩ := run_complete unvisited
  have stays : ¬ strayed.Halts := by
    have failed : strayed.attempt.halted = false := by decide
    rw [← attempt_halted_iff unvisited,failed]
    exact Bool.false_ne_true
  have saved : (strayed.exchange 2).Halts := ⟨4,7,4,by decide,by decide⟩
  have single : ∀ j < 4, (strayed.exchange j).attempt.halted = true → j = 2 := by decide
  have unique : ∀ j, (strayed.exchange j).Halts → j = 2 := by
    intro j helps
    by_cases inside : j < 4
    · exact single j inside ((attempt_halted_iff (unvisited.exchange j)).2 helps)
    · rw [exchange_of_size_le (Nat.not_lt.1 inside)] at helps
      exact absurd helps stays
  obtain ⟨o,f,ran,flip,candidate⟩ := found stays 2 saved unique
  refine ⟨⟨by decide,lost,(run_complete (by decide)).1 _ lost⟩,unvisited,stays,saved,unique,o,ran,?_⟩
  rw [flip,← candidate]
  rfl

end Program
end LoopRepair
