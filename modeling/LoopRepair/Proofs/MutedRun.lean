import LoopRepair.Proofs.RunVerdict
import LoopRepair.Proofs.RestartAgreement
import LoopRepair.Proofs.VisitLedger

/-!
# What is added never steers a run

Nothing that a machine decides depends on what its program adds: not where a jump leads, not
what a repair may flip, not what counts as visited. This is shown by muting a program, which
leaves its instructions nothing to add. The muted machine makes the transitions of the machine
itself, with an accumulator that stays at zero. So programs that are the same once they are
muted have one course, and the accumulator of each is the sum of what it added along it.
-/
namespace LoopRepair

namespace Instruction
variable {a : Instruction}

/-- The instruction with nothing to add. -/
def muted (a : Instruction) : Instruction :=
  { a with argument := if a.operation = .acc then 0 else a.argument }

@[simp] theorem operation_muted (a : Instruction) : a.muted.operation = a.operation := rfl
@[simp] theorem visits_muted (a : Instruction) : a.muted.visits = a.visits := rfl

@[simp] theorem next?_muted (a : Instruction) : a.muted.next? = a.next? := by
  funext i
  cases op : a.operation <;> simp [next?,muted,op]

@[simp] theorem flippable_muted (a : Instruction) : a.muted.flippable = a.flippable := by
  cases op : a.operation <;> simp [flippable,muted,op]

theorem effect_muted (a : Instruction) : a.muted.effect 0 = 0 := by
  cases op : a.operation <;> simp [effect,muted,op]

theorem muted_eq_muted_iff {a b : Instruction} : b.muted = a.muted ↔
    b.operation = a.operation ∧ b.visits = a.visits ∧
      (a.operation ≠ .acc → b.argument = a.argument) := by
  obtain ⟨op,argument,visits⟩ := a
  obtain ⟨op',argument',visits'⟩ := b
  cases op <;> cases op' <;> simp [muted,and_comm]

theorem muted_visit (a : Instruction) : a.visit.muted = a.muted.visit := rfl

theorem muted_exchanged (a : Instruction) : a.exchanged.muted = a.muted.exchanged := by
  cases op : a.operation <;> simp [exchanged,muted,op]

end Instruction

namespace Program
variable {p q : Program} {l : List Nat} {n : Option Nat}

def muted (p : Program) : Program := ofList (p.toList.map Instruction.muted)

theorem get?_muted (p : Program) (i : Nat) :
    p.muted.get? i = (p.get? i).map Instruction.muted := by
  simp [muted,get?,ofList,toList]

theorem update_muted (p : Program) (i : Nat) {f : Instruction → Instruction}
    (h : ∀ a, (f a).muted = f a.muted) : (p.update i f).muted = p.muted.update i f := by
  apply ext_get?
  intro j
  rw [get?_muted,get?_update,get?_update,get?_muted]
  by_cases e : i = j <;> simp [e,Function.comp_def,h]

theorem visiting_muted (p : Program) (l : List Nat) :
    (p.visiting l).muted = p.muted.visiting l := by
  induction l with
  | nil => rfl
  | cons i l ih => rw [visiting,update_muted _ _ Instruction.muted_visit,ih,visiting]

theorem flipAt?_muted (p : Program) (i : Nat) : p.muted.flipAt? i = p.flipAt? i := by
  rw [flipAt?,flipAt?,get?_muted]
  cases p.get? i <;> simp

theorem nextFlip?_muted (p : Program) (l : List Nat) : p.muted.nextFlip? l = p.nextFlip? l := by
  induction l with
  | nil => rfl
  | cons i l ih => rw [nextFlip?,nextFlip?,flipAt?_muted,ih]

theorem apply_muted {f : Flip} (h : p.flipAt? f.index = some f) :
    (p.apply f).muted = p.muted.apply f := by
  have same : p.muted.flipAt? f.index = some f := (p.flipAt?_muted _).trans h
  rw [apply_eq_exchange h,apply_eq_exchange same]
  exact update_muted p _ Instruction.muted_exchanged

theorem tally_muted (p : Program) (l : List Nat) : p.muted.tally l = 0 := by
  induction l with
  | nil => rfl
  | cons i l ih =>
      rw [tally,ih,get?_muted]
      cases p.get? i with
      | none => rfl
      | some a => exact a.effect_muted

/-- A path is one of the muted program, too. -/
theorem Path.muted (h : p.Path l n) : p.muted.Path l n := by
  induction h with
  | start => exact .start
  | @step l i a _ ha fresh out ih =>
      have here : p.muted.get? i = some a.muted := by rw [get?_muted,ha,Option.map_some]
      rw [← a.next?_muted]
      exact .step ih here fresh out

/-- The programs have the same operations and visits, and all arguments but those that are
added. -/
structure DifferInAddends (p q : Program) : Prop where
  operation : q.operation? = p.operation?
  visits : q.visits? = p.visits?
  argument : ∀ i, p.operation? i ≠ some .acc → q.argument? i = p.argument? i

theorem DifferInAddends.muted_eq (h : p.DifferInAddends q) : q.muted = p.muted := by
  apply ext_get?
  intro i
  have operation := congrFun h.operation i
  have visits := congrFun h.visits i
  have argument := h.argument i
  rw [get?_muted,get?_muted]
  unfold operation? visits? argument? at *
  cases ha : p.get? i with
  | none => simpa [ha] using operation
  | some a =>
      cases hb : q.get? i with
      | none => simp [ha,hb] at operation
      | some b =>
          simp only [ha,hb,Option.map_some,Option.some.injEq] at operation visits argument
          exact congrArg some (Instruction.muted_eq_muted_iff.2
            ⟨operation,visits,fun other => argument fun e => other (Option.some.inj e)⟩)

theorem operation?_muted (p : Program) : p.muted.operation? = p.operation? := by
  funext i
  rw [operation?,get?_muted,Option.map_map]
  rfl

theorem visits?_muted (p : Program) : p.muted.visits? = p.visits? := by
  funext i
  rw [visits?,get?_muted,Option.map_map]
  rfl

theorem argument?_muted {i : Nat} (h : p.operation? i ≠ some .acc) :
    p.muted.argument? i = p.argument? i := by
  rw [argument?,get?_muted,argument?]
  cases ha : p.get? i with
  | none => rfl
  | some a =>
      have other : a.operation ≠ .acc := by simpa [operation?,ha] using h
      simp [Instruction.muted,other]

/-- Nothing else is left out of a muted program. -/
theorem differInAddends_of_muted_eq (h : q.muted = p.muted) : p.DifferInAddends q where
  operation := by rw [← operation?_muted,h,operation?_muted]
  visits := by rw [← visits?_muted,h,visits?_muted]
  argument := by
    intro i other
    have other' : q.operation? i ≠ some .acc := by
      rwa [← operation?_muted,h,operation?_muted]
    rw [← argument?_muted other',h,argument?_muted other]

end Program

/-- The outcome of a machine with nothing to add. -/
def Outcome.muted (o : Outcome) : Outcome := { o with accumulator := 0 }

theorem map_muted_eq_error_iff {r : Except RepairExhausted Outcome} {e : RepairExhausted} :
    r.map Outcome.muted = .error e ↔ r = .error e := by
  cases r <;> simp [Except.map]

namespace Machine
variable {p q : Program} {m n : Machine} {g : Option Flip} {ts : List Transition}

/-- The machine on the muted program, with nothing added yet. -/
def muted (m : Machine) : Machine := { m with program := m.program.muted, accumulator := 0 }

theorem Found.muted (h : Found p g) : Found p.muted g := by
  intro f hf
  exact (p.flipAt?_muted _).trans (h f hf)

theorem flipped_muted (h : Found p g) : (p.flipped g).muted = p.muted.flipped g := by
  cases g with
  | none => rfl
  | some f => exact Program.apply_muted (h f rfl)

theorem place_muted (h : Found p g) (m : Machine) (l : List Nat) :
    (m.place p g l).muted = m.muted.place p.muted g l := by
  simp only [muted,place,Program.visiting_muted,flipped_muted h,Program.tally_muted]

theorem execute_muted (m : Machine) : execute .silent () m.muted =
    ⟨(execute .silent () m).result,(execute .silent () m).machine.muted,()⟩ := by
  unfold execute
  dsimp only [muted]
  rw [Program.get?_muted]
  cases m.program.get? m.pc with
  | none => rfl
  | some a =>
      simp only [Option.map_some,Instruction.visits_muted,Instruction.next?_muted,
        Instruction.effect_muted,← Program.update_muted _ _ Instruction.muted_visit]
      by_cases seen : a.visits ≠ 0
      · simp only [if_pos seen]
      · simp only [if_neg seen]
        cases a.next? m.pc <;> rfl

theorem Tracks.repair_muted (h : Tracks p m) (looping : m.phase = .looping) :
    repair .silent () m.muted =
      ⟨(repair .silent () m).result,(repair .silent () m).machine.muted,()⟩ := by
  obtain ⟨_,path,_⟩ := h.path
  have on := h.flip_mem (by simp [looping])
  have quiet := path.muted
  rw [flipped_muted h.found] at quiet
  have repaired := repair_place (m := m) h.found path on
  have muted := repair_place (m := m.muted) h.found.muted quiet on
  rw [← h.placed] at repaired
  rw [← place_muted h.found,← h.placed,Program.nextFlip?_muted] at muted
  rw [repaired,muted]
  cases chosen : p.nextFlip? (Program.choices m.trail m.flip) with
  | none =>
      have back := place_muted (p := p) found_none m []
      simp only [← back]
      rfl
  | some c =>
      obtain ⟨f,r⟩ := c
      have found : Found p (some f) := by
        intro e he
        cases he
        exact (Program.nextFlip?_eq_some chosen).1
      have back := place_muted found m r
      simp only [← back]
      rfl

/-- What there is to add shows in the accumulator only. -/
theorem Tracks.step_muted (h : Tracks p m) :
    m.muted.step = ⟨m.step.result,m.step.machine.muted,()⟩ := by
  have same : m.muted.phase = m.phase := rfl
  unfold Machine.step stepWith
  rw [same]
  cases phase : m.phase with
  | running =>
      simp only [execute_muted]
  | looping => exact h.repair_muted phase
  | halted => rfl

theorem Tracks.after_muted (h : Tracks p m) (k : Nat) : m.muted.after k = (m.after k).muted := by
  induction k generalizing m with
  | zero => rfl
  | succ k ih =>
      rw [Machine.after,h.step_muted]
      exact ih h.step

theorem Makes.muted (made : Makes m ts n) (h : Tracks p m) : Makes m.muted ts n.muted := by
  induction made with
  | nil m => exact .nil _
  | cons went going _ ih =>
      refine .cons ?_ going ?_
      · rw [h.step_muted]
        exact went
      · rw [h.step_muted]
        exact ih h.step

theorem Concludes.muted {r : Except RepairExhausted Outcome} (concluded : m.Concludes r)
    (h : Tracks p m) : m.muted.Concludes (r.map Outcome.muted) := by
  cases r with
  | ok o =>
      obtain ⟨halted,rfl⟩ := concluded
      refine ⟨?_,?_⟩
      · rw [h.step_muted]
        exact halted
      · rw [h.step_muted]
        rfl
  | error e =>
      have failed : m.step.result = .error e := concluded
      change m.muted.step.result = _
      rw [h.step_muted]
      exact failed

theorem start_muted (p : Program) : (start p).muted = start p.muted := rfl

/-- The muted program is run to the same end. -/
theorem run_muted (p : Program) : (start p.muted).run =
    ⟨p.run.map Outcome.muted,(start p).run.machine.muted,()⟩ := by
  obtain ⟨ts,n,made,ended⟩ := (start p).exists_end
  obtain ⟨r,concluded⟩ := ended.concludes
  have track := made.tracks (tracks_start p)
  have quiet := (concluded.muted track).run
  rw [track.step_muted,← (made.muted (tracks_start p)).run,start_muted] at quiet
  rw [quiet,Program.run,made.run,concluded.run]

/-- The machines are the same but for what there is to add and what has been added. -/
structure DifferInSums (m n : Machine) : Prop where
  program : m.program.DifferInAddends n.program
  rest : n = { m with program := n.program, accumulator := n.accumulator }

theorem differInSums_of_muted_eq (h : n.muted = m.muted) : m.DifferInSums n := by
  refine ⟨Program.differInAddends_of_muted_eq (congrArg Machine.program h),?_⟩
  calc
    n = { n.muted with program := n.program, accumulator := n.accumulator } := rfl
    _ = { m with program := n.program, accumulator := n.accumulator } := by rw [h]; rfl

theorem DifferInSums.history (h : m.DifferInSums n) : n.history = m.history :=
  (congrArg Machine.history h.rest).trans rfl

/-- Machines that are the same once they are muted make the same transition. -/
theorem Tracks.result_of_muted_eq (h : Tracks p m) (k : Tracks q n) (same : n.muted = m.muted) :
    n.step.result = m.step.result := by
  have quiet := congrArg (fun m => m.step.result) same
  simp only [k.step_muted,h.step_muted] at quiet
  exact quiet

/-- The accumulator is the sum of what the program, as it was at the outset, adds along the
history. -/
theorem Tracks.accumulator_eq_addends (h : Tracks p m) :
    m.accumulator = Int64.ofInt (p.addends m.history).sum := by
  rw [h.accumulator,Program.tally_eq_sum,history,Program.sum_addends_reverse]

end Machine

namespace Program
variable {p q : Program} {o : Outcome}
open Machine (start)

/-- The flips of a run are those of the muted program. -/
theorem flips_muted (p : Program) : p.muted.runRecorded.2.filterMap Event.flip? =
    p.runRecorded.2.filterMap Event.flip? := by
  obtain ⟨ts,n,made,ended⟩ := (start p).exists_end
  obtain ⟨r,concluded⟩ := ended.concludes
  have track := Machine.tracks_start p
  rw [flips_runRecorded_of_makes made concluded]
  exact flips_runRecorded_of_makes (made.muted track) (concluded.muted (made.tracks track))

theorem accumulator_of_run (h : p.run = .ok o) :
    o.accumulator = Int64.ofInt (p.addends (start p).run.machine.history).sum := by
  obtain ⟨_,rfl⟩ := (Machine.tracks_start p).halted_of_run h
  exact (Machine.tracks_start p).run.accumulator_eq_addends

/-- Two programs that differ in what they add, and in nothing else, are run in the same way:
call by call the same transition is made and the machines stay the same, the sums apart. So
are the flips and the end, and each sum is that of the own addends along the one history. -/
theorem addends_never_steer (differ : p.DifferInAddends q) :
    (∀ k, ((start q).after k).step.result = ((start p).after k).step.result ∧
      ((start p).after k).DifferInSums ((start q).after k)) ∧
      q.runRecorded.2.filterMap Event.flip? = p.runRecorded.2.filterMap Event.flip? ∧
      (start p).run.machine.DifferInSums (start q).run.machine ∧
      (∀ e, q.run = .error e ↔ p.run = .error e) ∧
      ∀ o, p.run = .ok o → ∃ o', q.run = .ok o' ∧ o' = { o with accumulator := o'.accumulator } ∧
        o.accumulator = Int64.ofInt (p.addends (start p).run.machine.history).sum ∧
        o'.accumulator = Int64.ofInt (q.addends (start p).run.machine.history).sum := by
  have same := differ.muted_eq
  have begun := Machine.tracks_start p
  have begun' := Machine.tracks_start q
  have ran : (start q.muted).run = (start p.muted).run := by rw [same]
  rw [Machine.run_muted,Machine.run_muted,Observed.mk.injEq] at ran
  obtain ⟨result,machine,_⟩ := ran
  have ended := Machine.differInSums_of_muted_eq machine
  refine ⟨?_,?_,ended,?_,?_⟩
  · intro k
    have now : ((start q).after k).muted = ((start p).after k).muted := by
      rw [← begun'.after_muted,← begun.after_muted,Machine.start_muted,Machine.start_muted,same]
    exact ⟨(begun.after k).result_of_muted_eq (begun'.after k) now,
      Machine.differInSums_of_muted_eq now⟩
  · rw [← flips_muted q,same,flips_muted]
  · intro e
    rw [← map_muted_eq_error_iff,result,map_muted_eq_error_iff]
  · intro o hp
    cases hq : q.run with
    | error e => simp [hp,hq,Except.map] at result
    | ok o' =>
        have quiet : o'.muted = o.muted := by simpa [hp,hq,Except.map] using result
        refine ⟨o',rfl,?_,accumulator_of_run hp,?_⟩
        · calc
            o' = { o'.muted with accumulator := o'.accumulator } := rfl
            _ = { o with accumulator := o'.accumulator } := by rw [quiet]; rfl
        · rw [← ended.history]
          exact accumulator_of_run hq

/-- The sample with other numbers to add, of which the sum is too great to be held. -/
def loudSample : Program := ofList [⟨.nop,0,0⟩,⟨.acc,9223372036854775807,0⟩,⟨.jmp,4,0⟩,
  ⟨.acc,-4,0⟩,⟨.jmp,-3,0⟩,⟨.acc,0,0⟩,⟨.acc,2,0⟩,⟨.jmp,-4,0⟩,⟨.acc,9,0⟩]

/-- It fails with the same flip first, succeeds with the same one, and takes as long. -/
theorem loudSample_steered : sample.DifferInAddends loudSample ∧
    sample.run = .ok ⟨some ⟨7,.jmp⟩,8,11,2⟩ ∧
    ((start loudSample).after 8).step.result = .ok (.repaired ⟨4,.jmp⟩) ∧
    ∃ x, loudSample.run = .ok ⟨some ⟨7,.jmp⟩,x,11,2⟩ ∧
      x = Int64.ofInt (loudSample.addends (start sample).run.machine.history).sum := by
  have differ : sample.DifferInAddends loudSample := differInAddends_of_muted_eq rfl
  have run : sample.run = .ok ⟨some ⟨7,.jmp⟩,8,11,2⟩ := by
    rw [run_eq]
    rfl
  obtain ⟨calls,_,_,_,ended⟩ := addends_never_steer differ
  obtain ⟨o',ran,same,_,sum⟩ := ended _ run
  refine ⟨differ,run,(calls 8).1.trans ?_,o'.accumulator,ran.trans (congrArg Except.ok same),sum⟩
  rfl

end Program
end LoopRepair
