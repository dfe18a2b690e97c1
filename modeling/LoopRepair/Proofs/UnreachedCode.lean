import LoopRepair.Proofs.RecordedRun
import LoopRepair.Proofs.RepairSearch

/-!
# Code that is not reached

What a machine reads of its program is the instruction that it comes to and the
instructions on its trail. Both are reached in some event of the run, so a program that
differs elsewhere only is run in the same way: two machines that agree on all that is
reached make the same transition, tell the same events and go on agreeing. The instructions
off every attempted path have no part in the answer, in the flips that are tried or in the
counts.
-/
namespace LoopRepair

/-- The index that an event reports to have been reached, for the first time or again. -/
def Event.reached? : Event → Option Nat
  | .executed i _ _ | .looped i => some i
  | .deadEnd _ _ | .retracted _ _ | .flipped _ | .halted _ => none

namespace Program

/-- The programs have one size and the same instructions at the indices with the property
`P`. -/
structure AgreesOn (P : Nat → Prop) (p q : Program) : Prop where
  size : q.size = p.size
  get? : ∀ i, P i → q.get? i = p.get? i

namespace AgreesOn
variable {P : Nat → Prop} {p q : Program} {i : Nat}

theorem update (h : AgreesOn P p q) (i : Nat) (f : Instruction → Instruction) :
    AgreesOn P (p.update i f) (q.update i f) := by
  refine ⟨by rw [size_update,size_update,h.size],?_⟩
  intro j hj
  rw [get?_update,get?_update,h.get? j hj]

theorem flipAt? (h : AgreesOn P p q) (hi : P i) : q.flipAt? i = p.flipAt? i := by
  rw [Program.flipAt?,Program.flipAt?,h.get? i hi]

/-- Past the end there is nothing to agree on. -/
theorem get?_of_inside (h : AgreesOn P p q) (hi : i < p.size → P i) : q.get? i = p.get? i := by
  by_cases inside : i < p.size
  · exact h.get? i (hi inside)
  · have past : p.size ≤ i := Nat.le_of_not_lt inside
    rw [get?_eq_none_iff.2 past,get?_eq_none_iff.2 (h.size ▸ past)]

end AgreesOn
end Program

/-- The machines are the same but for their programs, which agree where `P` holds, and `P`
holds along the trail. -/
inductive Machine.Twin (P : Nat → Prop) (m : Machine) : Machine → Prop
  | intro {q : Program} : m.program.AgreesOn P q → (∀ i ∈ m.trail, P i) →
      Twin P m { m with program := q }

/-- What came of two doings differs by the programs of the machines only. -/
structure Observed.Twin {σ α : Type} (P : Nat → Prop) (r r' : Observed σ α) : Prop where
  result : r'.result = r.result
  machine : Machine.Twin P r.machine r'.machine
  seen : r'.seen = r.seen

namespace Machine
variable {P : Nat → Prop} {m n m' : Machine} {ts : List Transition} {i : Nat}
  {l rest : List Nat} {σ : Type}

theorem Twin.retract (h : Twin P m n) (hi : P i) (older : ∀ j ∈ rest, P j) :
    Twin P (m.retract i rest) (n.retract i rest) := by
  cases h with
  | @intro q agree _ =>
      unfold Machine.retract refunded flippedAt unflip
      simp only [agree.get? i hi]
      cases flip : m.flip with
      | none => exact .intro (agree.update i _) older
      | some f =>
          by_cases here : f.index = i
          · simp only [here,decide_true,if_true]
            exact .intro ((agree.update i _).update _ _) older
          · simp only [here,decide_false]
            exact .intro (agree.update i _) older

namespace Twin

theorem accumulator (h : Twin P m n) : n.accumulator = m.accumulator := by
  cases h
  rfl

theorem outcome (h : Twin P m n) : n.outcome = m.outcome := by
  cases h
  rfl

theorem trail_mem (h : Twin P m n) : n.trail = m.trail ∧ ∀ i ∈ m.trail, P i := by
  cases h with
  | intro _ reached => exact ⟨rfl,reached⟩

theorem retractThrough (h : Twin P m n) (o : Observer σ) (target : Nat) (s : σ)
    (reached : ∀ j ∈ l, P j) :
    (retractThrough o target l s n).1 = (retractThrough o target l s m).1 ∧
      Twin P (retractThrough o target l s m).2 (retractThrough o target l s n).2 := by
  induction l generalizing m n s with
  | nil => exact ⟨rfl,h⟩
  | cons i l ih =>
      obtain ⟨hi,older⟩ := List.forall_mem_cons.1 reached
      have twin := h.retract hi older
      simp only [Machine.retractThrough,twin.accumulator]
      split
      · exact ⟨rfl,twin⟩
      · exact ih twin _ older

theorem abandon (h : Twin P m n) (o : Observer σ) (s : σ) :
    (abandon o s n).1 = (abandon o s m).1 ∧
      Twin P (abandon o s m).2 (abandon o s n).2 := by
  have flip : n.flip = m.flip := by cases h; rfl
  obtain ⟨trail,reached⟩ := h.trail_mem
  unfold Machine.abandon
  rw [flip,trail]
  cases m.flip with
  | none => exact ⟨rfl,h⟩
  | some f =>
      obtain ⟨seen,twin⟩ := h.retractThrough o f.index s reached
      exact ⟨congrArg (o.notice · _) seen,twin⟩

theorem seekFlip (h : Twin P m n) (o : Observer σ) (s : σ) (reached : ∀ j ∈ l, P j) :
    Observed.Twin P (seekFlip o l s m) (seekFlip o l s n) := by
  induction l generalizing m n s with
  | nil =>
      have repairs : n.repairs = m.repairs := congrArg Outcome.repairs h.outcome
      simp only [Machine.seekFlip,repairs]
      exact ⟨rfl,h,rfl⟩
  | cons i l ih =>
      obtain ⟨hi,older⟩ := List.forall_mem_cons.1 reached
      have twin := h.retract hi older
      simp only [Machine.seekFlip,twin.accumulator]
      generalize m.retract i l = m at twin
      generalize n.retract i l = n at twin
      cases twin with
      | @intro q agree trail =>
          simp only [agree.flipAt? hi]
          cases m.program.flipAt? i with
          | none => exact ih (.intro agree trail) _ older
          | some f => exact ⟨rfl,.intro (agree.update _ _) trail,rfl⟩

theorem repair (h : Twin P m n) (o : Observer σ) (s : σ) :
    Observed.Twin P (repair o s m) (repair o s n) := by
  have counted :
      Twin P { m with repairs := m.repairs + 1 } { n with repairs := n.repairs + 1 } := by
    cases h with
    | intro agree trail => exact .intro agree trail
  obtain ⟨seen,twin⟩ := counted.abandon o s
  obtain ⟨trail,reached⟩ := twin.trail_mem
  simp only [Machine.repair,seen,trail]
  exact twin.seekFlip o _ reached

/-- Executing reads the instruction at hand, and no other. -/
theorem execute (h : Twin P m n) (o : Observer σ) (s : σ)
    (here : m.pc < m.program.size → P m.pc) :
    Observed.Twin P (execute o s m) (execute o s n) := by
  cases h with
  | @intro q agree trail =>
      unfold Machine.execute
      simp only [agree.get?_of_inside here]
      cases ha : m.program.get? m.pc with
      | none => exact ⟨rfl,.intro agree trail,rfl⟩
      | some a =>
          have reached := List.forall_mem_cons.2 ⟨here (Program.lt_size_of_get? ha),trail⟩
          by_cases seen : a.visits ≠ 0
          · simp only [if_pos seen]
            exact ⟨rfl,.intro agree trail,rfl⟩
          · simp only [if_neg seen]
            cases a.next? m.pc with
            | none => exact ⟨rfl,.intro (agree.update _ _) reached,rfl⟩
            | some i => exact ⟨rfl,.intro (agree.update _ _) reached,rfl⟩

theorem stepWith (h : Twin P m n) (o : Observer σ) (s : σ)
    (here : m.phase = .running → m.pc < m.program.size → P m.pc) :
    Observed.Twin P (stepWith o s m) (stepWith o s n) := by
  have phase : n.phase = m.phase := by cases h; rfl
  unfold Machine.stepWith
  rw [phase]
  cases running : m.phase with
  | running =>
      obtain ⟨result,machine,seen⟩ := h.execute o s (here running)
      exact ⟨congrArg Except.ok result,machine,seen⟩
  | looping => exact h.repair o s
  | halted => exact ⟨rfl,h,rfl⟩

end Twin

/-- A call reports the instruction that it comes to. -/
theorem exists_reached (running : m.phase = .running) (inside : m.pc < m.program.size) :
    ∃ e ∈ m.events, e.reached? = some m.pc := by
  unfold events stepWith
  rw [running]
  simp only [execute]
  cases ha : m.program.get? m.pc with
  | none => exact absurd (Program.get?_eq_none_iff.1 ha) (Nat.not_le.2 inside)
  | some a =>
      by_cases seen : a.visits ≠ 0
      · simp [seen,Observer.events,Event.reached?]
      · simp only [if_neg seen]
        cases a.next? m.pc <;> simp [Observer.events,Event.reached?]

/-- Where all that a call reports to have reached has the property `P`, twins make the same
transition and report the same. -/
theorem Twin.step (h : Twin P m n) (reached : ∀ e ∈ m.events, ∀ i ∈ e.reached?, P i) :
    n.step.result = m.step.result ∧ n.events = m.events ∧
      Twin P m.step.machine n.step.machine := by
  have here : m.phase = .running → m.pc < m.program.size → P m.pc := by
    intro running inside
    obtain ⟨e,he,at_pc⟩ := exists_reached running inside
    exact reached e he m.pc at_pc
  obtain ⟨result,machine,_⟩ := h.stepWith .silent () here
  exact ⟨result,(h.stepWith .events [] here).seen,machine⟩

theorem Makes.twin (h : Makes m ts n) (twin : Twin P m m')
    (reached : ∀ e ∈ m.eventsOf ts.length, ∀ i ∈ e.reached?, P i) :
    m'.eventsOf ts.length = m.eventsOf ts.length ∧ ∃ n', Makes m' ts n' ∧ Twin P n n' := by
  induction h generalizing m' with
  | nil m => exact ⟨rfl,m',.nil m',twin⟩
  | cons went going _ ih =>
      rw [List.length_cons,eventsOf,List.forall_mem_append] at reached
      obtain ⟨result,told,next⟩ := twin.step reached.1
      obtain ⟨later,n',made,last⟩ := ih next reached.2
      refine ⟨?_,n',.cons (result.trans went) going made,last⟩
      rw [List.length_cons,eventsOf,eventsOf,told,later]

theorem Concludes.twin {r : Except RepairExhausted Outcome} (h : m.Concludes r)
    (twin : Twin P m n) (reached : ∀ e ∈ m.events, ∀ i ∈ e.reached?, P i) : n.Concludes r := by
  obtain ⟨result,_,next⟩ := twin.step reached
  cases r with
  | ok o => exact ⟨result.trans h.1,next.outcome.trans h.2⟩
  | error e => exact result.trans h

end Machine

namespace Program
variable {p q : Program}

/-- The instructions that no event of a run reports to have been reached have no part in the
run: in its events, its result, or what the machine is afterwards, its program apart. -/
theorem runRecorded_congr (size : q.size = p.size)
    (agree : ∀ i ∈ p.runRecorded.2.filterMap Event.reached?, q.get? i = p.get? i) :
    q.runRecorded = p.runRecorded ∧
      (Machine.start q).run.machine = { (Machine.start p).run.machine with
        program := (Machine.start q).run.machine.program } := by
  obtain ⟨ts,n,made,ended⟩ := (Machine.start p).exists_end
  obtain ⟨r,concluded⟩ := ended.concludes
  have recorded := runRecorded_eq made concluded
  let P := fun i => i ∈ p.runRecorded.2.filterMap Event.reached?
  have reached : ∀ e ∈ (Machine.start p).eventsOf (ts.length + 1), ∀ i ∈ e.reached?, P i := by
    intro e he i hi
    have told : p.runRecorded.2 = (Machine.start p).eventsOf (ts.length + 1) :=
      congrArg Prod.snd recorded
    exact List.mem_filterMap.2 ⟨e,told ▸ he,hi⟩
  rw [Machine.eventsOf_succ,made.after_eq,List.forall_mem_append] at reached
  have twin : Machine.Twin P (.start p) (.start q) :=
    .intro ⟨size,agree⟩ (List.forall_mem_nil _)
  obtain ⟨earlier,n',made',last⟩ := made.twin twin reached.1
  have concluded' := concluded.twin last reached.2
  obtain ⟨_,told,final⟩ := last.step reached.2
  constructor
  · rw [recorded,runRecorded_eq made' concluded',Machine.eventsOf_succ,Machine.eventsOf_succ,
      made.after_eq,made'.after_eq,earlier,told]
  · rw [made.run,concluded.run,made'.run,concluded'.run]
    generalize n'.step.machine = m' at final
    cases final
    rfl

/-- A program that jumps over the instruction at 2. Flipped at 4 it still goes round, and
flipped at 3 it ends. -/
def overleap (a : Instruction) : Program :=
  ofList [⟨.acc,3,0⟩,⟨.jmp,2,0⟩,a,⟨.nop,3,0⟩,⟨.jmp,-1,0⟩,⟨.jmp,-2,0⟩]

/-- What stands at 2 may be anything, a trap for one. -/
theorem overleap_recorded :
    let p := overleap ⟨.acc,7,0⟩
    let q := overleap ⟨.jmp,-9,5⟩
    p.runRecorded.2.filterMap Event.reached? = [0,1,3,4,3,4,5,3,3] ∧ p.get? 2 ≠ q.get? 2 ∧
      p.runRecorded.1 = .ok ⟨some ⟨3,.nop⟩,3,7,2⟩ ∧ q.runRecorded = p.runRecorded := by
  have reached : (overleap ⟨.acc,7,0⟩).runRecorded.2.filterMap Event.reached? =
      [0,1,3,4,3,4,5,3,3] := by
    decide +kernel
  have result : (overleap ⟨.acc,7,0⟩).runRecorded.1 = .ok ⟨some ⟨3,.nop⟩,3,7,2⟩ := by
    rw [runRecorded_result,run_eq]
    rfl
  have size : (overleap ⟨.jmp,-9,5⟩).size = (overleap ⟨.acc,7,0⟩).size := rfl
  have agree : ∀ i ∈ (overleap ⟨.acc,7,0⟩).runRecorded.2.filterMap Event.reached?,
      (overleap ⟨.jmp,-9,5⟩).get? i = (overleap ⟨.acc,7,0⟩).get? i := by
    rw [reached]
    decide
  exact ⟨reached,by decide,result,(runRecorded_congr size agree).1⟩

end Program
end LoopRepair
