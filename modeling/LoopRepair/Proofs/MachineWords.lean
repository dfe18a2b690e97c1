import Mathlib.Algebra.Group.Nat.Defs
import LoopRepair.Proofs.VisitLedger

/-!
# The machine on words

Here the machine is told as words carry it out. Visits are counted in 32 bits and indices in 64,
and a number that does not fit is a fault. The target of a jump is reckoned in 128 bits, and one
beyond all indices is taken for the last of them. A visit is taken back only where there is
exactly one; to take back any other is a fault. No fault and no clamp ever shows: on a program
that fits into memory, and whose visits can be counted once more, the machine does on words what
it does on numbers, in whatever way it was reached. Steps and repairs have no part in what it
does; that they fit their words is a matter of how long a run takes (`counters_fit`).
-/
namespace LoopRepair

/-- A number in so many bits, if it fits. -/
def fit? (bits n : Nat) : Option Nat := if n < 2 ^ bits then some n else none

/-- The place of a jump and its offset, added up in 128 bits. -/
def jumpSum (i : UInt64) (offset : Int64) : BitVec 128 :=
  i.toBitVec.setWidth 128 + offset.toBitVec.signExtend 128

/-- The index `offset` places from `i` in 64 bits, unless it lies before the first instruction.
Beyond the last index there is none, and the last one stands for it. -/
def jumpOnWords? (i : UInt64) (offset : Int64) : Option UInt64 :=
  let target := jumpSum i offset
  if target.toInt < 0 then none else some (.ofNat (min target.toNat (2 ^ 64 - 1)))

/-- The sum never overflows. -/
theorem toInt_jumpSum (i : UInt64) (offset : Int64) :
    (jumpSum i offset).toInt = i.toNat + offset.toInt := by
  have index := i.toNat_lt
  have least := offset.le_toInt
  have greatest := offset.toInt_lt
  have wide : Int.bmod (i.toBitVec.toNat : Int) (2 ^ 128) = i.toNat := by
    rw [UInt64.toNat_toBitVec,Int.bmod_eq_of_le] <;> omega
  rw [jumpSum,BitVec.toInt_add,BitVec.toInt_setWidth,BitVec.toInt_signExtend_of_le (by decide),
    wide,Int64.toInt_toBitVec,Int.bmod_eq_of_le] <;> omega

theorem toNat_jumpSum {i : UInt64} {offset : Int64} (behind : 0 ≤ (jumpSum i offset).toInt) :
    ((jumpSum i offset).toNat : Int) = i.toNat + offset.toInt := by
  rw [← toInt_jumpSum]
  rw [BitVec.toInt_eq_toNat_cond] at behind ⊢
  split at behind <;> omega

theorem jumpOnWords?_eq_none_iff {i : UInt64} {offset : Int64} :
    jumpOnWords? i offset = none ↔ (i.toNat : Int) + offset.toInt < 0 := by
  simp [jumpOnWords?,toInt_jumpSum]

/-- A jump from an index that memory has is never clamped. -/
theorem jumpOnWords?_eq_some_iff {i j : UInt64} {offset : Int64} (inside : i.toNat < 2 ^ 63) :
    jumpOnWords? i offset = some j ↔ (j.toNat : Int) = i.toNat + offset.toInt := by
  have greatest := offset.toInt_lt
  have sum := toInt_jumpSum i offset
  unfold jumpOnWords?
  by_cases front : (jumpSum i offset).toInt < 0
  · simp only [if_pos front,reduceCtorEq,false_iff]
    omega
  · have exact := toNat_jumpSum (Int.not_lt.1 front)
    simp only [if_neg front,Option.some.injEq,← UInt64.toNat_inj,UInt64.toNat_ofNat']
    omega

/-- A jump leads on words to where it leads on numbers. -/
theorem map_jumpOnWords? {i : Nat} (inside : i < 2 ^ 63) (offset : Int64) :
    (jumpOnWords? (.ofNat i) offset).map UInt64.toNat = jumpTarget? i offset := by
  have same : (UInt64.ofNat i).toNat = i := UInt64.toNat_ofNat_of_lt' (Nat.lt_trans inside (by decide))
  cases target : jumpOnWords? (.ofNat i) offset with
  | none =>
      rw [jumpOnWords?_eq_none_iff,same] at target
      exact (jumpTarget?_eq_none_iff.2 target).symm
  | some j =>
      rw [jumpOnWords?_eq_some_iff (by omega),same] at target
      exact (jumpTarget?_eq_some_iff.2 target).symm

/-- The index to be executed after this instruction, or a fault. -/
def Instruction.nextOnWords? (a : Instruction) (i : Nat) : Option (Option Nat) :=
  match a.operation with
  | .jmp => some ((jumpOnWords? (.ofNat i) a.argument).map UInt64.toNat)
  | .nop | .acc => (fit? 64 (i + 1)).map some

theorem Instruction.nextOnWords?_eq (a : Instruction) {i : Nat} (inside : i < 2 ^ 63) :
    a.nextOnWords? i = some (a.next? i) := by
  unfold nextOnWords? next?
  cases a.operation with
  | jmp => rw [map_jumpOnWords? inside]
  | nop | acc =>
      have fits : i + 1 < 2 ^ 64 := by omega
      rw [fit?,if_pos fits]
      rfl

namespace Machine
variable {p : Program} {m : Machine} {g : Option Flip} {i : Nat} {l rest : List Nat}
  {next : Option Nat}

/-- Execute one instruction. Its visit is counted before it is known whether it was the first. -/
def executeOnWords? (m : Machine) : Option (Observed Unit Transition) :=
  match m.program.get? m.pc with
  | none => some ⟨.halted,{ m with phase := .halted },()⟩
  | some a =>
      (fit? 32 (a.visits + 1)).bind fun visits =>
        if 1 < visits then some ⟨.looped m.pc,{ m with phase := .looping },()⟩
        else (a.nextOnWords? m.pc).map fun next =>
          let n := { m with
            program := m.program.update m.pc Instruction.visit
            accumulator := a.effect m.accumulator
            trail := m.pc :: m.trail
            steps := m.steps + 1 }
          match next with
          | some pc => ⟨.executed m.pc,{ n with pc := pc },()⟩
          | none => ⟨.deadEnd m.pc,{ n with phase := .looping },()⟩

/-- Take back the visit of `i`, which has to be the only one of an instruction that is there. -/
def retractOnWords? (m : Machine) (i : Nat) (rest : List Nat) : Option Machine :=
  match m.program.get? i with
  | some a => if a.visits = 1 then some (m.retract i rest) else none
  | none => none

/-- Take back visits up to and with that of `target`. -/
def retractThroughOnWords? (target : Nat) : List Nat → Machine → Option Machine
  | [],m => some m
  | i :: rest,m => (m.retractOnWords? i rest).bind fun m =>
      if i = target then some m else retractThroughOnWords? target rest m

/-- Go back to before the flip that is in effect, if there is one. -/
def abandonOnWords? (m : Machine) : Option Machine :=
  match m.flip with
  | none => some m
  | some f => retractThroughOnWords? f.index m.trail m

/-- Take back visits up to the first instruction that can be flipped, and flip it. -/
def seekFlipOnWords? : List Nat → Machine →
    Option (Observed Unit (Except RepairExhausted Transition))
  | [],m => some ⟨.error ⟨m.repairs⟩,m,()⟩
  | i :: rest,m => (m.retractOnWords? i rest).bind fun m =>
      match m.program.flipAt? i with
      | some f =>
          let n := { m with
            program := m.program.apply f
            flip := some f
            pc := i
            phase := .running }
          some ⟨.ok (.repaired f),n,()⟩
      | none => seekFlipOnWords? rest m

def repairOnWords? (m : Machine) : Option (Observed Unit (Except RepairExhausted Transition)) :=
  (abandonOnWords? { m with repairs := m.repairs + 1 }).bind fun m => seekFlipOnWords? m.trail m

def stepOnWords? (m : Machine) : Option (Observed Unit (Except RepairExhausted Transition)) :=
  match m.phase with
  | .running => m.executeOnWords?.map fun r => ⟨.ok r.result,r.machine,()⟩
  | .looping => m.repairOnWords?
  | .halted => some ⟨.ok .halted,m,()⟩

def retractAllOnWords? : List Nat → Machine → Option Machine
  | [],m => some m
  | i :: rest,m => (m.retractOnWords? i rest).bind (retractAllOnWords? rest)

def rewindOnWords? (m : Machine) : Option Machine :=
  (retractAllOnWords? m.trail m).map fun m => { m.unflip with pc := 0, phase := .running }

theorem executeOnWords?_eq (fits : m.program.size < 2 ^ 63)
    (counts : ∀ a, m.program.get? m.pc = some a → a.visits + 1 < 2 ^ 32) :
    m.executeOnWords? = some (execute .silent () m) := by
  unfold executeOnWords? execute
  dsimp only
  cases ha : m.program.get? m.pc with
  | none => rfl
  | some a =>
      dsimp only
      have inside : m.pc < 2 ^ 63 := Nat.lt_trans (Program.lt_size_of_get? ha) fits
      have counted : fit? 32 (a.visits + 1) = some (a.visits + 1) := if_pos (counts a ha)
      simp only [counted,Option.bind_some,Instruction.nextOnWords?_eq a inside]
      by_cases seen : a.visits ≠ 0
      · rw [if_pos (by omega),if_pos seen]
      · rw [if_neg (by omega),if_neg seen]
        cases a.next? m.pc <;> rfl

theorem Found.kept (h : Found p g) (i : Nat) : Found p (keptFlip i g) := by
  cases g with
  | none => exact h
  | some f =>
      rw [keptFlip]
      split
      · exact found_none
      · exact h

/-- What is left of a path goes on with the flip that is left. -/
theorem exists_path_kept (path : (p.flipped g).Path (i :: rest) next) :
    ∃ n, (p.flipped (keptFlip i g)).Path rest n := by
  obtain ⟨older,out,_⟩ := path.of_cons
  cases g with
  | none => exact ⟨_,older⟩
  | some f =>
      rw [keptFlip]
      split
      · rename_i here
        exact ⟨_,(Program.Path.apply_iff (here ▸ out)).1 older⟩
      · exact ⟨_,older⟩

/-- On a path every instruction has been visited once. -/
theorem retractOnWords?_place (valid : Found p g) (path : (p.flipped g).Path (i :: rest) next) :
    (m.place p g (i :: rest)).retractOnWords? i rest = some (m.place p (keptFlip i g) rest) := by
  obtain ⟨a,_,fresh,now⟩ := exists_get?_place m path
  have once : a.visit.visits = 1 := by rw [Instruction.visit,fresh]
  rw [retractOnWords?,now]
  simp only [once,if_true,retract_place valid path]

theorem retractThroughOnWords?_place (valid : Found p g) (path : (p.flipped g).Path l next)
    (target : Nat) : retractThroughOnWords? target l (m.place p g l) =
      some (retractThrough .silent target l () (m.place p g l)).2 := by
  induction l generalizing g next with
  | nil => rfl
  | cons i rest ih =>
      obtain ⟨_,older⟩ := exists_path_kept path
      rw [retractThroughOnWords?,retractThrough,retractOnWords?_place valid path,
        retract_place valid path,Option.bind_some]
      split
      · rfl
      · exact ih (valid.kept i) older

theorem seekFlipOnWords?_place (valid : Found p g) (path : (p.flipped g).Path l next) :
    seekFlipOnWords? l (m.place p g l) = some (seekFlip .silent l () (m.place p g l)) := by
  induction l generalizing g next with
  | nil => rfl
  | cons i rest ih =>
      obtain ⟨_,older⟩ := exists_path_kept path
      rw [seekFlipOnWords?,seekFlip,retractOnWords?_place valid path,retract_place valid path,
        Option.bind_some]
      dsimp only
      cases (m.place p (keptFlip i g) rest).program.flipAt? i with
      | some f => rfl
      | none => exact ih (valid.kept i) older

theorem retractAllOnWords?_place (valid : Found p g) (path : (p.flipped g).Path l next) :
    retractAllOnWords? l (m.place p g l) = some ((m.place p g l).retractAll l) := by
  induction l generalizing g next with
  | nil => rfl
  | cons i rest ih =>
      obtain ⟨_,older⟩ := exists_path_kept path
      rw [retractAllOnWords?,retractAll,retractOnWords?_place valid path,
        retract_place valid path,Option.bind_some]
      exact ih (valid.kept i) older

namespace Tracks

/-- Counts grow by one at most, and only from zero. -/
theorem visits_lt (h : Tracks p m) (counts : ∀ a ∈ p.toList, a.visits < 2 ^ 32 - 1)
    {a : Instruction} (ha : m.program.get? i = some a) : a.visits + 1 < 2 ^ 32 := by
  have here : m.program.visits? i = some a.visits := congrArg _ ha
  by_cases on : i ∈ m.trail
  · rw [(h.visits?_of_mem on).2] at here
    have once := Option.some.inj here
    omega
  · rw [h.visits?_of_not_mem on] at here
    obtain ⟨b,hb,same⟩ := Option.map_eq_some_iff.1 here
    have count := counts b (Array.mem_toList_iff.2 (Array.mem_of_getElem? hb))
    omega

theorem repairOnWords?_eq (h : Tracks p m) (looping : m.phase = .looping) :
    m.repairOnWords? = some (repair .silent () m) := by
  let counted : Machine := { m with repairs := m.repairs + 1 }
  obtain ⟨_,path,_⟩ := h.path
  obtain ⟨_,older⟩ := path.choices
  have given : abandonOnWords? counted = some (abandon .silent () counted).2 := by
    unfold abandonOnWords? abandon
    cases flip : counted.flip with
    | none => rfl
    | some f =>
        have through := retractThroughOnWords?_place (m := counted) h.found path f.index
        rw [← h.placed_repairs] at through
        exact through
  have sought := seekFlipOnWords?_place (m := counted) found_none older
  change (abandonOnWords? counted).bind (fun m => seekFlipOnWords? m.trail m) =
    some (seekFlip .silent (abandon .silent () counted).2.trail ()
      (abandon .silent () counted).2)
  rw [given,h.abandoned looping,Option.bind_some]
  exact sought

theorem stepOnWords?_eq (h : Tracks p m) (fits : p.size < 2 ^ 63)
    (counts : ∀ a ∈ p.toList, a.visits < 2 ^ 32 - 1) :
    m.stepOnWords? = some m.step := by
  unfold stepOnWords? Machine.step stepWith
  cases phase : m.phase with
  | running =>
      rw [executeOnWords?_eq (h.size_program.symm ▸ fits) fun a ha => h.visits_lt counts ha]
      rfl
  | looping => exact h.repairOnWords?_eq phase
  | halted => rfl

theorem rewindOnWords?_eq (h : Tracks p m) : m.rewindOnWords? = some m.rewind := by
  obtain ⟨_,path,_⟩ := h.path
  have back := retractAllOnWords?_place (m := m) h.found path
  rw [← h.placed] at back
  rw [rewindOnWords?,back]
  rfl

end Tracks

/-- However a machine was reached, on a program that memory holds and whose visits can be counted
once more: it does on words what it does on numbers, every count and every index can be raised
by one, and every jump leads to the sum, or nowhere if that is negative. -/
theorem words_suffice (fits : p.size ≤ 2 ^ 63 - 1)
    (counts : ∀ a ∈ p.toList, a.visits < 2 ^ 32 - 1) (h : Reachable p m) :
    m.stepOnWords? = some m.step ∧ m.rewindOnWords? = some m.rewind ∧
      ∀ i a, m.program.get? i = some a → a.visits + 1 < 2 ^ 32 ∧ i + 1 < 2 ^ 64 ∧
        ∀ offset : Int64,
          (jumpOnWords? (.ofNat i) offset = none ↔ (i : Int) + offset.toInt < 0) ∧
          ∀ j, jumpOnWords? (.ofNat i) offset = some j ↔ (j.toNat : Int) = i + offset.toInt := by
  have track := h.tracks
  have held : p.size < 2 ^ 63 := by omega
  refine ⟨track.stepOnWords?_eq held counts,track.rewindOnWords?_eq,?_⟩
  intro i a ha
  have inside := Program.lt_size_of_get? ha
  rw [track.size_program] at inside
  have same : (UInt64.ofNat i).toNat = i :=
    UInt64.toNat_ofNat_of_lt' (Nat.lt_trans (Nat.lt_trans inside held) (by decide))
  refine ⟨track.visits_lt counts ha,by omega,?_⟩
  intro offset
  refine ⟨?_,?_⟩
  · rw [jumpOnWords?_eq_none_iff,same]
  · intro j
    rw [jumpOnWords?_eq_some_iff (by omega),same]

/-- A program at the limits: a jump that leads back as far as any, and a trap whose visits can be
counted just once more. -/
def verge : Program := .ofList
  [⟨.acc,9223372036854775807,0⟩,⟨.jmp,-9223372036854775808,0⟩,⟨.nop,0,4294967294⟩]

/-- Before the trap, with both visits still to be taken back. -/
theorem verge_words_suffice :
    let m := (start verge).after 5
    verge.size ≤ 2 ^ 63 - 1 ∧ (∀ a ∈ verge.toList, a.visits < 2 ^ 32 - 1) ∧ Reachable verge m ∧
      m.history = [0,1] ∧ m.step.result = .error ⟨2⟩ ∧ m.stepOnWords? = some m.step ∧
      m.rewindOnWords? = some m.rewind ∧ 4294967294 + 1 < 2 ^ 32 ∧
      jumpOnWords? (.ofNat 2) (-9223372036854775808) = none ∧
      ∀ j, jumpOnWords? (.ofNat 2) 9223372036854775807 = some j ↔
        (j.toNat : Int) = 2 + (2 ^ 63 - 1) := by
  intro m
  have fits : verge.size ≤ 2 ^ 63 - 1 := by decide
  have counts : ∀ a ∈ verge.toList, a.visits < 2 ^ 32 - 1 := by decide
  have reachable : Reachable verge m := Reachable.start.after 5
  have trap : m.program.get? 2 = some ⟨.nop,0,4294967294⟩ := rfl
  obtain ⟨stepped,rewound,numbers⟩ := words_suffice fits counts reachable
  obtain ⟨count,_,jump⟩ := numbers 2 _ trap
  exact ⟨fits,counts,reachable,rfl,rfl,stepped,rewound,count,
    (jump (-9223372036854775808)).1.2 (by decide),(jump 9223372036854775807).2⟩

end Machine
end LoopRepair
