import LoopRepair.Observer

/-!
# One transition

A running machine executes the instruction at its program counter, unless that was
visited before or there is none. A looping machine repairs: it retracts the path back
through its latest flip, which failed, and goes on retracting until it stands at an
instruction that it may flip. When the trail is exhausted the repair fails, and so
does every later one. A halted machine stays as it is.
-/
namespace LoopRepair

inductive Transition where
  | executed (index : Nat)
  | looped (index : Nat)
  | deadEnd (index : Nat)
  | repaired (flip : Flip)
  | halted
  deriving DecidableEq, Repr

/-- No single flip on the execution path lets the program end. -/
structure RepairExhausted where
  repairs : Nat
  deriving DecidableEq, Repr

def RepairExhausted.message (e : RepairExhausted) : String :=
  "repair exhausted after " ++ toString e.repairs ++
    " attempt(s): no single nop/jmp flip on the execution path terminates"

namespace Machine

variable {σ : Type}

/-- Execute one instruction, or notice that the path has left the program or closed a
loop. A revisited instruction is not executed and not counted. -/
def execute (o : Observer σ) (s : σ) (m : Machine) : Observed σ Transition :=
  let i := m.pc
  match m.program.get? i with
  | none => ⟨.halted, { m with phase := .halted }, o.event s (.halted m.outcome)⟩
  | some a =>
      if a.visits ≠ 0 then
        ⟨.looped i, { m with phase := .looping }, o.event s (.looped i)⟩
      else
        let accumulator := a.effect m.accumulator
        let s := o.event s (.executed i a.visit accumulator)
        let m := { m with
          program := m.program.update i Instruction.visit
          accumulator := accumulator
          trail := i :: m.trail
          steps := m.steps + 1 }
        match a.next? i with
        | some pc => ⟨.executed i, { m with pc := pc }, s⟩
        | none =>
            ⟨.deadEnd i, { m with phase := .looping }, o.event s (.deadEnd i a.argument)⟩

/-- Retract the given visits, which are the whole trail, up to the newest visit of
`target`. -/
def retractThrough (o : Observer σ) (target : Nat) : List Nat → σ → Machine → σ × Machine
  | [], s, m => (s, m)
  | i :: rest, s, m =>
      let m := m.retract i rest
      let s := o.event s (.retracted i m.accumulator)
      if i = target then (s, m) else retractThrough o target rest s m

/-- Give up the flip in effect, if any, with everything executed since. -/
def abandon (o : Observer σ) (s : σ) (m : Machine) : σ × Machine :=
  match m.flip with
  | none => (s, m)
  | some f =>
      let (s, m) := retractThrough o f.index m.trail s m
      (o.notice s (.restored f.index), m)

/-- Retract the given visits, which are the whole trail, until one has led to an
instruction that may be flipped, and flip it. -/
def seekFlip (o : Observer σ) : List Nat → σ → Machine →
    Observed σ (Except RepairExhausted Transition)
  | [], s, m => ⟨.error ⟨m.repairs⟩, m, o.notice s (.exhausted m.repairs)⟩
  | i :: rest, s, m =>
      let m := m.retract i rest
      let s := o.event s (.retracted i m.accumulator)
      match m.program.flipAt? i with
      | some f =>
          let s := o.event s (.flipped f)
          let m := { m with
            program := m.program.apply f
            flip := some f
            pc := i
            phase := .running }
          ⟨.ok (.repaired f), m, o.notice s (.applied f m.repairs)⟩
      | none => seekFlip o rest s m

/-- Move on to the next flip that is worth a try. -/
def repair (o : Observer σ) (s : σ) (m : Machine) :
    Observed σ (Except RepairExhausted Transition) :=
  let (s, m) := abandon o s { m with repairs := m.repairs + 1 }
  seekFlip o m.trail s m

/-- One transition, told to an observer in the state `s`. -/
def stepWith (o : Observer σ) (s : σ) (m : Machine) :
    Observed σ (Except RepairExhausted Transition) :=
  match m.phase with
  | .running =>
      let r := execute o s m
      ⟨.ok r.result, r.machine, r.seen⟩
  | .looping => repair o s m
  | .halted => ⟨.ok .halted, m, s⟩

/-- One transition. -/
def step (m : Machine) : Observed Unit (Except RepairExhausted Transition) :=
  stepWith .silent () m

end Machine
end LoopRepair
