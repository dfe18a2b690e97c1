import Mathlib.Algebra.Ring.Int.Defs
import LoopRepair.Proofs.MachineCalls

/-!
# The trail as a ledger

Visits and accumulator are accounted for by the trail, after every sequence of calls: an
instruction on it was unvisited at the outset and is visited once, every other one has
the visits it had at the outset, and the accumulator is the sum of what was added along
the trail, taken as whole numbers and wrapped once. Flips enter into none of this.
-/
namespace LoopRepair

namespace Instruction
variable {a : Instruction}

/-- What the instruction adds to the accumulator, as a whole number. -/
def addend? (a : Instruction) : Option Int :=
  match a.operation with
  | .acc => some a.argument.toInt
  | .nop | .jmp => none

theorem effect_of_addend?_eq_none (h : a.addend? = none) (accumulator : Int64) :
    a.effect accumulator = accumulator := by
  cases op : a.operation <;> simp_all [addend?,effect]

theorem effect_of_addend?_eq_some {k : Int} (h : a.addend? = some k) (accumulator : Int64) :
    a.effect accumulator = accumulator + Int64.ofInt k := by
  cases op : a.operation <;> simp_all [addend?,effect]
  rw [← h,Int64.ofInt_toInt]

end Instruction

namespace Program

/-- What the instructions at the indices `l` add, one by one. -/
def addends (p : Program) (l : List Nat) : List Int :=
  l.filterMap fun i => (p.get? i).bind Instruction.addend?

theorem visits?_flipped (p : Program) (g : Option Flip) : (p.flipped g).visits? = p.visits? := by
  funext i
  exact map_get?_flipped (fun _ _ => rfl) p g i

theorem visits?_visiting (p : Program) (l : List Nat) (i : Nat) :
    (p.visiting l).visits? i = (p.visits? i).map (· + l.count i) := by
  rw [visits?,visits?,get?_visiting,Option.map_map,Option.map_map]
  rfl

theorem addends_visiting (p : Program) (k : List Nat) : (p.visiting k).addends = p.addends := by
  funext l
  simp only [addends,get?_visiting,Option.bind_map]
  rfl

theorem sum_addends_reverse (p : Program) (l : List Nat) :
    (p.addends l.reverse).sum = (p.addends l).sum := by
  rw [addends,List.filterMap_reverse,List.sum_reverse,addends]

/-- Wrapping at every addition comes to the same as wrapping once, at the end. -/
theorem tally_eq_sum (p : Program) (l : List Nat) :
    p.tally l = Int64.ofInt (p.addends l).sum := by
  induction l with
  | nil => rfl
  | cons i l ih =>
      cases ha : p.get? i with
      | none =>
          have same : p.addends (i :: l) = p.addends l := by simp [addends,ha]
          rw [same,← ih]
          simp [tally,ha]
      | some a =>
          rw [tally_cons ha,ih]
          cases adds : a.addend? with
          | none =>
              have same : p.addends (i :: l) = p.addends l := by simp [addends,ha,adds]
              rw [same,Instruction.effect_of_addend?_eq_none adds]
          | some k =>
              have more : p.addends (i :: l) = k :: p.addends l := by simp [addends,ha,adds]
              rw [more,Instruction.effect_of_addend?_eq_some adds,List.sum_cons,Int64.ofInt_add,
                Int64.add_comm]

end Program

namespace Machine
variable {p : Program} {m : Machine} {i : Nat}

theorem Tracks.visits?_program (h : Tracks p m) (i : Nat) :
    m.program.visits? i = (p.visits? i).map (· + m.trail.count i) := by
  rw [h.program,Program.visits?_visiting,Program.visits?_flipped]

theorem Tracks.visits?_of_mem (h : Tracks p m) (hi : i ∈ m.trail) :
    p.visits? i = some 0 ∧ m.program.visits? i = some 1 := by
  obtain ⟨_,path,_⟩ := h.path
  have outset : p.visits? i = some 0 := by
    obtain ⟨a,ha,fresh⟩ := path.exists_fresh hi
    rw [← p.visits?_flipped m.flip,Program.visits?,ha,Option.map_some,fresh]
  have once : m.trail.count i = 1 := path.nodup.count.trans (if_pos hi)
  refine ⟨outset,?_⟩
  rw [h.visits?_program,outset,once]
  rfl

theorem Tracks.visits?_of_not_mem (h : Tracks p m) (hi : i ∉ m.trail) :
    m.program.visits? i = p.visits? i := by
  rw [h.visits?_program,List.count_eq_zero.2 hi]
  cases p.visits? i <;> rfl

theorem Tracks.accumulator_eq_sum (h : Tracks p m) :
    m.accumulator = Int64.ofInt (m.program.addends m.history).sum := by
  calc
    m.accumulator = p.tally m.trail := h.accumulator
    _ = (p.flipped m.flip).tally m.trail := (Program.tally_flipped h.found _).symm
    _ = Int64.ofInt ((p.flipped m.flip).addends m.trail).sum := Program.tally_eq_sum _ _
    _ = Int64.ofInt (m.program.addends m.history).sum := by
      rw [h.program,Program.addends_visiting,history,Program.sum_addends_reverse]

/-- Every visit and every addition of a machine is on its history, once. -/
theorem history_accounts (h : Reachable p m) :
    m.history.Nodup ∧
      (∀ i ∈ m.history, i < m.program.size ∧ p.visits? i = some 0 ∧
        m.program.visits? i = some 1) ∧
      (∀ i, i ∉ m.history → m.program.visits? i = p.visits? i) ∧
      m.accumulator = Int64.ofInt (m.program.addends m.history).sum := by
  have track := h.tracks
  refine ⟨?_,?_,?_,track.accumulator_eq_sum⟩
  · obtain ⟨_,path,_⟩ := track.path
    exact List.pairwise_reverse.2 (path.nodup.imp Ne.symm)
  · intro i hi
    have visits := track.visits?_of_mem (mem_history.1 hi)
    obtain ⟨a,ha,_⟩ := Option.map_eq_some_iff.1 visits.2
    exact ⟨Program.lt_size_of_get? ha,visits⟩
  · intro i hi
    exact track.visits?_of_not_mem fun on => hi (mem_history.2 on)

/-- A program with a trap at 4, which it reaches unless it is flipped at 2, and with a sum
that is too great for the accumulator. -/
def brink : Program := .ofList
  [⟨.acc,9223372036854775807,0⟩,⟨.acc,1,0⟩,⟨.jmp,2,0⟩,⟨.jmp,5,0⟩,⟨.nop,0,3⟩]

theorem brink_accounts : Reachable brink ((start brink).after 8) ∧
    ((start brink).after 8).history = [0,1,2,3] ∧
    ((start brink).after 8).program.visits? 2 = some 1 ∧
    ((start brink).after 8).program.visits? 4 = some 3 ∧
    ((start brink).after 8).accumulator = Int64.ofInt (2 ^ 63) := by
  have reachable : Reachable brink ((start brink).after 8) := Reachable.start.after 8
  have history : ((start brink).after 8).history = [0,1,2,3] := by decide
  obtain ⟨_,once,never,sum⟩ := history_accounts reachable
  have visited : 2 ∈ ((start brink).after 8).history := by simp [history]
  have trapped : 4 ∉ ((start brink).after 8).history := by simp [history]
  exact ⟨reachable,history,(once 2 visited).2.2,never 4 trapped,sum⟩

end Machine
end LoopRepair
