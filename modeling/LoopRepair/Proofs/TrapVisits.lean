import LoopRepair.Proofs.FlipRecord
import LoopRepair.Proofs.RepairReturn
import LoopRepair.Proofs.UnreachedCode

/-!
# Visits counted from the outset

An instruction that counts as visited from the outset is a trap: a path that comes to it goes
no further. It is not executed, so it never gets onto the trail, and what is not on the trail
is neither taken back nor flipped. How many visits it starts with is therefore never looked
at, but for there being any, and whoever observes a run cannot tell.
-/
namespace LoopRepair

namespace Program
variable {p : Program} {i : Nat} {c : Nat → Nat}

/-- The instruction at `i` counts as visited from the outset. -/
def TrapAt (p : Program) (i : Nat) : Prop := ∃ a, p.get? i = some a ∧ a.visits ≠ 0

/-- The program with these visits at its traps, instead of those that they have. -/
def recount (p : Program) (c : Nat → Nat) : Program :=
  ofList (p.toList.mapIdx fun i a => if a.visits = 0 then a else { a with visits := c i })

theorem get?_recount (p : Program) (c : Nat → Nat) (i : Nat) : (p.recount c).get? i =
    (p.get? i).map fun a => if a.visits = 0 then a else { a with visits := c i } := by
  simp [recount,get?,ofList,toList]

theorem size_recount (p : Program) (c : Nat → Nat) : (p.recount c).size = p.size := by
  simp [recount,size,ofList,toList]

theorem TrapAt.recount (h : p.TrapAt i) (positive : c i ≠ 0) : (p.recount c).TrapAt i := by
  obtain ⟨a,ha,visited⟩ := h
  refine ⟨{ a with visits := c i },?_,positive⟩
  rw [get?_recount,ha,Option.map_some,if_neg visited]

/-- Away from the traps nothing is counted anew. -/
theorem agreesOn_recount (p : Program) (c : Nat → Nat) :
    p.AgreesOn (fun i => ¬ p.TrapAt i) (p.recount c) := by
  refine ⟨size_recount p c,?_⟩
  intro i untrapped
  rw [get?_recount]
  cases ha : p.get? i with
  | none => rfl
  | some a =>
      have fresh : a.visits = 0 := Classical.byContradiction fun visited =>
        untrapped ⟨a,ha,visited⟩
      rw [Option.map_some,if_pos fresh]

end Program

/-- The results are the same, and so is what was observed, and the machines but for their
programs. -/
structure Observed.Alike {σ α : Type} (r r' : Observed σ α) : Prop where
  result : r'.result = r.result
  machine : r'.machine = { r.machine with program := r'.machine.program }
  seen : r'.seen = r.seen

theorem Observed.Twin.alike {σ α : Type} {P : Nat → Prop} {r r' : Observed σ α}
    (h : Observed.Twin P r r') : r.Alike r' := by
  refine ⟨h.result,?_,h.seen⟩
  have machine := h.machine
  generalize r'.machine = n at machine
  cases machine
  rfl

namespace Machine
variable {p : Program} {m n : Machine} {i : Nat} {c : Nat → Nat} {σ : Type}

/-- An executed instruction is on the trail. -/
theorem Tracks.mem_of_executes (h : Tracks p m) (executed : m.Executes i) :
    i ∈ m.step.machine.trail := by
  have move := h.move
  rcases executed with went | went
  all_goals
    rw [went] at move
    generalize m.step.machine = n at move
    cases move
    exact List.mem_cons_self

namespace Tracks

theorem not_mem_of_trap (h : Tracks p m) (trap : p.TrapAt i) : i ∉ m.trail := by
  intro on
  obtain ⟨a,ha,visited⟩ := trap
  have fresh := (h.visits?_of_mem on).1
  rw [Program.visits?,ha,Option.map_some] at fresh
  exact visited (Option.some.inj fresh)

theorem flip_ne_of_trap (h : Tracks p m) (trap : p.TrapAt i) : ∀ f ∈ m.flip, f.index ≠ i := by
  rintro f hf rfl
  have out := h.not_mem_of_trap trap
  obtain ⟨_,_,b,hb,fresh⟩ := h.pending f hf out
  obtain ⟨a,ha,visited⟩ := trap
  rw [ha] at hb
  cases hb
  exact visited fresh

/-- A trap stays as it was, in its operation, its argument and its visits. -/
theorem get?_of_trap (h : Tracks p m) (trap : p.TrapAt i) : m.program.get? i = p.get? i := by
  have elsewhere : (p.flipped m.flip).get? i = p.get? i := by
    cases hf : m.flip with
    | none => rfl
    | some f => exact p.get?_apply_of_ne (h.flip_ne_of_trap trap f hf)
  rw [h.get?_program,elsewhere,List.count_eq_zero.2 (h.not_mem_of_trap trap)]
  exact Option.map_id'

/-- A machine that comes to a trap takes it for an instruction that it has executed. -/
theorem stepWith_trap (h : Tracks p m) (running : m.phase = .running) (trap : p.TrapAt m.pc)
    (o : Observer σ) (s : σ) : stepWith o s m =
      ⟨.ok (.looped m.pc),{ m with phase := .looping },o.event s (.looped m.pc)⟩ := by
  have here := h.get?_of_trap trap
  obtain ⟨a,ha,visited⟩ := trap
  rw [ha] at here
  unfold stepWith
  rw [running]
  simp only [execute,here,if_pos visited]

end Tracks

/-- The machine `m` has left the instruction at `i` as it is in `p`, and its next call neither
executes nor flips it. -/
structure Spares (p : Program) (m : Machine) (i : Nat) : Prop where
  unchanged : m.program.get? i = p.get? i
  unvisited : i ∉ m.history
  unflipped : ∀ f ∈ m.flip, f.index ≠ i
  not_executed : ¬ m.Executes i
  not_repaired : ∀ f, m.step.result = .ok (.repaired f) → f.index ≠ i

theorem Tracks.spares (h : Tracks p m) (trap : p.TrapAt i) : Spares p m i := by
  constructor
  case unchanged => exact h.get?_of_trap trap
  case unvisited => exact fun on => h.not_mem_of_trap trap (mem_history.1 on)
  case unflipped => exact h.flip_ne_of_trap trap
  case not_executed => exact fun executed => h.step.not_mem_of_trap trap (h.mem_of_executes executed)
  case not_repaired =>
    intro f repaired
    obtain ⟨l,_,_,_,_,returned⟩ := h.path_of_repaired repaired
    refine h.step.flip_ne_of_trap trap f ?_
    rw [returned]
    rfl

section
variable (positive : ∀ i, c i ≠ 0)
include positive

/-- Machines on a program and on the same one with its traps counted anew make the same
transition, and whoever observes them is told the same. -/
theorem twin_stepWith_recount (hm : Tracks p m) (hn : Tracks (p.recount c) n)
    (twin : Twin (fun i => ¬ p.TrapAt i) m n) (o : Observer σ) (s : σ) :
    Observed.Twin (fun i => ¬ p.TrapAt i) (stepWith o s m) (stepWith o s n) := by
  by_cases trapped : m.phase = .running ∧ p.TrapAt m.pc
  · obtain ⟨running,trap⟩ := trapped
    have trap' : (p.recount c).TrapAt m.pc := trap.recount (positive _)
    cases twin with
    | intro agree trail =>
        rw [hm.stepWith_trap running trap,hn.stepWith_trap running trap']
        exact ⟨rfl,.intro agree trail,rfl⟩
  · exact twin.stepWith o s fun running _ trap => trapped ⟨running,trap⟩

theorem twin_after_recount (p : Program) (k : Nat) :
    Twin (fun i => ¬ p.TrapAt i) ((start p).after k) ((start (p.recount c)).after k) := by
  induction k with
  | zero => exact .intro (p.agreesOn_recount c) (List.forall_mem_nil _)
  | succ k ih =>
      rw [after_succ,after_succ]
      exact (twin_stepWith_recount positive ((tracks_start p).after k)
        ((tracks_start _).after k) ih .silent ()).machine

theorem twin_runWith_recount (hm : Tracks p m) (hn : Tracks (p.recount c) n)
    (twin : Twin (fun i => ¬ p.TrapAt i) m n) (o : Observer σ) (s : σ) :
    Observed.Twin (fun i => ¬ p.TrapAt i) (runWith o s m) (runWith o s n) := by
  induction hw : m.weight using Nat.strongRecOn generalizing m n s with
  | ind w ih =>
      obtain ⟨result,machine,seen⟩ := twin_stepWith_recount positive hm hn twin o s
      rw [result_stepWith,result_stepWith] at result
      rw [machine_stepWith,machine_stepWith] at machine
      cases went : m.step.result with
      | error e =>
          rw [runWith_of_error o s went,runWith_of_error o s (result.trans went)]
          exact ⟨rfl,machine,seen⟩
      | ok t =>
          by_cases halted : t = .halted
          · subst halted
            rw [runWith_of_halted o s went,runWith_of_halted o s (result.trans went)]
            exact ⟨congrArg Except.ok machine.outcome,machine,seen⟩
          · rw [runWith_of_ok o s went halted,runWith_of_ok o s (result.trans went) halted,seen]
            exact ih _ (hw ▸ weight_step_lt went halted) hm.step hn.step machine _ rfl

end

/-- A trap is spared by all that a machine does, and with other visits at its traps a program is
run in the same way, call by call and to the end, whoever observes it. -/
theorem traps_act_alike (p : Program) :
    (∀ m, Reachable p m → ∀ i, p.TrapAt i → Spares p m i) ∧
      ∀ c : Nat → Nat, (∀ i, c i ≠ 0) → ∀ (σ : Type) (o : Observer σ) (s : σ),
        (∀ k, Observed.Alike (stepWith o s ((start p).after k))
          (stepWith o s ((start (p.recount c)).after k))) ∧
        Observed.Alike (runWith o s (start p)) (runWith o s (start (p.recount c))) := by
  constructor
  · intro m h i trap
    exact h.tracks.spares trap
  · intro c positive σ o s
    have begun := tracks_start p
    have begun' := tracks_start (p.recount c)
    have twin := twin_after_recount positive p
    constructor
    · intro k
      exact (twin_stepWith_recount positive (begun.after k) (begun'.after k) (twin k) o s).alike
    · exact (twin_runWith_recount positive begun begun' (twin 0) o s).alike

theorem brink_traps_act_alike :
    let other := brink.recount fun _ => 1
    brink.TrapAt 4 ∧ Spares brink ((start brink).after 3) 4 ∧ other ≠ brink ∧
      ((start other).after 3).step.result = .ok (.looped 4) ∧
      other.run = .ok ⟨some ⟨2,.jmp⟩,-9223372036854775808,5,1⟩ := by
  obtain ⟨spared,recounted⟩ := traps_act_alike brink
  obtain ⟨calls,whole⟩ := recounted (fun _ => 1) (by simp) Unit .silent ()
  have trap : brink.TrapAt 4 := ⟨⟨.nop,0,3⟩,rfl,by decide⟩
  have reachable : Reachable brink ((start brink).after 3) := Reachable.start.after 3
  refine ⟨trap,spared _ reachable 4 trap,by decide,(calls 3).result,whole.result.trans ?_⟩
  change brink.run = _
  rw [Program.run_eq]
  rfl

end Machine
end LoopRepair
