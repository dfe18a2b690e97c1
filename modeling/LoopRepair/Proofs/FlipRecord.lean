import LoopRepair.Proofs.VisitLedger

/-!
# The record of the flip in effect

No more than one flip is in effect at a time, and the record of it is true: the program
of a machine is the one it was started on, exchanged at the recorded index and nowhere
else. Where that index stands decides how a flip is given up: once the machine has
stopped running, the flipped instruction is on the trail, so retracting always comes to
it and ends there, whatever was executed since.
-/
namespace LoopRepair

namespace Program
variable {p : Program} {f : Flip} {i : Nat} {a : Instruction}

theorem operation?_visiting (p : Program) (l : List Nat) :
    (p.visiting l).operation? = p.operation? := by
  funext i
  exact map_get?_visiting (fun _ _ => rfl) p l i

theorem argument?_visiting (p : Program) (l : List Nat) :
    (p.visiting l).argument? = p.argument? := by
  funext i
  exact map_get?_visiting (fun _ _ => rfl) p l i

theorem operation?_apply_self (ha : p.get? f.index = some a) :
    (p.apply f).operation? f.index = some f.replacement := by
  rw [operation?,apply,get?_update_self,ha]
  rfl

theorem operation?_apply_of_ne (h : i ≠ f.index) :
    (p.apply f).operation? i = p.operation? i := by
  rw [operation?,get?_apply_of_ne p h.symm,operation?]

theorem argument?_flipped (p : Program) (g : Option Flip) :
    (p.flipped g).argument? = p.argument? := by
  funext i
  exact map_get?_flipped (fun _ _ => rfl) p g i

end Program

/-- The index of a visit that an event reports to have been taken back. -/
def Event.retracted? : Event → Option Nat
  | .retracted i _ => some i
  | .executed _ _ _ | .looped _ | .deadEnd _ _ | .flipped _ | .halted _ => none

namespace Machine
variable {p : Program} {m : Machine} {f : Flip} {i : Nat} {σ : Type}

/-- Retracting goes through the newer visits and ends with that of the flip's index. -/
theorem retractThrough_retracted {newer : List Nat} (out : i ∉ newer) (rest : List Nat)
    (s : Array Event) (m : Machine) :
    (retractThrough .recording i (newer ++ i :: rest) s m).1.toList.filterMap
        Event.retracted? =
      s.toList.filterMap Event.retracted? ++ newer ++ [i] := by
  induction newer generalizing s m with
  | nil => simp [retractThrough,Observer.recording,Event.retracted?]
  | cons j newer ih =>
      have other : j ≠ i := fun e => out (e ▸ List.mem_cons_self)
      have later : i ∉ newer := fun h => out (List.mem_cons_of_mem _ h)
      rw [List.cons_append,retractThrough]
      simp only [if_neg other]
      rw [ih later]
      simp [Observer.recording,Event.retracted?]

namespace Tracks

theorem operation?_program (h : Tracks p m) :
    m.program.operation? = (p.flipped m.flip).operation? := by
  rw [h.program,Program.operation?_visiting]

theorem argument?_program (h : Tracks p m) : m.program.argument? = p.argument? := by
  rw [h.program,Program.argument?_visiting,Program.argument?_flipped]

/-- What the flip in effect replaced was there, and could be flipped. -/
theorem flippable (h : Tracks p m) (hf : m.flip = some f) :
    ∃ a, p.get? f.index = some a ∧ a.flippable = true ∧ a.operation = f.replaced := by
  obtain ⟨a,ha,flippable,made⟩ := Program.flipAt?_eq_some_iff.1 (h.found f hf)
  have replaced : f.replaced = a.operation := congrArg Flip.replaced made
  exact ⟨a,ha,flippable,replaced.symm⟩

/-- A flip that is not on the trail waits for its first execution. -/
theorem flip_pending (h : Tracks p m) (hf : m.flip = some f) (out : f.index ∉ m.trail) :
    m.phase = .running ∧ m.pc = f.index ∧ m.program.visits? f.index = some 0 := by
  obtain ⟨running,here,a,ha,fresh⟩ := h.pending f hf out
  refine ⟨running,here,?_⟩
  rw [h.visits?_of_not_mem out,Program.visits?,ha,Option.map_some,fresh]

/-- A repair gives the flip in effect up by taking its visit back, last of all. -/
theorem abandon_eq (h : Tracks p m) (looping : m.phase = .looping) (hf : m.flip = some f)
    (o : Observer σ) (s : σ) : ∃ newer rest, m.trail = newer ++ f.index :: rest ∧
      f.index ∉ newer ∧ (abandon o s { m with repairs := m.repairs + 1 }).2 =
        { m.place p none rest with repairs := m.repairs + 1 } := by
  obtain ⟨newer,rest,split,out⟩ :=
    List.eq_append_cons_of_mem (h.flip_mem (by simp [looping]) f hf)
  have left : Program.choices m.trail m.flip = rest := by
    rw [hf,split,Program.choices_append out]
  refine ⟨newer,rest,split,out,?_⟩
  rw [h.abandoned looping,left]

end Tracks

/-- The flip `f`, and no other, is in effect in the machine `m`, which was started on `p`. Its
instruction has been executed since, or is about to be. -/
structure InEffect (p : Program) (m : Machine) (f : Flip) : Prop where
  inside : f.index < p.size
  eligible : ∃ a, p.get? f.index = some a ∧ a.flippable = true ∧ a.operation = f.replaced
  replaced : m.program.operation? f.index = some f.replacement
  elsewhere : ∀ i, i ≠ f.index → m.program.operation? i = p.operation? i
  visited : m.phase ≠ .running → f.index ∈ m.history
  pending : m.phase = .running → f.index ∈ m.history ∨
    m.pc = f.index ∧ m.program.visits? f.index = some 0

/-- A repair of the machine `m` first takes back the visits newer than that of the flip `f`
and then that one, as the last, which ends the flip. -/
def GivesUp (p : Program) (m : Machine) (f : Flip) : Prop :=
  let given := abandon .recording #[] { m with repairs := m.repairs + 1 }
  ∃ newer, m.trail = newer ++ f.index :: given.2.trail ∧
    given.1.toList.filterMap Event.retracted? = newer ++ [f.index] ∧
    given.2.flip = none ∧ given.2.program.operation? = p.operation?

namespace Tracks

theorem inEffect (h : Tracks p m) (hf : m.flip = some f) : InEffect p m f := by
  obtain ⟨a,ha,flippable,replaced⟩ := h.flippable hf
  have operations : m.program.operation? = (p.apply f).operation? := by
    rw [h.operation?_program,hf,Program.flipped_some]
  constructor
  case inside => exact Program.lt_size_of_get? ha
  case eligible => exact ⟨a,ha,flippable,replaced⟩
  case replaced =>
    rw [operations]
    exact Program.operation?_apply_self ha
  case elsewhere =>
    intro i other
    rw [operations]
    exact Program.operation?_apply_of_ne other
  case visited =>
    intro stopped
    exact mem_history.2 (h.flip_mem stopped f hf)
  case pending =>
    intro _
    by_cases on : f.index ∈ m.trail
    · exact .inl (mem_history.2 on)
    · exact .inr (h.flip_pending hf on).2

theorem givesUp (h : Tracks p m) (looping : m.phase = .looping) (hf : m.flip = some f) :
    GivesUp p m f := by
  let counted : Machine := { m with repairs := m.repairs + 1 }
  obtain ⟨newer,rest,split,out,undone⟩ := h.abandon_eq looping hf .recording #[]
  have seen : (abandon .recording #[] counted).1 =
      (retractThrough .recording f.index m.trail #[] counted).1 := by
    have flip : counted.flip = some f := hf
    simp only [abandon,flip]
    rfl
  have told := retractThrough_retracted out rest #[] counted
  rw [← split,← seen] at told
  refine ⟨newer,?_,told,?_,?_⟩
  · rw [undone]
    exact split
  · rw [undone]
    rfl
  · rw [undone]
    exact p.operation?_visiting rest

end Tracks

/-- A machine differs from the program it was started on by the flip that it records, and a
repair that gives this flip up finds it on the trail. -/
theorem flip_recorded (h : Reachable p m) :
    m.program.size = p.size ∧ m.program.argument? = p.argument? ∧
      (m.flip = none → m.program.operation? = p.operation?) ∧
      ∀ f, m.flip = some f → InEffect p m f ∧ (m.phase = .looping → GivesUp p m f) := by
  have track := h.tracks
  refine ⟨track.size_program,track.argument?_program,?_,?_⟩
  · intro none
    rw [track.operation?_program,none,Program.flipped_none]
  · intro f hf
    have effective := track.inEffect hf
    refine ⟨effective,?_⟩
    intro looping
    exact track.givesUp looping hf

/-- The machine once its first flip has led back to an instruction on the trail. -/
theorem maze_flip_recorded : Reachable maze ((start maze).after 7) ∧
    InEffect maze ((start maze).after 7) ⟨3,.jmp⟩ ∧ GivesUp maze ((start maze).after 7) ⟨3,.jmp⟩ := by
  have reachable : Reachable maze ((start maze).after 7) := Reachable.start.after 7
  have flip : ((start maze).after 7).flip = some ⟨3,.jmp⟩ := by decide
  have looping : ((start maze).after 7).phase = .looping := by decide
  obtain ⟨_,_,_,recorded⟩ := flip_recorded reachable
  obtain ⟨effective,gives⟩ := recorded _ flip
  exact ⟨reachable,effective,gives looping⟩

end Machine
end LoopRepair
