import LoopRepair.Proofs.RecordedRun

/-!
# What a call reports

The events of one call in closed form, one case for each kind of call. A repair takes back
the newest visits, each down to the accumulator that the older ones make, and may end with a
flip where the last of them was.
-/
namespace LoopRepair

namespace Program

/-- What is reported when the visits `l` are taken back, newest first, and the visits `rest`
are left. -/
def retractions (p : Program) (rest : List Nat) : List Nat → List Event
  | [] => []
  | i :: l => .retracted i (p.tally (l ++ rest)) :: p.retractions rest l

theorem retractions_append (p : Program) (rest k l : List Nat) :
    p.retractions rest (k ++ l) = p.retractions (l ++ rest) k ++ p.retractions rest l := by
  induction k with
  | nil => rfl
  | cons i k ih =>
      rw [List.cons_append,retractions,retractions,ih,List.append_assoc,List.cons_append]

theorem forall_mem_retractions {P : Event → Prop}
    (h : ∀ i accumulator, P (.retracted i accumulator)) (p : Program) (rest l : List Nat) :
    ∀ e ∈ p.retractions rest l, P e := by
  induction l with
  | nil => exact List.forall_mem_nil _
  | cons i l ih => exact List.forall_mem_cons.2 ⟨h _ _,ih⟩

theorem countP_retractions {kind : Event → Bool}
    (none : ∀ i accumulator, kind (.retracted i accumulator) = false) (p : Program)
    (rest l : List Nat) : (p.retractions rest l).countP kind = 0 := by
  rw [List.countP_eq_zero]
  exact forall_mem_retractions (fun i accumulator => by simp [none]) p rest l

end Program

namespace Machine
variable {p : Program} {m n : Machine} {g : Option Flip} {f : Flip} {l k r : List Nat}
  {next : Option Nat}

theorem seen_retractThrough_place (valid : Found p (some f))
    (path : (p.apply f).Path (k ++ f.index :: r) next) (s : List Event) :
    (retractThrough .events f.index (k ++ f.index :: r) s
      (m.place p (some f) (k ++ f.index :: r))).1 = s ++ p.retractions r (k ++ [f.index]) := by
  induction k generalizing next s with
  | nil =>
      have undone := retract_place (m := m) valid path
      rw [List.nil_append,retractThrough,undone,if_pos rfl]
      rfl
  | cons i k ih =>
      have hi : i ≠ f.index := by
        intro e
        exact path.of_cons.2.1 (by simp [e])
      have undone := retract_place (m := m) valid path
      rw [keptFlip,if_neg hi.symm] at undone
      change (m.place p (some f) (i :: (k ++ f.index :: r))).retract i (k ++ f.index :: r) =
        m.place p (some f) (k ++ f.index :: r) at undone
      rw [List.cons_append,retractThrough,undone]
      simp only [if_neg hi]
      rw [ih path.of_cons.1]
      simp [Observer.events,place,Program.retractions]

theorem seen_abandon_place (valid : Found p g) (path : (p.flipped g).Path l next)
    (on : ∀ f ∈ g, f.index ∈ l) (s : List Event) :
    ∃ k, l = k ++ Program.choices l g ∧
      (abandon .events s (m.place p g l)).1 = s ++ p.retractions (Program.choices l g) k := by
  cases g with
  | none => exact ⟨[],rfl,(List.append_nil s).symm⟩
  | some f =>
      obtain ⟨k,r,rfl,_,e⟩ := path.exists_append (on f rfl)
      rw [e]
      exact ⟨k ++ [f.index],by simp,seen_retractThrough_place valid path s⟩

/-- Visits of instructions that may not be flipped are taken back and passed over. -/
theorem seekFlip_append_place (path : p.Path (k ++ r) next)
    (passed : ∀ i ∈ k, p.flipAt? i = none) (s : List Event) :
    seekFlip .events (k ++ r) s (m.place p none (k ++ r)) =
      seekFlip .events r (s ++ p.retractions r k) (m.place p none r) := by
  induction k generalizing next s with
  | nil => rw [List.nil_append,Program.retractions,List.append_nil]
  | cons i k ih =>
      obtain ⟨hi,passed⟩ := List.forall_mem_cons.1 passed
      have undone : (m.place p none (i :: (k ++ r))).retract i (k ++ r) = m.place p none (k ++ r) :=
        retract_place found_none path
      have same : (m.place p none (k ++ r)).program.flipAt? i = none :=
        (Program.flipAt?_visiting p _ i).trans hi
      rw [List.cons_append,seekFlip,undone]
      simp only [same]
      rw [ih path.of_cons.1 passed]
      simp [Observer.events,place,Program.retractions]

theorem seen_seekFlip_place (path : p.Path (k ++ f.index :: r) next)
    (passed : ∀ i ∈ k, p.flipAt? i = none) (found : p.flipAt? f.index = some f) (s : List Event) :
    (seekFlip .events (k ++ f.index :: r) s (m.place p none (k ++ f.index :: r))).seen =
      s ++ p.retractions r (k ++ [f.index]) ++ [.flipped f] := by
  obtain ⟨_,here⟩ := path.exists_of_append
  have same : (m.place p none r).program.flipAt? f.index = some f :=
    (Program.flipAt?_visiting p r f.index).trans found
  rw [seekFlip_append_place path passed,seekFlip,retract_place found_none here,keptFlip]
  simp only [same]
  simp [Observer.events,place,Program.retractions_append,Program.retractions]

theorem seen_seekFlip_place_of_none (path : p.Path l next) (none : p.nextFlip? l = none)
    (s : List Event) :
    (seekFlip .events l s (m.place p .none l)).seen = s ++ p.retractions [] l := by
  rw [← List.append_nil l] at path
  have passed := Program.nextFlip?_eq_none none
  have through := seekFlip_append_place (m := m) path passed s
  rw [List.append_nil] at through
  rw [through,seekFlip]
  rfl

/-- What a call reports that makes of the machine `m` the machine `n`, and what it does to the
trail. -/
inductive Reports (p : Program) (m n : Machine) :
    Except RepairExhausted Transition → List Event → Prop
  | left : m.phase = .running → n.trail = m.trail →
      Reports p m n (.ok .halted) [.halted m.outcome]
  | looped {i : Nat} : n.trail = m.trail → Reports p m n (.ok (.looped i)) [.looped i]
  | executed {i : Nat} {a : Instruction} : n.trail = i :: m.trail →
      Reports p m n (.ok (.executed i)) [.executed i a n.accumulator]
  | deadEnd {i : Nat} {a : Instruction} : n.trail = i :: m.trail →
      Reports p m n (.ok (.deadEnd i)) [.executed i a n.accumulator,.deadEnd i a.argument]
  | repaired {f : Flip} {k : List Nat} : m.trail = k ++ f.index :: n.trail →
      Reports p m n (.ok (.repaired f))
        (p.retractions n.trail (k ++ [f.index]) ++ [.flipped f])
  | exhausted {e : RepairExhausted} : n.trail = [] →
      Reports p m n (.error e) (p.retractions [] m.trail)
  | halted : m.phase = .halted → n.trail = m.trail → Reports p m n (.ok .halted) []

theorem reports_running (running : m.phase = .running) :
    Reports p m m.step.machine m.step.result m.events := by
  unfold events step stepWith
  rw [running]
  simp only [execute]
  cases ha : m.program.get? m.pc with
  | none => exact .left running rfl
  | some a =>
      by_cases seen : a.visits ≠ 0
      · simp only [if_pos seen]
        exact .looped rfl
      · simp only [if_neg seen]
        cases a.next? m.pc with
        | none => exact .deadEnd (a := a.visit) rfl
        | some i => exact .executed rfl

theorem Tracks.reports_looping (h : Tracks p m) (looping : m.phase = .looping) :
    Reports p m m.step.machine m.step.result m.events := by
  have move := h.move_looping looping
  obtain ⟨_,path,_⟩ := h.path
  obtain ⟨_,older⟩ := path.choices
  have on : ∀ f ∈ m.flip, f.index ∈ m.trail := h.flip_mem (by simp [looping])
  let counted : Machine := { m with repairs := m.repairs + 1 }
  have given : (abandon .events [] counted).2 =
      counted.place p none (Program.choices m.trail m.flip) := h.abandoned looping .events []
  obtain ⟨k,split,seen⟩ := seen_abandon_place (m := counted) h.found path on []
  rw [← h.placed_repairs] at seen
  have events : m.events = (seekFlip .events (Program.choices m.trail m.flip)
      (p.retractions (Program.choices m.trail m.flip) k)
      (counted.place p none (Program.choices m.trail m.flip))).seen := by
    unfold events stepWith
    rw [looping]
    change (seekFlip .events (abandon .events [] counted).2.trail (abandon .events [] counted).1
      (abandon .events [] counted).2).seen = _
    rw [given,seen]
    rfl
  rw [events]
  generalize m.step.result = result at move
  generalize m.step.machine = n at move
  cases move with
  | @repaired f r _ chosen =>
      obtain ⟨hf,j,older_split,passed⟩ := Program.nextFlip?_eq_some chosen
      rw [older_split] at older split ⊢
      rw [seen_seekFlip_place older passed hf]
      have whole : m.trail = (k ++ j) ++ f.index :: r := split.trans (List.append_assoc k j _).symm
      have joined : p.retractions (j ++ f.index :: r) k ++ p.retractions r (j ++ [f.index]) =
          p.retractions r (k ++ j ++ [f.index]) := by
        simp [Program.retractions_append]
      rw [joined]
      exact .repaired whole
  | exhausted _ none =>
      have all := congrArg (p.retractions []) split
      rw [Program.retractions_append,List.append_nil] at all
      rw [seen_seekFlip_place_of_none older none,← all]
      exact .exhausted rfl
  | left running _ => cases looping.symm.trans running
  | looped running _ _ => cases looping.symm.trans running
  | deadEnd running _ _ _ _ => cases looping.symm.trans running
  | executed running _ _ _ _ => cases looping.symm.trans running
  | halted halted => cases looping.symm.trans halted

theorem Tracks.reports (h : Tracks p m) : Reports p m m.step.machine m.step.result m.events := by
  cases phase : m.phase with
  | running => exact reports_running phase
  | looping => exact h.reports_looping phase
  | halted =>
      unfold events Machine.step stepWith
      rw [phase]
      exact .halted phase rfl

end Machine
end LoopRepair
