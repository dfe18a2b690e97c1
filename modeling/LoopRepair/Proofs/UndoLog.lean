import LoopRepair.Proofs.ObserverTransport
import LoopRepair.Proofs.ExecutionPath

/-!
# The undo log

A machine that was started on `p` is determined, as far as program, accumulator, trail
and flip are concerned, by `p`, the flip in effect and the trail. Retracting, giving up
a flip, looking for the next one and rewinding are stated for machines of this form, and
each of them ends in one. What is retracted lies on a path, so every visit that is
taken back is a first visit and nothing remains of it.
-/
namespace LoopRepair

namespace Program
variable {p : Program} {l r : List Nat} {f : Flip} {n : Option Nat}

/-- The newest entry that may be flipped, with the entries older than it. -/
def nextFlip? (p : Program) : List Nat → Option (Flip × List Nat)
  | [] => none
  | i :: l =>
      match p.flipAt? i with
      | some f => some (f,l)
      | none => p.nextFlip? l

theorem nextFlip?_eq_some (h : p.nextFlip? l = some (f,r)) :
    p.flipAt? f.index = some f ∧
      ∃ k, l = k ++ f.index :: r ∧ ∀ i ∈ k, p.flipAt? i = none := by
  induction l with
  | nil => cases h
  | cons j l ih =>
      rw [nextFlip?] at h
      split at h
      · rename_i hj
        cases h
        have e := flipAt?_index hj
        rw [e]
        exact ⟨hj,[],rfl,by simp⟩
      · rename_i hj
        obtain ⟨hf,k,rfl,hk⟩ := ih h
        refine ⟨hf,j :: k,rfl,?_⟩
        intro i hi
        rcases List.mem_cons.1 hi with rfl | hi
        · exact hj
        · exact hk i hi

theorem nextFlip?_eq_none (h : p.nextFlip? l = none) : ∀ i ∈ l, p.flipAt? i = none := by
  induction l with
  | nil => exact List.forall_mem_nil _
  | cons i l ih =>
      rw [nextFlip?] at h
      split at h
      · cases h
      · rename_i hi
        exact List.forall_mem_cons.2 ⟨hi,ih h⟩

/-- What a repair may choose from on the trail `l`: the visits older than the flip in
effect, or all of them while that flip has not been executed or there is none. -/
def choices (l : List Nat) : Option Flip → List Nat
  | none => l
  | some f => if f.index ∈ l then (l.dropWhile (· ≠ f.index)).tail else l

theorem choices_of_not_mem (h : f.index ∉ l) : choices l (some f) = l := if_neg h

theorem choices_append {k : List Nat} (h : f.index ∉ k) :
    choices (k ++ f.index :: r) (some f) = r := by
  rw [choices,if_pos (by simp)]
  induction k with
  | nil => simp
  | cons i k ih =>
      have hi : i ≠ f.index := fun e => h (e ▸ List.mem_cons_self)
      rw [List.cons_append,List.dropWhile_cons_of_pos (by simpa using hi)]
      exact ih fun hf => h (List.mem_cons_of_mem _ hf)

/-- A trail cut at the flip in effect. -/
theorem Path.exists_append (h : p.Path l n) (hf : f.index ∈ l) :
    ∃ k r, l = k ++ f.index :: r ∧ f.index ∉ r ∧ choices l (some f) = r := by
  obtain ⟨k,r,rfl,hk⟩ := List.eq_append_cons_of_mem hf
  exact ⟨k,r,rfl,h.not_mem_of_append,choices_append hk⟩

/-- The choices lie on a path of the program without the flip. -/
theorem Path.choices {g : Option Flip} (h : (p.flipped g).Path l n) :
    ∃ m, p.Path (choices l g) m := by
  cases g with
  | none => exact ⟨n,h⟩
  | some f =>
      by_cases hf : f.index ∈ l
      · obtain ⟨k,r,rfl,hr,e⟩ := h.exists_append hf
        rw [e]
        exact ⟨_,(Path.apply_iff hr).1 h.of_append⟩
      · rw [choices_of_not_mem hf]
        exact ⟨n,(Path.apply_iff hf).1 h⟩

end Program

namespace Machine
variable {p : Program} {m : Machine} {g : Option Flip} {l rest : List Nat} {i : Nat}
  {n : Option Nat}

/-- The machine put on the trail `l` of `p`, with the flip `g` in effect. -/
def place (m : Machine) (p : Program) (g : Option Flip) (l : List Nat) : Machine :=
  { m with
    program := (p.flipped g).visiting l
    accumulator := p.tally l
    trail := l
    flip := g }

/-- The flip that is left in effect once a visit of `i` is taken back. -/
def keptFlip (i : Nat) : Option Flip → Option Flip
  | none => none
  | some f => if f.index = i then none else some f

/-- Every flip in effect was found in the program. -/
def Found (p : Program) (g : Option Flip) : Prop := ∀ f ∈ g, p.flipAt? f.index = some f

theorem found_none : Found p none := by
  intro f hf
  cases hf

/-- The newest visit of a path is the only one of its instruction. -/
theorem exists_get?_place (m : Machine) (path : (p.flipped g).Path (i :: rest) n) :
    ∃ a, (p.flipped g).get? i = some a ∧ a.visits = 0 ∧
      (m.place p g (i :: rest)).program.get? i = some a.visit := by
  obtain ⟨_,hi,a,ha,fresh,_⟩ := path.of_cons
  refine ⟨a,ha,fresh,?_⟩
  rw [place,Program.get?_visiting,ha,List.count_cons_self,List.count_eq_zero.2 hi]
  rfl

theorem refunded_place (valid : Found p g) (path : (p.flipped g).Path (i :: rest) n) :
    (m.place p g (i :: rest)).refunded i = p.tally rest := by
  obtain ⟨a,ha,fresh,now⟩ := exists_get?_place m path
  rw [refunded]
  simp only [now]
  rw [place,← Program.tally_flipped valid,← Program.tally_flipped valid rest,
    Program.tally_cons ha,Instruction.effect_sub_refund a _ fresh]

/-- A visit is taken back exactly, and with it a flip that was made there. -/
theorem retract_place (valid : Found p g) (path : (p.flipped g).Path (i :: rest) n) :
    (m.place p g (i :: rest)).retract i rest = m.place p (keptFlip i g) rest := by
  rw [retract,refunded_place valid path]
  simp only [place,Program.visiting_unvisit]
  cases g with
  | none => rfl
  | some f =>
      by_cases hf : f.index = i
      · simp only [flippedAt,hf,decide_true,if_true,unflip,keptFlip,Program.flipped_some,
          Program.flipped_none,Program.restore_visiting,Program.restore_apply (valid f rfl)]
      · simp [flippedAt,keptFlip,hf]

theorem retractThrough_place {f : Flip} (valid : Found p (some f)) {k r : List Nat}
    (path : (p.apply f).Path (k ++ f.index :: r) n) :
    (retractThrough .silent f.index (k ++ f.index :: r) ()
      (m.place p (some f) (k ++ f.index :: r))).2 = m.place p none r := by
  induction k generalizing n with
  | nil =>
      have undone := retract_place (m := m) valid path
      rw [keptFlip,if_pos rfl] at undone
      rw [List.nil_append,retractThrough,undone,if_pos rfl]
  | cons i k ih =>
      have hi : i ≠ f.index := by
        intro e
        exact path.of_cons.2.1 (by simp [e])
      have undone := retract_place (m := m) valid path
      rw [keptFlip,if_neg hi.symm] at undone
      rw [List.cons_append,retractThrough]
      simp only [if_neg hi]
      -- The flip is still in effect here, so the shorter trail is a path of the same program.
      exact undone ▸ ih path.of_cons.1

theorem abandon_place (valid : Found p g) (path : (p.flipped g).Path l n)
    (on : ∀ f ∈ g, f.index ∈ l) :
    (abandon .silent () (m.place p g l)).2 = m.place p none (Program.choices l g) := by
  cases g with
  | none => rfl
  | some f =>
      obtain ⟨k,r,rfl,_,e⟩ := path.exists_append (on f rfl)
      rw [e]
      exact retractThrough_place valid path

theorem seekFlip_place (path : p.Path l n) :
    seekFlip .silent l () (m.place p none l) =
      match p.nextFlip? l with
      | some (f,r) =>
          ⟨.ok (.repaired f),
            { m.place p (some f) r with pc := f.index, phase := .running },()⟩
      | none => ⟨.error ⟨m.repairs⟩,m.place p none [],()⟩ := by
  induction l generalizing n with
  | nil => rfl
  | cons i l ih =>
      have same : (m.place p none l).program.flipAt? i = p.flipAt? i :=
        Program.flipAt?_visiting p l i
      rw [seekFlip,retract_place found_none path,keptFlip]
      simp only [same,Program.nextFlip?]
      cases hi : p.flipAt? i with
      | none => exact ih path.of_cons.1
      | some f =>
          simp only [place,Program.flipped_none,Program.apply_visiting,Program.flipAt?_index hi]
          rfl

/-- What a repair comes to: the next flip among its choices, or the end of them. -/
theorem repair_place (valid : Found p g) (path : (p.flipped g).Path l n)
    (on : ∀ f ∈ g, f.index ∈ l) :
    repair .silent () (m.place p g l) =
      match p.nextFlip? (Program.choices l g) with
      | some (f,r) =>
          ⟨.ok (.repaired f),{ m.place p (some f) r with
            pc := f.index, phase := .running, repairs := m.repairs + 1 },()⟩
      | none =>
          ⟨.error ⟨m.repairs + 1⟩,
            { m.place p none [] with repairs := m.repairs + 1 },()⟩ := by
  obtain ⟨_,older⟩ := path.choices
  let counted : Machine := { m with repairs := m.repairs + 1 }
  have given := abandon_place (m := counted) valid path on
  have sought := seekFlip_place (m := counted) older
  change (abandon .silent () { m.place p g l with repairs := m.repairs + 1 }).2 = _ at given
  change (let r := abandon .silent () { m.place p g l with repairs := m.repairs + 1 };
    seekFlip .silent r.2.trail r.1 r.2) = _
  dsimp only
  rw [given]
  exact sought

/-- The whole trail is taken back, and with it every flip made on it. -/
theorem retractAll_place (valid : Found p g) (path : (p.flipped g).Path l n) :
    ((m.place p g l).retractAll l).unflip = m.place p none [] := by
  induction l generalizing g n with
  | nil =>
      cases g with
      | none => rfl
      | some f =>
          simp only [retractAll,unflip,place,Program.flipped_some,Program.visiting_nil,
            Program.restore_apply (valid f rfl)]
          rfl
  | cons i l ih =>
      rw [retractAll,retract_place valid path]
      cases g with
      | none => exact ih valid path.of_cons.1
      | some f =>
          by_cases hf : f.index = i
          · rw [keptFlip,if_pos hf]
            have hi : f.index ∉ l := hf ▸ path.of_cons.2.1
            exact ih found_none ((Program.Path.apply_iff hi).1 path.of_cons.1)
          · rw [keptFlip,if_neg hf]
            exact ih valid path.of_cons.1

end Machine
end LoopRepair
