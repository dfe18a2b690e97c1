import LoopRepair.RestartSearch
import LoopRepair.Proofs.ExecutionPath

/-!
# What an attempt finds out

Every program has one path that cannot be continued, and an attempt is that path: its
room is never what ends it. Every other path is the beginning of it, and so is of the path of
a flipped attempt what stands before the flip. Where no instruction counts as visited from the
outset, an attempt halts exactly if the plain execution does, because a path that cannot be
continued and has not left the program leads back into itself.
-/
namespace LoopRepair.Program
variable {p : Program} {l : List Nat} {i : Nat} {n : Option Nat}

/-- No instruction can follow the path `l` with `n` next. -/
def Stops (p : Program) (l : List Nat) (n : Option Nat) : Prop :=
  ∀ i ∈ n, ∀ a, p.get? i = some a → a.visits ≠ 0 ∨ i ∈ l

/-- Whether what comes next lies past the last instruction. -/
def past (p : Program) (n : Option Nat) : Bool := n.any (p.size ≤ ·)

theorem past_some : p.past (some i) = true ↔ p.size ≤ i := by simp [past]

theorem stops_of_past (h : p.past n = true) : p.Stops l n := by
  intro i hi a ha
  cases hi
  exact absurd (lt_size_of_get? ha) (Nat.not_lt.2 (past_some.1 h))

/-- A path can be continued until it stops. -/
theorem Path.exists_stopping (h : p.Path l n) :
    ∃ k m, p.Path (k ++ l) m ∧ p.Stops (k ++ l) m := by
  induction hd : p.size - l.length using Nat.strongRecOn generalizing l n with
  | ind d ih =>
      by_cases stop : p.Stops l n
      · exact ⟨[],n,h,stop⟩
      · obtain ⟨i,rfl,a,ha,fresh,hi⟩ : ∃ i, n = some i ∧ ∃ a, p.get? i = some a ∧
            a.visits = 0 ∧ i ∉ l := by
          simpa [Stops] using stop
        have longer := Path.step h ha fresh hi
        have room := longer.length_le_size
        simp only [List.length_cons] at room
        obtain ⟨k,m,hk,stop⟩ := ih _ (by simp only [List.length_cons]; omega) longer rfl
        exact ⟨k ++ [i],m,by simpa using hk,by simpa using stop⟩

theorem attemptFrom_of_stops (room : Nat) (accumulator : Int64) (stop : p.Stops l (some i)) :
    p.attemptFrom room i accumulator l = ⟨l,accumulator,p.past (some i)⟩ := by
  unfold attemptFrom
  split
  · rename_i gone
    rw [past_some.2 (get?_eq_none_iff.1 gone)]
  · rename_i a ha
    have here : p.past (some i) = false := by
      rw [Bool.eq_false_iff,ne_eq,past_some]
      exact Nat.not_le.2 (lt_size_of_get? ha)
    rw [if_pos (stop i rfl a ha),here]

theorem attemptFrom_of_fresh (room : Nat) (accumulator : Int64) {a : Instruction}
    (ha : p.get? i = some a) (fresh : a.visits = 0) (hi : i ∉ l) :
    p.attemptFrom (room + 1) i accumulator l =
      match a.next? i with
      | none => ⟨i :: l,a.effect accumulator,false⟩
      | some j => p.attemptFrom room j (a.effect accumulator) (i :: l) := by
  have go : ¬(a.visits ≠ 0 ∨ i ∈ l) := by simp [fresh,hi]
  rw [attemptFrom]
  simp only [ha,if_neg go]
  cases a.next? i <;> rfl

/-- An attempt goes along every path of its program. -/
theorem Path.attemptFrom_eq (h : p.Path l (some i)) (room : Nat) :
    p.attemptFrom (room + l.length) 0 0 [] = p.attemptFrom room i (p.tally l) l := by
  induction l generalizing i room with
  | nil =>
      cases h
      rfl
  | cons j l ih =>
      obtain ⟨before,hj,a,ha,fresh,next⟩ := h.of_cons
      rw [List.length_cons,← Nat.add_assoc,Nat.add_right_comm,ih before (room + 1),
        attemptFrom_of_fresh _ _ ha fresh hj,← next,tally_cons ha]

theorem Path.attempt_eq (h : p.Path l n) (stop : p.Stops l n) :
    p.attempt = ⟨l,p.tally l,p.past n⟩ := by
  have bound := h.length_le_size
  cases n with
  | some i =>
      obtain ⟨room,hroom⟩ := Nat.exists_eq_add_of_le' bound
      rw [attempt,hroom,h.attemptFrom_eq,attemptFrom_of_stops _ _ stop]
  | none =>
      cases l with
      | nil => cases h
      | cons j l =>
          obtain ⟨before,hj,a,ha,fresh,next⟩ := h.of_cons
          obtain ⟨room,hroom⟩ := Nat.exists_eq_add_of_le' bound
          rw [List.length_cons,← Nat.add_assoc,Nat.add_right_comm] at hroom
          rw [attempt,hroom,before.attemptFrom_eq,attemptFrom_of_fresh _ _ ha fresh hj,← next,
            tally_cons ha]
          rfl

/-- The path of an attempt, and what comes next on it. -/
theorem exists_attempt (p : Program) : ∃ n, p.Path p.attempt.path n ∧ p.Stops p.attempt.path n ∧
    p.attempt.accumulator = p.tally p.attempt.path ∧ p.attempt.halted = p.past n := by
  obtain ⟨k,n,h,stop⟩ := (Path.start : p.Path [] _).exists_stopping
  rw [h.attempt_eq stop]
  exact ⟨n,h,stop,rfl,rfl⟩

/-- Every path is the beginning of the attempt. -/
theorem Path.suffix_attempt (h : p.Path l n) : l <:+ p.attempt.path := by
  obtain ⟨k,_,longer,stop⟩ := h.exists_stopping
  rw [longer.attempt_eq stop]
  exact List.suffix_append k l

theorem path_of_suffix (h : l <:+ p.attempt.path) : ∃ n, p.Path l n := by
  obtain ⟨_,path,_⟩ := p.exists_attempt
  obtain ⟨k,split⟩ := h
  rw [← split] at path
  exact path.exists_of_append

/-- The place of an index on the path of the attempt, counted from its beginning. -/
def position (p : Program) (i : Nat) : Nat := p.attempt.path.reverse.idxOf i

theorem position_of_suffix (h : i :: l <:+ p.attempt.path) : p.position i = l.length := by
  obtain ⟨_,path⟩ := path_of_suffix h
  obtain ⟨k,split⟩ := h
  have out : i ∉ l.reverse := by simpa using path.of_cons.2.1
  rw [position,← split,List.reverse_append,List.reverse_cons,List.append_assoc,
    List.idxOf_append,if_neg out]
  simp

/-- The attempt of a flip leaves standing what was executed before it. -/
theorem suffix_attempt_apply {f : Flip} (h : i :: l <:+ p.attempt.path)
    (hi : p.flipAt? i = some f) : l <:+ (p.apply f).attempt.path := by
  obtain ⟨_,path⟩ := path_of_suffix h
  obtain ⟨before,out,_⟩ := path.of_cons
  rw [← flipAt?_index hi] at out
  exact ((Path.apply_iff out).2 before).suffix_attempt

/-- No instruction counts as visited from the outset. -/
def Unvisited (p : Program) : Prop := ∀ a ∈ p.toList, a.visits = 0

instance (p : Program) : Decidable p.Unvisited :=
  inferInstanceAs (Decidable (∀ a ∈ p.toList, a.visits = 0))

theorem Unvisited.get? (h : p.Unvisited) {a : Instruction} (ha : p.get? i = some a) :
    a.visits = 0 := by
  apply h
  rw [toList,Array.mem_toList_iff]
  exact Array.mem_of_getElem? ha

theorem Unvisited.exchange (h : p.Unvisited) (i : Nat) : (p.exchange i).Unvisited := by
  intro a ha
  obtain ⟨j,hj⟩ := List.getElem?_of_mem ha
  have here : (p.exchange i).get? j = some a := by
    simpa [toList,Program.get?] using hj
  rw [get?_exchange] at here
  split at here
  · obtain ⟨b,hb,rfl⟩ := Option.map_eq_some_iff.1 here
    rw [Instruction.visits_exchanged]
    exact h.get? hb
  · exact h.get? here

theorem halts_of_attempt (h : p.attempt.halted = true) :
    p.HaltsAfter p.attempt.path.length p.attempt.accumulator := by
  obtain ⟨n,path,_,hacc,hn⟩ := p.exists_attempt
  rw [hn] at h
  cases n with
  | none => simp [past] at h
  | some i =>
      rw [hacc]
      exact path.haltsAfter (past_some.1 h)

/-- An attempt that fails without a trap has found a loop, or the way out at the front. -/
theorem closed_of_attempt (unvisited : p.Unvisited) (h : p.attempt.halted = false) :
    p.Closed p.attempt.path := by
  obtain ⟨n,path,stop,_,hn⟩ := p.exists_attempt
  refine path.closed ?_
  intro i hi
  cases hi
  cases ha : p.get? i with
  | none =>
      rw [hn,past_some.2 (get?_eq_none_iff.1 ha)] at h
      cases h
  | some a => exact (stop i rfl a ha).resolve_left fun visited => visited (unvisited.get? ha)

theorem attempt_halted_iff (unvisited : p.Unvisited) : p.attempt.halted = true ↔ p.Halts := by
  constructor
  · intro h
    exact ⟨_,_,halts_of_attempt h⟩
  · intro h
    cases failed : p.attempt.halted with
    | true => rfl
    | false => exact absurd h (closed_of_attempt unvisited failed).not_halts

end LoopRepair.Program
