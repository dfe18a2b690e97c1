import LoopRepair.Proofs.CallReports

/-!
# Replaying a recorded run

The record of a run is enough to follow it without a machine. A replay keeps the visits that
have not been taken back, each with the accumulator that it found, and refuses every event
that does not fit: only the newest visit may be taken back, and only to that accumulator.
Calls lead a replay from the trail before them to the trail after them, and what a machine
counts are events of its record.
-/
namespace LoopRepair

/-- What a record shows: the visits that are not taken back, newest first, each with the
accumulator that it found, and the accumulator now. -/
structure Replay where
  visits : List (Nat × Int64) := []
  accumulator : Int64 := 0
  deriving DecidableEq, Repr

namespace Replay

/-- The indices visited, oldest first. -/
def history (r : Replay) : List Nat := (r.visits.map Prod.fst).reverse

def follow? (r : Replay) : Event → Option Replay
  | .executed i _ accumulator => some ⟨(i,r.accumulator) :: r.visits,accumulator⟩
  | .retracted i accumulator =>
      match r.visits with
      | [] => none
      | visit :: rest => if visit = (i,accumulator) then some ⟨rest,accumulator⟩ else none
  | .looped _ | .deadEnd _ _ | .flipped _ | .halted _ => some r

/-- Follow the events in order, unless one of them does not fit. -/
def followAll? (r : Replay) (es : List Event) : Option Replay := es.foldlM follow? r

/-- What is to be shown on the trail `l`. -/
def along (p : Program) : List Nat → Replay
  | [] => {}
  | i :: l => ⟨(i,p.tally l) :: (along p l).visits,p.tally (i :: l)⟩

theorem followAll?_append (r : Replay) (es fs : List Event) :
    r.followAll? (es ++ fs) = (r.followAll? es).bind (·.followAll? fs) :=
  List.foldlM_append

theorem accumulator_along (p : Program) (l : List Nat) : (along p l).accumulator = p.tally l := by
  cases l <;> rfl

theorem history_along (p : Program) (l : List Nat) : (along p l).history = l.reverse := by
  induction l with
  | nil => rfl
  | cons i l ih =>
      rw [List.reverse_cons,← ih]
      exact List.reverse_cons

theorem follow?_executed (p : Program) (l : List Nat) (i : Nat) (a : Instruction) :
    (along p l).follow? (.executed i a (p.tally (i :: l))) = some (along p (i :: l)) := by
  rw [follow?,accumulator_along]
  rfl

theorem followAll?_retractions (p : Program) (rest l : List Nat) :
    (along p (l ++ rest)).followAll? (p.retractions rest l) = some (along p rest) := by
  induction l with
  | nil => rfl
  | cons i l ih =>
      have undone : (along p (i :: (l ++ rest))).follow? (.retracted i (p.tally (l ++ rest))) =
          some (along p (l ++ rest)) := by
        rw [follow?,along]
        simp [← accumulator_along]
      rw [List.cons_append,Program.retractions,followAll?,List.foldlM_cons,undone]
      exact ih

end Replay

/-- Every flip is made directly after a visit of the same index was taken back. -/
def FlipsFollow (es : List Event) : Prop :=
  ∀ before f after, es = before ++ .flipped f :: after →
    ∃ earlier accumulator, before = earlier ++ [.retracted f.index accumulator]

theorem FlipsFollow.append {es fs : List Event} (h : FlipsFollow es) (k : FlipsFollow fs) :
    FlipsFollow (es ++ fs) := by
  intro before f after split
  -- The flip is in the second part, or it and all before it are in the first.
  rcases List.append_eq_append_iff.1 split with ⟨mid,rfl,right⟩ | ⟨mid,left,right⟩
  · obtain ⟨earlier,accumulator,rfl⟩ := k mid f after right
    exact ⟨es ++ earlier,accumulator,(List.append_assoc _ _ _).symm⟩
  · cases mid with
    | nil =>
        obtain ⟨earlier,accumulator,none⟩ := k [] f after right.symm
        simp at none
    | cons e mid =>
        cases right
        exact h before f mid left

namespace Event

def isExecution : Event → Bool
  | .executed _ _ _ => true
  | _ => false

/-- Whether the event says that an attempt has failed. -/
def isFailure : Event → Bool
  | .looped _ | .deadEnd _ _ => true
  | _ => false

def isFlip : Event → Bool
  | .flipped _ => true
  | _ => false

end Event

theorem FlipsFollow.of_none {es : List Event} (h : ∀ e ∈ es, e.isFlip = false) :
    FlipsFollow es := by
  intro before f after split
  cases h (.flipped f) (by simp [split])

theorem flipsFollow_pair (f : Flip) (accumulator : Int64) :
    FlipsFollow [.retracted f.index accumulator,.flipped f] := by
  intro before g after split
  match before with
  | [] => simp at split
  | [e] =>
      cases split
      exact ⟨[],accumulator,rfl⟩
  | _ :: _ :: before => simp at split

namespace Machine
variable {p : Program} {m n o : Machine} {r : Except RepairExhausted Transition}
  {es fs : List Event} {t : Transition} {ts : List Transition}

theorem Reports.followAll? (h : Reports p m n r es) (next : Tracks p n) :
    (Replay.along p m.trail).followAll? es = some (.along p n.trail) := by
  cases h with
  | left _ same | looped same | halted _ same =>
      rw [same]
      rfl
  | @executed i a grown =>
      rw [next.accumulator,grown]
      exact Replay.follow?_executed p m.trail i a
  | @deadEnd i a grown =>
      rw [next.accumulator,grown]
      exact Replay.follow?_executed p m.trail i a
  | @repaired f k split =>
      have back := Replay.followAll?_retractions p n.trail (k ++ [f.index])
      rw [List.append_assoc,List.singleton_append,← split] at back
      rw [Replay.followAll?_append,back]
      rfl
  | exhausted spent =>
      rw [spent]
      simpa using Replay.followAll?_retractions p [] m.trail

theorem Reports.flipsFollow (h : Reports p m n r es) : FlipsFollow es := by
  cases h with
  | @repaired f k split =>
      have skipped : ∀ e ∈ p.retractions ([f.index] ++ n.trail) k, e.isFlip = false :=
        Program.forall_mem_retractions (fun _ _ => rfl) p _ k
      rw [Program.retractions_append,List.append_assoc]
      exact (FlipsFollow.of_none skipped).append (flipsFollow_pair f _)
  | exhausted _ =>
      exact .of_none (Program.forall_mem_retractions (fun _ _ => rfl) p [] m.trail)
  | left _ _ | looped _ | executed _ | deadEnd _ | halted _ _ =>
      exact .of_none (by simp [Event.isFlip])

/-- How many repairs the machine has before it. -/
def due (m : Machine) : Nat := if m.phase = .looping then 1 else 0

/-- What the machine counts from `m` to `n` are the events `es`. -/
structure Accounts (m n : Machine) (es : List Event) : Prop where
  steps : n.steps = m.steps + es.countP Event.isExecution
  flips : n.repairs = m.repairs + es.countP Event.isFlip
  failures : n.repairs + n.due = m.repairs + m.due + es.countP Event.isFailure

theorem Accounts.append (h : Accounts m n es) (k : Accounts n o fs) : Accounts m o (es ++ fs) := by
  refine ⟨?_,?_,?_⟩
  · rw [k.steps,h.steps,List.countP_append,Nat.add_assoc]
  · rw [k.flips,h.flips,List.countP_append,Nat.add_assoc]
  · rw [k.failures,h.failures,List.countP_append,Nat.add_assoc]

theorem Accounts.of_start (h : Accounts (start p) n es) :
    es.countP Event.isExecution = n.steps ∧ es.countP Event.isFlip = n.repairs ∧
      es.countP Event.isFailure = n.repairs + n.due := by
  obtain ⟨steps,flips,failures⟩ := h
  simp only [start,due,reduceCtorEq,if_false,Nat.zero_add] at steps flips failures
  exact ⟨steps.symm,flips.symm,failures.symm⟩

theorem Move.accounts (move : Move p m (.ok t) n) (told : Reports p m n (.ok t) es) :
    Accounts m n es := by
  cases move with
  | left running _ =>
      cases told with
      | left _ _ => exact ⟨rfl,rfl,by simp [due,running,Event.isFailure]⟩
      | halted halted _ => cases running.symm.trans halted
  | looped running _ _ =>
      cases told
      exact ⟨rfl,rfl,by simp [due,running,Event.isFailure]⟩
  | deadEnd running _ _ _ _ =>
      cases told
      exact ⟨rfl,rfl,by simp [due,place,running,Event.isFailure]⟩
  | executed running _ _ _ _ =>
      cases told
      exact ⟨rfl,rfl,by simp [due,place,running,Event.isFailure]⟩
  | @repaired f r looping _ =>
      cases told with
      | repaired _ =>
          refine ⟨?_,?_,?_⟩ <;> rw [List.countP_append,Program.countP_retractions fun _ _ => rfl]
          · rfl
          · rfl
          · simp [due,looping,Event.isFailure]
  | halted halted =>
      cases told with
      | left running _ => cases running.symm.trans halted
      | halted _ _ => exact ⟨rfl,rfl,rfl⟩

/-- The call that fails is a repair without a flip, and is not due any more. -/
theorem Move.accounts_of_error {e : RepairExhausted} (move : Move p m (.error e) n)
    (told : Reports p m n (.error e) es) :
    e = ⟨n.repairs⟩ ∧ n.steps = m.steps + es.countP Event.isExecution ∧
      n.repairs = m.repairs + es.countP Event.isFlip + 1 ∧
      n.repairs = m.repairs + m.due + es.countP Event.isFailure := by
  cases told
  rw [Program.countP_retractions fun _ _ => rfl,Program.countP_retractions fun _ _ => rfl,
    Program.countP_retractions fun _ _ => rfl]
  cases move with
  | exhausted looping _ => exact ⟨rfl,rfl,rfl,by simp [due,looping]⟩

theorem Move.of_halting (move : Move p m (.ok .halted) n) (live : m.phase ≠ .halted)
    (told : Reports p m n (.ok .halted) es) : es = [.halted n.outcome] ∧ n.due = 0 := by
  cases move with
  | left running _ =>
      cases told with
      | left _ _ => exact ⟨rfl,rfl⟩
      | halted halted _ => exact absurd halted live
  | halted halted => exact absurd halted live

theorem Tracks.followAll?_eventsOf (h : Tracks p m) (k : Nat) :
    (Replay.along p m.trail).followAll? (m.eventsOf k) = some (.along p (m.after k).trail) := by
  induction k generalizing m with
  | zero => rfl
  | succ k ih =>
      rw [eventsOf,Replay.followAll?_append,h.reports.followAll? h.step]
      exact ih h.step

theorem Tracks.flipsFollow_eventsOf (h : Tracks p m) (k : Nat) : FlipsFollow (m.eventsOf k) := by
  induction k generalizing m with
  | zero => exact .of_none (List.forall_mem_nil _)
  | succ k ih => exact h.reports.flipsFollow.append (ih h.step)

/-- Only the call that finds the way out reports an outcome. -/
theorem Reports.ne_halted (h : Reports p m n r es) (going : r ≠ .ok .halted) :
    ∀ e ∈ es, ∀ o, e ≠ .halted o := by
  cases h with
  | left _ _ | halted _ _ => exact absurd rfl going
  | looped _ | executed _ | deadEnd _ => simp
  | @repaired f k _ =>
      have back := Program.forall_mem_retractions (P := fun e => ∀ o, e ≠ .halted o) (by simp) p
        n.trail (k ++ [f.index])
      exact List.forall_mem_append.2 ⟨back,by simp⟩
  | exhausted _ => exact Program.forall_mem_retractions (by simp) p [] m.trail

theorem Move.phase_ne_halted (h : Move p m r n) (live : m.phase ≠ .halted)
    (going : r ≠ .ok .halted) : n.phase ≠ .halted := by
  cases h with
  | left _ _ | halted _ => exact absurd rfl going
  | looped _ _ _ | deadEnd _ _ _ _ _ | repaired _ _ => simp
  | executed _ _ _ _ _ | exhausted _ _ => exact live

namespace Makes

theorem accounts (h : Makes m ts n) (track : Tracks p m) :
    Accounts m n (m.eventsOf ts.length) := by
  induction h with
  | nil m => exact ⟨rfl,rfl,rfl⟩
  | cons went _ _ ih =>
      have first := Move.accounts (went ▸ track.move) (went ▸ track.reports)
      exact first.append (ih track.step)

/-- A run reports no outcome before its end. -/
theorem ne_halted (h : Makes m ts n) (track : Tracks p m) :
    ∀ e ∈ m.eventsOf ts.length, ∀ o, e ≠ .halted o := by
  induction h with
  | nil m => exact List.forall_mem_nil _
  | cons went going _ ih =>
      have before := track.reports.ne_halted (by simpa [went] using going)
      exact List.forall_mem_append.2 ⟨before,ih track.step⟩

theorem phase_ne_halted (h : Makes m ts n) (track : Tracks p m) (live : m.phase ≠ .halted) :
    n.phase ≠ .halted := by
  induction h with
  | nil m => exact live
  | cons went going _ ih =>
      exact ih track.step (track.move.phase_ne_halted live (by simpa [went] using going))

end Makes

/-- How the record `es` of a run ends that has this result and leaves the machine `n`: an outcome
is told once, as the last event, or never; of the repairs only the one that fails makes no flip. -/
inductive Closes (n : Machine) (es : List Event) : Except RepairExhausted Outcome → Prop
  | ok {earlier : List Event} : es = earlier ++ [.halted n.outcome] →
      (∀ e ∈ earlier, ∀ o, e ≠ .halted o) → es.countP Event.isFlip = n.repairs →
      Closes n es (.ok n.outcome)
  | error : (∀ e ∈ es, ∀ o, e ≠ .halted o) → es.countP Event.isFlip + 1 = n.repairs →
      Closes n es (.error ⟨n.repairs⟩)

theorem Makes.closes {r : Except RepairExhausted Outcome} (made : Makes (start p) ts m)
    (concluded : m.Concludes r) :
    let es := (start p).eventsOf (ts.length + 1)
    let n := m.step.machine
    Closes n es r ∧ es.countP Event.isExecution = n.steps ∧
      es.countP Event.isFailure = n.repairs := by
  have track := made.tracks (tracks_start p)
  have counted := made.accounts (tracks_start p)
  have silent := made.ne_halted (tracks_start p)
  have recorded := (start p).eventsOf_succ ts.length
  rw [made.after_eq] at recorded
  dsimp only
  cases r with
  | ok o =>
      obtain ⟨halting,rfl⟩ := concluded
      have live := made.phase_ne_halted (tracks_start p) (by simp [start])
      have move := halting ▸ track.move
      have told := halting ▸ track.reports
      obtain ⟨last,settled⟩ := move.of_halting live told
      have all := counted.append (move.accounts told)
      rw [← recorded] at all
      obtain ⟨steps,flips,failures⟩ := all.of_start
      rw [settled] at failures
      exact ⟨.ok (recorded.trans (by rw [last])) silent flips,steps,failures⟩
  | error e =>
      -- The repair that fails was due all the while, so it belongs to the last failed attempt.
      have failed : m.step.result = .error e := concluded
      have move := failed ▸ track.move
      have told := failed ▸ track.reports
      obtain ⟨rfl,steps,flips,failures⟩ := move.accounts_of_error told
      obtain ⟨steps',flips',failures'⟩ := counted.of_start
      have failing := told.ne_halted (by simp)
      rw [recorded]
      refine ⟨.error (List.forall_mem_append.2 ⟨silent,failing⟩) ?_,?_,?_⟩
      · rw [List.countP_append,flips',flips]
      · rw [List.countP_append,steps',steps]
      · rw [List.countP_append,failures',failures]

end Machine

namespace Program

/-- The record `es` is made in `k` calls on a machine started on `p`, and after each of them a
replay of what is recorded so far shows the trail and the accumulator of the machine. -/
structure ReplaysIn (p : Program) (k : Nat) (es : List Event) : Prop where
  calls : es = (Machine.start p).eventsOf k
  shows : ∀ j ≤ k, ∃ r, Replay.followAll? {} ((Machine.start p).eventsOf j) = some r ∧
    r.history = ((Machine.start p).after j).history ∧
    r.accumulator = ((Machine.start p).after j).accumulator

theorem replaysIn_eventsOf (p : Program) (k : Nat) :
    p.ReplaysIn k ((Machine.start p).eventsOf k) := by
  refine ⟨rfl,?_⟩
  intro j _
  have track := (Machine.tracks_start p).after j
  refine ⟨_,(Machine.tracks_start p).followAll?_eventsOf j,?_,?_⟩
  · exact Replay.history_along p _
  · rw [Replay.accumulator_along,track.accumulator]

/-- What the record `es` of a run tells, which has the result `r` and leaves the machine `n`. -/
structure Recounts (p : Program) (r : Except RepairExhausted Outcome) (n : Machine)
    (es : List Event) : Prop where
  replays : ∃ k, p.ReplaysIn (k + 1) es ∧ n = (Machine.start p).after (k + 1) ∧
    ((Machine.start p).after k).AtEnd ∧ ∀ j < k, ¬ ((Machine.start p).after j).AtEnd
  flipsFollow : FlipsFollow es
  closes : n.Closes es r
  steps : es.countP Event.isExecution = n.steps
  failures : es.countP Event.isFailure = n.repairs

/-- The record of a run replays the run, call by call, and accounts for all that it counts. -/
theorem runRecorded_recounts (p : Program) : p.Recounts p.runRecorded.1
    ((Machine.start p).runWith .recording #[]).machine p.runRecorded.2 := by
  obtain ⟨ts,n,made,ended⟩ := (Machine.start p).exists_end
  obtain ⟨r,concluded⟩ := ended.concludes
  obtain ⟨closes,steps,failures⟩ := made.closes concluded
  have final : ((Machine.start p).runWith .recording #[]).machine = n.step.machine := by
    rw [Machine.machine_runWith,made.run,concluded.run]
  rw [runRecorded_eq made concluded,final]
  have last : n.step.machine = (Machine.start p).after (ts.length + 1) := by
    rw [Machine.after_succ,made.after_eq]
  have calls : ((Machine.start p).after ts.length).AtEnd := made.after_eq.symm ▸ ended
  exact ⟨⟨ts.length,p.replaysIn_eventsOf _,last,calls,made.not_atEnd⟩,
    (Machine.tracks_start p).flipsFollow_eventsOf _,closes,steps,failures⟩

end Program
end LoopRepair
