import LoopRepair.Proofs.RecordedRun
import LoopRepair.Proofs.RepairSearch

/-!
# Undoing agrees with restarting

A run with its undo log finds what the naive search finds that restarts every attempt:
the same flip and accumulator, or nothing. The flips that the machine makes on the way,
as a recording observer is told them, are those that the naive search tries, in the same
order, each once at most. Instructions that count as visited from the outset are traps in
both; nothing is asked of the visits.
-/
namespace LoopRepair

/-- The flip that an event reports. -/
def Event.flip? : Event → Option Flip
  | .flipped f => some f
  | .executed _ _ _ | .looped _ | .deadEnd _ _ | .retracted _ _ | .halted _ => none

/-- Keeps the flips, in order. -/
def Observer.flips : Observer (List Flip) := ⟨fun s e => s ++ e.flip?.toList,fun s _ => s⟩

theorem Observer.recording_carries_flips :
    Observer.recording.Carries .flips fun events => events.toList.filterMap Event.flip? := by
  constructor
  · intro s e
    cases h : e.flip? <;> simp [recording,flips,h]
  · intro s n
    rfl

theorem Observer.flips_appends : flips.Appends := fun before =>
  ⟨fun s e => (List.append_assoc before s e.flip?.toList).symm,fun _ _ => rfl⟩

namespace Machine
variable {m n : Machine} {ts : List Transition}

/-- The flips that a call reports to have made. -/
def flipsOf : Except RepairExhausted Transition → List Flip
  | .ok t => t.flip?.toList
  | .error _ => []

theorem seen_execute (s : List Flip) (m : Machine) :
    (execute .flips s m).seen = s ++ (execute .flips s m).result.flip?.toList := by
  unfold execute
  dsimp only
  split
  · simp [Observer.flips,Event.flip?,Transition.flip?]
  · split
    · simp [Observer.flips,Event.flip?,Transition.flip?]
    · split <;> simp [Observer.flips,Event.flip?,Transition.flip?]

theorem seen_retractThrough (target : Nat) (l : List Nat) (s : List Flip) (m : Machine) :
    (retractThrough .flips target l s m).1 = s := by
  induction l generalizing m with
  | nil => rfl
  | cons i l ih =>
      rw [retractThrough]
      simp only [Observer.flips,Event.flip?,Option.toList_none,List.append_nil]
      split
      · rfl
      · exact ih _

theorem seen_abandon (s : List Flip) (m : Machine) : (abandon .flips s m).1 = s := by
  unfold abandon
  split
  · rfl
  · exact seen_retractThrough _ _ s m

theorem seen_seekFlip (l : List Nat) (s : List Flip) (m : Machine) :
    (seekFlip .flips l s m).seen = s ++ flipsOf (seekFlip .flips l s m).result := by
  induction l generalizing m with
  | nil => simp [seekFlip,flipsOf,Observer.flips]
  | cons i l ih =>
      rw [seekFlip]
      simp only [Observer.flips,Event.flip?,Option.toList_none,List.append_nil]
      split
      · rfl
      · exact ih _

theorem seen_stepWith (s : List Flip) (m : Machine) :
    (stepWith .flips s m).seen = s ++ flipsOf m.step.result := by
  rw [← result_stepWith .flips s]
  unfold stepWith
  split
  · exact seen_execute s m
  · have given := seen_abandon s { m with repairs := m.repairs + 1 }
    rw [repair]
    generalize abandon .flips s { m with repairs := m.repairs + 1 } = r at given
    obtain ⟨_,n⟩ := r
    cases given
    exact seen_seekFlip _ _ n
  · simp [flipsOf,Transition.flip?]

theorem told_flips (m : Machine) : m.told .flips = flipsOf m.step.result := seen_stepWith [] m

theorem Makes.told_flips (h : Makes m ts n) :
    m.toldOf .flips ts.length = ts.filterMap Transition.flip? := by
  induction h with
  | nil m => rfl
  | @cons m n t ts went _ _ ih =>
      rw [List.length_cons,toldOf,ih,Machine.told_flips,went]
      cases h : t.flip? <;> simp [flipsOf,h]

theorem Concludes.told_flips {r : Except RepairExhausted Outcome} (h : n.Concludes r) :
    n.told .flips = [] := by
  rw [Machine.told_flips]
  cases r with
  | ok o =>
      rw [h.1]
      rfl
  | error e =>
      have failed : n.step.result = .error e := h
      rw [failed]
      rfl

end Machine

namespace Program
variable {p : Program}

/-- The flips that a recorded run reports are those of its transitions. -/
theorem flips_runRecorded_of_makes {ts : List Transition} {n : Machine}
    {r : Except RepairExhausted Outcome} (made : Machine.Makes (.start p) ts n)
    (concluded : n.Concludes r) :
    p.runRecorded.2.filterMap Event.flip? = ts.filterMap Transition.flip? := by
  have seen := congrArg Observed.seen
    (Machine.runWith_map Observer.recording_carries_flips #[] (Machine.start p))
  rw [Observed.seen_map] at seen
  rw [runRecorded,← seen]
  change (Machine.runWith .flips [] (Machine.start p)).seen = _
  rw [made.told_run concluded.atEnd Observer.flips_appends,Machine.toldOf_succ,made.after_eq,
    made.told_flips,concluded.told_flips,List.append_nil]

/-- The flips that a recorded run reports are those that its search tries. -/
theorem flips_runRecorded (p : Program) :
    p.runRecorded.2.filterMap Event.flip? = p.tried := by
  obtain ⟨ts,n,made,tried,concluded⟩ := Machine.start_searched p
  rw [flips_runRecorded_of_makes made concluded,tried]

theorem tried_prefix (p : Program) : p.tried <+: p.attempt.path.filterMap p.flipAt? := by
  rw [tried,trials,← map_fst_trialsAlong]
  split
  · exact List.nil_prefix
  · exact (upToHalted_prefix_trials _).map Prod.fst

theorem map_index_filterMap (p : Program) (l : List Nat) :
    (l.filterMap p.flipAt?).map Flip.index = l.filter fun i => (p.flipAt? i).isSome := by
  induction l with
  | nil => rfl
  | cons i l ih =>
      cases hi : p.flipAt? i with
      | none => simp [hi,ih]
      | some f => simp [hi,ih,flipAt?_index hi]

/-- The indices flipped in a run stand on the path of the attempt, in this order. -/
theorem tried_sublist (p : Program) : (p.tried.map Flip.index).Sublist p.attempt.path := by
  have all := p.tried_prefix.sublist.map Flip.index
  rw [map_index_filterMap] at all
  exact all.trans List.filter_sublist

/-- No index is flipped twice in a run. -/
theorem tried_nodup (p : Program) : (p.tried.map Flip.index).Nodup := by
  obtain ⟨_,path,_⟩ := p.exists_attempt
  exact path.nodup.sublist p.tried_sublist

/-- Of the trials that are made, a run and the naive search report the same one. -/
theorem outcomeOf_restart (p : Program) (ts : List (Flip × Attempt)) (steps repairs : Nat) :
    (p.outcomeOf ts steps repairs).toOption.map (fun o => (o.flip,o.accumulator)) =
      (ts.find? (·.2.halted)).map fun t => (some t.1,t.2.accumulator) := by
  rw [outcomeOf]
  cases ts.find? (·.2.halted) <;> rfl

/-- The result, the recorded flips and their order are those of the restarting search. -/
theorem run_eq_searchByRestarting (p : Program) :
    p.run.toOption.map (fun o => (o.flip,o.accumulator)) = p.searchByRestarting ∧
      p.runRecorded.1 = p.run ∧
      p.runRecorded.2.filterMap Event.flip? = p.tried ∧
      (p.tried.map Flip.index).Nodup := by
  refine ⟨?_,?_,p.flips_runRecorded,p.tried_nodup⟩
  · rw [run_eq,searchByRestarting]
    cases halted : p.attempt.halted with
    | true =>
        rw [searchOutcome_of_halted halted]
        rfl
    | false =>
        rw [searchOutcome_of_failed halted,outcomeOf_restart,trials_of_failed halted,
          find?_upToHalted]
        rfl
  · rw [run,runRecorded,Machine.result_runWith]

end Program
end LoopRepair
