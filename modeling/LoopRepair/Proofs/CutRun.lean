import Mathlib.Data.List.Forall2
import LoopRepair.Proofs.RepairSearch
import LoopRepair.Proofs.RunReplay

/-!
# Runs cut into pieces

What a run has still to do is all in the machine. So a run may be left to single calls, watched
by anyone, and be taken up again at any place: it comes to the end of the run in one, and what
is recorded of its calls are pieces of the record of the run in one. A machine that has halted
is left as it is by every later run, which tells nothing of it either. So the outcome is told
once, by the call that comes upon it.
-/
namespace LoopRepair

/-- The outcome that an event reports. -/
def Event.outcome? : Event → Option Outcome
  | .halted o => some o
  | .executed _ _ _ | .looped _ | .deadEnd _ _ | .retracted _ _ | .flipped _ => none

namespace Machine
variable {p : Program} {m k n : Machine} {ts : List Transition} {o : Outcome}
  {r : Except RepairExhausted Outcome} {piece : Option (List Event)} {part es : List Event}
  {pieces : List (Option (List Event))} {parts : List (List Event)} {σ : Type}

/-- The events of a run from here to its end. -/
def record (m : Machine) : List Event := (runWith .recording #[] m).seen.toList

theorem record_eq (m : Machine) : m.record = (runWith .events [] m).seen := by
  have recorded := runWith_map Observer.recording_carries_events #[] m
  exact (congrArg Observed.seen recorded).symm

/-- A recorder takes in what a call has to tell, whatever it has taken in before. -/
theorem toList_stepWith_recording (before : Array Event) (m : Machine) :
    (stepWith .recording before m).seen.toList = before.toList ++ m.events := by
  have recorded := stepWith_map Observer.recording_carries_events before m
  exact (congrArg Observed.seen recorded).symm.trans
    (seen_stepWith_told Observer.events_appends before.toList m)

theorem toList_runWith_recording (before : Array Event) (m : Machine) :
    (runWith .recording before m).seen.toList = before.toList ++ m.record := by
  have recorded := runWith_map Observer.recording_carries_events before m
  have appended := congrArg Observed.seen
    (runWith_map (Observer.events_appends before.toList) [] m)
  rw [List.append_nil] at appended
  rw [record_eq]
  exact (congrArg Observed.seen recorded).symm.trans appended

/-- Calls for single transitions, none of which ends the run, make of the machine `m` the machine
`n`. For each of them the list has what a recorder took in, and nothing if anyone else watched. -/
inductive Cuts : Machine → List (Option (List Event)) → Machine → Prop
  | nil (m : Machine) : Cuts m [] m
  | watched {m n : Machine} {pieces : List (Option (List Event))} {t : Transition} {σ : Type}
      (w : Observer σ) (s : σ) : (stepWith w s m).result = .ok t → t ≠ .halted →
      Cuts (stepWith w s m).machine pieces n → Cuts m (none :: pieces) n
  | recorded {m n : Machine} {pieces : List (Option (List Event))} {t : Transition}
      {es : List Event} (before : Array Event) :
      (stepWith .recording before m).result = .ok t → t ≠ .halted →
      (stepWith .recording before m).seen.toList = before.toList ++ es →
      Cuts (stepWith .recording before m).machine pieces n → Cuts m (some es :: pieces) n

/-- A call for a run returns `r` and leaves the machine `n`; it is recorded or watched as the
calls before it. -/
inductive Finishes (m : Machine) :
    Option (List Event) → Except RepairExhausted Outcome → Machine → Prop
  | watched {σ : Type} (w : Observer σ) (s : σ) :
      Finishes m none (runWith w s m).result (runWith w s m).machine
  | recorded {es : List Event} (before : Array Event) :
      (runWith .recording before m).seen.toList = before.toList ++ es →
      Finishes m (some es) (runWith .recording before m).result
        (runWith .recording before m).machine

/-- What was recorded of a call, if it was recorded, are these events. -/
def Shows (piece : Option (List Event)) (part : List Event) : Prop := ∀ es ∈ piece, es = part

/-- The events recorded, in the order of the calls. -/
def recorded (pieces : List (Option (List Event))) : List Event := pieces.flatMap (·.getD [])

theorem shows_some : Shows (some es) part ↔ es = part := by
  simp [Shows]

theorem recorded_append (pieces pieces' : List (Option (List Event))) :
    recorded (pieces ++ pieces') = recorded pieces ++ recorded pieces' :=
  List.flatMap_append

/-- Of the calls that were not recorded nothing is known. -/
theorem recorded_sublist (shown : List.Forall₂ Shows pieces parts) :
    (recorded pieces).Sublist parts.flatten := by
  induction shown with
  | nil => exact .slnil
  | @cons piece part pieces parts first _ ih =>
      cases piece with
      | none => exact ih.trans (List.sublist_append_right part parts.flatten)
      | some es => exact shows_some.1 first ▸ ih.append_left es

theorem recorded_eq (shown : List.Forall₂ Shows pieces parts) (all : none ∉ pieces) :
    recorded pieces = parts.flatten := by
  induction shown with
  | nil => rfl
  | @cons piece part pieces parts first _ ih =>
      have rest := ih fun missing => all (List.mem_cons_of_mem _ missing)
      cases piece with
      | none => exact absurd List.mem_cons_self all
      | some es =>
          have same : es = part := shows_some.1 first
          calc
            recorded (some es :: pieces) = es ++ recorded pieces := rfl
            _ = (part :: parts).flatten := by rw [same,rest,List.flatten_cons]

/-- Single calls make the transitions of the run, and each has its part of what there is to tell. -/
theorem Cuts.makes (cut : Cuts m pieces n) : ∃ ts parts, Makes m ts n ∧
    List.Forall₂ Shows pieces parts ∧ parts.flatten = m.eventsOf ts.length := by
  induction cut with
  | nil m => exact ⟨[],[],.nil m,.nil,rfl⟩
  | @watched m n pieces t σ w s went going _ ih =>
      obtain ⟨ts,parts,made,shown,told⟩ := ih
      rw [result_stepWith] at went
      rw [machine_stepWith] at made told
      refine ⟨t :: ts,m.events :: parts,.cons went going made,.cons ?_ shown,?_⟩
      · intro es missing
        cases missing
      · rw [List.flatten_cons,told,List.length_cons,eventsOf]
  | @recorded m n pieces t es before went going added _ ih =>
      obtain ⟨ts,parts,made,shown,told⟩ := ih
      rw [result_stepWith] at went
      rw [machine_stepWith] at made told
      rw [toList_stepWith_recording] at added
      have same : es = m.events := (List.append_cancel_left added).symm
      refine ⟨t :: ts,m.events :: parts,.cons went going made,.cons (shows_some.2 same) shown,?_⟩
      rw [List.flatten_cons,told,List.length_cons,eventsOf]

theorem Finishes.run_eq (last : Finishes m piece r n) : m.run = ⟨r,n,()⟩ := by
  cases last with
  | watched w s => exact runWith_silent w s m
  | recorded before _ => exact runWith_silent .recording before m

theorem Finishes.shows (last : Finishes m piece r n) : Shows piece m.record := by
  cases last with
  | watched w s =>
      intro es missing
      cases missing
  | recorded before added =>
      rw [toList_runWith_recording] at added
      exact shows_some.2 (List.append_cancel_left added).symm

/-- The record of a run is that of its first calls, and then that of the run from there. -/
theorem Makes.record_eq (made : Makes m ts n) :
    m.record = m.eventsOf ts.length ++ n.record := by
  have seen := made.seen_run Observer.events_appends []
  have appended := congrArg Observed.seen
    (runWith_map (Observer.events_appends (m.toldOf .events ts.length)) [] n)
  rw [List.append_nil] at appended
  rw [Machine.record_eq,Machine.record_eq,seen,eventsOf_eq_toldOf]
  exact appended

theorem outcomes_eq_nil (none : ∀ e ∈ es, ∀ o, e ≠ .halted o) :
    es.filterMap Event.outcome? = [] := by
  rw [List.filterMap_eq_nil_iff]
  intro e he
  cases e with
  | halted o => exact absurd rfl (none _ he o)
  | executed _ _ _ | looped _ | deadEnd _ _ | retracted _ _ | flipped _ => rfl

/-- A run that comes upon the outcome tells it once. -/
theorem Tracks.outcomes_record (h : Tracks p m) (live : m.phase ≠ .halted)
    (ran : m.run.result = .ok o) : m.record.filterMap Event.outcome? = [o] := by
  obtain ⟨ts,n,made,ended⟩ := m.exists_end
  obtain ⟨r,concluded⟩ := ended.concludes
  have track := made.tracks h
  have before := outcomes_eq_nil (made.ne_halted h)
  rw [made.run,concluded.run] at ran
  have reported : r = .ok o := ran
  subst reported
  obtain ⟨halting,rfl⟩ := concluded
  have told : n.events = [.halted n.step.machine.outcome] :=
    ((halting ▸ track.move).of_halting (made.phase_ne_halted h live) (halting ▸ track.reports)).1
  have last : n.record = n.events :=
    (Machine.record_eq n).trans (ended.seen_run Observer.events_appends [])
  rw [made.record_eq,List.filterMap_append,before,last,told]
  rfl

/-- However a run is cut, it comes to the end of the run in one, and each call tells its part of
the record of the run in one. Only the last of them tells an outcome, and no run tells it again. -/
theorem cut_runs_agree (h : Reachable p m) (cut : Cuts m pieces k) (last : Finishes k piece r n) :
    (∀ (σ : Type) (w : Observer σ) (s : σ),
        (runWith w s m).result = r ∧ (runWith w s m).machine = n) ∧
      (∃ parts, List.Forall₂ Shows (pieces ++ [piece]) parts ∧
        parts.flatten = (runWith .recording #[] m).seen.toList) ∧
      (none ∉ pieces ++ [piece] →
        recorded (pieces ++ [piece]) = (runWith .recording #[] m).seen.toList) ∧
      (∀ o, r = .ok o → m.phase ≠ .halted →
        (recorded (pieces ++ [piece])).filterMap Event.outcome? =
          if piece.isSome then [o] else []) ∧
      (∀ o, r = .ok o → n.phase = .halted ∧
        ∀ (σ : Type) (w : Observer σ) (s : σ), runWith w s n = ⟨.ok o,n,s⟩) ∧
      (m.phase = .halted →
        ∀ (σ : Type) (w : Observer σ) (s : σ), runWith w s m = ⟨.ok m.outcome,m,s⟩) := by
  obtain ⟨ts,parts,made,shown,told⟩ := cut.makes
  have ran : m.run = ⟨r,n,()⟩ := made.run.trans last.run_eq
  have all : List.Forall₂ Shows (pieces ++ [piece]) (parts ++ [k.record]) :=
    List.rel_append shown (.cons last.shows .nil)
  have whole : (parts ++ [k.record]).flatten = m.record := by
    rw [List.flatten_append,told,List.flatten_singleton,made.record_eq]
  refine ⟨?_,⟨_,all,whole⟩,?_,?_,?_,fun halted σ => runWith_halted halted⟩
  · intro σ w s
    rw [result_runWith,machine_runWith,ran]
    exact ⟨rfl,rfl⟩
  · intro complete
    exact (recorded_eq all complete).trans whole
  · intro o ok live
    have earlier : (recorded pieces).filterMap Event.outcome? = [] := by
      apply outcomes_eq_nil
      intro e he
      have part := (recorded_sublist shown).subset he
      rw [told] at part
      exact made.ne_halted h.tracks e part
    rw [recorded_append,List.filterMap_append,earlier,List.nil_append]
    cases piece with
    | none => rfl
    | some es =>
        have told : recorded [some es] = k.record := by
          rw [← shows_some.1 last.shows]
          exact List.append_nil es
        have result : k.run.result = .ok o := by rw [last.run_eq,ok]
        rw [told]
        exact (made.tracks h.tracks).outcomes_record (made.phase_ne_halted h.tracks live) result
  · intro o ok
    have result : m.run.result = .ok o := by rw [ran,ok]
    obtain ⟨halted,outcome⟩ := h.tracks.halted_of_run result
    rw [ran] at halted outcome
    refine ⟨halted,?_⟩
    intro σ w s
    rw [runWith_halted halted,outcome]

/-- On its way out of `maze` the machine is left and taken up again while a dead end waits to be
repaired, and once more while a flip waits to be executed. -/
theorem maze_cut_runs_agree :
    let k := (start maze).after 4
    let pieces := [some [.executed 0 ⟨.acc,2,1⟩ 2],none,
      some [.executed 3 ⟨.jmp,-4,1⟩ 2,.deadEnd 3 (-4)],some [.retracted 3 2,.flipped ⟨3,.jmp⟩]]
    let last := runWith .recording #[] k
    Reachable maze (start maze) ∧ (start maze).phase ≠ .halted ∧ Cuts (start maze) pieces k ∧
      Finishes k (some k.record) last.result last.machine ∧
      last.result = .ok ⟨some ⟨1,.jmp⟩,2,7,2⟩ ∧ last.machine = (start maze).run.machine ∧
      (recorded (pieces ++ [some k.record])).filterMap Event.outcome? =
        [⟨some ⟨1,.jmp⟩,2,7,2⟩] ∧
      runWith .recording #[] last.machine = ⟨last.result,last.machine,#[]⟩ := by
  intro k pieces last
  have live : (start maze).phase ≠ .halted := by simp [start]
  have cut : Cuts (start maze) pieces k :=
    .recorded (t := .executed 0) #[] rfl (by decide) rfl <|
    .watched (t := .executed 1) .silent () rfl (by decide) <|
    .recorded (t := .deadEnd 3) #[] rfl (by decide) rfl <|
    .recorded (t := .repaired ⟨3,.jmp⟩) #[] rfl (by decide) rfl <| .nil _
  have finish : Finishes k (some k.record) last.result last.machine := .recorded #[] rfl
  obtain ⟨same,_,_,once,again,_⟩ := cut_runs_agree .start cut finish
  have result : last.result = .ok ⟨some ⟨1,.jmp⟩,2,7,2⟩ :=
    (same Unit .silent ()).1.symm.trans (maze.run_eq.trans rfl)
  obtain ⟨_,stays⟩ := again _ result
  refine ⟨.start,live,cut,finish,result,(same Unit .silent ()).2.symm,once _ result live,?_⟩
  rw [result]
  exact stays _ .recording #[]

end Machine
end LoopRepair
