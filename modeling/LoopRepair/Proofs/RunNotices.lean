import LoopRepair.Proofs.FlipRecord
import LoopRepair.Proofs.LogAgreement
import LoopRepair.Proofs.RestartAgreement
import LoopRepair.Proofs.RunVerdict

/-!
# What a machine notes of its repairs

The notices of a run come in rounds: a repair notes the flip that it has made, and the next one
notes that it has given this flip up again. The log of a run that asks for no events is made of
them alone, so the flips of the run determine it, and whether the run fails, which leaves it with
a last notice or with a round that has only begun. A flip is noted with the operation that the
program has there at the outset, and once it is noted to have been given up, none is in effect.
-/
namespace LoopRepair

namespace Notice

/-- The notices of repairs that make these flips, counted from `r`, and give each of them up
again. -/
def rounds : Nat → List Flip → List Notice
  | _,[] => []
  | r,f :: fs => .applied f r :: .restored f.index :: rounds (r + 1) fs

theorem rounds_append (r : Nat) (fs gs : List Flip) :
    rounds r (fs ++ gs) = rounds r fs ++ rounds (r + fs.length) gs := by
  induction fs generalizing r with
  | nil => rfl
  | cons f fs ih =>
      simp only [List.cons_append,rounds,ih,List.length_cons,Nat.add_right_comm r 1,Nat.add_assoc]

/-- What a repair that is counted as the `r`-th notes of its result. -/
def ofResult (r : Nat) : Except RepairExhausted Transition → List Notice
  | .ok t => (t.flip?.map (.applied · r)).toList
  | .error e => [.exhausted e.repairs]

end Notice

namespace Observer

/-- Keeps every notice, in order, as a list. -/
def notices : Observer (List Notice) := ⟨fun s _ => s,fun s n => s ++ [n]⟩

theorem notices_appends : notices.Appends := fun before =>
  ⟨fun _ _ => rfl,fun s n => (List.append_assoc before s [n]).symm⟩

theorem notices_carries_logging :
    notices.Carries (logging false) fun ns => (ns.map Notice.entry).toArray := by
  constructor
  · intro s e
    rfl
  · intro s n
    simp [notices,logging]

end Observer

namespace Machine
variable {p : Program} {m n : Machine} {t : Transition} {ts : List Transition} {i : Nat}
  {fs gs : List Flip} {ns os : List Notice} {σ : Type}

/-- What is to be noted once the flip in effect, if there is one, is given up. -/
def owed (m : Machine) : List Notice := (m.flip.map fun f => .restored f.index).toList

/-- Executing notes nothing, since it flips nothing. -/
theorem notices_execute (s : List Notice) (m : Machine) :
    (execute .notices s m).seen = s ++ Notice.ofResult (m.repairs + 1)
      (.ok (execute .notices s m).result) := by
  unfold execute
  dsimp only
  split
  · exact (List.append_nil s).symm
  · split
    · exact (List.append_nil s).symm
    · split <;> exact (List.append_nil s).symm

/-- Retracting notes nothing and repairs nothing. -/
theorem notices_retractThrough (target : Nat) (l : List Nat) (s : List Notice) (m : Machine) :
    (retractThrough .notices target l s m).1 = s ∧
      (retractThrough .notices target l s m).2.repairs = m.repairs := by
  induction l generalizing m with
  | nil => exact ⟨rfl,rfl⟩
  | cons i l ih =>
      rw [retractThrough]
      split
      · exact ⟨rfl,repairs_retract m i l⟩
      · obtain ⟨seen,repairs⟩ := ih (m.retract i l)
        exact ⟨seen,repairs.trans (repairs_retract m i l)⟩

theorem notices_abandon (s : List Notice) (m : Machine) :
    (abandon .notices s m).1 = s ++ m.owed ∧ (abandon .notices s m).2.repairs = m.repairs := by
  unfold abandon owed
  cases m.flip with
  | none => exact ⟨(List.append_nil s).symm,rfl⟩
  | some f =>
      obtain ⟨seen,repairs⟩ := notices_retractThrough f.index m.trail s m
      exact ⟨congrArg (· ++ [Notice.restored f.index]) seen,repairs⟩

theorem notices_seekFlip (l : List Nat) (s : List Notice) (m : Machine) :
    (seekFlip .notices l s m).seen =
      s ++ Notice.ofResult m.repairs (seekFlip .notices l s m).result := by
  induction l generalizing m with
  | nil => rfl
  | cons i l ih =>
      rw [seekFlip]
      dsimp only
      split
      · simp [Observer.notices,Notice.ofResult,Transition.flip?]
      · exact repairs_retract m i l ▸ ih (m.retract i l)

/-- A repair notes that it gives the flip in effect up, and then what it comes to. -/
theorem told_notices (m : Machine) : m.told .notices =
    (if m.phase = .looping then m.owed else []) ++
      Notice.ofResult (m.repairs + 1) m.step.result := by
  rw [told,← result_stepWith .notices []]
  unfold stepWith
  cases phase : m.phase with
  | running => exact notices_execute [] m
  | looping =>
      obtain ⟨seen,repairs⟩ := notices_abandon [] { m with repairs := m.repairs + 1 }
      rw [if_pos rfl]
      simp only [repair]
      rw [notices_seekFlip,seen,repairs]
      rfl
  | halted => rfl

/-- On the way from `m` to `n`, on which these flips are made, this is noted. -/
structure Notes (m n : Machine) (fs : List Flip) (ns : List Notice) : Prop where
  notices : ns ++ n.owed = m.owed ++ Notice.rounds (m.repairs + 1) fs
  repairs : n.repairs = m.repairs + fs.length
  flip : n.flip = fs.getLast?.or m.flip

theorem Notes.append {o : Machine} (h : Notes m n fs ns) (k : Notes n o gs os) :
    Notes m o (fs ++ gs) (ns ++ os) where
  notices := by
    have count : n.repairs + 1 = m.repairs + 1 + fs.length := by
      rw [h.repairs,Nat.add_right_comm]
    calc
      ns ++ os ++ o.owed = ns ++ n.owed ++ Notice.rounds (n.repairs + 1) gs := by
        rw [List.append_assoc,k.notices,List.append_assoc]
      _ = m.owed ++ Notice.rounds (m.repairs + 1) (fs ++ gs) := by
        rw [h.notices,count,Notice.rounds_append,List.append_assoc]
  repairs := by rw [k.repairs,h.repairs,List.length_append,Nat.add_assoc]
  flip := by rw [k.flip,h.flip,List.getLast?_append,Option.or_assoc]

/-- A call opens a round, or leaves the one that is open as it is. -/
theorem Tracks.notes (h : Tracks p m) (went : m.step.result = .ok t) :
    Notes m m.step.machine t.flip?.toList (m.told .notices) := by
  have move := h.move
  rw [told_notices,went]
  rw [went] at move
  generalize m.step.machine = n at move
  cases move with
  | left phase _ | looped phase _ _ | deadEnd phase _ _ _ _ | executed phase _ _ _ _
  | halted phase =>
      rw [phase]
      exact ⟨(List.append_nil _).symm,rfl,rfl⟩
  | repaired looping _ =>
      rw [if_pos looping]
      exact ⟨List.append_assoc _ _ _,rfl,rfl⟩

/-- What is noted up to the end of a run goes in rounds. -/
theorem Makes.notes (h : Makes m ts n) (track : Tracks p m) :
    Notes m n (ts.filterMap Transition.flip?) (m.toldOf .notices ts.length) := by
  induction h with
  | nil m => exact ⟨(List.append_nil _).symm,rfl,rfl⟩
  | @cons m n t ts went _ _ ih =>
      have flips : (t :: ts).filterMap Transition.flip? =
          t.flip?.toList ++ ts.filterMap Transition.flip? := by
        cases none : t.flip? <;> simp [none]
      rw [flips]
      exact (track.notes went).append (ih track.step)

/-- The last round is open for as long as its flip is in effect. -/
theorem Notes.eq_dropLast (h : Notes (start p) n fs ns) :
    ns = (Notice.rounds 1 fs).dropLast := by
  have all : ns ++ n.owed = Notice.rounds 1 fs := h.notices
  have flip := h.flip
  cases last : fs.getLast? with
  | none =>
      rw [List.getLast?_eq_none_iff.1 last] at all ⊢
      exact (List.append_eq_nil_iff.1 all).1
  | some f =>
      rw [last,Option.some_or] at flip
      have owed : n.owed = [.restored f.index] := by rw [owed,flip]; rfl
      rw [← all,owed,List.dropLast_concat]

/-- A run that succeeds leaves its last round open. -/
theorem Notes.of_ok {o : Outcome} (h : Notes (start p) n fs ns) (track : Tracks p n)
    (concluded : n.Concludes (.ok o)) : o.repairs = fs.length ∧
      ns ++ n.told .notices = (Notice.rounds 1 fs).dropLast := by
  obtain ⟨halting,rfl⟩ := concluded
  have whole := h.append (track.notes halting)
  rw [show Transition.halted.flip?.toList = [] from rfl,List.append_nil] at whole
  exact ⟨whole.repairs.trans (Nat.zero_add _),whole.eq_dropLast⟩

/-- A run that fails closes its last round and notes that it has failed. -/
theorem Notes.of_error {e : RepairExhausted} (h : Notes (start p) n fs ns) (track : Tracks p n)
    (failed : n.Concludes (.error e)) : e.repairs = fs.length + 1 ∧
      ns ++ n.told .notices = Notice.rounds 1 fs ++ [.exhausted e.repairs] := by
  have failed : n.step.result = .error e := failed
  have repairs : n.repairs = fs.length := h.repairs.trans (Nat.zero_add _)
  have all : ns ++ n.owed = Notice.rounds 1 fs := h.notices
  have move := track.move
  rw [told_notices,failed]
  rw [failed] at move
  generalize n.step.machine = o at move
  cases move with
  | exhausted looping _ =>
      rw [if_pos looping,← List.append_assoc,all,repairs]
      exact ⟨rfl,rfl⟩

/-- The next call takes visits of `m` back until the machine is `n`. Then it notes that the flip
at `i` was given up, and goes on from there. -/
def RestoresAt (m n : Machine) (i : Nat) : Prop := ∀ (σ : Type) (o : Observer σ) (s : σ), ∃ seen,
  retractThrough o i m.trail s { m with repairs := m.repairs + 1 } = (seen,n) ∧
    stepWith o s m = seekFlip o n.trail (o.notice seen (.restored i)) n

/-- Only a repair notes that a flip was given up, and only of the flip in effect. -/
theorem flip_of_restored (noted : .restored i ∈ m.told .notices) :
    m.phase = .looping ∧ ∃ f, m.flip = some f ∧ f.index = i := by
  have result : ∀ r, .restored i ∉ Notice.ofResult (m.repairs + 1) r := by
    intro r
    cases r <;> simp [Notice.ofResult]
  rw [told_notices,List.mem_append,or_iff_left (result _)] at noted
  split at noted
  · simp only [owed,Option.mem_toList,Option.map_eq_some_iff,Notice.restored.injEq] at noted
    exact ⟨‹_›,noted⟩
  · cases noted

theorem abandon_of_flip {f : Flip} (flip : m.flip = some f) (o : Observer σ) (s : σ) :
    abandon o s m =
      (o.notice (retractThrough o f.index m.trail s m).1 (.restored f.index),
        (retractThrough o f.index m.trail s m).2) := by
  unfold abandon
  rw [flip]

/-- When a flip is noted to have been given up, the operations are those of the outset. -/
theorem Tracks.restoresAt (h : Tracks p m) (noted : .restored i ∈ m.told .notices) :
    ∃ n, m.RestoresAt n i ∧ n.flip = none ∧ n.program.operation? = p.operation? := by
  obtain ⟨looping,f,flip,rfl⟩ := flip_of_restored noted
  let counted : Machine := { m with repairs := m.repairs + 1 }
  have flip' : counted.flip = some f := flip
  obtain ⟨_,rest,_,_,given⟩ := h.abandon_eq looping flip .silent ()
  refine ⟨(abandon .silent () counted).2,?_,?_,?_⟩
  · intro σ o s
    have same := congrArg Prod.snd (abandon_map o.carries_silent s counted)
    rw [abandon_of_flip flip' o] at same
    refine ⟨(retractThrough o f.index m.trail s counted).1,Prod.ext rfl same.symm,?_⟩
    have stepped : stepWith o s m = repair o s m := by
      rw [stepWith,looping]
    rw [stepped,repair,abandon_of_flip flip',same]
  · rw [given]
    rfl
  · rw [given]
    exact p.operation?_visiting rest

/-- A run logs the notices of its calls. -/
theorem Makes.runLogged (h : Makes m ts n) (ended : n.AtEnd) :
    (m.runLogged false).seen.toList = (m.toldOf .notices (ts.length + 1)).map Notice.entry := by
  have logged := congrArg Observed.seen (runWith_map Observer.notices_carries_logging [] m)
  rw [Observed.seen_map,h.told_run ended Observer.notices_appends] at logged
  exact congrArg Array.toList logged

end Machine

/-- The entry says that the repair that is counted as the `r`-th put the operation `new` in the
place of `old` at `i`. -/
structure LogEntry.TellsFlip (e : LogEntry) (i : Nat) (old new : Operation) (r : Nat) : Prop where
  message : e.message = "applied speculative edit"
  index : e.natural? "index" = some i
  replaced : e.operation? "from" = some old
  replacement : e.operation? "to" = some new
  repairs : e.natural? "repairs" = some r

theorem Notice.tellsFlip (f : Flip) (r : Nat) :
    (applied f r).entry.TellsFlip f.index f.replaced f.replacement r where
  message := rfl
  index := digits?_toString _
  replaced := ofMnemonic?_toString _
  replacement := ofMnemonic?_toString _
  repairs := digits?_toString _

namespace Program
variable {p : Program} {f : Flip}

theorem flipAt?_of_tried (h : f ∈ p.tried) : p.flipAt? f.index = some f := by
  obtain ⟨i,_,hi⟩ := List.mem_filterMap.1 (p.tried_prefix.subset h)
  rwa [flipAt?_index hi]

/-- A flip exchanges the operation of the program for its counterpart. -/
theorem counterpart?_of_flipAt? (h : p.flipAt? f.index = some f) :
    p.operation? f.index = some f.replaced ∧ f.replaced.counterpart? = some f.replacement := by
  obtain ⟨a,ha,flippable,made⟩ := flipAt?_eq_some_iff.1 h
  have replaced : f.replaced = a.operation := congrArg Flip.replaced made
  rw [operation?,ha,Flip.replacement,replaced]
  refine ⟨rfl,?_⟩
  unfold Instruction.flippable at flippable
  cases op : a.operation with
  | nop | jmp => rfl
  | acc =>
      rw [op] at flippable
      cases flippable

/-- The log of a run tells of the flips that the run makes, in rounds, and what it tells of them
is true. The repairs that it tells of are those of the machine, which fit in 32 bits as
`Machine.counters_fit` says. -/
theorem runLogged_rounds (p : Program) :
    let run := (Machine.start p).runLogged false
    let log := run.seen.toList
    let flips := p.runRecorded.2.filterMap Event.flip?
    (∀ o, run.result = .ok o → o.repairs = flips.length ∧
        log = (Notice.rounds 1 flips).dropLast.map Notice.entry) ∧
      (∀ e, run.result = .error e → e.repairs = flips.length + 1 ∧
        log = (Notice.rounds 1 flips ++ [Notice.exhausted e.repairs]).map Notice.entry) ∧
      (flips.map Flip.index).Nodup ∧
      (∀ f ∈ flips, ∃ a b, p.operation? f.index = some a ∧ a.counterpart? = some b ∧
        ∀ r, (Notice.applied f r).entry.TellsFlip f.index a b r) ∧
      (∃ k, log = ((Machine.start p).toldOf .notices k).map Notice.entry) ∧
      ∀ k i, .restored i ∈ ((Machine.start p).after k).told .notices → ∃ n,
        ((Machine.start p).after k).RestoresAt n i ∧
          n.flip = none ∧ n.program.operation? = p.operation? := by
  intro run log flips
  obtain ⟨ts,n,made,tried,concluded⟩ := Machine.start_searched p
  have track := made.tracks (Machine.tracks_start p)
  have notes := made.notes (Machine.tracks_start p)
  have logged : log = ((Machine.start p).toldOf .notices (ts.length + 1)).map Notice.entry :=
    made.runLogged concluded.atEnd
  have calls := logged
  rw [Machine.toldOf_succ,made.after_eq] at logged
  have result : run.result = p.searchOutcome := by
    rw [← run_eq]
    exact Machine.result_runWith _ _ _
  have same : flips = p.tried := p.flips_runRecorded
  rw [tried] at notes
  rw [same,result,logged]
  refine ⟨?_,?_,p.tried_nodup,?_,⟨_,logged.symm.trans calls⟩,?_⟩
  · intro o ok
    rw [ok] at concluded
    obtain ⟨repairs,ended⟩ := notes.of_ok track concluded
    exact ⟨repairs,congrArg _ ended⟩
  · intro e error
    rw [error] at concluded
    obtain ⟨repairs,ended⟩ := notes.of_error track concluded
    exact ⟨repairs,congrArg _ ended⟩
  · intro f hf
    obtain ⟨replaced,replacement⟩ := counterpart?_of_flipAt? (flipAt?_of_tried hf)
    exact ⟨f.replaced,f.replacement,replaced,replacement,Notice.tellsFlip f⟩
  · intro k i noted
    exact ((Machine.tracks_start p).after k).restoresAt noted

/-- A run that goes on to a second flip, and one that goes on to fail. -/
theorem sample_rounds :
    let logged := (Machine.start sample).runLogged false
    let failed := (Machine.start hopeless).runLogged false
    (logged.result = .ok ⟨some ⟨7,.jmp⟩,8,11,2⟩ ∧ logged.seen.toList =
      [Notice.applied ⟨4,.jmp⟩ 1,.restored 4,.applied ⟨7,.jmp⟩ 2].map Notice.entry) ∧
    (failed.result = .error ⟨2⟩ ∧ failed.seen.toList =
      [Notice.applied ⟨1,.jmp⟩ 1,.restored 1,.exhausted 2].map Notice.entry) ∧
    (.restored 4 ∈ ((Machine.start sample).after 12).told .notices ∧ ∃ n,
      ((Machine.start sample).after 12).RestoresAt n 4 ∧ n.flip = none ∧
        n.program.operation? = sample.operation?) ∧
    (Notice.applied ⟨7,.jmp⟩ 2).entry.TellsFlip 7 .jmp .nop 2 := by
  intro logged failed
  have result : logged.result = .ok ⟨some ⟨7,.jmp⟩,8,11,2⟩ := by
    have ran := Machine.result_runWith (.logging false) #[] (.start sample)
    exact ran.trans (sample.run_eq.trans rfl)
  have error : failed.result = .error ⟨2⟩ := by
    have ran := Machine.result_runWith (.logging false) #[] (.start hopeless)
    exact ran.trans (hopeless.run_eq.trans rfl)
  have told : ((Machine.start sample).after 12).told .notices =
      [.restored 4,.applied ⟨7,.jmp⟩ 2] := rfl
  have restored : .restored 4 ∈ ((Machine.start sample).after 12).told .notices := by
    rw [told]
    exact List.mem_cons_self
  obtain ⟨succeeds,_,_,exchanges,_,moment⟩ := runLogged_rounds sample
  obtain ⟨_,fails,_⟩ := runLogged_rounds hopeless
  have seen := (succeeds _ result).2
  have seen' := (fails _ error).2
  rw [flips_runRecorded] at seen seen' exchanges
  obtain ⟨_,_,was,is,tells⟩ := exchanges ⟨7,.jmp⟩ (by decide)
  cases was
  cases is
  exact ⟨⟨result,seen⟩,⟨error,seen'⟩,⟨restored,moment 12 4 restored⟩,tells 2⟩

end Program
end LoopRepair
