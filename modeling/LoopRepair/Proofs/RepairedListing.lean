import LoopRepair.Proofs.ListingLines
import LoopRepair.Proofs.RunVerdict

/-!
# Listings of repaired programs

A run that succeeds leaves a program behind that needs no repair. The machine has come to it
through attempts that were undone, but where it halts it stands at the end of the attempt of
that program from the first instruction, with nothing else on its trail. So the program can
be written out and read again, its visits forgotten, and runs as it is to the same end.
-/
namespace LoopRepair.Machine
variable {p q : Program} {m : Machine} {o : Outcome} {t : String} {σ : Type}

/-- A halted machine stands at the end of the attempt of its program from the start. -/
theorem Tracks.attempt_of_halted (h : Tracks p m) (halted : m.phase = .halted) :
    (p.flipped m.flip).attempt = ⟨m.trail,m.accumulator,true⟩ := by
  obtain ⟨next,path,here⟩ := h.path
  have past : (p.flipped m.flip).past next = true := by
    rw [here (by simp [halted]),Program.past_some,Program.size_flipped]
    exact h.ended halted
  rw [path.attempt_eq (Program.stops_of_past past),past,h.accumulator,
    Program.tally_flipped h.found]

/-- A program whose attempt halts is run as it stands. -/
theorem run_of_attempt (halted : q.attempt.halted = true) :
    q.run = .ok ⟨none,q.attempt.accumulator,q.attempt.path.length,0⟩ ∧
      (start q).run.machine.trail = q.attempt.path := by
  have ran : q.run = .ok ⟨none,q.attempt.accumulator,q.attempt.path.length,0⟩ := by
    rw [Program.run_eq,Program.searchOutcome_of_halted halted]
  obtain ⟨ended,outcome⟩ := (tracks_start q).halted_of_run ran
  have unflipped : (start q).run.machine.flip = none := congrArg Outcome.flip outcome
  have attempt := (tracks_start q).run.attempt_of_halted ended
  rw [unflipped,Program.flipped_none] at attempt
  exact ⟨ran,(congrArg Attempt.path attempt).symm⟩

/-- The listing of a machine's program is that of the program it was started on, under the flip
in effect. -/
theorem Tracks.text_program (h : Tracks p m) : m.program.text = (p.flipped m.flip).text := by
  rw [h.program,Program.text_visiting]

/-- What the listing of a machine's program is read as, if that program was itself read. -/
theorem Tracks.ofText_program (h : Tracks p m) (loaded : Program.ofText t = .ok p) :
    Program.ofText m.program.text = .ok (p.flipped m.flip) := by
  rw [h.text_program,Program.ofText_text,Program.cleared_flipped,Listing.cleared_of_load loaded]

/-- The listing shows the flip in effect on one line, and nothing else. -/
theorem Tracks.sameBut_text (h : Tracks p m) {f : Flip} (hf : m.flip = some f) :
    ∃ argument, m.program.argument? f.index = some argument ∧
      Listing.SameBut f.index (Instruction.mk f.replaced argument 0).written
        (Instruction.mk f.replacement argument 0).written p.text.toList
        m.program.text.toList := by
  obtain ⟨a,ha,_,replaced⟩ := h.flippable hf
  refine ⟨a.argument,?_,?_⟩
  · rw [h.argument?_program,Program.argument?,ha]
    rfl
  · rw [h.text_program,hf,Program.flipped_some]
    exact Program.sameBut_text_apply ha replaced

/-- A program that a run has repaired can be written out: read again, it runs to the same end
without a repair, along the history that the repair has left, and on no more than one line is
it written otherwise than before. -/
theorem repaired_listing_runs (loaded : Program.ofText t = .ok p) (h : Reachable p m)
    (w : Observer σ) (s : σ) (ran : (runWith w s m).result = .ok o) :
    let n := (runWith w s m).machine
    ∃ q, Program.ofText n.program.text = .ok q ∧
      q.run = .ok ⟨none,o.accumulator,n.history.length,0⟩ ∧
      (start q).run.machine.history = n.history ∧
      (o.flip = none → n.program.text = p.text) ∧
      ∀ f, o.flip = some f →
        ∃ x y, Listing.SameBut f.index x y p.text.toList n.program.text.toList := by
  rw [result_runWith] at ran
  rw [machine_runWith]
  dsimp only
  obtain ⟨ended,outcome⟩ := h.tracks.halted_of_run ran
  have track := h.tracks.run
  generalize m.run.machine = n at ended outcome track
  subst outcome
  have attempt := track.attempt_of_halted ended
  obtain ⟨again,trail⟩ := run_of_attempt (congrArg Attempt.halted attempt)
  rw [attempt] at again trail
  refine ⟨_,track.ofText_program loaded,?_,congrArg List.reverse trail,?_,?_⟩
  · rw [again,length_history]
    rfl
  · intro unflipped
    have unflipped : n.flip = none := unflipped
    rw [track.text_program,unflipped,Program.flipped_none]
  · intro f flipped
    obtain ⟨_,_,shown⟩ := track.sameBut_text flipped
    exact ⟨_,_,shown⟩

/-- The program `sample`, carelessly written, with more behind a blank line. -/
def scribble : String :=
  "nop 0\r\nACC 1\n  jmp 4\nacc +3\njmp\t-003\nacc -99\nacc 1\nJmp -4\nacc 6\n \nacc"

theorem ofText_scribble : Program.ofText scribble = .ok Program.sample := rfl

theorem run_sample : Program.sample.run = .ok ⟨some ⟨7,.jmp⟩,8,11,2⟩ := by
  rw [Program.run_eq]
  rfl

theorem scribble_repaired_runs : Program.ofText scribble = .ok Program.sample ∧
    (start Program.sample).run.result = .ok ⟨some ⟨7,.jmp⟩,8,11,2⟩ ∧
    ∃ q, Program.ofText (start Program.sample).run.machine.program.text = .ok q ∧
      q.run = .ok ⟨none,8,6,0⟩ ∧ (start q).run.machine.history = [0,1,2,6,7,8] ∧
      ∃ x y, Listing.SameBut 7 x y Program.sample.text.toList
        (start Program.sample).run.machine.program.text.toList := by
  have history : (start Program.sample).run.machine.history = [0,1,2,6,7,8] := by
    obtain ⟨ended,outcome⟩ := (tracks_start Program.sample).halted_of_run run_sample
    have flipped : (start Program.sample).run.machine.flip = some ⟨7,.jmp⟩ :=
      congrArg Outcome.flip outcome
    have attempt := (tracks_start Program.sample).run.attempt_of_halted ended
    rw [flipped] at attempt
    exact congrArg (List.reverse ∘ Attempt.path) attempt.symm
  obtain ⟨q,read,again,same,_,shown⟩ :=
    repaired_listing_runs ofText_scribble .start .silent () run_sample
  refine ⟨ofText_scribble,run_sample,q,read,?_,same.trans history,shown _ rfl⟩
  rw [again]
  change Except.ok (⟨none,8,(start Program.sample).run.machine.history.length,0⟩ : Outcome) = _
  rw [history]
  rfl

end LoopRepair.Machine
