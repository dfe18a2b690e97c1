import LoopRepair.Proofs.RepairedListing
import LoopRepair.Proofs.RunArguments

/-!
# The report of a run

What a run replies can be checked against listings alone. The exit code tells whether the text
was refused, whether the repairs were exhausted, or whether the program was run to its end;
and then the report names the one line on which the listing of the program that was run
differs from that of the program that was read.
-/
namespace LoopRepair

theorem fieldText_eq_toString (n : Int64) : fieldText n = toString n.toInt := by
  have digits (k : Nat) : String.ofList (Nat.toDigits 10 k) = k.repr :=
    Nat.toString_eq_ofList_toDigits.symm
  have negative (l : List Char) : String.ofList ('-' :: l) = "-" ++ String.ofList l := by
    simp
  rw [fieldText,SignedDecimal.plain,SignedDecimal.magnitude,Int.toString_eq_repr]
  cases n.toInt with
  | ofNat k => exact digits k
  | negSucc k =>
      rw [if_pos (Int.negSucc_lt_zero k),negative]
      exact congrArg ("-" ++ ·) (digits (k + 1))

theorem not_mem_toDigits (n : Nat) : '\n' ∉ Nat.toDigits 10 n := by
  intro feed
  have digit := Nat.isDigit_of_mem_toDigits (by decide) (by decide) feed
  cases digit

theorem not_mem_fieldText (n : Int64) : '\n' ∉ (fieldText n).toList := by
  rw [fieldText,String.toList_ofList,SignedDecimal.plain]
  split <;> simp [SignedDecimal.magnitude,not_mem_toDigits]

theorem toList_toString (a : Instruction) : (toString a).toList = a.written :=
  String.toList_ofList

theorem Flip.replacement_ne {f : Flip} {a : Instruction} (h : a.flippable = true)
    (replaced : a.operation = f.replaced) : f.replacement ≠ f.replaced := by
  rw [replacement,← replaced]
  cases op : a.operation with
  | nop | jmp => simp [Operation.counterpart?]
  | acc => simp [Instruction.flippable,op] at h

/-- The same words but for the operation, which is `nop` in the one and `jmp` in the other. -/
def Counterparts (x y : String) : Prop :=
  ∃ argument, x = "nop " ++ argument ∧ y = "jmp " ++ argument ∨
    x = "jmp " ++ argument ∧ y = "nop " ++ argument

theorem counterparts_of_flippable {f : Flip} {a : Instruction} (h : a.flippable = true)
    (replaced : a.operation = f.replaced) (argument : Int64) :
    Counterparts (toString (Instruction.mk f.replaced argument 0))
      (toString (Instruction.mk f.replacement argument 0)) := by
  have words (op : Operation) : toString (Instruction.mk op argument 0) =
      toString op ++ " " ++ String.ofList (SignedDecimal.signed argument) := by
    change String.ofList (op.mnemonic ++ ' ' :: SignedDecimal.signed argument) =
      String.ofList op.mnemonic ++ " " ++ _
    simp [← String.toList_inj]
  refine ⟨String.ofList (SignedDecimal.signed argument),?_⟩
  rw [words,words,Flip.replacement,← replaced]
  cases op : a.operation with
  | nop => exact .inl ⟨rfl,rfl⟩
  | jmp => exact .inr ⟨rfl,rfl⟩
  | acc => simp [Instruction.flippable,op] at h

/-- The report of two lines on a run that has read the program `p` and come to its end with
`q`. The first line names the line on which their listings differ, if there is one. -/
def ReportsOn (stdout : String) (p q : Program) (accumulator : Int64) : Prop :=
  ∃ first second : String, stdout = first ++ "\n" ++ second ++ "\n" ∧
    '\n' ∉ first.toList ∧ '\n' ∉ second.toList ∧
    (first = "repaired: none" ↔ q.operation? = p.operation?) ∧
    (q.operation? ≠ p.operation? → ∃ i x y,
      first = "repaired: instruction " ++ toString i ++ " (" ++ x ++ " -> " ++ y ++ ")" ∧
        Listing.SameBut i x.toList y.toList p.text.toList q.text.toList ∧
        Counterparts x y) ∧
    second = "accumulator: " ++ toString accumulator.toInt

theorem Program.describeFlip_eq {q : Program} {f : Flip} {argument : Int64}
    (h : q.argument? f.index = some argument) :
    q.describeFlip f = "instruction " ++ toString f.index ++ " (" ++
      toString (Instruction.mk f.replaced argument 0) ++ " -> " ++
      toString (Instruction.mk f.replacement argument 0) ++ ")" := by
  have found : (q.get? f.index).elim 0 Instruction.argument = argument := by
    obtain ⟨a,ha,rfl⟩ := Option.map_eq_some_iff.1 h
    rw [ha,Option.elim_some]
  subst found
  rfl

namespace Machine
variable {p : Program} {m : Machine}

/-- The operation that a flip has replaced is no longer there. -/
theorem Tracks.operation?_ne (h : Tracks p m) {f : Flip} (hf : m.flip = some f) :
    m.program.operation? ≠ p.operation? := by
  obtain ⟨a,ha,flippable,replaced⟩ := h.flippable hf
  intro same
  have here := congrFun same f.index
  rw [h.operation?_program,hf,Program.flipped_some,Program.operation?_apply_self ha,
    Program.operation?,ha,Option.map_some,replaced] at here
  exact Flip.replacement_ne flippable replaced (Option.some.inj here)

/-- The report on a machine says what has become of the program that it was started on. -/
theorem Tracks.reportsOn (h : Tracks p m) :
    ReportsOn (m.outcome.report m.program) p m.program m.accumulator := by
  have lines : m.outcome.report m.program =
      ("repaired: " ++ m.flip.elim "none" m.program.describeFlip) ++ "\n" ++
        ("accumulator: " ++ toString m.accumulator.toInt) ++ "\n" := by
    simp only [Outcome.report,outcome,fieldText_eq_toString,String.append_assoc]
  have second : '\n' ∉ ("accumulator: " ++ toString m.accumulator.toInt).toList := by
    rw [← fieldText_eq_toString,String.toList_append,List.mem_append,not_or]
    exact ⟨by decide,not_mem_fieldText _⟩
  cases hf : m.flip with
  | none =>
      have same : m.program.operation? = p.operation? := by
        rw [h.operation?_program,hf,Program.flipped_none]
      rw [hf,Option.elim_none] at lines
      refine ⟨_,_,lines,?_,second,iff_of_true rfl same,fun other => absurd same other,rfl⟩
      decide
  | some f =>
      obtain ⟨argument,kept,shown⟩ := h.sameBut_text hf
      obtain ⟨a,_,flippable,replaced⟩ := h.flippable hf
      rw [hf,Option.elim_some,Program.describeFlip_eq kept] at lines
      refine ⟨_,_,lines,?_,second,iff_of_false ?_ (h.operation?_ne hf),?_,rfl⟩
      · simp [toList_toString,Listing.written_line,not_mem_toDigits]
      · intro unflipped
        simp [← String.toList_inj] at unflipped
      · intro _
        refine ⟨f.index,_,_,?_,?_,counterparts_of_flippable flippable replaced argument⟩
        · simp only [String.append_assoc]
          rfl
        · rw [toList_toString,toList_toString]
          exact shown

end Machine

namespace CommandLine
variable {world : Surroundings} {words : List String} {request : Request} {p : Program}
  {o : Outcome} {e : RepairExhausted} {t : String}

/-- The log of a run, as far as it is shown. -/
def shownLog (traced : Bool) (filter : LogFilter) (p : Program) : String :=
  filter.text ((Machine.start p).runLogged traced).seen.toList

theorem runReply_of_ok (ran : p.run = .ok o) (traced : Bool) (filter : LogFilter) :
    runReply traced filter p =
      ⟨0,o.report (Machine.start p).run.machine.program,shownLog traced filter p⟩ := by
  have result : ((Machine.start p).runLogged traced).result = .ok o :=
    (Machine.result_runWith _ _ _).trans ran
  have machine := Machine.machine_runWith (.logging traced) #[] (.start p)
  rw [← machine,runReply]
  simp only [result]
  rfl

theorem runReply_of_error (ran : p.run = .error e) (traced : Bool) (filter : LogFilter) :
    runReply traced filter p =
      ⟨3,"",shownLog traced filter p ++ "runtime error: " ++ e.message ++ "\n"⟩ := by
  have result : ((Machine.start p).runLogged traced).result = .error e :=
    (Machine.result_runWith _ _ _).trans ran
  rw [runReply]
  simp only [result]
  rfl

/-- The exit code of a run tells how far it came, and a run that came to its end reports on
the listing of the text and on that of the program that was run. -/
theorem run_replies (asked : Request.ofArguments ("run" :: words) = .ok request)
    (given : contentsOf world request.source = .ok t.toUTF8) :
    let r := reply world ("run" :: words)
    (r.exit = 1 ∧ r.stdout = "" ↔ ∃ e, Program.ofText t = .error e) ∧
      (r.exit = 3 ∧ r.stdout = "" ↔ ∃ p e, Program.ofText t = .ok p ∧ p.run = .error e) ∧
      ∀ p o, Program.ofText t = .ok p → p.run = .ok o → r.exit = 0 ∧
        ReportsOn r.stdout p (Machine.start p).run.machine.program o.accumulator := by
  dsimp only
  cases loaded : Program.ofText t with
  | error e =>
      rw [reply_of_error asked given loaded]
      simp
  | ok p =>
      rw [reply_of_holds asked ⟨t,given,loaded⟩,task_eq_run_asksForAll asked,perform]
      cases ran : p.run with
      | error e =>
          rw [runReply_of_error ran]
          refine ⟨?_,?_,?_⟩
          · simp
          · simp [ran]
          · intro q o read ok
            cases read
            cases ran.symm.trans ok
      | ok o =>
          rw [runReply_of_ok ran]
          refine ⟨?_,?_,?_⟩
          · simp
          · simp [ran]
          · intro q o read ok
            cases read
            cases ran.symm.trans ok
            obtain ⟨_,outcome⟩ := (Machine.tracks_start p).halted_of_run ran
            subst outcome
            exact ⟨rfl,(Machine.tracks_start p).run.reportsOn⟩

/-- Surroundings with the careless text on the standard input and with no files. -/
def scribbled : Surroundings := ⟨Machine.scribble.toUTF8,fun _ => .error .notFound,none⟩

theorem scribbled_run_replies :
    Request.ofArguments ["run","-","--trace"] = .ok ⟨.run true,.standardInput⟩ ∧
      contentsOf scribbled .standardInput = .ok Machine.scribble.toUTF8 ∧
      (reply scribbled ["run","-","--trace"]).exit = 0 ∧
      ReportsOn (reply scribbled ["run","-","--trace"]).stdout Program.sample
        (Machine.start Program.sample).run.machine.program 8 := by
  have asked : Request.ofArguments ["run","-","--trace"] = .ok ⟨.run true,.standardInput⟩ := by
    decide
  have given : contentsOf scribbled .standardInput = .ok Machine.scribble.toUTF8 := rfl
  obtain ⟨_,_,success⟩ := run_replies asked given
  obtain ⟨exit,reports⟩ := success _ _ Machine.ofText_scribble Machine.run_sample
  exact ⟨asked,given,exit,reports⟩

end CommandLine
end LoopRepair
