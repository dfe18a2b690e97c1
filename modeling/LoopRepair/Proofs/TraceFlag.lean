import LoopRepair.Proofs.LogAgreement
import LoopRepair.Proofs.RunReport

/-!
# What the flag of a traced run changes

A run that is traced logs all it is told, line by line, before it writes anything else. The
flag that asks for it has no other effect, wherever and however often it is written: not on
which words are refused, not on what is read, and not on what is reported.
-/
namespace LoopRepair

/-- A single line with one of the two levels at which a machine logs. -/
def LogLine (line : String) : Prop :=
  ∃ level ∈ [LogLevel.debug,.trace], ∃ rest : String,
    line = level.name ++ " " ++ rest ++ "\n" ∧ '\n' ∉ rest.toList

theorem Operation.not_mem_toString (op : Operation) : '\n' ∉ (toString op).toList := by
  cases op <;> decide

namespace LogEntry
variable {e : LogEntry}

/-- The entry is one that a machine leaves: of a low level, and with no line feed in its message
or its fields. -/
structure Plain (e : LogEntry) : Prop where
  level : e.level ∈ [LogLevel.debug,.trace]
  message : '\n' ∉ e.message.toList
  fields : ∀ f ∈ e.fields, '\n' ∉ f.1.toList ∧ '\n' ∉ f.2.toList

theorem Plain.logLine (h : e.Plain) : LogLine e.line := by
  refine ⟨e.level,h.level,e.message ++ String.join (e.fields.map fun f => " " ++ f.1 ++ "=" ++ f.2),
    by simp only [line,String.append_assoc],?_⟩
  simp only [String.toList_append,List.mem_append,String.toList_join,List.mem_flatMap,
    List.mem_map,not_or,not_exists,not_and]
  refine ⟨h.message,?_⟩
  rintro _ ⟨f,hf,rfl⟩
  obtain ⟨name,value⟩ := h.fields f hf
  simp [name,value]

end LogEntry

theorem Event.plain_entry (e : Event) : e.entry.Plain where
  level := by cases e <;> simp [entry]
  message := by cases e <;> simp [entry]
  fields := by
    cases e <;> simp [entry,not_mem_toDigits,not_mem_fieldText,toList_toString,
      Listing.written_line,Operation.not_mem_toString]

theorem Notice.plain_entry (n : Notice) : n.entry.Plain where
  level := by cases n <;> simp [entry]
  message := by cases n <;> simp [entry]
  fields := by cases n <;> simp [entry,not_mem_toDigits,Operation.not_mem_toString]

namespace Observer

/-- Keeps all that the machine tells it, in order. -/
def hearing : Observer (List (Event ⊕ Notice)) :=
  ⟨fun told e => told ++ [.inl e],fun told n => told ++ [.inr n]⟩

theorem hearing_carries_logging : hearing.Carries (logging true)
    fun told => (told.map (Sum.elim Event.entry Notice.entry)).toArray := by
  constructor
  · intro told e
    simp [hearing,logging]
  · intro told n
    simp [hearing,logging]

end Observer

namespace Machine
variable {e : LogEntry} {m : Machine}

/-- The log of a run has nothing in it but entries of what the machine tells. -/
theorem plain_of_mem_runLogged (events : Bool) (h : e ∈ (m.runLogged events).seen.toList) :
    e.Plain := by
  have full : e ∈ (m.runLogged true).seen.toList := by
    cases events with
    | true => exact h
    | false =>
        rw [← filter_runLogged_notices (P := (·.source = .notices))
          (by simp [Event.source_entry]) (by simp [Notice.source_entry])] at h
        exact List.mem_of_mem_filter h
  have told := runWith_map Observer.hearing_carries_logging [] m
  have log : (m.runLogged true).seen.toList =
      (m.runWith .hearing []).seen.map (Sum.elim Event.entry Notice.entry) :=
    congrArg (fun r => r.seen.toList) told
  rw [log] at full
  obtain ⟨event | notice,_,rfl⟩ := List.mem_map.1 full
  · exact event.plain_entry
  · exact notice.plain_entry

end Machine

namespace LogFilter
variable {e : LogEntry} {log : List LogEntry}

theorem shows_standard (h : e.Plain) : standard.shows e = false := by
  have deciding : standard.deciding? e = some (.upTo .warn) := by
    simp [standard,deciding?,LogDirective.holdsFor,LogDirective.upTo,LogDirective.isAboutSpans,
      prevailing]
  obtain level | level : e.level = .debug ∨ e.level = .trace := by simpa using h.level
  · rw [shows,deciding,level]
    rfl
  · rw [shows,deciding,level]
    rfl

/-- Of the two directives of the full filter the second one decides, whatever the source. -/
theorem shows_full (e : LogEntry) : full.shows e = true := by
  have named : "bootcode_vm".toList.isPrefixOf e.source.path.toList = true := by
    cases e.source <;> decide
  have hold : full.filter (·.holdsFor e) = full := by
    simp [full,LogDirective.holdsFor,LogDirective.upTo,LogDirective.isAboutSpans,
      -String.reduceToList,named]
  have deciding : full.deciding? e =
      some { LogDirective.upTo .trace with source := "bootcode_vm".toList } := by
    rw [deciding?,hold]
    decide
  rw [shows,deciding]
  cases e.level <;> rfl

theorem text_standard (plain : ∀ e ∈ log, e.Plain) : standard.text log = "" := by
  have hidden : log.filter standard.shows = [] :=
    List.filter_eq_nil_iff.2 fun e he => by simp [shows_standard (plain e he)]
  rw [text,hidden]
  rfl

theorem text_full (log : List LogEntry) : full.text log = String.join (log.map LogEntry.line) := by
  rw [text,List.filter_eq_self.2 fun e _ => shows_full e]

end LogFilter

namespace CommandLine
variable {world : Surroundings} {words marked : List String}

/-- The words with the flag of a traced run put in, any number of times and anywhere. -/
inductive Flagged : List String → List String → Prop
  | nil : Flagged [] []
  | keep (word : String) {words marked : List String} : Flagged words marked →
      Flagged (word :: words) (word :: marked)
  | insert {words marked : List String} : Flagged words marked →
      Flagged words ("--trace" :: marked)

theorem Flagged.filter_eq (h : Flagged words marked) :
    marked.filter (· ≠ "--trace") = words.filter (· ≠ "--trace") := by
  induction h with
  | nil => rfl
  | keep word _ ih => rw [List.filter_cons,List.filter_cons,ih]
  | insert _ ih =>
      rw [← ih]
      exact List.filter_cons_of_neg (by simp)

/-- Once a source is named, there is either a complaint or a run, traced or not. -/
theorem answer_run (source : Source) (contents : Except ReadFailure ByteArray) :
    (∃ r, ∀ traced filter, answer ⟨.run traced,source⟩ filter contents = r) ∨
      ∃ p, ∀ traced filter,
        answer ⟨.run traced,source⟩ filter contents = runReply traced filter p := by
  cases read : contents.bind decode with
  | error failure =>
      refine .inl ⟨⟨1,"","error: cannot read " ++ source.name ++ ": " ++ failure.message ++ "\n"⟩,?_⟩
      intro traced filter
      simp only [answer,read]
  | ok t =>
      cases loaded : Program.ofText t with
      | error e =>
          refine .inl ⟨⟨1,"","error: " ++ e.message ++ "\n"⟩,?_⟩
          intro traced filter
          simp only [answer,read,loaded]
      | ok p =>
          refine .inr ⟨p,?_⟩
          intro traced filter
          simp only [answer,read,loaded,perform]

/-- What the words come to without the flag is all that counts for the reply, but for the log of
a program that is run. -/
theorem reply_run (world : Surroundings) (bare : List String) :
    (∃ r, ∀ words : List String, words.filter (· ≠ "--trace") = bare →
        reply world ("run" :: words) = r) ∨
      ∃ p, ∀ words : List String, words.filter (· ≠ "--trace") = bare →
        reply world ("run" :: words) =
          runReply (decide ("--trace" ∈ words)) (filterOf (decide ("--trace" ∈ words)) world.filter)
            p := by
  have scanned (words : List String) (h : words.filter (· ≠ "--trace") = bare) :
      Request.ofArguments ("run" :: words) = (Request.ofRunArguments false none bare).map
        fun request => ⟨.run (decide ("--trace" ∈ words)),request.source⟩ := by
    rw [← h]
    exact Request.ofRunArguments_eq false none words
  cases asked : Request.ofRunArguments false none bare with
  | error refusal =>
      refine .inl ⟨refusal.reply,fun words h => ?_⟩
      rw [reply,scanned words h,asked]
      rfl
  | ok request =>
      have answered (words : List String) (h : words.filter (· ≠ "--trace") = bare) :
          reply world ("run" :: words) = answer ⟨.run (decide ("--trace" ∈ words)),request.source⟩
            (filterOf (decide ("--trace" ∈ words)) world.filter)
            (contentsOf world request.source) := by
        rw [reply,scanned words h,asked,asksForAll_cons]
        rfl
      obtain ⟨r,same⟩ | ⟨p,runs⟩ := answer_run request.source (contentsOf world request.source)
      · exact .inl ⟨r,fun words h => (answered words h).trans (same _ _)⟩
      · exact .inr ⟨p,fun words h => (answered words h).trans (runs _ _)⟩

theorem shownLog_false_none (p : Program) : shownLog false (filterOf false none) p = "" :=
  LogFilter.text_standard fun _ he => Machine.plain_of_mem_runLogged false he

theorem shownLog_true (filter : Option String) (p : Program) :
    shownLog true (filterOf true filter) p =
      String.join (((Machine.start p).runLogged true).seen.toList.map LogEntry.line) :=
  LogFilter.text_full _

/-- With no filter set, log lines are all that is shown of a log. -/
theorem exists_lines (traced : Bool) (p : Program) : ∃ lines : List String,
    (∀ line ∈ lines, LogLine line) ∧
      shownLog traced (filterOf traced none) p = String.join lines := by
  cases traced with
  | false => exact ⟨[],by simp,shownLog_false_none p⟩
  | true =>
      refine ⟨_,?_,shownLog_true none p⟩
      intro line hl
      obtain ⟨e,he,rfl⟩ := List.mem_map.1 hl
      exact (Machine.plain_of_mem_runLogged true he).logLine

/-- What a run replies is written apart from its log, and the log comes first. -/
theorem runReply_eq (p : Program) : ∃ r : Reply, ∀ traced filter,
    runReply traced filter p = ⟨r.exit,r.stdout,shownLog traced filter p ++ r.stderr⟩ := by
  cases ran : p.run with
  | ok o =>
      refine ⟨⟨0,o.report (Machine.start p).run.machine.program,""⟩,fun traced filter => ?_⟩
      rw [runReply_of_ok ran,String.append_empty]
  | error e =>
      refine ⟨⟨3,"","runtime error: " ++ e.message ++ "\n"⟩,fun traced filter => ?_⟩
      rw [runReply_of_error ran,String.append_assoc,String.append_assoc,String.append_assoc]

/-- However often and wherever the flag is put among the arguments of a run, the exit code and
the report stay the same; and if no filter is set, what is written besides the report is what
is written without the flag, behind a number of log lines. -/
theorem flag_changes_log (h : Flagged words marked) (world : Surroundings) :
    let plain := reply world ("run" :: words)
    let traced := reply world ("run" :: marked)
    let bare := reply world ("run" :: marked.filter (· ≠ "--trace"))
    (traced.exit = plain.exit ∧ traced.stdout = plain.stdout) ∧
      (world.filter = none → ∃ lines : List String, (∀ line ∈ lines, LogLine line) ∧
        traced.stderr = String.join lines ++ bare.stderr) := by
  dsimp only
  have stripped : (marked.filter (· ≠ "--trace")).filter (· ≠ "--trace") =
      marked.filter (· ≠ "--trace") := by simp
  obtain ⟨r,same⟩ | ⟨p,runs⟩ := reply_run world (marked.filter (· ≠ "--trace"))
  · rw [same words h.filter_eq.symm,same marked rfl,same _ stripped]
    exact ⟨⟨rfl,rfl⟩,fun _ => ⟨[],by simp,rfl⟩⟩
  · obtain ⟨r,replied⟩ := runReply_eq p
    rw [runs words h.filter_eq.symm,runs marked rfl,runs _ stripped,replied,replied,replied]
    refine ⟨⟨rfl,rfl⟩,fun unset => ?_⟩
    obtain ⟨lines,logged,shown⟩ := exists_lines (decide ("--trace" ∈ marked)) p
    have untraced : decide ("--trace" ∈ marked.filter (· ≠ "--trace")) = false := by simp
    refine ⟨lines,logged,?_⟩
    rw [unset,untraced,shown,shownLog_false_none,String.empty_append]

/-- The flag written on both sides of the input. -/
theorem scribbled_flag_changes_log :
    let plain := reply scribbled ["run","-"]
    let traced := reply scribbled ["run","--trace","-","--trace"]
    Flagged ["-"] ["--trace","-","--trace"] ∧ scribbled.filter = none ∧
      (traced.exit = plain.exit ∧ traced.stdout = plain.stdout) ∧
      ∃ lines : List String, (∀ line ∈ lines, LogLine line) ∧
        traced.stderr = String.join lines ++ plain.stderr := by
  have flagged : Flagged ["-"] ["--trace","-","--trace"] := .insert (.keep "-" (.insert .nil))
  obtain ⟨same,logged⟩ := flag_changes_log flagged scribbled
  exact ⟨flagged,rfl,same,logged rfl⟩

end CommandLine
end LoopRepair
