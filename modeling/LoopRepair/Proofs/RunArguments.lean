import Mathlib.Data.List.Induction
import LoopRepair.Proofs.SourceContents

/-!
# The arguments of a run

The words behind `run` are scanned from left to right, and the scan ends at the first of them
that there is something against. Whether there is such a word, and what the scan comes to if
there is none, can be told from the words as a collection: from their flags, from the number of
those that are no flags, and from what is left of them without the flag that is known. That
flag is looked for twice, in the scan and apart from it, and found in both or in neither.
-/
namespace LoopRepair

namespace Request
variable {before words rest : List String} {word kind : String}

/-- The word begins with two minus signs. -/
def Dashed (word : String) : Prop := ['-','-'] <+: word.toList

instance (word : String) : Decidable (Dashed word) :=
  inferInstanceAs (Decidable (['-','-'] <+: word.toList))

/-- The words that do not begin with two minus signs. -/
def inputs (words : List String) : List String := words.filter fun word => ¬ Dashed word

/-- What there is against a word that stands behind others: it is an unknown flag, or it is an
input and not the first one. -/
inductive Objection (before : List String) (word : String) : String → Prop
  | flag : Dashed word → word ≠ "--trace" → Objection before word "unknown flag"
  | second {other : String} : other ∈ before → ¬ Dashed other → ¬ Dashed word →
      Objection before word "unexpected argument"

/-- There is nothing against any of the words, each behind those before it. -/
def Unobjectionable (words : List String) : Prop :=
  ∀ before word after kind, words = before ++ word :: after → ¬ Objection before word kind

theorem isFlag_eq_decide (word : String) : isFlag word = decide (Dashed word) := by
  rw [isFlag,Bool.eq_iff_iff,List.isPrefixOf_iff_prefix,decide_eq_true_iff,Dashed]

theorem dashed_trace : Dashed "--trace" := by decide

theorem ne_trace (plain : ¬ Dashed word) : word ≠ "--trace" := by
  rintro rfl
  exact plain dashed_trace

theorem mem_inputs {other : String} : other ∈ inputs words ↔ other ∈ words ∧ ¬ Dashed other := by
  simp [inputs]

@[simp] theorem inputs_nil : inputs [] = [] := rfl

theorem inputs_concat_of_dashed (h : Dashed word) : inputs (words ++ [word]) = inputs words := by
  simp [inputs,h]

theorem inputs_concat (h : ¬ Dashed word) : inputs (words ++ [word]) = inputs words ++ [word] := by
  simp [inputs,h]

theorem unobjectionable_nil : Unobjectionable [] := by
  intro before word after kind split
  simp at split

theorem unobjectionable_concat : Unobjectionable (words ++ [word]) ↔
    Unobjectionable words ∧ ∀ kind, ¬ Objection words word kind := by
  constructor
  · intro h
    refine ⟨?_,fun kind => h words word [] kind rfl⟩
    rintro before w after kind rfl
    exact h before w (after ++ [word]) kind (by simp)
  · rintro ⟨earlier,last⟩ before w after kind split
    obtain rfl | ⟨after,x,rfl⟩ := after.eq_nil_or_concat
    · obtain ⟨rfl,same⟩ := List.append_inj' split rfl
      cases same
      exact last kind
    · rw [List.concat_eq_append,← List.cons_append,← List.append_assoc] at split
      exact earlier before w after kind (List.append_inj' split rfl).1

/-- There is nothing against a word if it is the flag that is known, or the first input. -/
theorem not_objection_iff : (∀ kind, ¬ Objection words word kind) ↔
    word = "--trace" ∨ ¬ Dashed word ∧ inputs words = [] := by
  constructor
  · intro fine
    by_cases dashed : Dashed word
    · exact .inl (by_contra fun other => fine _ (.flag dashed other))
    · refine .inr ⟨dashed,List.eq_nil_iff_forall_not_mem.2 fun other earlier => ?_⟩
      obtain ⟨there,plain⟩ := mem_inputs.1 earlier
      exact fine _ (.second there plain dashed)
  · intro fine kind objection
    cases objection with
    | flag dashed other =>
        rcases fine with known | ⟨plain,_⟩
        · exact other known
        · exact plain dashed
    | second there plain dashed =>
        rcases fine with rfl | ⟨_,empty⟩
        · exact dashed dashed_trace
        · exact List.ne_nil_of_mem (mem_inputs.2 ⟨there,plain⟩) empty

/-- There is nothing against words with no unknown flag and one input at most. -/
theorem unobjectionable_iff : Unobjectionable words ↔
    (∀ word ∈ words, Dashed word → word = "--trace") ∧ (inputs words).length ≤ 1 := by
  induction words using List.reverseRecOn with
  | nil => simp [unobjectionable_nil]
  | append_singleton words word ih =>
      have flags : (∀ w ∈ words ++ [word], Dashed w → w = "--trace") ↔
          (∀ w ∈ words, Dashed w → w = "--trace") ∧ (Dashed word → word = "--trace") := by
        simp [or_imp,forall_and]
      rw [unobjectionable_concat,ih,not_objection_iff,flags]
      by_cases dashed : Dashed word
      · rw [inputs_concat_of_dashed dashed]
        simp only [dashed,not_true,false_and,or_false,true_imp_iff]
        exact and_right_comm
      · have other : word ≠ "--trace" := ne_trace dashed
        have first : (inputs words ++ [word]).length ≤ 1 ↔ inputs words = [] := by simp
        rw [inputs_concat dashed,first]
        simp only [dashed,other,false_or,not_false_iff,true_and,false_imp_iff,and_true]
        constructor
        · exact fun h => ⟨h.1.1,h.2⟩
        · exact fun h => ⟨⟨h.1,by simp [h.2]⟩,h.2⟩

/-- Of words that there is something against, one is the first. -/
theorem exists_first_objection (h : ¬ Unobjectionable words) :
    ∃ before word after kind, words = before ++ word :: after ∧ Unobjectionable before ∧
      Objection before word kind := by
  induction words using List.reverseRecOn with
  | nil => exact absurd unobjectionable_nil h
  | append_singleton words word ih =>
      by_cases fine : Unobjectionable words
      · rw [unobjectionable_concat,not_and] at h
        obtain ⟨kind,objection⟩ := not_forall_not.1 (h fine)
        exact ⟨words,word,[],kind,rfl,fine,objection⟩
      · obtain ⟨before,w,after,kind,rfl,first⟩ := ih fine
        exact ⟨before,w,after ++ [word],kind,by simp,first⟩

/-- The scan goes on behind a word that there is nothing against. -/
theorem ofRunArguments_cons (fine : ∀ kind, ¬ Objection before word kind) :
    ofRunArguments (decide ("--trace" ∈ before)) (inputs before).head? (word :: rest) =
      ofRunArguments (decide ("--trace" ∈ before ++ [word])) (inputs (before ++ [word])).head?
        rest := by
  obtain rfl | ⟨plain,empty⟩ := not_objection_iff.1 fine
  · rw [inputs_concat_of_dashed dashed_trace,ofRunArguments,if_pos rfl]
    simp
  · have other : word ≠ "--trace" := ne_trace plain
    rw [inputs_concat plain,empty,ofRunArguments,if_neg other,isFlag_eq_decide,
      if_neg (by simpa using plain)]
    simp [other.symm]

theorem ofRunArguments_append (fine : Unobjectionable before) (rest : List String) :
    ofRunArguments false none (before ++ rest) =
      ofRunArguments (decide ("--trace" ∈ before)) (inputs before).head? rest := by
  induction before using List.reverseRecOn generalizing rest with
  | nil => rfl
  | append_singleton before word ih =>
      obtain ⟨earlier,last⟩ := unobjectionable_concat.1 fine
      rw [List.append_assoc,List.singleton_append,ih earlier,ofRunArguments_cons last]

/-- The scan ends at a word that there is something against. -/
theorem ofRunArguments_of_objection (h : Objection before word kind) (traced : Bool)
    (rest : List String) :
    ∃ refusal, ofRunArguments traced (inputs before).head? (word :: rest) = .error refusal ∧
      refusal.reply = ⟨1,"","error: " ++ kind ++ " '" ++ word ++ "'\n" ++ usageOfRun⟩ := by
  cases h with
  | flag dashed other =>
      refine ⟨.unknownFlag word,?_,rfl⟩
      rw [ofRunArguments,if_neg other,isFlag_eq_decide,if_pos (by simpa using dashed)]
  | second there plain dashed =>
      have other : word ≠ "--trace" := ne_trace dashed
      have taken : (inputs before).head?.isNone = false := by
        have found := List.ne_nil_of_mem (mem_inputs.2 ⟨there,plain⟩)
        simpa using found
      refine ⟨.extraArgument word,?_,rfl⟩
      rw [ofRunArguments,if_neg other,isFlag_eq_decide,if_neg (by simpa using dashed),taken]
      rfl

theorem ofArguments_run (fine : Unobjectionable words) : ofArguments ("run" :: words) =
    .ok ⟨.run (decide ("--trace" ∈ words)),.ofArgument (inputs words).head?⟩ := by
  have scanned := ofRunArguments_append fine []
  rwa [List.append_nil,ofRunArguments] at scanned

/-- Of words that there is nothing against, those other than the known flag are the inputs. -/
theorem filter_eq_inputs (fine : Unobjectionable words) :
    words.filter (· ≠ "--trace") = inputs words := by
  refine List.filter_congr fun word hw => ?_
  rw [decide_eq_decide]
  constructor
  · exact fun other dashed => other ((unobjectionable_iff.1 fine).1 word hw dashed)
  · exact ne_trace

/-- The flag decides whether the run is traced, and nothing else is decided by it. -/
theorem ofRunArguments_eq (traced : Bool) (input : Option String) (words : List String) :
    ofRunArguments traced input words =
      (ofRunArguments false input (words.filter (· ≠ "--trace"))).map fun request =>
        ⟨.run (traced || decide ("--trace" ∈ words)),request.source⟩ := by
  induction words generalizing traced input with
  | nil => simp [ofRunArguments,Except.map]
  | cons word words ih =>
      by_cases flag : word = "--trace"
      · subst flag
        rw [List.filter_cons_of_neg (by simp),ofRunArguments,if_pos rfl,ih]
        simp
      · have kept : (word :: words).filter (· ≠ "--trace") =
            word :: words.filter (· ≠ "--trace") := List.filter_cons_of_pos (by simpa using flag)
        have asked : decide ("--trace" ∈ word :: words) = decide ("--trace" ∈ words) := by
          simp [Ne.symm flag]
        rw [kept,asked,ofRunArguments,ofRunArguments,if_neg flag,if_neg flag]
        split
        · rfl
        · split
          · exact ih traced (some word)
          · rfl

end Request

namespace CommandLine
open Request
variable {world : Surroundings} {words : List String} {request : Request}

/-- What is logged and what is shown agree: a run is traced if and only if everything is to be
shown, although the two are found out apart. -/
theorem task_eq_run_asksForAll (asked : Request.ofArguments ("run" :: words) = .ok request) :
    request.task = .run (asksForAll ("run" :: words)) := by
  have scanned : Request.ofRunArguments false none words = .ok request := asked
  rw [ofRunArguments_eq] at scanned
  rw [asksForAll_cons]
  cases bare : Request.ofRunArguments false none (words.filter (· ≠ "--trace")) with
  | error refusal =>
      rw [bare] at scanned
      cases scanned
  | ok plain =>
      rw [bare] at scanned
      cases scanned
      rfl

/-- The reply does nothing but complain and tell the usage of `run`. -/
def UsageError (r : Reply) : Prop :=
  r.exit = 1 ∧ r.stdout = "" ∧ ∃ complaint : String, r.stderr = complaint ++ usageOfRun

/-- The last character is there, and is not the bracket that the usage ends in. -/
def EndsPlainly (message : String) : Prop :=
  ∃ front last, message = front ++ String.singleton last ∧ last ≠ ']'

theorem EndsPlainly.append {message : String} (h : EndsPlainly message) (lead : String) :
    EndsPlainly (lead ++ message) := by
  obtain ⟨front,last,rfl,plain⟩ := h
  exact ⟨lead ++ front,last,(String.append_assoc ..).symm,plain⟩

theorem endsPlainly_readFailure (e : ReadFailure) : EndsPlainly e.message := by
  cases e with
  | system code text => exact ⟨text ++ " (os error " ++ toString code,')',rfl,by decide⟩
  | notText => exact ⟨"stream did not contain valid UTF-",'8',rfl,by decide⟩

theorem endsPlainly_loadError (e : LoadError) : EndsPlainly e.message := by
  refine EndsPlainly.append ?_ _
  cases e.fault with
  | unknownOperation word => exact ⟨_,'\'',rfl,by decide⟩
  | missingArgument operation =>
      exact EndsPlainly.append ⟨" expects a signed integer argumen",'t',rfl,by decide⟩ _
  | invalidNumber word => exact ⟨_,'\'',rfl,by decide⟩
  | unexpectedToken word => exact ⟨_,'\'',rfl,by decide⟩

theorem EndsPlainly.not_usageError {message : String} (h : EndsPlainly message) :
    ¬ UsageError ⟨1,"",message ++ "\n"⟩ := by
  rintro ⟨_,_,complaint,same⟩
  obtain ⟨front,last,rfl,plain⟩ := h
  have usage : usageOfRun = "Usage: bootcode run [--trace] [input|-" ++ "]" ++ "\n" := rfl
  rw [usage] at same
  have least := congrArg (fun s => s.toList.dropLast.getLast?) same
  simp at least
  exact plain least

/-- Once something is asked for, whatever goes wrong is no usage error. -/
theorem not_usageError_answer (request : Request) (filter : LogFilter)
    (contents : Except ReadFailure ByteArray) : ¬ UsageError (answer request filter contents) := by
  unfold answer
  split
  · exact ((endsPlainly_readFailure _).append _).not_usageError
  · split
    · exact ((endsPlainly_loadError _).append _).not_usageError
    · rename_i p _
      have exit : (perform request.task filter p).exit ≠ 1 := by
        unfold perform runReply
        split
        · dsimp only
          split <;> simp
        · simp
        · simp
      exact fun h => exit h.1

theorem reply_of_unobjectionable (fine : Unobjectionable words) (world : Surroundings) :
    reply world ("run" :: words) =
      answer ⟨.run (decide ("--trace" ∈ words)),.ofArgument (inputs words).head?⟩
        (filterOf (decide ("--trace" ∈ words)) world.filter)
        (contentsOf world (.ofArgument (inputs words).head?)) := by
  rw [reply,ofArguments_run fine,asksForAll_cons]

theorem reply_of_objection {before : List String} {word kind : String}
    (first : Unobjectionable before) (h : Objection before word kind) (after : List String)
    (world : Surroundings) :
    reply world ("run" :: (before ++ word :: after)) =
      ⟨1,"","error: " ++ kind ++ " '" ++ word ++ "'\n" ++ usageOfRun⟩ := by
  obtain ⟨refusal,stops,told⟩ := ofRunArguments_of_objection h (decide ("--trace" ∈ before))
    after
  have asked : Request.ofArguments ("run" :: (before ++ word :: after)) = .error refusal :=
    (ofRunArguments_append first _).trans stops
  rw [reply,asked]
  exact told

/-- The rule for the arguments of `run`. There is a usage error if one of them is an unknown
flag or if two of them are no flags, and it is about the first that there is something against.
Otherwise the program is read from what is named by the one argument that is not the known
flag; by none and by a single minus sign it is the standard input, and by every other word a
file. -/
theorem run_arguments (words : List String) :
    let refused := (∃ word ∈ words, Dashed word ∧ word ≠ "--trace") ∨ 2 ≤ (inputs words).length
    let others := words.filter (· ≠ "--trace")
    let traced := decide ("--trace" ∈ words)
    (∀ world, UsageError (reply world ("run" :: words)) ↔ refused) ∧
      (refused → ∃ before word after kind, words = before ++ word :: after ∧
        Unobjectionable before ∧ Objection before word kind ∧
        ∀ world, reply world ("run" :: words) =
          ⟨1,"","error: " ++ kind ++ " '" ++ word ++ "'\n" ++ usageOfRun⟩) ∧
      (¬ refused → (others = [] ∨ others = ["-"]) ∧ (∀ world, reply world ("run" :: words) =
          answer ⟨.run traced,.standardInput⟩ (filterOf traced world.filter)
            world.standardInput) ∨
        ∃ path, others = [path] ∧ path ≠ "-" ∧ ∀ world, reply world ("run" :: words) =
          answer ⟨.run traced,.file path⟩ (filterOf traced world.filter) (world.file path)) := by
  dsimp only
  have rule : Unobjectionable words ↔
      ¬ ((∃ word ∈ words, Dashed word ∧ word ≠ "--trace") ∨ 2 ≤ (inputs words).length) := by
    rw [unobjectionable_iff,not_or,Nat.not_le,Nat.lt_succ_iff]
    simp
  by_cases fine : Unobjectionable words
  · have accepted := rule.1 fine
    have answered := reply_of_unobjectionable fine
    refine ⟨?_,fun refused => absurd refused accepted,fun _ => ?_⟩
    · intro world
      refine iff_of_false ?_ accepted
      rw [answered]
      exact not_usageError_answer _ _ _
    · have few := (unobjectionable_iff.1 fine).2
      rw [filter_eq_inputs fine]
      match named : inputs words with
      | [] =>
          rw [named] at answered
          exact .inl ⟨.inl rfl,answered⟩
      | [path] =>
          rw [named] at answered
          by_cases minus : path = "-"
          · subst minus
            exact .inl ⟨.inr rfl,answered⟩
          · rw [List.head?_cons,Source.ofArgument,if_neg minus] at answered
            exact .inr ⟨path,rfl,minus,answered⟩
      | _ :: _ :: _ =>
          rw [named] at few
          simp at few
  · have refused := not_not.1 fun accepted => fine (rule.2 accepted)
    obtain ⟨before,word,after,kind,rfl,first,objection⟩ := exists_first_objection fine
    have replied := reply_of_objection first objection after
    refine ⟨?_,fun _ => ⟨before,word,after,kind,rfl,first,objection,replied⟩,
      fun accepted => absurd refused accepted⟩
    intro world
    refine iff_of_true ?_ refused
    rw [replied]
    exact ⟨rfl,rfl,_,rfl⟩

/-- Of two faults the first is reported. -/
example (world : Surroundings) : reply world ["run","a","b","--fast"] =
    ⟨1,"","error: unexpected argument 'b'\n" ++ usageOfRun⟩ := rfl

/-- The empty word names a file, and so does a word with a single minus sign; but there can be
only one of them. -/
theorem odd_words_run_arguments :
    (∀ world, reply world ["run","--trace",""] =
        answer ⟨.run true,.file ""⟩ (filterOf true world.filter) (world.file "")) ∧
      (∀ world, reply world ["run","-v"] =
        answer ⟨.run false,.file "-v"⟩ (filterOf false world.filter) (world.file "-v")) ∧
      ∀ world, UsageError (reply world ["run","","-v"]) := by
  obtain ⟨_,_,empty⟩ := run_arguments ["--trace",""]
  obtain ⟨_,_,single⟩ := run_arguments ["-v"]
  obtain ⟨refused,_⟩ := run_arguments ["","-v"]
  refine ⟨?_,?_,fun world => (refused world).2 (by decide)⟩
  · obtain ⟨named,_⟩ | ⟨path,named,_,read⟩ := empty (by decide)
    · exact absurd named (by decide)
    · cases named
      exact read
  · obtain ⟨named,_⟩ | ⟨path,named,_,read⟩ := single (by decide)
    · exact absurd named (by decide)
    · cases named
      exact read

end CommandLine
end LoopRepair
