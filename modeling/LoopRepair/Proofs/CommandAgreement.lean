import LoopRepair.Proofs.RepairedListing
import LoopRepair.Proofs.SourceContents

/-!
# The commands agree

Given the same input and no flag, the three commands refuse it together, or none of them does.
In the latter case the listing that one of them writes stands for the input: it holds the same
program, so that no command can tell the two apart.
-/
namespace LoopRepair.CommandLine
open Listing
variable {world fed : Surroundings} {input back : Option String} {p : Program} {t : String}
  {c : String × Task}

/-- The commands that read a program, with what they do with it if they are given no flag. -/
def readingCommands : List (String × Task) :=
  [("run",.run false),("check",.check),("disassemble",.disassemble)]

/-- An input that is no flag is the source, whatever the command. -/
theorem ofArguments_reading (plain : ∀ word ∈ input, ¬ ['-','-'] <+: word.toList)
    (hc : c ∈ readingCommands) :
    Request.ofArguments (c.1 :: input.toList) = .ok ⟨c.2,.ofArgument input⟩ := by
  simp only [readingCommands,List.mem_cons,List.not_mem_nil,or_false] at hc
  cases input with
  | none => rcases hc with rfl | rfl | rfl <;> rfl
  | some word =>
      have unflagged : ¬ ['-','-'] <+: word.toList := plain word rfl
      have other : word ≠ "--trace" := by
        rintro rfl
        exact unflagged (by decide)
      have argument : Request.isFlag word = false := by
        rw [Request.isFlag,Bool.eq_false_iff,ne_eq,List.isPrefixOf_iff_prefix]
        exact unflagged
      rcases hc with rfl | rfl | rfl
      · change Request.ofRunArguments false none [word] = _
        rw [Request.ofRunArguments,if_neg other,argument]
        rfl
      · rfl
      · rfl

/-- A program that some source holds is held by its listing too. -/
theorem Holds.listing {source : Source} (h : Holds world source p)
    (given : fed.standardInput = .ok p.text.toUTF8) : Holds fed .standardInput p := by
  obtain ⟨t,_,loaded⟩ := h
  refine ⟨p.text,given,?_⟩
  rw [Program.ofText_text,cleared_of_load loaded]

theorem reply_reading (plain : ∀ word ∈ input, ¬ ['-','-'] <+: word.toList)
    (h : Holds world (.ofArgument input) p) (hc : c ∈ readingCommands) :
    reply world (c.1 :: input.toList) = perform c.2 (filterOf false world.filter) p := by
  have unasked : asksForAll (c.1 :: input.toList) = false := by
    rw [asksForAll_cons,decide_eq_false_iff_not,Option.mem_toList]
    exact fun flag => plain _ flag (by decide)
  rw [reply_of_holds (ofArguments_reading plain hc) h,unasked]

/-- Either all commands refuse an input, and in the same way, or it holds a program. Then they
count and list the same lines, and whoever reads the listing instead of the input, under the
same log filter, gets the same replies. -/
theorem commands_agree (world : Surroundings) {input : Option String}
    (plain : ∀ word ∈ input, ¬ ['-','-'] <+: word.toList) :
    let asked (command : String) := reply world (command :: input.toList)
    ((∀ p, ¬ Holds world (.ofArgument input) p) ∧
        ∃ message, ∀ c ∈ readingCommands, asked c.1 = ⟨1,"",message⟩) ∨
      ∃ p lines, Holds world (.ofArgument input) p ∧ (∀ line ∈ lines, '\n' ∉ line) ∧
        asked "check" = ⟨0,"OK: " ++ toString lines.length ++ " instructions\n",""⟩ ∧
        asked "disassemble" = ⟨0,String.ofList (unlines lines),""⟩ ∧
        ∀ fed : Surroundings, fed.standardInput = .ok (asked "disassemble").stdout.toUTF8 →
          fed.filter = world.filter → ∀ back, back = none ∨ back = some "-" →
            ∀ c ∈ readingCommands, reply fed (c.1 :: back.toList) = asked c.1 := by
  dsimp only
  by_cases empty : ∀ p, ¬ Holds world (.ofArgument input) p
  · obtain ⟨message,refused⟩ := exists_refusal empty
    refine .inl ⟨empty,message,?_⟩
    intro c hc
    exact refused _ _ (ofArguments_reading plain hc) rfl
  · obtain ⟨p,holds⟩ := not_forall_not.1 empty
    have checked : reply world ("check" :: input.toList) =
        perform .check (filterOf false world.filter) p :=
      reply_reading plain holds (.tail _ (.head _))
    have listed : reply world ("disassemble" :: input.toList) =
        perform .disassemble (filterOf false world.filter) p :=
      reply_reading plain holds (.tail _ (.tail _ (.head _)))
    have size : (writtenLines p.toList).length = p.size := List.length_map _
    refine .inr ⟨p,writtenLines p.toList,holds,writtenLines_single _,?_,?_,?_⟩
    · rw [checked,size,perform]
    · rw [listed,perform,Program.text,render_eq_unlines]
    · intro fed given same back silent c hc
      rw [listed,perform] at given
      have unflagged : ∀ word ∈ back, ¬ ['-','-'] <+: word.toList := by
        rcases silent with rfl | rfl <;> simp
      have source : Source.ofArgument back = .standardInput := by
        rcases silent with rfl | rfl <;> rfl
      rw [reply_reading plain holds hc,
        reply_reading unflagged (source ▸ holds.listing given) hc,same]

/-- Surroundings with the careless text in a file whose name begins with a minus sign. -/
def shelf : Surroundings where
  standardInput := ByteArray.empty
  file path := if path = "-v" then .ok Machine.scribble.toUTF8 else .error .notFound
  filter := none

theorem shelf_commands_agree : (∀ word ∈ some "-v", ¬ ['-','-'] <+: word.toList) ∧
    Holds shelf (.file "-v") Program.sample ∧
    ∃ lines : List (List Char),
      reply shelf ["check","-v"] = ⟨0,"OK: " ++ toString lines.length ++ " instructions\n",""⟩ ∧
      reply shelf ["disassemble","-v"] = ⟨0,String.ofList (unlines lines),""⟩ ∧
      ∀ fed : Surroundings, fed.standardInput = .ok (String.ofList (unlines lines)).toUTF8 →
        fed.filter = none → reply fed ["run"] = reply shelf ["run","-v"] := by
  have plain : ∀ word ∈ some "-v", ¬ ['-','-'] <+: word.toList := by simp
  have holds : Holds shelf (.file "-v") Program.sample := ⟨Machine.scribble,rfl,Machine.ofText_scribble⟩
  obtain ⟨empty,_⟩ | ⟨_,lines,_,_,checked,listed,again⟩ := commands_agree shelf plain
  · exact absurd holds (empty _)
  · refine ⟨plain,holds,lines,checked,listed,?_⟩
    intro fed given unset
    have listing : reply shelf ["disassemble","-v"] = ⟨0,String.ofList (unlines lines),""⟩ := listed
    have back : fed.standardInput = .ok (reply shelf ["disassemble","-v"]).stdout.toUTF8 := by
      rw [listing,given]
    exact again fed back unset none (.inl rfl) _ (.head _)

end LoopRepair.CommandLine
