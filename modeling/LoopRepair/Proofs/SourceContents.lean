import LoopRepair.CommandLine

/-!
# What a source holds and what is replied

A command does nothing with its source but read a text from it and load the text. So its reply
depends on the program that the source holds; and if it holds none, because it cannot be read
or because its text lists nothing, every command that names the source gives the same reply.
-/
namespace LoopRepair.CommandLine
variable {world : Surroundings} {source : Source} {words : List String} {request : Request}
  {p : Program} {t : String}

theorem decode_eq_ok_iff {contents : ByteArray} : decode contents = .ok t ↔ contents = t.toUTF8 := by
  unfold decode String.fromUTF8? String.fromUTF8
  by_cases valid : contents.IsValidUTF8
  · simp only [dif_pos valid]
    constructor
    · intro h
      cases h
      rfl
    · rintro rfl
      rfl
  · simp only [dif_neg valid]
    constructor
    · intro h
      cases h
    · rintro rfl
      exact absurd t.isValidUTF8 valid

theorem decode_toUTF8 (t : String) : decode t.toUTF8 = .ok t := decode_eq_ok_iff.2 rfl

theorem asksForAll_cons (command : String) (words : List String) :
    asksForAll (command :: words) = decide ("--trace" ∈ words) :=
  List.contains_eq_mem ..

/-- The source can be read, and holds a text that lists the program. -/
def Holds (world : Surroundings) (source : Source) (p : Program) : Prop :=
  ∃ t : String, contentsOf world source = .ok t.toUTF8 ∧ Program.ofText t = .ok p

theorem reply_of_error {e : LoadError} (asked : Request.ofArguments words = .ok request)
    (given : contentsOf world request.source = .ok t.toUTF8)
    (refused : Program.ofText t = .error e) :
    reply world words = ⟨1,"","error: " ++ e.message ++ "\n"⟩ := by
  have read : (Except.ok t.toUTF8).bind decode = .ok t := decode_toUTF8 t
  rw [reply,asked]
  simp only [answer,given,read,refused]

theorem reply_of_holds (asked : Request.ofArguments words = .ok request)
    (h : Holds world request.source p) :
    reply world words = perform request.task (filterOf (asksForAll words) world.filter) p := by
  obtain ⟨t,given,loaded⟩ := h
  have read : (Except.ok t.toUTF8).bind decode = .ok t := decode_toUTF8 t
  rw [reply,asked]
  simp only [answer,given,read,loaded]

/-- What cannot be read or loaded is refused in the same way by every command. -/
theorem exists_refusal (empty : ∀ p, ¬ Holds world source p) :
    ∃ message, ∀ words request, Request.ofArguments words = .ok request →
      request.source = source → reply world words = ⟨1,"",message⟩ := by
  cases read : (contentsOf world source).bind decode with
  | error failure =>
      refine ⟨"error: cannot read " ++ source.name ++ ": " ++ failure.message ++ "\n",?_⟩
      rintro words request asked rfl
      rw [reply,asked]
      simp only [answer,read]
  | ok t =>
      have given : contentsOf world source = .ok t.toUTF8 := by
        cases held : contentsOf world source with
        | error failure =>
            rw [held] at read
            cases read
        | ok contents =>
            rw [held] at read
            rw [decode_eq_ok_iff.1 read]
      cases loaded : Program.ofText t with
      | ok p => exact absurd ⟨t,given,loaded⟩ (empty p)
      | error e =>
          refine ⟨"error: " ++ e.message ++ "\n",?_⟩
          rintro words request asked rfl
          exact reply_of_error asked given loaded

end LoopRepair.CommandLine
