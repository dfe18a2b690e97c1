import LoopRepair.Proofs.ListingLanguage

/-!
# Listings read back

A program is written as one of the texts that list it. The words of a written line are the
mnemonic and the signed argument, neither of which holds a blank, so the line spells its
instruction and no line is blank or runs into the next. Visits are not written: what is
read back is the program before any visit, and of two programs with the same listing no more
can be told apart than their visits.
-/
namespace LoopRepair

/-- The instruction before any visit. -/
def Instruction.cleared (a : Instruction) : Instruction := { a with visits := 0 }

/-- The program before any visit. -/
def Program.cleared (p : Program) : Program := .ofList (p.toList.map Instruction.cleared)

theorem Operation.map_toLower_mnemonic (op : Operation) :
    op.mnemonic.map Char.toLower = op.mnemonic := by
  cases op <;> rfl

namespace Listing
open TextPieces SignedDecimal
variable {c : Char} {w text : List Char} {a : Instruction} {l : List Instruction}

theorem isBlank_of_isDigit (h : c.isDigit = true) : isBlank c = false := by
  have ascii : c.toNat < 0x80 := by
    simp only [Char.isDigit,Bool.and_eq_true,decide_eq_true_eq] at h
    have below : c.toNat ≤ 57 := UInt32.le_iff_toNat_le.1 h.2
    omega
  exact LetterCase.forall_ascii (P := fun c => c.isDigit = true → isBlank c = false)
    (by decide) ascii h

theorem isWord_mnemonic (op : Operation) : IsWord op.mnemonic := by
  cases op <;> exact ⟨by simp [Operation.mnemonic],by simp [Operation.mnemonic,isBlank]⟩

theorem isWord_signed (n : Int64) : IsWord (signed n) := by
  refine ⟨by simp [signed],?_⟩
  rw [signed,List.forall_mem_cons]
  constructor
  · split <;> rfl
  · intro c hc
    exact isBlank_of_isDigit (Nat.isDigit_of_mem_toDigits (by decide) (by decide) hc)

theorem not_mem_of_isWord (h : IsWord w) : '\n' ∉ w := by
  intro feed
  exact absurd (h.2 '\n' feed) (by decide)

theorem spells_written (a : Instruction) : Spells a.written a.cleared := by
  refine ⟨a.operation.mnemonic,signed a.argument,?_,?_,?_,rfl⟩
  · exact .cons (isWord_mnemonic _) (by decide) (.word (isWord_signed _))
  · exact Operation.map_toLower_mnemonic a.operation
  · exact read?_eq_some_iff.1 (read?_signed a.argument)

theorem written_line (a : Instruction) : '\n' ∉ a.written := by
  simp only [Instruction.written,List.mem_append,List.mem_cons,not_or]
  exact ⟨not_mem_of_isWord (isWord_mnemonic _),by decide,not_mem_of_isWord (isWord_signed _)⟩

theorem lists_written (l : List Instruction) :
    Lists (l.flatMap fun a => a.written ++ ['\n']) (l.map Instruction.cleared) := by
  induction l with
  | nil =>
      change Lists ([] ++ []) []
      exact .stop List.not_mem_nil (List.forall_mem_nil _) (.inl rfl)
  | cons a l ih =>
      rw [List.flatMap_cons,List.append_assoc,List.singleton_append]
      exact .line (written_line a) (spells_written a) ih

theorem lists_render (p : Program) : Lists (render p) p.cleared.toList := lists_written p.toList

theorem load_render (p : Program) : load (render p) = .ok p.cleared :=
  load_eq_ok_iff.2 (lists_render p)

/-- Visits are not written. -/
theorem render_cleared (p : Program) : render p.cleared = render p := by
  simp only [render,Program.cleared,Program.toList_ofList,List.flatMap_map]
  rfl

theorem Lists.map_cleared (h : Lists text l) : l.map Instruction.cleared = l := by
  have unvisited : ∀ {line a}, Spells line a → a.cleared = a := by
    rintro _ ⟨operation,argument,visits⟩ ⟨_,_,_,_,_,fresh⟩
    cases fresh
    rfl
  induction h with
  | stop _ _ _ => rfl
  | last _ spells => rw [List.map_singleton,unvisited spells]
  | line _ spells _ ih => rw [List.map_cons,unvisited spells,ih]

theorem cleared_of_load {p : Program} (h : load text = .ok p) : p.cleared = p := by
  rw [Program.cleared,(load_eq_ok_iff.1 h).map_cleared,Program.ofList_toList]

end Listing

namespace Program
open Listing

theorem ofText_text (p : Program) : ofText p.text = .ok p.cleared := by
  rw [ofText,text,String.toList_ofList,load_render]

theorem text_cleared (p : Program) : p.cleared.text = p.text := by
  rw [text,text,render_cleared]

/-- Every program is read back from its listing, but for its visits, which the listing does not
tell; and a listing says all that there is to say about what was loaded from any text. -/
theorem listing_read_back (p q : Program) :
    ofText p.text = .ok p.cleared ∧ (p.text = q.text ↔ p.cleared = q.cleared) ∧
      ∀ t, ofText t = .ok p → ofText p.text = ofText t := by
  refine ⟨p.ofText_text,?_,?_⟩
  · constructor
    · intro same
      have read : (.ok p.cleared : Except LoadError Program) = .ok q.cleared := by
        rw [← p.ofText_text,same,q.ofText_text]
      exact Except.ok.inj read
    · intro same
      rw [← p.text_cleared,same,q.text_cleared]
  · intro t loaded
    rw [loaded,p.ofText_text,cleared_of_load loaded]

/-- A text with the least number and the greatest, and as untidy as can be. -/
def scrawl : String :=
  "\tACC  -0009223372036854775808 \r\njMp 9223372036854775807\n \nfoo"

theorem scrawl_read_back :
    let p := ofList [⟨.acc,Int64.minValue,0⟩,⟨.jmp,Int64.maxValue,0⟩]
    let visited := ofList [⟨.acc,Int64.minValue,1⟩,⟨.jmp,Int64.maxValue,3⟩]
    ofText scrawl = .ok p ∧ p.text = visited.text ∧ ofText p.text = ofText scrawl := by
  have loaded : ofText scrawl =
      .ok (ofList [⟨.acc,Int64.minValue,0⟩,⟨.jmp,Int64.maxValue,0⟩]) :=
    rfl
  obtain ⟨_,same,again⟩ := listing_read_back
    (ofList [⟨.acc,Int64.minValue,0⟩,⟨.jmp,Int64.maxValue,0⟩])
    (ofList [⟨.acc,Int64.minValue,1⟩,⟨.jmp,Int64.maxValue,3⟩])
  exact ⟨loaded,same.2 rfl,again scrawl loaded⟩

end Program
end LoopRepair
