import LoopRepair.Proofs.FirstFault
import LoopRepair.Proofs.FlipRecord
import LoopRepair.Proofs.ListingRoundTrip

/-!
# The lines of a listing

A listing has one line for every instruction, in order, and what is on a line depends on
that instruction alone. So a change of one instruction shows on one line, and what is not
written, like visits, does not show at all.
-/
namespace LoopRepair

namespace Listing
variable {i : Nat} {x y : List Char} {p : Program} {a : Instruction}

/-- The texts `s` and `t` are the same but for the line that has `i` lines before it, which is
`x` in the one and `y` in the other. -/
def SameBut (i : Nat) (x y s t : List Char) : Prop :=
  ∃ before after, before.length = i ∧ (∀ l ∈ before, '\n' ∉ l) ∧ '\n' ∉ x ∧ '\n' ∉ y ∧
    s = unlines before ++ x ++ '\n' :: after ∧ t = unlines before ++ y ++ '\n' :: after

theorem unlines_append (k l : List (List Char)) : unlines (k ++ l) = unlines k ++ unlines l :=
  List.flatMap_append

theorem sameBut_unlines {before : List (List Char)} (single : ∀ l ∈ before, '\n' ∉ l)
    (hx : '\n' ∉ x) (hy : '\n' ∉ y) (after : List (List Char)) : SameBut before.length x y
      (unlines (before ++ x :: after)) (unlines (before ++ y :: after)) := by
  refine ⟨before,unlines after,rfl,single,hx,hy,?_,?_⟩
  · rw [unlines_append,unlines_cons,List.append_assoc]
  · rw [unlines_append,unlines_cons,List.append_assoc]

/-- The lines of the instructions `l`, without their endings. -/
def writtenLines (l : List Instruction) : List (List Char) := l.map Instruction.written

theorem writtenLines_single (l : List Instruction) : ∀ line ∈ writtenLines l, '\n' ∉ line :=
  List.forall_mem_map.2 fun a _ => written_line a

theorem render_eq_unlines (p : Program) : render p = unlines (writtenLines p.toList) := by
  rw [render,unlines,writtenLines,List.flatMap_map]

/-- What is done to one instruction shows on its line. -/
theorem sameBut_render_update (ha : p.get? i = some a) (f : Instruction → Instruction) :
    SameBut i a.written (f a).written (render p) (render (p.update i f)) := by
  have inside : i < p.toList.length := Program.lt_size_of_get? ha
  obtain ⟨before,b,after,split,rfl,changed⟩ := List.exists_of_modify f inside
  have same : b = a := by
    have here : p.toList[before.length]? = some a := by
      simpa [Program.toList,Program.get?] using ha
    simpa [split] using here
  subst same
  have updated : (p.update before.length f).toList = p.toList.modify before.length f :=
    Array.toList_modify
  have shown := sameBut_unlines (writtenLines_single before) (written_line b)
    (written_line (f b)) (writtenLines after)
  rw [render_eq_unlines,render_eq_unlines,updated,changed,split]
  simpa [writtenLines] using shown

end Listing

namespace Program
variable {p : Program} {f : Flip} {a : Instruction}

theorem get?_cleared (p : Program) (i : Nat) :
    p.cleared.get? i = (p.get? i).map Instruction.cleared := by
  simp [cleared,get?,ofList,toList]

theorem cleared_visiting (p : Program) (l : List Nat) : (p.visiting l).cleared = p.cleared := by
  apply ext_get?
  intro i
  rw [get?_cleared,get?_cleared]
  exact map_get?_visiting (fun _ _ => rfl) p l i

theorem cleared_flipped (p : Program) (g : Option Flip) :
    (p.flipped g).cleared = p.cleared.flipped g := by
  cases g with
  | none => rfl
  | some f =>
      apply ext_get?
      intro i
      rw [get?_cleared,flipped_some,flipped_some,apply,apply,get?_update,get?_update,get?_cleared]
      by_cases e : f.index = i
      · cases p.get? i <;> simp [e,Instruction.cleared]
      · simp [e]

theorem text_visiting (p : Program) (l : List Nat) : (p.visiting l).text = p.text := by
  rw [← text_cleared,cleared_visiting,text_cleared]

/-- A flip shows on the line of its instruction. -/
theorem sameBut_text_apply (ha : p.get? f.index = some a) (replaced : a.operation = f.replaced) :
    Listing.SameBut f.index (Instruction.mk f.replaced a.argument 0).written
      (Instruction.mk f.replacement a.argument 0).written p.text.toList
      (p.apply f).text.toList := by
  rw [text,text,String.toList_ofList,String.toList_ofList,← replaced]
  exact Listing.sameBut_render_update ha fun a => { a with operation := f.replacement }

end Program
end LoopRepair
