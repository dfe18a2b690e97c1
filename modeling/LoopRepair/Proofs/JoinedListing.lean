import LoopRepair.Proofs.FirstFault

/-!
# Listings joined

A listing can be cut behind any of its lines. What stands before the cut is read on its own,
and what stands behind it too, except that the lines of its errors are counted from further
down. A blank line is where every listing ends: the text behind it may be anything.
-/
namespace LoopRepair

namespace TextPieces
variable {x : List Char}

theorem lines_append_feed (t y : List Char) :
    lines (t ++ '\n' :: y) = lines (t ++ ['\n']) ++ lines y := by
  induction t using line_induction with
  | last l single =>
      rw [lines_append single,lines_append single]
      rfl
  | line l t single ih =>
      simp only [List.append_assoc,List.cons_append]
      rw [lines_append single,ih,lines_append single,List.cons_append]

/-- A text cut where a line starts is cut between two of its lines. -/
theorem lines_append_of_startsLine (h : StartsLine x) (y : List Char) :
    lines (x ++ y) = lines x ++ lines y := by
  rcases h with rfl | ⟨t,rfl⟩
  · rfl
  · rw [List.append_assoc,List.singleton_append,lines_append_feed]

end TextPieces

/-- The same error, `k` lines further down. -/
def LoadError.below (k : Nat) (e : LoadError) : LoadError := { e with line := e.line + k }

namespace Listing
open TextPieces
variable {a line : List Char} {p : Program} {number : Nat} {ks : List (List Char)}
  {l : List Instruction}

/-- Lines that are counted from further down have their errors further down. -/
theorem readLines_add (ls : List (List Char)) (number k : Nat) :
    readLines (number + k) ls = (readLines number ls).mapError (LoadError.below k) := by
  induction ls generalizing number with
  | nil => rfl
  | cons line ls ih =>
      rw [readLines,readLines]
      cases readLine line with
      | error fault => rfl
      | ok r =>
          cases r with
          | none => rfl
          | some a =>
              have next : number + k + 1 = number + 1 + k := by omega
              simp only [next,ih]
              cases readLines (number + 1) ls <;> rfl

/-- A line that is read, and is not blank, makes the first of the instructions. -/
theorem of_readLines_cons (filled : ¬ Blank line) (read : readLines number (line :: ks) = .ok l) :
    ∃ i k, readLine line = .ok (some i) ∧ readLines (number + 1) ks = .ok k ∧ l = i :: k := by
  rw [readLines] at read
  split at read
  · cases read
  · rename_i none
    exact absurd (readLine_eq_none_iff.1 none) filled
  · rename_i i first
    obtain ⟨k,later,rfl⟩ := map_eq_ok_iff.1 read
    exact ⟨i,k,first,later,rfl⟩

/-- Lines that are read to the last one are read before all others. -/
theorem readLines_append_lines (read : readLines number ks = .ok l)
    (full : ∀ line ∈ ks, ¬ Blank line) (ls : List (List Char)) :
    readLines number (ks ++ ls) = (readLines (number + ks.length) ls).map (l ++ ·) := by
  induction ks generalizing number l with
  | nil =>
      cases read
      cases h : readLines number ls <;> simp [Except.map,h]
  | cons line ks ih =>
      obtain ⟨filled,full⟩ := List.forall_mem_cons.1 full
      obtain ⟨i,l,first,later,rfl⟩ := of_readLines_cons filled read
      have next : number + (ks.length + 1) = number + 1 + ks.length := by omega
      rw [List.cons_append,readLines,first,List.length_cons,next]
      simp only [ih later full]
      cases readLines (number + 1 + ks.length) ls <;> rfl

/-- What is read from two texts that are joined where a line starts. -/
theorem load_append (loaded : load a = .ok p) (ended : StartsLine a)
    (full : ∀ line ∈ lines a, ¬ Blank line) (b : List Char) :
    load (a ++ b) = match load b with
      | .ok q => .ok (.ofList (p.toList ++ q.toList))
      | .error e => .error (e.below (lines a).length) := by
  obtain ⟨l,read,rfl⟩ := map_eq_ok_iff.1 loaded
  rw [load,loadLines,lines_append_of_startsLine ended,readLines_append_lines read full,
    readLines_add,load,loadLines]
  cases readLines 1 (lines b) <;> rfl

/-- A full listing and whatever is put behind it are loaded one after the other, and either both
load or the latter's error is reported, that many lines further down. Behind a blank line nothing
is looked at. -/
theorem joined_listing_loads (loaded : load a = .ok p) (ended : StartsLine a)
    (full : ∀ line ∈ lines a, ¬ Blank line) :
    (∀ b, load (a ++ b) = match load b with
      | .ok q => .ok (.ofList (p.toList ++ q.toList))
      | .error e => .error (e.below (lines a).length)) ∧
    ∀ s, Blank s → '\n' ∉ s → ∀ b, load (a ++ s ++ '\n' :: b) = load a := by
  refine ⟨load_append loaded ended full,?_⟩
  intro s blank single b
  have stopped : load (s ++ '\n' :: b) = .ok (.ofList []) :=
    load_eq_ok_iff.2 (.stop single blank (.inr ⟨b,rfl⟩))
  rw [List.append_assoc,load_append loaded ended full,stopped,loaded]
  simp

/-- Two lines, each ended in its own way. -/
def opening : List Char := "nop +0\r\nACC 1\n".toList

theorem opening_joined_loads :
    load opening = .ok (.ofList [⟨.nop,0,0⟩,⟨.acc,1,0⟩]) ∧
    load "jmp -2".toList = .ok (.ofList [⟨.jmp,-2,0⟩]) ∧
    load (opening ++ "jmp -2".toList) = .ok (.ofList [⟨.nop,0,0⟩,⟨.acc,1,0⟩,⟨.jmp,-2,0⟩]) ∧
    load "acc -1\njmp".toList = .error ⟨2,.missingArgument .jmp⟩ ∧
    load (opening ++ "acc -1\njmp".toList) = .error ⟨4,.missingArgument .jmp⟩ ∧
    load (opening ++ "\t\r".toList ++ '\n' :: "jmp".toList) =
      .ok (.ofList [⟨.nop,0,0⟩,⟨.acc,1,0⟩]) := by
  have loaded : load opening = .ok (.ofList [⟨.nop,0,0⟩,⟨.acc,1,0⟩]) := rfl
  have ended : StartsLine opening := .inr ⟨"nop +0\r\nACC 1".toList,rfl⟩
  have full : ∀ line ∈ lines opening, ¬ Blank line := by decide
  obtain ⟨joined,stopped⟩ := joined_listing_loads loaded ended full
  have more : load "jmp -2".toList = .ok (.ofList [⟨.jmp,-2,0⟩]) := rfl
  have fault : load "acc -1\njmp".toList = .error ⟨2,.missingArgument .jmp⟩ := rfl
  refine ⟨loaded,more,?_,fault,?_,?_⟩
  · rw [joined,more]
    rfl
  · rw [joined,fault]
    rfl
  · rw [stopped "\t\r".toList (by decide) (by decide),loaded]

end Listing
end LoopRepair
