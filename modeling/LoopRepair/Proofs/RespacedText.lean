import Mathlib.Logic.Relation
import LoopRepair.Proofs.ListingLanguage

/-!
# Spacing

Loading a text looks at the words of each line and at nothing else. So the text may be
spaced otherwise: its lines may end in another way, blanks may come and go at both ends of
a line, and any gap between words is as good as any other. None of this makes a line blank
that was not, or adds or takes away a line in front of another, so what is read, and on
which line a fault is found, stays the same.
-/
namespace LoopRepair

namespace TextPieces
variable {a b l r s t x y : List Char}

/-- Blanks on one line, or nothing. -/
def Padding (s : List Char) : Prop := Blank s ∧ '\n' ∉ s

instance (s : List Char) : Decidable (Padding s) :=
  inferInstanceAs (Decidable (Blank s ∧ '\n' ∉ s))

/-- One change to the spacing of a text: a carriage return before a line feed, a line feed at
the end, blanks where a line starts or ends, or another gap in place of one. -/
inductive Respaced : List Char → List Char → Prop
  | returned (x y : List Char) : Respaced (x ++ '\n' :: y) (x ++ '\r' :: '\n' :: y)
  | ended (t : List Char) : Respaced t (t ++ ['\n'])
  | indented {x s y : List Char} : StartsLine x → Padding s → Respaced (x ++ y) (x ++ (s ++ y))
  | trailed {x s y : List Char} : EndsLine y → Padding s → Respaced (x ++ y) (x ++ (s ++ y))
  | parted {x s r y : List Char} : Padding s → Padding r → s ≠ [] → r ≠ [] →
      Respaced (x ++ (s ++ y)) (x ++ (r ++ y))

/-- The words of every line. -/
def lineWords (t : List Char) : List (List (List Char)) := (pieces (· = '\n') t).map words

theorem pieces_eq_splitOn (t : List Char) : pieces (· = '\n') t = t.splitOn '\n' :=
  pieces_eq_splitOnP _ t

theorem words_indented (h : Blank s) (t : List Char) : words (s ++ t) = words t := by
  induction s with
  | nil => rfl
  | cons c s ih =>
      obtain ⟨hc,hs⟩ := List.forall_mem_cons.1 h
      rw [List.cons_append,words_cons_blank hc,ih hs]

theorem words_parted (h : Blank s) (filled : s ≠ []) (x y : List Char) :
    words (x ++ (s ++ y)) = words x ++ words y := by
  obtain ⟨c,s,rfl⟩ := List.exists_cons_of_ne_nil filled
  obtain ⟨hc,hs⟩ := List.forall_mem_cons.1 h
  rw [List.cons_append,words_append hc,words_indented hs]

theorem words_trailed (h : Blank s) (t : List Char) : words (t ++ s) = words t := by
  by_cases empty : s = []
  · rw [empty,List.append_nil]
  · have apart := words_parted h empty t []
    rwa [List.append_nil,words_nil,List.append_nil] at apart

theorem lineWords_of_line (h : '\n' ∉ l) : lineWords l = [words l] := by
  rw [lineWords,pieces_of_line h,List.map_singleton]

theorem lineWords_append (x y : List Char) :
    lineWords (x ++ '\n' :: y) = lineWords x ++ lineWords y := by
  rw [lineWords,pieces_append (by simp),List.map_append,lineWords,lineWords]

/-- Whatever comes behind a text goes on with its last line. -/
theorem exists_last_line (x : List Char) : ∃ before a, '\n' ∉ a ∧
    ∀ t, lineWords (x ++ t) = before ++ lineWords (a ++ t) := by
  induction x using line_induction with
  | last l single => exact ⟨[],l,single,fun t => rfl⟩
  | line l x single ih =>
      obtain ⟨before,a,part,more⟩ := ih
      refine ⟨words l :: before,a,part,?_⟩
      intro t
      rw [List.append_assoc,List.cons_append,lineWords_append,lineWords_of_line single,more]
      simp

/-- Whatever comes in front of a text goes on into its first line. -/
theorem exists_first_line (y : List Char) : ∃ b after, '\n' ∉ b ∧
    ∀ l, '\n' ∉ l → lineWords (l ++ y) = words (l ++ b) :: after := by
  by_cases feed : '\n' ∈ y
  · obtain ⟨b,y,rfl,single⟩ := List.eq_append_cons_of_mem feed
    refine ⟨b,lineWords y,single,?_⟩
    intro l hl
    rw [← List.append_assoc,lineWords_append,
      lineWords_of_line (List.not_mem_append hl single),List.singleton_append]
  · refine ⟨y,[],feed,?_⟩
    intro l hl
    exact lineWords_of_line (List.not_mem_append hl feed)

theorem lineWords_indented (h : Padding s) (y : List Char) : lineWords (s ++ y) = lineWords y := by
  obtain ⟨b,after,_,more⟩ := exists_first_line y
  have plain := more [] List.not_mem_nil
  rw [more s h.2,words_indented h.1]
  exact plain.symm

theorem lineWords_concat_padding (h : Padding s) (x : List Char) :
    lineWords (x ++ s) = lineWords x := by
  obtain ⟨before,a,single,more⟩ := exists_last_line x
  have plain := more []
  rw [List.append_nil,List.append_nil] at plain
  rw [more,plain,lineWords_of_line (List.not_mem_append single h.2),lineWords_of_line single,
    words_trailed h.1]

theorem lineWords_trailed (ends : EndsLine y) (h : Padding s) (x : List Char) :
    lineWords (x ++ (s ++ y)) = lineWords (x ++ y) := by
  rcases ends with rfl | ⟨y,rfl⟩
  · rw [List.append_nil,List.append_nil,lineWords_concat_padding h]
  · rw [← List.append_assoc,lineWords_append,lineWords_concat_padding h,lineWords_append]

/-- A gap leaves no trace but that there is one. -/
theorem lineWords_parted (hs : Padding s) (hr : Padding r) (filled : s ≠ []) (filled' : r ≠ [])
    (x y : List Char) : lineWords (x ++ (s ++ y)) = lineWords (x ++ (r ++ y)) := by
  obtain ⟨before,a,single,left⟩ := exists_last_line x
  obtain ⟨b,after,_,right⟩ := exists_first_line y
  have parted : ∀ {s : List Char}, Padding s → s ≠ [] →
      lineWords (x ++ (s ++ y)) = before ++ (words a ++ words b) :: after := by
    intro s hs filled
    rw [left,← List.append_assoc,right _ (List.not_mem_append single hs.2),List.append_assoc,
      words_parted hs.1 filled]
  rw [parted hs filled,parted hr filled']

/-- A change to the spacing leaves every line its words, and adds at most a blank line at the
end. -/
theorem Respaced.lineWords (h : Respaced s t) :
    lineWords t = lineWords s ∨ lineWords t = lineWords s ++ [[]] := by
  cases h with
  | returned x y =>
      have padding : Padding ['\r'] := ⟨by simp [Blank,isBlank],by simp⟩
      exact .inl (lineWords_trailed (.inr ⟨y,rfl⟩) padding x)
  | ended t =>
      right
      rw [lineWords_append,lineWords_of_line List.not_mem_nil,words_nil]
  | @indented x s y starts padding =>
      left
      rcases starts with rfl | ⟨x,rfl⟩
      · exact lineWords_indented padding y
      · simp only [List.append_assoc,List.singleton_append]
        rw [lineWords_append,lineWords_indented padding,lineWords_append]
  | trailed ends padding => exact .inl (lineWords_trailed ends padding _)
  | parted hs hr filled filled' => exact .inl (lineWords_parted hr hs filled' filled _ _)

end TextPieces

namespace Listing
open TextPieces
variable {s t : List Char} {ks ls : List (List Char)}

/-- Lines are read by their words. -/
theorem readLines_congr (same : ks.map words = ls.map words) (number : Nat) :
    readLines number ks = readLines number ls := by
  induction ks generalizing ls number with
  | nil =>
      rw [List.map_eq_nil_iff.1 same.symm]
  | cons k ks ih =>
      obtain ⟨l,ls,rfl,first,later⟩ := List.map_eq_cons_iff.1 same.symm
      have read : readLine k = readLine l := by rw [readLine,readLine,first]
      rw [readLines,readLines,read,ih later.symm]

theorem readLines_concat_nil (ls : List (List Char)) (number : Nat) :
    readLines number (ls ++ [[]]) = readLines number ls := by
  induction ls generalizing number with
  | nil => rfl
  | cons l ls ih => rw [List.cons_append,readLines,readLines,ih]

/-- How lines end and whether the last one does is no matter when they are read. -/
theorem readLines_lines (t : List Char) (number : Nat) :
    readLines number (lines t) = readLines number (t.splitOn '\n') := by
  rw [← pieces_eq_splitOn]
  induction t using line_induction generalizing number with
  | last l single =>
      rw [lines_of_line single,pieces_of_line single]
      by_cases empty : l = []
      · subst empty
        rfl
      · rw [if_neg empty]
  | line l t single ih =>
      rw [lines_append single,pieces_line_append single,readLines,readLines,readLine_dropReturn,
        ih]

theorem load_eq_loadLines_splitOn (t : List Char) : load t = loadLines (t.splitOn '\n') :=
  congrArg (Except.map Program.ofList) (readLines_lines t 1)

theorem load_of_respaced (h : Respaced s t) : load t = load s := by
  rw [load_eq_loadLines_splitOn,load_eq_loadLines_splitOn,loadLines,loadLines,← pieces_eq_splitOn,
    ← pieces_eq_splitOn]
  congr 1
  rcases h.lineWords with same | more
  · exact readLines_congr same 1
  · have extended : (pieces (· = '\n') t).map words = (pieces (· = '\n') s ++ [[]]).map words := by
      rw [List.map_append,List.map_singleton,words_nil]
      exact more
    rw [readLines_congr extended,readLines_concat_nil]

/-- A text is loaded like its pieces between line feeds, and like every text that can be made
from it by changes to its spacing, however many and in either direction. -/
theorem spacing_immaterial (t : List Char) : load t = loadLines (t.splitOn '\n') ∧
    ∀ s, Relation.EqvGen Respaced t s → load s = load t := by
  refine ⟨load_eq_loadLines_splitOn t,?_⟩
  intro s respaced
  induction respaced with
  | rel _ _ change => exact load_of_respaced change
  | refl _ => rfl
  | symm _ _ _ ih => exact ih.symm
  | trans _ _ _ _ _ first second => exact second.trans first

/-- Two lines, the second of them at fault. -/
def tidy : List Char := "acc +1\njmp up\n".toList

/-- The same lines with a line separator and a tab for a gap, a carriage return, a margin and
no line feed at the end. -/
def untidy : List Char := "acc\u2028\t+1\r\n\u00a0jmp up".toList

theorem tidy_untidy : Relation.EqvGen Respaced tidy untidy := by
  have gap : Respaced tidy "acc\u2028\t+1\njmp up\n".toList :=
    .parted (x := "acc".toList) (s := [' ']) (r := ['\u2028','\t']) (y := "+1\njmp up\n".toList)
      (by decide) (by decide) (by simp) (by simp)
  have ending : Respaced "acc\u2028\t+1\njmp up\n".toList "acc\u2028\t+1\r\njmp up\n".toList :=
    .returned "acc\u2028\t+1".toList "jmp up\n".toList
  have margin : Respaced "acc\u2028\t+1\r\njmp up\n".toList
      "acc\u2028\t+1\r\n\u00a0jmp up\n".toList :=
    .indented (x := "acc\u2028\t+1\r\n".toList) (s := ['\u00a0']) (y := "jmp up\n".toList)
      (.inr ⟨"acc\u2028\t+1\r".toList,rfl⟩) (by decide)
  have last : Respaced untidy "acc\u2028\t+1\r\n\u00a0jmp up\n".toList := .ended untidy
  exact .trans _ _ _ (.rel _ _ gap) (.trans _ _ _ (.rel _ _ ending)
    (.trans _ _ _ (.rel _ _ margin) (.symm _ _ (.rel _ _ last))))

theorem untidy_spacing_immaterial : Relation.EqvGen Respaced tidy untidy ∧
    load tidy = .error ⟨2,.invalidNumber "up".toList⟩ ∧
    load untidy = .error ⟨2,.invalidNumber "up".toList⟩ := by
  have loaded : load tidy = .error ⟨2,.invalidNumber "up".toList⟩ := rfl
  obtain ⟨_,same⟩ := spacing_immaterial tidy
  exact ⟨tidy_untidy,loaded,(same untidy tidy_untidy).trans loaded⟩

end Listing
end LoopRepair
