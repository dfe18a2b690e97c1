import LoopRepair.Proofs.TextLayout
import LoopRepair.Proofs.WordReading

/-!
# The language of listings

Which texts are listings, and of which program, said without reading them. A line spells an
instruction if it is laid out as two words, a mnemonic and a numeral of 64 bits; a text
lists the instructions that its lines spell, up to the first blank line. A text is loaded
exactly if it lists something, and then as the program that it lists.
-/
namespace LoopRepair

theorem Operation.ofMnemonic?_lower {w : List Char} {op : Operation} :
    Operation.ofMnemonic? (LetterCase.lower w) = some op ↔ w.map Char.toLower = op.mnemonic :=
  Operation.ofMnemonic?_eq_some_iff.trans LetterCase.lower_mnemonic_iff

namespace Listing
open TextPieces SignedDecimal Token
variable {line rest text : List Char} {ws : List (List Char)} {ts : List Token}
  {fault : Fault} {a : Instruction} {l : List Instruction} {number : Nat}

/-- The line is two words, a mnemonic in letters of either case and a numeral, and says what
the instruction `a`, which has not been visited, is to do. -/
def Spells (line : List Char) (a : Instruction) : Prop :=
  ∃ name numeral, Spaced line [name,numeral] ∧
    name.map Char.toLower = a.operation.mnemonic ∧ Denotes numeral a.argument ∧ a.visits = 0

/-- The text lists these instructions, one a line, and ends or goes on with a blank line,
whatever stands behind that. -/
inductive Lists : List Char → List Instruction → Prop
  | stop {line rest : List Char} : '\n' ∉ line → Blank line → EndsLine rest →
      Lists (line ++ rest) []
  | last {line : List Char} {a : Instruction} : '\n' ∉ line → Spells line a → Lists line [a]
  | line {line text : List Char} {a : Instruction} {l : List Instruction} :
      '\n' ∉ line → Spells line a → Lists text l → Lists (line ++ '\n' :: text) (a :: l)

theorem map_eq_ok_iff {ε α β : Type} {f : α → β} {x : Except ε α} {b : β} :
    x.map f = .ok b ↔ ∃ a, x = .ok a ∧ f a = b := by
  cases x <;> simp [Except.map]

theorem tokens_eq_ok_iff : tokens ws = .ok ts ↔ ws.map ofWord = ts.map .ok := by
  induction ws generalizing ts with
  | nil => simp [tokens,eq_comm]
  | cons w ws ih =>
      rw [tokens]
      cases hw : ofWord w with
      | error fault => cases ts <;> simp [hw]
      | ok t =>
          simp only [map_eq_ok_iff,ih,List.map_cons,hw]
          cases ts <;> simp [and_left_comm]

theorem assemble_eq_some_iff : assemble ts = .ok (some a) ↔
    ∃ v, ts = [.name v,.number a.argument] ∧ Operation.ofMnemonic? v = some a.operation ∧
      a.visits = 0 := by
  constructor
  · intro h
    unfold assemble at h
    repeat' split at h
    all_goals cases h
    exact ⟨_,rfl,‹_›,rfl⟩
  · rintro ⟨v,rfl,known,fresh⟩
    simp only [assemble,known]
    obtain ⟨operation,argument,visits⟩ := a
    cases fresh
    rfl

theorem assemble_eq_none_iff : assemble ts = .ok none ↔ ts = [] := by
  constructor
  · intro h
    unfold assemble at h
    repeat' split at h
    all_goals cases h
    rfl
  · rintro rfl
    rfl

theorem readLine_eq_ok_iff {r : Option Instruction} :
    readLine line = .ok r ↔ ∃ ts, tokens (words line) = .ok ts ∧ assemble ts = .ok r := by
  rw [readLine]
  cases tokens (words line) <;> simp

/-- The instruction that is read from a line is the one that it spells. -/
theorem readLine_eq_some_iff : readLine line = .ok (some a) ↔ Spells line a := by
  simp only [readLine_eq_ok_iff,tokens_eq_ok_iff,assemble_eq_some_iff]
  constructor
  · rintro ⟨_,read,v,rfl,known,fresh⟩
    obtain ⟨name,_,split,hname,read⟩ := List.map_eq_cons_iff.1 read
    obtain ⟨numeral,_,rfl,hnumeral,read⟩ := List.map_eq_cons_iff.1 read
    cases List.map_eq_nil_iff.1 read
    obtain ⟨_,rfl⟩ := ofWord_eq_name_iff.1 hname
    exact ⟨name,numeral,spaced_iff.2 split,Operation.ofMnemonic?_lower.1 known,
      ofWord_eq_number_iff.1 hnumeral,fresh⟩
  · rintro ⟨name,numeral,spaced,known,denotes,fresh⟩
    refine ⟨_,?_,LetterCase.lower name,rfl,Operation.ofMnemonic?_lower.2 known,fresh⟩
    have hname := ofWord_eq_name_iff.2 ⟨not_numeric_of_mnemonic known,rfl⟩
    rw [spaced.words_eq,List.map_cons,List.map_singleton,hname,ofWord_eq_number_iff.2 denotes]
    rfl

theorem readLine_eq_none_iff : readLine line = .ok none ↔ Blank line := by
  simp only [readLine_eq_ok_iff,tokens_eq_ok_iff,assemble_eq_none_iff,← words_eq_nil_iff]
  simp

/-- Reading does not depend on how the line ended. -/
theorem readLine_dropReturn (line : List Char) : readLine (dropReturn line) = readLine line := by
  rw [readLine,words_dropReturn,readLine]

/-- What is read from a text is what its first line says, and then the lines behind it. -/
theorem readLines_append (single : '\n' ∉ line) (ends : EndsLine rest) (number : Nat) :
    readLines number (lines (line ++ rest)) =
      match readLine line with
      | .error fault => .error ⟨number,fault⟩
      | .ok none => .ok []
      | .ok (some a) => (readLines (number + 1) (lines rest.tail)).map (a :: ·) := by
  rcases ends with rfl | ⟨t,rfl⟩
  · rw [List.append_nil,lines_of_line single]
    by_cases empty : line = []
    · subst empty
      rfl
    · rw [if_neg empty]
      rfl
  · rw [lines_append single,readLines,readLine_dropReturn]
    rfl

theorem Lists.readLines_eq (h : Lists text l) (number : Nat) :
    readLines number (lines text) = .ok l := by
  induction h generalizing number with
  | stop single blank ends => rw [readLines_append single ends,readLine_eq_none_iff.2 blank]
  | @last line a single spells =>
      rw [← List.append_nil line,readLines_append single (.inl rfl),readLine_eq_some_iff.2 spells]
      rfl
  | line single spells _ ih =>
      rw [readLines_append single (.inr ⟨_,rfl⟩),readLine_eq_some_iff.2 spells]
      simp only [List.tail_cons,ih]
      rfl

theorem of_readLines_append (single : '\n' ∉ line) (ends : EndsLine rest)
    (h : readLines number (lines (line ++ rest)) = .ok l) :
    Blank line ∧ l = [] ∨ ∃ a k, Spells line a ∧
      readLines (number + 1) (lines rest.tail) = .ok k ∧ l = a :: k := by
  rw [readLines_append single ends] at h
  split at h
  · cases h
  · rename_i read
    cases h
    exact .inl ⟨readLine_eq_none_iff.1 read,rfl⟩
  · rename_i a read
    obtain ⟨k,later,rfl⟩ := map_eq_ok_iff.1 h
    exact .inr ⟨a,k,readLine_eq_some_iff.1 read,later,rfl⟩

theorem lists_of_readLines (h : readLines number (lines text) = .ok l) : Lists text l := by
  induction text using line_induction generalizing number l with
  | last line single =>
      rw [← List.append_nil line] at h
      obtain ⟨blank,rfl⟩ | ⟨a,_,spells,later,rfl⟩ := of_readLines_append single (.inl rfl) h
      · rw [← List.append_nil line]
        exact .stop single blank (.inl rfl)
      · cases later
        exact .last single spells
  | line line text single ih =>
      obtain ⟨blank,rfl⟩ | ⟨a,k,spells,later,rfl⟩ :=
        of_readLines_append single (.inr ⟨text,rfl⟩) h
      · exact .stop single blank (.inr ⟨text,rfl⟩)
      · exact .line single spells (ih later)

theorem readLines_eq_ok_iff : readLines number (lines text) = .ok l ↔ Lists text l :=
  ⟨lists_of_readLines,fun h => h.readLines_eq number⟩

theorem load_eq_ok_iff {q : Program} : load text = .ok q ↔ Lists text q.toList := by
  rw [load,loadLines,map_eq_ok_iff]
  constructor
  · rintro ⟨l,read,rfl⟩
    exact readLines_eq_ok_iff.1 read
  · intro lists
    exact ⟨q.toList,readLines_eq_ok_iff.2 lists,q.ofList_toList⟩

/-- A text is loaded as the program that it lists, and as no other. In particular the
look-up of names, which goes by their lower case in Unicode, finds no word that is not
written in ASCII. -/
theorem load_iff_lists (text : List Char) :
    ((∃ q, load text = .ok q) ↔ ∃ l, Lists text l) ∧
      (∀ q, load text = .ok q ↔ Lists text q.toList) ∧
      ∀ w op, Operation.ofMnemonic? (LetterCase.lower w) = some op →
        (∀ c ∈ w, c.toNat < 0x80) ∧ w.map Char.toLower = op.mnemonic := by
  refine ⟨?_,fun q => load_eq_ok_iff,?_⟩
  · constructor
    · rintro ⟨q,loaded⟩
      exact ⟨_,load_eq_ok_iff.1 loaded⟩
    · rintro ⟨l,lists⟩
      exact ⟨.ofList l,load_eq_ok_iff.2 lists⟩
  · intro w op known
    have plain := Operation.ofMnemonic?_lower.1 known
    exact ⟨LetterCase.ascii_of_mnemonic plain,plain⟩

example : load "\tAcc  -007 \r\njMP +3\r\n \r\nfoo".toList =
    .ok (.ofList [⟨.acc,-7,0⟩,⟨.jmp,3,0⟩]) := by
  cbv

end Listing
end LoopRepair
