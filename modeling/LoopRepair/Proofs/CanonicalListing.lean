import Mathlib.Data.Set.Function
import LoopRepair.Proofs.AttemptOutcome
import LoopRepair.Proofs.ListingLines

/-!
# Canonical listings

Of all texts that list a program one is canonical, the one that it is written as. Which texts
these are can be said without a program: every line is a mnemonic in lower case, one space and
a number with its sign and no more digits than it needs, ended by a line feed. Reading such a
text and writing it again gives it back, and every other text comes out changed.
-/
namespace LoopRepair

namespace SignedDecimal
variable {c : Char} {w : List Char}

/-- No zero stands in front of other digits. -/
def Unpadded (w : List Char) : Prop := w.head? = some '0' → w = ['0']

/-- A sign and the digits of a number of 64 bits, no more of them than needed; the sign of zero
is plus. -/
inductive Canonical : List Char → Prop
  | plus {w : List Char} : Digits w → Unpadded w →
      Nat.ofDigitChars 10 w 0 < 0x8000000000000000 → Canonical ('+' :: w)
  | minus {w : List Char} : Digits w → Unpadded w → w ≠ ['0'] →
      Nat.ofDigitChars 10 w 0 ≤ 0x8000000000000000 → Canonical ('-' :: w)

theorem exists_digitChar (h : c.isDigit = true) : ∃ d < 10, c = Nat.digitChar d := by
  obtain ⟨least,greatest⟩ := Char.isDigit_iff_toNat.1 h
  have least : 48 ≤ c.toNat := least
  have greatest : c.toNat ≤ 57 := greatest
  refine ⟨c.toNat - 48,by omega,?_⟩
  apply Char.toNat_inj.1
  rw [Nat.toNat_digitChar_of_lt_ten (by omega)]
  omega

/-- More digits behind those of a number. -/
theorem toDigits_append_digits (h : ∀ c ∈ w, c.isDigit = true) {n : Nat} (positive : 0 < n) :
    Nat.toDigits 10 n ++ w = Nat.toDigits 10 (Nat.ofDigitChars 10 w n) := by
  induction w generalizing n with
  | nil => simp
  | cons c w ih =>
      obtain ⟨hc,hw⟩ := List.forall_mem_cons.1 h
      obtain ⟨d,hd,rfl⟩ := exists_digitChar hc
      calc
        Nat.toDigits 10 n ++ Nat.digitChar d :: w =
            Nat.toDigits 10 n ++ Nat.toDigits 10 d ++ w := by
          rw [Nat.toDigits_of_lt_base hd,List.append_cons]
        _ = Nat.toDigits 10 (10 * n + d) ++ w := by
          rw [Nat.toDigits_append_toDigits (by decide) positive hd]
        _ = Nat.toDigits 10 (Nat.ofDigitChars 10 (Nat.digitChar d :: w) n) := by
          rw [ih hw (by omega),Nat.ofDigitChars_cons_digitChar_of_lt_ten hd]

/-- Digits without a zero in front are the digits of their value. -/
theorem toDigits_ofDigitChars (digits : Digits w) (unpadded : Unpadded w) :
    Nat.toDigits 10 (Nat.ofDigitChars 10 w 0) = w := by
  obtain ⟨c,w,rfl⟩ := List.exists_cons_of_ne_nil digits.1
  obtain ⟨hc,hw⟩ := List.forall_mem_cons.1 digits.2
  obtain ⟨d,hd,rfl⟩ := exists_digitChar hc
  rcases Nat.eq_zero_or_pos d with rfl | positive
  · rw [unpadded rfl]
    rfl
  · rw [Nat.ofDigitChars_cons_digitChar_of_lt_ten hd,Nat.mul_zero,Nat.zero_add,
      ← toDigits_append_digits hw positive,Nat.toDigits_of_lt_base hd,List.singleton_append]

theorem eq_zero_of_toDigits {n : Nat} (h : Nat.toDigits 10 n = ['0']) : n = 0 := by
  rw [← Nat.ofDigitChars_ten_toDigits (n := n),h]
  rfl

theorem unpadded_toDigits (n : Nat) : Unpadded (Nat.toDigits 10 n) := by
  induction n using Nat.strongRecOn with
  | ind n ih =>
      intro zero
      by_cases small : n < 10
      · rw [Nat.toDigits_of_lt_base small] at zero ⊢
        rw [Option.some.inj zero]
      · have longer := Nat.toDigits_of_base_le (by decide) (Nat.le_of_not_lt small)
        obtain ⟨c,rest,front⟩ :=
          List.exists_cons_of_ne_nil (Nat.toDigits_ne_nil (n := n / 10) (b := 10))
        rw [longer,front] at zero
        have none := eq_zero_of_toDigits (ih (n / 10) (by omega) (front ▸ zero))
        omega

theorem canonical_signed (n : Int64) : Canonical (signed n) := by
  have value : Nat.ofDigitChars 10 (magnitude n) 0 = n.toInt.natAbs :=
    Nat.ofDigitChars_ten_toDigits
  have least : -0x8000000000000000 ≤ n.toInt := n.minValue_le_toInt
  have greatest : n.toInt ≤ 0x7fffffffffffffff := n.toInt_le
  unfold signed
  split
  · refine .minus (digits_toDigits _) (unpadded_toDigits _) ?_ (by omega)
    intro zero
    have := eq_zero_of_toDigits zero
    omega
  · exact .plus (digits_toDigits _) (unpadded_toDigits _) (by omega)

/-- The canonical numerals are those that numbers are written as. -/
theorem canonical_iff : Canonical w ↔ ∃ n, signed n = w := by
  constructor
  · intro h
    cases h with
    | @plus w digits unpadded small =>
        refine ⟨Int64.ofInt (Nat.ofDigitChars 10 w 0),?_⟩
        rw [signed,magnitude,Int64.toInt_ofInt_of_le (by omega) (by omega),if_neg (by omega),
          Int.natAbs_natCast,toDigits_ofDigitChars digits unpadded]
    | @minus w digits unpadded nonzero small =>
        have same := toDigits_ofDigitChars digits unpadded
        have positive : Nat.ofDigitChars 10 w 0 ≠ 0 := by
          intro zero
          rw [zero] at same
          exact nonzero same.symm
        refine ⟨Int64.ofInt (-(Nat.ofDigitChars 10 w 0 : Nat)),?_⟩
        rw [signed,magnitude,Int64.toInt_ofInt_of_le (by omega) (by omega),if_pos (by omega),
          Int.natAbs_neg,Int.natAbs_natCast,same]
  · rintro ⟨n,rfl⟩
    exact canonical_signed n

end SignedDecimal

namespace Listing
variable {line t : List Char} {p : Program}

/-- A mnemonic in lower case, one space and a canonical numeral. -/
def CanonicalLine (line : List Char) : Prop :=
  ∃ name numeral, name ∈ [['n','o','p'],['a','c','c'],['j','m','p']] ∧
    SignedDecimal.Canonical numeral ∧ line = name ++ ' ' :: numeral

/-- The text is canonical lines, as many as there may be, with a line feed behind each. -/
def Canonical (t : List Char) : Prop := ∃ ls, (∀ line ∈ ls, CanonicalLine line) ∧ t = unlines ls

theorem mem_mnemonics_iff {name : List Char} :
    name ∈ [['n','o','p'],['a','c','c'],['j','m','p']] ↔ ∃ op : Operation, op.mnemonic = name := by
  simp only [List.mem_cons,List.not_mem_nil,or_false]
  constructor
  · rintro (rfl | rfl | rfl)
    · exact ⟨.nop,rfl⟩
    · exact ⟨.acc,rfl⟩
    · exact ⟨.jmp,rfl⟩
  · rintro ⟨op,rfl⟩
    cases op <;> simp [Operation.mnemonic]

theorem canonicalLine_iff :
    CanonicalLine line ↔ ∃ a : Instruction, a.visits = 0 ∧ a.written = line := by
  constructor
  · rintro ⟨name,numeral,known,canonical,rfl⟩
    obtain ⟨op,rfl⟩ := mem_mnemonics_iff.1 known
    obtain ⟨n,rfl⟩ := SignedDecimal.canonical_iff.1 canonical
    exact ⟨⟨op,n,0⟩,rfl,rfl⟩
  · rintro ⟨a,_,rfl⟩
    exact ⟨a.operation.mnemonic,SignedDecimal.signed a.argument,mem_mnemonics_iff.2 ⟨_,rfl⟩,
      SignedDecimal.canonical_signed _,rfl⟩

theorem exists_writtenLines {ls : List (List Char)} (h : ∀ line ∈ ls, CanonicalLine line) :
    ∃ l : List Instruction, (∀ a ∈ l, a.visits = 0) ∧ writtenLines l = ls := by
  induction ls with
  | nil => exact ⟨[],List.forall_mem_nil _,rfl⟩
  | cons line ls ih =>
      obtain ⟨first,later⟩ := List.forall_mem_cons.1 h
      obtain ⟨a,fresh,rfl⟩ := canonicalLine_iff.1 first
      obtain ⟨l,unvisited,rfl⟩ := ih later
      exact ⟨a :: l,List.forall_mem_cons.2 ⟨fresh,unvisited⟩,rfl⟩

theorem canonical_render (p : Program) : Canonical (render p) := by
  refine ⟨writtenLines p.toList,?_,render_eq_unlines p⟩
  intro line hline
  obtain ⟨a,_,rfl⟩ := List.mem_map.1 hline
  exact canonicalLine_iff.2 ⟨a.cleared,rfl,rfl⟩

theorem exists_render (h : Canonical t) : ∃ p : Program, p.Unvisited ∧ render p = t := by
  obtain ⟨ls,lines,rfl⟩ := h
  obtain ⟨l,unvisited,rfl⟩ := exists_writtenLines lines
  exact ⟨.ofList l,unvisited,render_eq_unlines _⟩

theorem cleared_of_unvisited (h : p.Unvisited) : p.cleared = p := by
  have same : p.toList.map Instruction.cleared = p.toList.map id := by
    apply List.map_congr_left
    rintro ⟨operation,argument,visits⟩ ha
    cases h _ ha
    rfl
  rw [Program.cleared,same,List.map_id,Program.ofList_toList]

theorem load_render_of_unvisited (h : p.Unvisited) : load (render p) = .ok p := by
  rw [load_render,cleared_of_unvisited h]

/-- The texts that come back unchanged when they are read and written again are the canonical
ones, and each of them is the listing of just one program without visits. -/
theorem canonical_listings :
    (∀ t, (∃ p, load t = .ok p ∧ render p = t) ↔ Canonical t) ∧
      Set.BijOn render {p | p.Unvisited} {t | Canonical t} := by
  refine ⟨?fixed,?maps,?injective,?onto⟩
  case fixed =>
    intro t
    constructor
    · rintro ⟨p,_,rfl⟩
      exact canonical_render p
    · intro canonical
      obtain ⟨p,unvisited,rfl⟩ := exists_render canonical
      exact ⟨p,load_render_of_unvisited unvisited,rfl⟩
  case maps =>
    intro p _
    exact canonical_render p
  case injective =>
    intro p unvisited q unvisited' same
    have read : (.ok p : Except LoadError Program) = .ok q := by
      rw [← load_render_of_unvisited unvisited,same,load_render_of_unvisited unvisited']
    exact Except.ok.inj read
  case onto =>
    intro t canonical
    exact exists_render canonical

end Listing
end LoopRepair
