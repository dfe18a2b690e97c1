import LoopRepair.Listing

/-!
# What a word is read as

The first character of a word decides whether it is a name or a number. A number is decimal
digits with an optional sign and has to fit into 64 bits. A name is looked up in lower
case, and in lower case every character from outside ASCII shows a character that no
mnemonic is written with. So the look-up finds the words that are mnemonics up to the case
of ASCII letters, and no others.
-/
namespace LoopRepair

namespace LetterCase
variable {c : Char} {w : List Char} {op : Operation}

/-- No mnemonic is written with this character, in either case. -/
def Foreign (c : Char) : Prop := ∀ op : Operation, c.toLower ∉ op.mnemonic

theorem toLower_of_not_ascii (h : 0x80 ≤ c.toNat) : c.toLower = c := by
  unfold Char.toLower
  split
  · rename_i letter
    have below : c.toNat ≤ 90 := UInt32.le_iff_toNat_le.1 letter.2
    omega
  · rfl

/-- What holds of the characters of ASCII one by one holds of each of them. -/
theorem forall_ascii {P : Char → Prop} (all : ∀ n < 0x80, P (Char.ofNat n))
    (h : c.toNat < 0x80) : P c := by
  have this := all c.toNat h
  rwa [Char.ofNat_toNat] at this

theorem toLower_toLower_of_ascii (h : c.toNat < 0x80) : c.toLower.toLower = c.toLower :=
  forall_ascii (P := fun c => c.toLower.toLower = c.toLower) (by decide) h

theorem ascii_of_mem_mnemonic (h : c ∈ op.mnemonic) : c.toNat < 0x80 := by
  have all : ∀ d ∈ op.mnemonic, d.toNat < 0x80 := by cases op <;> simp [Operation.mnemonic]
  exact all c h

theorem foreign_of_not_ascii (h : 0x80 ≤ c.toNat) : Foreign c := by
  intro op hc
  rw [toLower_of_not_ascii h] at hc
  have := ascii_of_mem_mnemonic hc
  omega

theorem foreign_ofNat {n : Nat} (h : 0x80 ≤ n) : Foreign (Char.ofNat n) := by
  rw [Char.ofNat]
  by_cases valid : n.isValidChar
  · rw [dif_pos valid]
    exact foreign_of_not_ascii h
  · -- There is no such character, and the null character stands in its place.
    rw [dif_neg valid]
    intro op
    cases op <;> decide

/-- One mapping leads into ASCII, that of the Kelvin sign. -/
theorem lowerRuns_outside : ∀ r ∈ lowerRuns,
    0x80 ≤ (r.first : Int) + r.shift ∨ r = ⟨0x212A,0x212A,1,-8383⟩ := by
  decide +kernel

theorem exists_foreign_lowerChar (h : 0x80 ≤ c.toNat) : ∃ d ∈ lowerChar c, Foreign d := by
  have outside : ¬ c.toNat < 0x80 := by omega
  unfold lowerChar
  rw [if_neg outside]
  split
  · exact ⟨'\u0307',by simp,foreign_of_not_ascii (by decide)⟩
  · split
    · rename_i r found
      have covers : r.Covers c.toNat := by simpa using List.find?_some found
      obtain ⟨first,last,_⟩ := covers
      refine ⟨_,List.mem_singleton_self _,?_⟩
      rcases lowerRuns_outside r (List.mem_of_find?_eq_some found) with far | rfl
      · exact foreign_ofNat (by omega)
      · have kelvin : c.toNat = 0x212A := Nat.le_antisymm last first
        rw [kelvin]
        intro op
        cases op <;> decide
    · exact ⟨c,List.mem_singleton_self c,foreign_of_not_ascii h⟩

theorem foreign_smallSigma (before after : List Char) : Foreign (smallSigma before after) := by
  unfold smallSigma
  split
  · exact foreign_of_not_ascii (by decide)
  · exact foreign_of_not_ascii (by decide)

theorem exists_foreign_lowerFrom (hc : c ∈ w) (h : 0x80 ≤ c.toNat) (before : List Char) :
    ∃ d ∈ lowerFrom before w, Foreign d := by
  induction w generalizing before with
  | nil => cases hc
  | cons b w ih =>
      rw [lowerFrom]
      rcases List.mem_cons.1 hc with rfl | later
      · by_cases sigma : c = '\u03a3'
        · rw [if_pos sigma]
          exact ⟨_,List.mem_append_left _ (List.mem_singleton_self _),foreign_smallSigma _ _⟩
        · rw [if_neg sigma]
          obtain ⟨d,hd,foreign⟩ := exists_foreign_lowerChar h
          exact ⟨d,List.mem_append_left _ hd,foreign⟩
      · obtain ⟨d,hd,foreign⟩ := ih later (b :: before)
        exact ⟨d,List.mem_append_right _ hd,foreign⟩

/-- What is a mnemonic in lower case was written in ASCII. -/
theorem ascii_of_lower_mnemonic (h : (lower w).map Char.toLower = op.mnemonic) :
    ∀ c ∈ w, c.toNat < 0x80 := by
  intro c hc
  apply Nat.lt_of_not_le
  intro outside
  obtain ⟨d,hd,foreign⟩ := exists_foreign_lowerFrom hc outside []
  exact foreign op (h ▸ List.mem_map_of_mem hd)

theorem ascii_of_mnemonic (h : w.map Char.toLower = op.mnemonic) : ∀ c ∈ w, c.toNat < 0x80 := by
  intro c hc
  apply Nat.lt_of_not_le
  intro outside
  exact foreign_of_not_ascii outside op (h ▸ List.mem_map_of_mem hc)

theorem map_toLower_lower (h : ∀ c ∈ w, c.toNat < 0x80) :
    (lower w).map Char.toLower = w.map Char.toLower := by
  rw [lower_of_ascii h,List.map_map]
  exact List.map_congr_left fun c hc => toLower_toLower_of_ascii (h c hc)

/-- The two ways to disregard case agree on mnemonics. -/
theorem lower_mnemonic_iff :
    (lower w).map Char.toLower = op.mnemonic ↔ w.map Char.toLower = op.mnemonic := by
  constructor
  · intro h
    rw [← map_toLower_lower (ascii_of_lower_mnemonic h),h]
  · intro h
    rw [map_toLower_lower (ascii_of_mnemonic h),h]

end LetterCase

namespace SignedDecimal
variable {w : List Char} {v : Int} {n : Int64}

/-- One or more decimal digits. -/
def Digits (w : List Char) : Prop := w ≠ [] ∧ ∀ c ∈ w, c.isDigit = true

/-- The word is written with decimal digits, any number of them, and an optional sign, and
has this value. -/
inductive Numeral : List Char → Int → Prop
  | unsigned {w : List Char} : Digits w → Numeral w (Nat.ofDigitChars 10 w 0)
  | plus {w : List Char} : Digits w → Numeral ('+' :: w) (Nat.ofDigitChars 10 w 0)
  | minus {w : List Char} : Digits w → Numeral ('-' :: w) (-(Nat.ofDigitChars 10 w 0))

/-- The word is a numeral whose value has 64 bits. -/
def Denotes (w : List Char) (n : Int64) : Prop :=
  ∃ v : Int, Numeral w v ∧ -0x8000000000000000 ≤ v ∧ v < 0x8000000000000000 ∧ n.toInt = v

theorem digits_toDigits (n : Nat) : Digits (Nat.toDigits 10 n) :=
  ⟨Nat.toDigits_ne_nil,fun _ hc => Nat.isDigit_of_mem_toDigits (by decide) (by decide) hc⟩

theorem digits?_of_digits (h : Digits w) : digits? w = some (Nat.ofDigitChars 10 w 0) :=
  if_pos ⟨h.1,List.all_eq_true.2 h.2⟩

theorem digits?_eq_some_iff {k : Nat} :
    digits? w = some k ↔ Digits w ∧ k = Nat.ofDigitChars 10 w 0 := by
  constructor
  · intro h
    unfold digits? at h
    split at h
    · rename_i digits
      exact ⟨⟨digits.1,List.all_eq_true.1 digits.2⟩,(Option.some.inj h).symm⟩
    · cases h
  · rintro ⟨digits,rfl⟩
    exact digits?_of_digits digits

theorem value?_eq_some_iff : value? w = some v ↔ Numeral w v := by
  constructor
  · intro h
    unfold value? at h
    split at h <;> obtain ⟨k,hk,rfl⟩ := Option.map_eq_some_iff.1 h <;>
      obtain ⟨digits,rfl⟩ := digits?_eq_some_iff.1 hk
    · exact .plus digits
    · exact .minus digits
    · exact .unsigned digits
  · intro h
    cases h with
    | unsigned digits =>
        unfold value?
        split
        · exact absurd (digits.2 '+' List.mem_cons_self) (by decide)
        · exact absurd (digits.2 '-' List.mem_cons_self) (by decide)
        · rw [digits?_of_digits digits]
          rfl
    | plus digits => simp only [value?,digits?_of_digits digits]; rfl
    | minus digits => simp only [value?,digits?_of_digits digits]; rfl

theorem ofInt?_eq_some_iff : ofInt? v = some n ↔
    -0x8000000000000000 ≤ v ∧ v < 0x8000000000000000 ∧ n.toInt = v := by
  constructor
  · intro h
    unfold ofInt? at h
    split at h
    · rename_i range
      have least : -0x8000000000000000 ≤ v := range.1
      have greatest : v ≤ 0x7fffffffffffffff := range.2
      cases h
      exact ⟨least,by omega,Int64.toInt_ofInt_of_le least (by omega)⟩
    · cases h
  · rintro ⟨_,_,rfl⟩
    exact ofInt?_toInt n

/-- Exactly the numerals of 64 bits are read. -/
theorem read?_eq_some_iff : read? w = some n ↔ Denotes w n := by
  rw [read?,Option.bind_eq_some_iff]
  constructor
  · rintro ⟨v,hv,hn⟩
    exact ⟨v,value?_eq_some_iff.1 hv,ofInt?_eq_some_iff.1 hn⟩
  · rintro ⟨v,hv,hn⟩
    exact ⟨v,value?_eq_some_iff.2 hv,ofInt?_eq_some_iff.2 hn⟩

theorem read?_eq_none_iff : read? w = none ↔ ¬ ∃ n, Denotes w n := by
  rw [Option.eq_none_iff_forall_ne_some]
  simp only [ne_eq,read?_eq_some_iff,not_exists]

end SignedDecimal

namespace Token
open SignedDecimal
variable {w v : List Char} {n : Int64} {fault : Fault}

/-- The word begins with a digit or a sign. -/
def Numeric (w : List Char) : Prop :=
  ∃ c rest, w = c :: rest ∧ (c.isDigit = true ∨ c = '+' ∨ c = '-')

/-- The word begins like a number and is none, or none of 64 bits. -/
def Malformed (w : List Char) : Prop := Numeric w ∧ ¬ ∃ n, Denotes w n

theorem isNumeric_iff : isNumeric w = true ↔ Numeric w := by
  cases w with
  | nil => simp [isNumeric,Numeric]
  | cons c rest => simp [isNumeric,Numeric,or_assoc]

theorem numeric_of_denotes (h : Denotes w n) : Numeric w := by
  obtain ⟨v,numeral,_⟩ := h
  cases numeral with
  | unsigned digits =>
      obtain ⟨c,rest,rfl⟩ := List.exists_cons_of_ne_nil digits.1
      exact ⟨c,rest,rfl,.inl (digits.2 c List.mem_cons_self)⟩
  | plus _ => exact ⟨'+',_,rfl,.inr (.inl rfl)⟩
  | minus _ => exact ⟨'-',_,rfl,.inr (.inr rfl)⟩

/-- No mnemonic begins with a digit or a sign. -/
theorem not_numeric_of_mnemonic {op : Operation} (h : w.map Char.toLower = op.mnemonic) :
    ¬ Numeric w := by
  rintro ⟨c,rest,rfl,first⟩
  have ascii := LetterCase.ascii_of_mnemonic h c List.mem_cons_self
  have kept : c.toLower = c := LetterCase.forall_ascii (P := fun c =>
    c.isDigit = true ∨ c = '+' ∨ c = '-' → c.toLower = c) (by decide) ascii first
  have letters : ∀ d ∈ op.mnemonic, ¬ (d.isDigit = true ∨ d = '+' ∨ d = '-') := by
    cases op <;> simp [Operation.mnemonic,Char.isDigit]
  refine letters c ?_ first
  rw [← h,List.map_cons,kept]
  exact List.mem_cons_self

theorem ofWord_eq_number_iff : ofWord w = .ok (.number n) ↔ Denotes w n := by
  rw [← read?_eq_some_iff]
  constructor
  · intro h
    unfold ofWord at h
    split at h
    · split at h <;> cases h
      assumption
    · cases h
  · intro h
    have numeric := isNumeric_iff.2 (numeric_of_denotes (read?_eq_some_iff.1 h))
    rw [ofWord,if_pos numeric,h]

theorem ofWord_eq_name_iff : ofWord w = .ok (.name v) ↔ ¬ Numeric w ∧ v = LetterCase.lower w := by
  rw [← isNumeric_iff]
  unfold ofWord
  by_cases numeric : isNumeric w = true
  · rw [if_pos numeric]
    cases read? w <;> simp [numeric]
  · rw [if_neg numeric]
    simp [numeric,eq_comm]

theorem ofWord_eq_error_iff :
    ofWord w = .error fault ↔ Malformed w ∧ fault = .invalidNumber w := by
  rw [Malformed,← isNumeric_iff,← read?_eq_none_iff]
  unfold ofWord
  by_cases numeric : isNumeric w = true
  · rw [if_pos numeric]
    cases read? w <;> simp [numeric,eq_comm]
  · rw [if_neg numeric]
    simp [numeric]

end Token
end LoopRepair
