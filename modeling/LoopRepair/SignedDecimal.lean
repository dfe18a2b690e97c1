/-!
# Signed decimal numbers of 64 bits

A number is written in decimal digits without leading zeros, either with a sign
always (`signed`) or with a sign only when it is negative (`plain`). A reader takes
any number of leading zeros and an optional sign of either kind, and refuses every
value outside the range of 64 bits. Main statement: what `signed` writes, `read?` reads back.
-/
namespace LoopRepair.SignedDecimal

/-- The digits of the magnitude. -/
def magnitude (n : Int64) : List Char := Nat.toDigits 10 n.toInt.natAbs

/-- The number with its sign, a plus sign for zero. -/
def signed (n : Int64) : List Char :=
  (if n.toInt < 0 then '-' else '+') :: magnitude n

/-- The number with a sign only if it is negative. -/
def plain (n : Int64) : List Char :=
  if n.toInt < 0 then '-' :: magnitude n else magnitude n

/-- The value of one or more decimal digits. -/
def digits? (w : List Char) : Option Nat :=
  if w ≠ [] ∧ w.all Char.isDigit then some (Nat.ofDigitChars 10 w 0) else none

/-- The number of 64 bits with this value, if there is one. -/
def ofInt? (v : Int) : Option Int64 :=
  if Int64.minValue.toInt ≤ v ∧ v ≤ Int64.maxValue.toInt then some (Int64.ofInt v) else none

/-- The value of an optional sign followed by one or more digits. -/
def value? : List Char → Option Int
  | '+' :: w => (digits? w).map Int.ofNat
  | '-' :: w => (digits? w).map fun n => -Int.ofNat n
  | w => (digits? w).map Int.ofNat

/-- The number that a word spells. -/
def read? (w : List Char) : Option Int64 := (value? w).bind ofInt?

theorem digits?_toDigits (n : Nat) : digits? (Nat.toDigits 10 n) = some n := by
  have all : (Nat.toDigits 10 n).all Char.isDigit = true :=
    List.all_eq_true.2 fun _ hc => Nat.isDigit_of_mem_toDigits (by decide) (by decide) hc
  simp [digits?, Nat.toDigits_ne_nil, all]

theorem ofInt?_toInt (n : Int64) : ofInt? n.toInt = some n := by
  rw [ofInt?, if_pos ⟨n.minValue_le_toInt, n.toInt_le⟩, Int64.ofInt_toInt]

theorem value?_signed (n : Int64) : value? (signed n) = some n.toInt := by
  unfold signed
  split
  · show (digits? (magnitude n)).map _ = _
    rw [magnitude, digits?_toDigits]
    exact congrArg some (by show -((n.toInt.natAbs : Nat) : Int) = n.toInt; omega)
  · show (digits? (magnitude n)).map _ = _
    rw [magnitude, digits?_toDigits]
    exact congrArg some (by show ((n.toInt.natAbs : Nat) : Int) = n.toInt; omega)

/-- Every number is read back from its signed form. -/
theorem read?_signed (n : Int64) : read? (signed n) = some n := by
  rw [read?, value?_signed]
  exact ofInt?_toInt n

end LoopRepair.SignedDecimal
