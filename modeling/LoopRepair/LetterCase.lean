import LoopRepair.LetterCaseTable

/-!
# Lower case of words

The full lower case of a word of Unicode text. Every character is mapped by itself
but one: a capital sigma becomes the final form at the end of a word, that is where
a cased character stands before it and none after it, the ignorable characters
between them not counted.
-/
namespace LoopRepair.LetterCase

def Run.Covers (r : Run) (n : Nat) : Prop :=
  r.first ≤ n ∧ n ≤ r.last ∧ (n - r.first) % r.step = 0

instance (r : Run) (n : Nat) : Decidable (r.Covers n) :=
  inferInstanceAs (Decidable (_ ∧ _ ∧ _))

def within (ranges : List (Nat × Nat)) (c : Char) : Bool :=
  ranges.any fun r => r.1 ≤ c.toNat && c.toNat ≤ r.2

def isCased (c : Char) : Bool := within casedRanges c

def isIgnorable (c : Char) : Bool := within ignorableRanges c

/-- The lower case of a character, whatever stands around it. -/
def lowerChar (c : Char) : List Char :=
  if c.toNat < 0x80 then [c.toLower]
  else if c.toNat = 0x130 then ['i', '\u0307']
  else match lowerRuns.find? fun r => r.Covers c.toNat with
    | some r => [Char.ofNat (c.toNat + r.shift).toNat]
    | none => [c]

/-- Whether the first character that is not ignorable is cased. -/
def meetsCased : List Char → Bool
  | [] => false
  | c :: cs => if isIgnorable c then meetsCased cs else isCased c

/-- The small sigma between the characters `before`, nearest first, and `after`. -/
def smallSigma (before after : List Char) : Char :=
  if meetsCased before && !meetsCased after then '\u03c2' else '\u03c3'

/-- The lower case of the text that follows the characters `before`, nearest first. -/
def lowerFrom (before : List Char) : List Char → List Char
  | [] => []
  | c :: cs =>
      (if c = '\u03a3' then [smallSigma before cs] else lowerChar c) ++ lowerFrom (c :: before) cs

/-- The lower case of a word. -/
def lower (word : List Char) : List Char := lowerFrom [] word

theorem lowerChar_of_ascii {c : Char} (h : c.toNat < 0x80) : lowerChar c = [c.toLower] :=
  if_pos h

theorem lowerFrom_of_ascii {w : List Char} (h : ∀ c ∈ w, c.toNat < 0x80) (before : List Char) :
    lowerFrom before w = w.map Char.toLower := by
  induction w generalizing before with
  | nil => rfl
  | cons c cs ih =>
      have hc := h c (by simp)
      have : c ≠ '\u03a3' := fun e => absurd hc (by subst e; decide)
      simp [lowerFrom, this, lowerChar_of_ascii hc, ih fun d hd => h d (by simp [hd])]

/-- A word of ASCII characters is lowered letter by letter. -/
theorem lower_of_ascii {w : List Char} (h : ∀ c ∈ w, c.toNat < 0x80) :
    lower w = w.map Char.toLower :=
  lowerFrom_of_ascii h []

end LoopRepair.LetterCase
