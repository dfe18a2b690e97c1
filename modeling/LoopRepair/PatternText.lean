import LoopRepair.TextPieces

/-!
# Characters of a pattern

A pattern is a regular expression over characters or over bytes, and only its form
matters here. In what mode its characters are read, flags inside of it decide: case may
be ignored, bytes may be meant and blanks may be passed over, with comments from a
number sign to the end of the line. Nothing is in form that takes a table of characters
to be carried out, or that could match a part of a character. Main statement: every
reader leaves less text than it is given.
-/
namespace LoopRepair.Pattern

/-- How the characters of a pattern are read. -/
structure Mode where
  ignoringCase : Bool
  bytewise : Bool
  spaced : Bool
  deriving DecidableEq, Repr

/-- What a backslash and the characters after it stand for: a character, which may be
given as the number of a byte, the digits, blanks or letters or all but these, and an
edge of the text or of a word. -/
inductive Escape where
  | literal (c : Char) (isByte : Bool)
  | kind (negated : Bool)
  | textEdge
  | wordEdge
  deriving DecidableEq, Repr

namespace Mode

/-- Which characters have the same letters as others takes a table, outside of ASCII. -/
def allowsLiteral (m : Mode) (c : Char) (isByte : Bool) : Bool :=
  if m.bytewise then !isByte || c.toNat < 0x80 else !m.ignoringCase

/-- Sets of bytes have members of ASCII only. -/
def allowsMember (m : Mode) (c : Char) : Bool :=
  if m.bytewise then c.toNat < 0x80 else !m.ignoringCase

/-- Whether the digits, blanks or letters can be told, by a table or as those of ASCII. -/
def allowsKind (m : Mode) (negated : Bool) : Bool := m.bytewise && !negated

def allowsNamedSet (m : Mode) (negated : Bool) : Bool :=
  if m.bytewise then !negated else !m.ignoringCase

/-- All bytes but some are not ASCII. -/
def allowsSet (m : Mode) (negated : Bool) : Bool := !m.bytewise || !negated

/-- Whether a single escape is in form outside of a set. -/
def allowsEscape (m : Mode) : Escape → Bool
  | .literal c isByte => m.allowsLiteral c isByte
  | .kind negated => m.allowsKind negated
  | .textEdge => true
  | .wordEdge => m.bytewise

end Mode

/-- The text after the blanks and comments that it begins with, or that it goes on with
if it is the inside of a comment. -/
def skipFrom (inComment : Bool) : List Char → List Char
  | [] => []
  | c :: cs =>
      if inComment then skipFrom (c ≠ '\n') cs
      else if TextPieces.isBlank c then skipFrom false cs
      else if c = '#' then skipFrom true cs
      else c :: cs

/-- The text from the next character on that counts. -/
def Mode.skip (m : Mode) (text : List Char) : List Char :=
  if m.spaced then skipFrom false text else text

def hexDigit? (c : Char) : Option Nat :=
  if c.isDigit then some (c.toNat - '0'.toNat)
  else if 'a' ≤ c ∧ c ≤ 'f' then some (c.toNat - 'a'.toNat + 10)
  else if 'A' ≤ c ∧ c ≤ 'F' then some (c.toNat - 'A'.toNat + 10)
  else none

/-- The value of a number of hexadecimal digits, after digits with the value `v`. -/
def hexadecimal? (m : Mode) : Nat → Nat → List Char → Option (Nat × List Char)
  | 0, v, text => some (v, text)
  | n + 1, v, text =>
      match m.skip text with
      | [] => none
      | c :: cs =>
          match hexDigit? c with
          | some d => hexadecimal? m n (16 * v + d) cs
          | none => none

/-- How many hexadecimal digits follow, for the letters that announce some. -/
def digitCount? (c : Char) : Option Nat :=
  if c = 'x' then some 2 else if c = 'u' then some 4 else if c = 'U' then some 8 else none

/-- The escape by a single character. Marks stand for themselves. -/
def singleEscape? (c : Char) : Option Escape :=
  match c with
  | 'a' => some (.literal '\x07' false)
  | 'f' => some (.literal '\x0c' false)
  | 'n' => some (.literal '\n' false)
  | 'r' => some (.literal '\r' false)
  | 't' => some (.literal '\t' false)
  | 'v' => some (.literal '\x0b' false)
  | 'd' | 's' | 'w' => some (.kind false)
  | 'D' | 'S' | 'W' => some (.kind true)
  | 'A' | 'z' => some .textEdge
  | 'b' | 'B' | '<' | '>' => some .wordEdge
  | c => if c.toNat < 0x80 && !c.isAlphanum then some (.literal c false) else none

/-- The escape whose backslash stands right before the text. -/
def escape? (m : Mode) : List Char → Option (Escape × List Char)
  | [] => none
  | c :: cs =>
      match digitCount? c with
      | none => (singleEscape? c).map (·, cs)
      | some n =>
          match hexadecimal? m n 0 cs with
          | none => none
          | some (v, rest) =>
              if v.isValidChar then some (.literal (Char.ofNat v) (c = 'x'), rest) else none

theorem length_skipFrom_le (inComment : Bool) (text : List Char) :
    (skipFrom inComment text).length ≤ text.length := by
  fun_induction skipFrom inComment text <;> simp only [List.length_cons, List.length_nil] <;> omega

theorem Mode.length_skip_le (m : Mode) (text : List Char) :
    (m.skip text).length ≤ text.length := by
  unfold Mode.skip
  split
  · exact length_skipFrom_le false text
  · exact Nat.le_refl _

theorem length_lt_of_skip {m : Mode} {text cs : List Char} {c : Char}
    (h : m.skip text = c :: cs) : cs.length < text.length := by
  have := m.length_skip_le text
  rw [h, List.length_cons] at this
  omega

theorem length_hexadecimal?_le {m : Mode} {n v w : Nat} {text rest : List Char}
    (h : hexadecimal? m n v text = some (w, rest)) : rest.length ≤ text.length := by
  fun_induction hexadecimal? m n v text with
  | case1 => cases h; exact Nat.le_refl _
  | case2 => cases h
  | case3 n v text c cs hs d hd ih =>
      exact Nat.le_of_lt (Nat.lt_of_le_of_lt (ih h) (length_lt_of_skip hs))
  | case4 => cases h

theorem length_escape?_lt {m : Mode} {e : Escape} {text rest : List Char}
    (h : escape? m text = some (e, rest)) : rest.length < text.length := by
  cases text with
  | nil => cases h
  | cons c cs =>
      rw [escape?] at h
      rw [List.length_cons]
      split at h
      · obtain ⟨_, _, he⟩ := Option.map_eq_some_iff.1 h
        cases he
        exact Nat.lt_succ_self _
      · split at h
        · cases h
        · next hx =>
            have := length_hexadecimal?_le hx
            split at h
            · cases h
              omega
            · cases h

end LoopRepair.Pattern
