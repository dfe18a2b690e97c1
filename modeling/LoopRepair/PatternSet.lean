import LoopRepair.PatternText

/-!
# Sets of characters in a pattern

A set stands in brackets. Its members are characters, ranges of them and further sets,
some of which have names, and parts of it can be joined by the operators `&&`, `--` and
`~~`, the first one first. What counts about a set that is in form is how deep it nests:
a set is one deeper than what it holds, and so are several members than the deepest of
them, and an operator than what it joins.
-/
namespace LoopRepair.Pattern

/-- A set of which a part is read: the depth of what stands before the last operator,
and the number and the depth of the members since. Right after the opening, closing
brackets and minus signs are members. -/
structure SetPart where
  opening : Bool
  before : Option Nat
  members : Nat
  deepest : Nat
  deriving DecidableEq, Repr

namespace SetPart

def start : SetPart := ⟨true, none, 0, 0⟩

def add (s : SetPart) (depth : Nat) : SetPart :=
  ⟨false, s.before, s.members + 1, max s.deepest depth⟩

def depth (s : SetPart) : Nat :=
  let since := if s.members ≤ 1 then s.deepest else s.deepest + 1
  match s.before with
  | none => since
  | some before => max before since + 1

/-- What follows an operator. -/
def operator (s : SetPart) : SetPart := ⟨false, some s.depth, 0, 0⟩

end SetPart

/-- The names that a set in a set can have, between colons. -/
def setNames : List String :=
  ["alnum", "alpha", "ascii", "blank", "cntrl", "digit", "graph", "lower", "print", "punct",
    "space", "upper", "word", "xdigit"]

/-- What follows the name of a set and the marks that close it. -/
def afterSetName? (text : List Char) : Option (List Char) :=
  match text.dropWhile (· ≠ ':') with
  | ':' :: ']' :: rest =>
      if String.ofList (text.takeWhile (· ≠ ':')) ∈ setNames then some rest else none
  | _ => none

/-- Whether the named set is negated whose opening bracket stands right before the text,
and what follows it. -/
def namedSet? : List Char → Option (Bool × List Char)
  | ':' :: '^' :: cs => (afterSetName? cs).map (true, ·)
  | ':' :: cs => (afterSetName? cs).map (false, ·)
  | _ => none

/-- Whether a set is negated, and what follows its opening bracket. -/
def opened (m : Mode) (text : List Char) : Bool × List Char :=
  match m.skip text with
  | '^' :: cs => (true, cs)
  | cs => (false, cs)

/-- A single member, with the character if it is one. -/
def member? (m : Mode) : List Char → Option (Option Char × List Char)
  | [] => none
  | '\\' :: cs =>
      match escape? m cs with
      | some (.literal c _, rest) => if m.allowsMember c then some (some c, rest) else none
      | some (.kind negated, rest) => if m.allowsKind negated then some (none, rest) else none
      | _ => none
  | c :: cs => if m.allowsMember c then some (some c, cs) else none

/-- The character that decides whether a minus sign before the text stands for a range.
Where blanks are passed over the first number sign is too, but not its comment. -/
def glance (m : Mode) (text : List Char) : Option Char :=
  if m.spaced then
    match text.dropWhile TextPieces.isBlank with
    | '#' :: cs => (cs.dropWhile TextPieces.isBlank).head?
    | cs => cs.head?
  else text.head?

/-- What follows a member or a range. -/
def afterMember? (m : Mode) (text : List Char) : Option (List Char) :=
  match member? m text with
  | none => none
  | some (first, rest) =>
      match m.skip rest with
      | '-' :: cs =>
          if glance m cs = some ']' ∨ glance m cs = some '-' then some rest
          else match first, member? m (m.skip cs) with
            | some a, some (some b, rest) => if a ≤ b then some rest else none
            | _, _ => none
      | _ => some rest

theorem length_dropWhile_le (p : Char → Bool) (text : List Char) :
    (text.dropWhile p).length ≤ text.length :=
  (List.dropWhile_sublist p).length_le

theorem length_afterSetName?_lt {text rest : List Char} (h : afterSetName? text = some rest) :
    rest.length < text.length := by
  unfold afterSetName? at h
  split at h
  · next after hd =>
      have := length_dropWhile_le (· ≠ ':') text
      rw [hd, List.length_cons, List.length_cons] at this
      split at h
      · cases h
        omega
      · cases h
  · cases h

theorem length_namedSet?_lt {negated : Bool} {text rest : List Char}
    (h : namedSet? text = some (negated, rest)) : rest.length < text.length := by
  unfold namedSet? at h
  split at h
  · obtain ⟨_, ha, he⟩ := Option.map_eq_some_iff.1 h
    cases he
    exact Nat.lt_add_right 2 (length_afterSetName?_lt ha)
  · obtain ⟨_, ha, he⟩ := Option.map_eq_some_iff.1 h
    cases he
    exact Nat.lt_add_right 1 (length_afterSetName?_lt ha)
  · cases h

theorem length_opened_le (m : Mode) (text : List Char) :
    (opened m text).2.length ≤ text.length := by
  unfold opened
  split
  · next h => exact Nat.le_of_lt (length_lt_of_skip h)
  · exact m.length_skip_le text

theorem length_member?_lt {m : Mode} {c : Option Char} {text rest : List Char}
    (h : member? m text = some (c, rest)) : rest.length < text.length := by
  unfold member? at h
  split at h
  · cases h
  · next cs =>
      rw [List.length_cons]
      split at h
      · next he =>
          have := length_escape?_lt he
          split at h
          · cases h
            omega
          · cases h
      · next he =>
          have := length_escape?_lt he
          split at h
          · cases h
            omega
          · cases h
      · cases h
  · split at h
    · cases h
      exact Nat.lt_succ_self _
    · cases h

theorem length_afterMember?_lt {m : Mode} {text rest : List Char}
    (h : afterMember? m text = some rest) : rest.length < text.length := by
  unfold afterMember? at h
  split at h
  · cases h
  · next hm =>
      have first := length_member?_lt hm
      split at h
      · next hs =>
          have dash := length_lt_of_skip hs
          split at h
          · cases h
            exact first
          · split at h
            · next hb =>
                have second := length_member?_lt hb
                have blanks := m.length_skip_le
                split at h
                · cases h
                  exact Nat.lt_trans (Nat.lt_of_lt_of_le second (blanks _))
                    (Nat.lt_trans dash first)
                · cases h
            · cases h
      · cases h
        exact first

/-- How deep the set nests of which a part is read, and what follows it. The sets around
it are read up to it. -/
def afterPart? (m : Mode) (s : SetPart) (around : List SetPart) (text : List Char) :
    Option (Nat × List Char) :=
  match _h : m.skip text with
  | [] => none
  | c :: cs =>
      if s.opening && (c = '-' || c = ']' && s.members = 0) then
        if m.allowsMember c then afterPart? m { s.add 0 with opening := c = '-' } around cs
        else none
      else if c = '[' then
        match _n : namedSet? cs with
        | some (negated, rest) =>
            if m.allowsNamedSet negated then afterPart? m (s.add 0) around rest else none
        | none =>
            if m.allowsSet (opened m cs).1 then
              afterPart? m .start (s :: around) (opened m cs).2
            else none
      else if c = ']' then
        match around with
        | [] => some (s.depth + 1, cs)
        | outer :: around => afterPart? m (outer.add (s.depth + 1)) around cs
      else if c ∈ ['&', '-', '~'] ∧ cs.head? = some c then
        afterPart? m s.operator around (cs.drop 1)
      else
        match _a : afterMember? m (c :: cs) with
        | some rest => afterPart? m (s.add 0) around rest
        | none => none
termination_by text.length
decreasing_by
  all_goals have shorter := length_lt_of_skip _h
  · exact shorter
  · exact Nat.lt_trans (length_namedSet?_lt _n) shorter
  · exact Nat.lt_of_le_of_lt (length_opened_le m cs) shorter
  · exact shorter
  · exact Nat.lt_of_le_of_lt (by simp) shorter
  · have := length_afterMember?_lt _a
    have := m.length_skip_le text
    rw [_h] at this
    omega

/-- How deep the set nests whose opening bracket stands right before the text, and what
follows it. -/
def set? (m : Mode) (text : List Char) : Option (Nat × List Char) :=
  if m.allowsSet (opened m text).1 then afterPart? m .start [] (opened m text).2 else none

theorem length_afterPart?_lt {m : Mode} {s : SetPart} {around : List SetPart} {depth : Nat}
    {text rest : List Char} (h : afterPart? m s around text = some (depth, rest)) :
    rest.length < text.length := by
  fun_induction afterPart? m s around text <;>
    grind [→ length_lt_of_skip, → length_namedSet?_lt, length_opened_le,
      → length_afterMember?_lt, Mode.length_skip_le]

theorem length_set?_lt {m : Mode} {depth : Nat} {text rest : List Char}
    (h : set? m text = some (depth, rest)) : rest.length < text.length := by
  unfold set? at h
  split at h
  · exact Nat.lt_of_lt_of_le (length_afterPart?_lt h) (length_opened_le m text)
  · cases h

end LoopRepair.Pattern
