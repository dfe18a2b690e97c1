import LoopRepair.AlphabeticTable
import LoopRepair.PatternSet

/-!
# Patterns in form

A pattern is in form if all groups are closed and have names of their own, if every
operator of repetition has something to repeat, if the mode in force allows what stands
there, and if nothing nests deeper than the limit. Flags are in force up to the end of
their group. Groups and repetitions are one deeper than what they hold, and so are
several items in a row, or several branches, than the deepest of them.
-/
namespace LoopRepair.Pattern

/-- Something that a pattern matches in a row with others. Flags are items that cannot
be repeated. -/
structure Item where
  depth : Nat
  repeatable : Bool
  deriving DecidableEq, Repr

/-- A group of which a part is read, or the pattern itself: the mode in force, the depth
of the finished branches, if there are any, and the items of the last one, newest first. -/
structure GroupPart where
  mode : Mode
  branches : Option Nat
  items : List Item
  deriving DecidableEq, Repr

namespace GroupPart

def start (m : Mode) : GroupPart := ⟨m, none, []⟩

def add (g : GroupPart) (i : Item) : GroupPart := { g with items := i :: g.items }

/-- The depth of the last branch. -/
def branchDepth (g : GroupPart) : Nat :=
  let deepest := (g.items.map Item.depth).foldl max 0
  if g.items.length ≤ 1 then deepest else deepest + 1

def depth (g : GroupPart) : Nat :=
  match g.branches with
  | none => g.branchDepth
  | some deepest => max deepest g.branchDepth + 1

/-- What follows a bar. -/
def bar (g : GroupPart) : GroupPart :=
  ⟨g.mode, some (max (g.branches.getD 0) g.branchDepth), []⟩

/-- The last item repeated, if there is one that can be. -/
def repeated? (g : GroupPart) : Option GroupPart :=
  match g.items with
  | ⟨depth, true⟩ :: items => some { g with items := ⟨depth + 1, true⟩ :: items }
  | _ => none

end GroupPart

/-- What an opening parenthesis begins: flags, or a group with or without a name. -/
inductive Opening where
  | flags (m : Mode)
  | group (m : Mode) (name : Option (List Char))
  deriving DecidableEq, Repr

def isName : List Char → Bool
  | [] => false
  | c :: cs =>
      (c = '_' || isAlphabetic c) && cs.all fun c => c ∈ ['_', '.', '[', ']'] || isAlphanumeric c

/-- The mode after a flag is switched on or off. Only three flags matter to the form. -/
def Mode.switch (m : Mode) (flag : Char) (on : Bool) : Mode :=
  if flag = 'i' then { m with ignoringCase := on }
  else if flag = 'u' then { m with bytewise := !on }
  else if flag = 'x' then { m with spaced := on }
  else m

/-- Flags, after those already `seen`, newest first, and whatever stands behind them. No
flag is given twice, and flags stand behind the minus sign if there is one. -/
def flags? (m : Mode) (seen : List Char) : List Char → Option (Opening × List Char)
  | [] => none
  | c :: cs =>
      if c = ':' then if seen.head? = some '-' then none else some (.group m none, cs)
      else if c = ')' then
        if seen = [] ∨ seen.head? = some '-' then none else some (.flags m, cs)
      else if c ∈ seen ∨ c ∉ ['i', 'm', 's', 'U', 'u', 'R', 'x', '-'] then none
      else flags? (m.switch c ('-' ∉ seen)) (c :: seen) cs

/-- A group whose name begins right before the text. -/
def named? (m : Mode) (text : List Char) : Option (Opening × List Char) :=
  let name := text.takeWhile (· ≠ '>')
  match text.dropWhile (· ≠ '>') with
  | _ :: rest => if isName name then some (.group m (some name), rest) else none
  | [] => none

/-- What begins with the parenthesis before the text. -/
def opening? (m : Mode) : List Char → Option (Opening × List Char)
  | '?' :: '<' :: cs => named? m cs
  | '?' :: 'P' :: '<' :: cs => named? m cs
  | '?' :: cs => flags? m [] cs
  | cs => some (.group m none, cs)

/-- What follows a single character, an edge or an escape. -/
def afterSingle? (m : Mode) : List Char → Option (List Char)
  | [] => none
  | '\\' :: cs =>
      match escape? m cs with
      | some (e, rest) => if m.allowsEscape e then some rest else none
      | none => none
  | c :: cs =>
      if c = '^' ∨ c = '$' then some cs
      else if c = '.' then if m.bytewise then none else some cs
      else if m.allowsLiteral c false then some cs
      else none

theorem length_flags?_le {m : Mode} {seen : List Char} {o : Opening} {text rest : List Char}
    (h : flags? m seen text = some (o, rest)) : rest.length ≤ text.length := by
  fun_induction flags? m seen text <;> grind

theorem length_named?_le {m : Mode} {o : Opening} {text rest : List Char}
    (h : named? m text = some (o, rest)) : rest.length ≤ text.length := by
  unfold named? at h
  dsimp only at h
  split at h
  · next hd =>
      have := length_dropWhile_le (· ≠ '>') text
      rw [hd, List.length_cons] at this
      split at h
      · cases h
        omega
      · cases h
  · cases h

theorem length_opening?_le {m : Mode} {o : Opening} {text rest : List Char}
    (h : opening? m text = some (o, rest)) : rest.length ≤ text.length := by
  unfold opening? at h
  split at h
  · exact Nat.le_trans (length_named?_le h) (Nat.le_add_right _ 2)
  · exact Nat.le_trans (length_named?_le h) (Nat.le_add_right _ 3)
  · exact Nat.le_trans (length_flags?_le h) (Nat.le_add_right _ 1)
  · cases h
    exact Nat.le_refl _

theorem length_afterSingle?_lt {m : Mode} {text rest : List Char}
    (h : afterSingle? m text = some rest) : rest.length < text.length := by
  unfold afterSingle? at h
  split at h
  · cases h
  · split at h
    · next he =>
        have := length_escape?_lt he
        split at h
        · cases h
          rw [List.length_cons]
          omega
        · cases h
    · cases h
  · grind

/-- A pattern may nest so deep. -/
def nestingLimit : Nat := 250

/-- Whether a pattern is in form of which the rest is given, with the names of groups so
far, the group of which a part is read and the groups around it. -/
def endsInForm (names : List (List Char)) (g : GroupPart) (around : List GroupPart)
    (text : List Char) : Bool :=
  match _h : g.mode.skip text with
  | [] => around = [] && g.depth ≤ nestingLimit
  | c :: cs =>
      if c = '(' then
        match _o : opening? g.mode (g.mode.skip cs) with
        | none => false
        | some (.flags m, rest) =>
            endsInForm names { g.add ⟨0, false⟩ with mode := m } around rest
        | some (.group m none, rest) => endsInForm names (.start m) (g :: around) rest
        | some (.group m (some name), rest) =>
            name ∉ names && endsInForm (name :: names) (.start m) (g :: around) rest
      else if c = ')' then
        match around with
        | [] => false
        | outer :: around => endsInForm names (outer.add ⟨g.depth + 1, true⟩) around cs
      else if c = '|' then endsInForm names g.bar around cs
      else if c = '[' then
        match _s : set? g.mode cs with
        | none => false
        | some (depth, rest) => endsInForm names (g.add ⟨depth, true⟩) around rest
      else if c ∈ ['?', '*', '+'] then
        match g.repeated? with
        | none => false
        | some g => endsInForm names g around (if cs.head? = some '?' then cs.drop 1 else cs)
      else if c = '{' then false
      else
        match _a : afterSingle? g.mode (c :: cs) with
        | none => false
        | some rest => endsInForm names (g.add ⟨0, true⟩) around rest
termination_by text.length
decreasing_by
  all_goals have shorter := length_lt_of_skip _h
  · exact Nat.lt_of_le_of_lt
      (Nat.le_trans (length_opening?_le _o) (g.mode.length_skip_le cs)) shorter
  · exact Nat.lt_of_le_of_lt
      (Nat.le_trans (length_opening?_le _o) (g.mode.length_skip_le cs)) shorter
  · exact Nat.lt_of_le_of_lt
      (Nat.le_trans (length_opening?_le _o) (g.mode.length_skip_le cs)) shorter
  · exact shorter
  · exact shorter
  · exact Nat.lt_trans (length_set?_lt _s) shorter
  · split
    · exact Nat.lt_of_le_of_lt (by simp) shorter
    · exact shorter
  · have := length_afterSingle?_lt _a
    have := g.mode.length_skip_le text
    rw [_h] at this
    omega

/-- Whether a text is a pattern in form. -/
def isInForm (text : List Char) : Bool := endsInForm [] (.start ⟨false, false, false⟩) [] text

end LoopRepair.Pattern
