/-!
# Places in a text, counted in bytes

A place in a text is the number of bytes before it when the text is written in UTF-8.
Text can be cut at the places where a character begins and at its end, and nowhere
else.
-/
namespace LoopRepair.TextBytes

/-- The place at the end of a text. -/
def size : List Char → Nat
  | [] => 0
  | c :: cs => c.utf8Size + size cs

/-- The part of a text from a place on. -/
def drop? : Nat → List Char → Option (List Char)
  | 0, text => some text
  | _ + 1, [] => none
  | n + 1, c :: cs => if c.utf8Size ≤ n + 1 then drop? (n + 1 - c.utf8Size) cs else none

/-- The part of a text up to a place. -/
def take? : Nat → List Char → Option (List Char)
  | 0, _ => some []
  | _ + 1, [] => none
  | n + 1, c :: cs =>
      if c.utf8Size ≤ n + 1 then (take? (n + 1 - c.utf8Size) cs).map (c :: ·) else none

/-- From one place on, up to another place or to the end of the text. -/
structure Stretch where
  start : Nat
  stop : Option Nat
  deriving DecidableEq, Repr

/-- The part of a text in a stretch. -/
def Stretch.cut? (s : Stretch) (text : List Char) : Option (List Char) :=
  match s.stop with
  | none => drop? s.start text
  | some stop => (drop? s.start text).bind (take? (stop - s.start))

end LoopRepair.TextBytes
