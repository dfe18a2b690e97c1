/-!
# Lines and words

Text is cut in two ways. A line ends at a line feed, a carriage return right before
it belongs to the ending, and what follows the last line feed is a line only if it is
not empty. Words are cut apart by one or more blank characters, the 25 with the
property White_Space of Unicode, and a text can be freed of those around it.
-/
namespace LoopRepair.TextPieces

/-- The stretches of text between the characters chosen by `cut`, empty ones included. -/
def pieces (cut : Char → Bool) : List Char → List (List Char)
  | [] => [[]]
  | c :: cs => if cut c then [] :: pieces cut cs else (pieces cut cs).modifyHead (c :: ·)

/-- Blank characters. -/
def isBlank (c : Char) : Bool :=
  let n := c.toNat
  (0x9 ≤ n && n ≤ 0xD) || n = 0x20 || n = 0x85 || n = 0xA0 || n = 0x1680 ||
    (0x2000 ≤ n && n ≤ 0x200A) || n = 0x2028 || n = 0x2029 || n = 0x202F || n = 0x205F ||
    n = 0x3000

/-- The text without the blank characters at its two ends. -/
def trim (text : List Char) : List Char :=
  ((text.dropWhile isBlank).reverse.dropWhile isBlank).reverse

/-- The words of a text, in order. -/
def words (text : List Char) : List (List Char) :=
  (pieces isBlank text).filter (· ≠ [])

/-- The line without a carriage return at its end. -/
def dropReturn (line : List Char) : List Char :=
  if line.getLast? = some '\r' then line.dropLast else line

/-- The lines of a text, in order and without their endings. -/
def lines (text : List Char) : List (List Char) :=
  let all := pieces (· = '\n') text
  all.dropLast.map dropReturn ++ all.getLast?.toList.filter (· ≠ [])

theorem pieces_ne_nil (cut : Char → Bool) (text : List Char) : pieces cut text ≠ [] := by
  induction text with
  | nil => simp [pieces]
  | cons c cs ih =>
      unfold pieces
      split
      · simp
      · cases h : pieces cut cs with
        | nil => exact absurd h ih
        | cons w ws => simp

@[simp] theorem words_nil : words [] = [] := rfl

theorem words_cons_blank {c : Char} (h : isBlank c = true) (cs : List Char) :
    words (c :: cs) = words cs := by
  simp [words, pieces, h]

end LoopRepair.TextPieces
