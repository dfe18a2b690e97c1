import LoopRepair.LetterCase
import LoopRepair.Program
import LoopRepair.TextPieces

/-!
# Program text

A listing holds one instruction a line and ends at the first blank line. All words of
a line are read before the line is, so a malformed number is reported wherever it
stands on the line; after that the first word that does not fit is. A fault says what
is wrong with a line and an error adds which line it is.
-/
namespace LoopRepair

open TextPieces

/-- What is wrong with a line. -/
inductive Fault where
  | unknownOperation (word : List Char)
  | missingArgument (operation : Operation)
  | invalidNumber (word : List Char)
  | unexpectedToken (word : List Char)
  deriving DecidableEq, Repr

/-- A fault on a line, counted from one. -/
structure LoadError where
  line : Nat
  fault : Fault
  deriving DecidableEq, Repr

def Fault.message : Fault → String
  | .unknownOperation word => "unknown operation '" ++ String.ofList word ++ "'"
  | .missingArgument operation => toString operation ++ " expects a signed integer argument"
  | .invalidNumber word => "invalid number '" ++ String.ofList word ++ "'"
  | .unexpectedToken word => "unexpected token '" ++ String.ofList word ++ "'"

def LoadError.message (e : LoadError) : String :=
  "line " ++ toString e.line ++ ": " ++ e.fault.message

/-- A word is a name, kept in lower case, or a number. -/
inductive Token where
  | name (word : List Char)
  | number (value : Int64)
  deriving DecidableEq, Repr

namespace Token

/-- The word that the token is written as: a number has its sign and no leading zeros. -/
def word : Token → List Char
  | .name w => w
  | .number n => SignedDecimal.signed n

/-- Words that begin with a digit or a sign have to be numbers. -/
def isNumeric : List Char → Bool
  | [] => false
  | c :: _ => c.isDigit || c = '+' || c = '-'

def ofWord (w : List Char) : Except Fault Token :=
  if isNumeric w then
    match SignedDecimal.read? w with
    | some n => .ok (.number n)
    | none => .error (.invalidNumber w)
  else .ok (.name (LetterCase.lower w))

end Token

namespace Listing

/-- The tokens of a line, or the leftmost malformed number. -/
def tokens : List (List Char) → Except Fault (List Token)
  | [] => .ok []
  | w :: ws =>
      match Token.ofWord w with
      | .error fault => .error fault
      | .ok token => (tokens ws).map (token :: ·)

/-- The instruction that the tokens of a line make up; a blank line has none. -/
def assemble : List Token → Except Fault (Option Instruction)
  | [] => .ok none
  | .number n :: _ => .error (.unexpectedToken (SignedDecimal.signed n))
  | .name w :: rest =>
      match Operation.ofMnemonic? w with
      | none => .error (.unknownOperation w)
      | some operation =>
          match rest with
          | [] => .error (.missingArgument operation)
          | .name v :: _ => .error (.invalidNumber v)
          | [.number n] => .ok (some ⟨operation, n, 0⟩)
          | .number _ :: extra :: _ => .error (.unexpectedToken extra.word)

/-- The instruction on a line; a blank line has none. -/
def readLine (line : List Char) : Except Fault (Option Instruction) :=
  match tokens (words line) with
  | .error fault => .error fault
  | .ok ts => assemble ts

/-- The instructions on lines counted from `number`, up to the first blank one. -/
def readLines (number : Nat) : List (List Char) → Except LoadError (List Instruction)
  | [] => .ok []
  | line :: rest =>
      match readLine line with
      | .error fault => .error ⟨number, fault⟩
      | .ok none => .ok []
      | .ok (some a) => (readLines (number + 1) rest).map (a :: ·)

/-- The program on the given lines; a line feed inside one of them is a blank. -/
def loadLines (ls : List (List Char)) : Except LoadError Program :=
  (readLines 1 ls).map Program.ofList

/-- The program that a text lists. -/
def load (text : List Char) : Except LoadError Program := loadLines (lines text)

/-- The listing of a program, every line ended by a line feed. -/
def render (p : Program) : List Char := p.toList.flatMap fun a => a.written ++ ['\n']

end Listing

/-- The program that a text lists. -/
def Program.ofText (text : String) : Except LoadError Program := Listing.load text.toList

/-- The listing of the program. -/
def Program.text (p : Program) : String := String.ofList (Listing.render p)

end LoopRepair
