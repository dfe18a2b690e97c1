import LoopRepair.PatternForm
import LoopRepair.SignedDecimal

/-!
# Values that a field may be compared with

A value is a number with a plus sign or a pattern, of which every other number and
every plain word is one.
-/
namespace LoopRepair.FieldValue

/-- Digits with at most one point among them, and at least one digit. -/
def isDecimal (w : List Char) : Bool :=
  let fraction := w.dropWhile Char.isDigit
  (w.any Char.isDigit) && match fraction with
    | [] => true
    | c :: rest => c = '.' && rest.all Char.isDigit

/-- A number without a sign: a decimal, which a power of ten may follow, or a name. -/
def isUnsigned (w : List Char) : Bool :=
  let lowered := w.map Char.toLower
  let mantissa := lowered.takeWhile (· ≠ 'e')
  String.ofList lowered ∈ ["inf", "infinity", "nan"] ||
    isDecimal mantissa && match lowered.dropWhile (· ≠ 'e') with
      | [] => true
      | _ :: '+' :: power | _ :: '-' :: power => (SignedDecimal.digits? power).isSome
      | _ :: power => (SignedDecimal.digits? power).isSome

def isValue : List Char → Bool
  | '+' :: w => isUnsigned w
  | w => Pattern.isInForm w

end LoopRepair.FieldValue
