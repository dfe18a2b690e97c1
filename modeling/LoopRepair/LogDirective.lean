import LoopRepair.AlphabeticTable
import LoopRepair.FieldValue
import LoopRepair.RunLog
import LoopRepair.TextBytes
import LoopRepair.TextPieces

/-!
# Directives of a log filter

A directive says how much detail is shown of which entries. It is written
`source[span{field=value}]=detail`, where a source alone, a detail alone and all that
stands in brackets may be left out, and where everything is shown if no detail is
given. A source is named by any beginning of its path.

Blanks around a directive are not part of its outline. Its parts are found by their
places in the outline, counted in bytes, but taken from the text with its blanks:
blanks at the end belong to a part that is not closed, and behind blanks at the
beginning every part stands that much further to the left. A text is no directive if
its outline is malformed, if a part of it is, or if a character would be cut in two.
-/
namespace LoopRepair

open TextBytes

/-- A field that an entry has to have, and what its value is compared with. -/
structure FieldCondition where
  name : List Char
  value : Option (List Char)
  deriving DecidableEq, Repr

/-- Shows entries up to a level of detail, the sources whose path begins as said, with a
field if there is a condition, and within a span if one is named. -/
structure LogDirective where
  source : List Char
  span : Option (List Char)
  field : Option FieldCondition
  detail : Nat
  deriving DecidableEq, Repr

/-- What comes after the second equals sign is ignored. -/
def FieldCondition.ofText? (text : List Char) : Option FieldCondition :=
  match TextPieces.pieces (· = '=') text with
  | name :: value :: _ => if FieldValue.isValue value then some ⟨name, some value⟩ else none
  | [name] => some ⟨name, none⟩
  | [] => none

namespace LogDirective

/-- The places of the parts of a directive. What may be a source or a detail is named
`head`; only if neither brackets nor an equals sign follow it, it may be a detail. -/
structure Outline where
  head : Option Stretch
  span : Option Stretch
  field : Option Stretch
  detail : Option Stretch
  deriving DecidableEq, Repr

namespace Outline

/-- Whether an outline may begin so, apart from an opening bracket. -/
def isStart (c : Char) : Bool :=
  c ∈ ['-', ':', '_'] || isAlphanumeric c

/-- The place of the detail in what follows the brackets. -/
def ofEnding? (o : Outline) (start : Nat) : List Char → Option Outline
  | [] => some o
  | '=' :: _ => some { o with detail := some ⟨start + 1, none⟩ }
  | _ => none

/-- The places of the parts from the inside of the brackets on. A span without a name
is one only if no braces follow it. -/
def ofBrackets? (head : Option Stretch) (start : Nat) (text : List Char) : Option Outline :=
  let span := text.takeWhile (· ∉ [']', '{'])
  let stop := start + size span
  match text.dropWhile (· ∉ [']', '{']) with
  | ']' :: ending => ofEnding? ⟨head, some ⟨start, some stop⟩, none, none⟩ (stop + 1) ending
  | '{' :: inside =>
      let named := if span = [] then none else some (Stretch.mk start (some stop))
      let field := inside.takeWhile (· ≠ '}')
      let last := stop + 1 + size field
      match inside.dropWhile (· ≠ '}') with
      | '}' :: ']' :: ending =>
          if field = [] then none
          else ofEnding? ⟨head, named, some ⟨stop + 1, some last⟩, none⟩ (last + 2) ending
      | _ => none
  | _ => none

/-- The outline of a text without blanks around it. -/
def ofText? : List Char → Option Outline
  | [] => none
  | '[' :: inside => ofBrackets? none 1 inside
  | c :: cs =>
      let head := (c :: cs).takeWhile (· ∉ ['=', '['])
      let stop := size head
      if isStart c then
        match (c :: cs).dropWhile (· ∉ ['=', '[']) with
        | '[' :: inside => ofBrackets? (some ⟨0, some stop⟩) (stop + 1) inside
        | '=' :: _ => some ⟨some ⟨0, some stop⟩, none, none, some ⟨stop + 1, none⟩⟩
        | _ => some ⟨some ⟨0, none⟩, none, none, none⟩
      else none

end Outline

/-- The words for the levels of detail, from none to all. -/
def detailWords : List String := ["off", "error", "warn", "info", "debug", "trace"]

/-- A number, with a plus sign or without a sign. -/
def number? : List Char → Option Nat
  | '+' :: w => SignedDecimal.digits? w
  | w => SignedDecimal.digits? w

/-- A level of detail is written as a number or as a word in letters of any case. -/
def readDetail? (w : List Char) : Option Nat :=
  match number? w with
  | some n => if n < detailWords.length then some n else none
  | none => detailWords.findIdx? (·.toList = w.map Char.toLower)

/-- A part that may be missing, given by its stretch in the text. -/
def part? (text : List Char) : Option Stretch → Option (Option (List Char))
  | none => some none
  | some s => (s.cut? text).map some

/-- The level of detail that the last part of a directive gives. -/
def detailOf? : Option (List Char) → Option Nat
  | none | some [] => some LogLevel.trace.detail
  | some w => readDetail? w

/-- The directive with the parts that the outline finds in the text. -/
def ofOutline? (text : List Char) (o : Outline) : Option LogDirective := do
  let head := (← part? text o.head).getD []
  let span ← part? text o.span
  let field ← match ← part? text o.field with
    | none => some none
    | some w => (FieldCondition.ofText? w).map some
  let detail ← detailOf? (← part? text o.detail)
  match o.head, readDetail? head with
  | some ⟨_, none⟩, some detail => return ⟨[], span, field, detail⟩
  | _, _ => return ⟨head, span, field, detail⟩

/-- The directive that a text spells. -/
def ofText? (text : List Char) : Option LogDirective :=
  (Outline.ofText? (TextPieces.trim text)).bind (ofOutline? text)

/-- Shows entries of all sources up to a level. -/
def upTo (level : LogLevel) : LogDirective := ⟨[], none, none, level.detail⟩

/-- Runs have no spans, and the values of fields are compared in spans only. -/
def isAboutSpans (d : LogDirective) : Bool := d.span.isSome || d.field.any (·.value.isSome)

/-- The name of the field in the condition, empty if there is no condition. -/
def fieldName (d : LogDirective) : List Char := d.field.elim [] FieldCondition.name

def holdsFor (d : LogDirective) (e : LogEntry) : Bool :=
  !d.isAboutSpans && d.source.isPrefixOf e.source.path.toList &&
    d.field.all fun f => e.fieldNames.any (·.toList = f.name)

/-- Whether a directive is at least as specific as another one that holds for the same
entry: it names more of the source, or as much and a field that comes no earlier in the
order of names. -/
def isAsSpecificAs (d b : LogDirective) : Bool :=
  b.source.length < d.source.length ||
    b.source.length = d.source.length && !d.fieldName.lex b.fieldName (fun x y => x.toNat < y.toNat)

end LogDirective
end LoopRepair
