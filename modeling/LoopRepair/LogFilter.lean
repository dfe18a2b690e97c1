import LoopRepair.LogDirective

/-!
# Which log entries are shown

A filter is a list of directives, written with commas between them. Of several
directives that hold for an entry the most specific one decides, and of equally
specific ones the last. What no directive holds for is not shown.
-/
namespace LoopRepair

open TextPieces

abbrev LogFilter := List LogDirective

namespace LogFilter

/-- The directives between the commas, unless one of them is malformed. -/
def ofText? (text : String) : Option LogFilter :=
  ((pieces (· = ',') text.toList).filter (· ≠ [])).mapM LogDirective.ofText?

/-- Warnings and errors, whatever their source. -/
def standard : LogFilter := [.upTo .warn]

/-- Everything that a run has to tell, besides warnings and errors. -/
def full : LogFilter :=
  [.upTo .warn, { LogDirective.upTo .trace with source := "bootcode_vm".toList }]

/-- The more specific of two directives that hold for an entry, the second if they are
equally specific. -/
def prevailing (best : Option LogDirective) (d : LogDirective) : Option LogDirective :=
  match best with
  | none => some d
  | some b => if d.isAsSpecificAs b then some d else some b

/-- The directive that decides about an entry. -/
def deciding? (filter : LogFilter) (e : LogEntry) : Option LogDirective :=
  (filter.filter (·.holdsFor e)).foldl prevailing none

def shows (filter : LogFilter) (e : LogEntry) : Bool :=
  match filter.deciding? e with
  | some d => e.level.detail ≤ d.detail
  | none => false

/-- The lines of the entries that are shown. -/
def text (filter : LogFilter) (log : List LogEntry) : String :=
  String.join ((log.filter filter.shows).map LogEntry.line)

end LogFilter
end LoopRepair
