import LoopRepair.MachineRun

/-!
# The log of a run

A log entry has a level, the source that it comes from, a message and named fields.
Every event and every notice has one entry. The notices of the machine are always
logged; the events are logged by an observer that asks for them, under a source of
their own, so that the two can be told apart and filtered apart.
-/
namespace LoopRepair

/-- From the gravest to the most detailed. -/
inductive LogLevel where
  | error | warn | info | debug | trace
  deriving DecidableEq, Repr

namespace LogLevel

def name : LogLevel → String
  | .error => "ERROR"
  | .warn => "WARN"
  | .info => "INFO"
  | .debug => "DEBUG"
  | .trace => "TRACE"

/-- The level as a number, higher for more detail. -/
def detail : LogLevel → Nat
  | .error => 1
  | .warn => 2
  | .info => 3
  | .debug => 4
  | .trace => 5

end LogLevel

inductive LogSource where
  | notices | events
  deriving DecidableEq, Repr

/-- The name by which a filter refers to the source. -/
def LogSource.path : LogSource → String
  | .notices => "bootcode_vm::execute"
  | .events => "bootcode_vm::trace"

structure LogEntry where
  level : LogLevel
  source : LogSource
  message : String
  fields : List (String × String)
  deriving DecidableEq, Repr

/-- The names that an entry has values for, that of its message among them. -/
def LogEntry.fieldNames (e : LogEntry) : List String := "message" :: e.fields.map Prod.fst

/-- The entry on a line of its own. -/
def LogEntry.line (e : LogEntry) : String :=
  e.level.name ++ " " ++ e.message ++
    String.join (e.fields.map fun f => " " ++ f.1 ++ "=" ++ f.2) ++ "\n"

/-- A number of 64 bits as the value of a field. -/
def fieldText (n : Int64) : String := String.ofList (SignedDecimal.plain n)

def Event.entry : Event → LogEntry
  | .executed i a accumulator =>
      ⟨.trace, .events, "exec",
        [("at", toString i), ("instr", toString a), ("accumulator", fieldText accumulator)]⟩
  | .looped i => ⟨.debug, .events, "loop detected", [("at", toString i)]⟩
  | .deadEnd i offset =>
      ⟨.debug, .events, "jump before first instruction",
        [("at", toString i), ("offset", fieldText offset)]⟩
  | .retracted i accumulator =>
      ⟨.trace, .events, "rollback",
        [("index", toString i), ("accumulator", fieldText accumulator)]⟩
  | .flipped f =>
      ⟨.debug, .events, "speculative edit",
        [("index", toString f.index), ("from", toString f.replaced),
          ("to", toString f.replacement)]⟩
  | .halted outcome =>
      ⟨.debug, .events, "terminated",
        [("accumulator", fieldText outcome.accumulator), ("steps", toString outcome.steps),
          ("repairs", toString outcome.repairs)]⟩

def Notice.entry : Notice → LogEntry
  | .restored i => ⟨.debug, .notices, "reverted speculative edit", [("index", toString i)]⟩
  | .applied f repairs =>
      ⟨.debug, .notices, "applied speculative edit",
        [("index", toString f.index), ("from", toString f.replaced),
          ("to", toString f.replacement), ("repairs", toString repairs)]⟩
  | .exhausted repairs =>
      ⟨.debug, .notices, "visit history exhausted", [("repairs", toString repairs)]⟩

namespace Observer

/-- Logs the notices, and the events if asked to. -/
def logging (events : Bool) : Observer (Array LogEntry) :=
  ⟨fun log e => if events then log.push e.entry else log, fun log n => log.push n.entry⟩

end Observer

/-- The run of a machine with its log. -/
def Machine.runLogged (events : Bool) (m : Machine) :
    Observed (Array LogEntry) (Except RepairExhausted Outcome) :=
  m.runWith (.logging events) #[]

end LoopRepair
