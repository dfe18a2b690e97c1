import LoopRepair.Folder
import LoopRepair.Listing
import LoopRepair.LogFilter

/-!
# The command line

Three commands read a program, from a file or from the standard input: `run` runs it
and reports its repair, `check` counts its instructions and `disassemble` lists it.
A request is what the arguments ask for; they are refused, without anything being
read, if they ask for nothing known. A reply is an exit code with all that is written.
-/
namespace LoopRepair

structure Reply where
  exit : Nat
  stdout : String
  stderr : String
  deriving DecidableEq, Repr

inductive Source where
  | standardInput
  | file (path : String)
  deriving DecidableEq, Repr

inductive Task where
  | run (traced : Bool)
  | check
  | disassemble
  deriving DecidableEq, Repr

structure Request where
  task : Task
  source : Source
  deriving DecidableEq, Repr

/-- Why arguments are not carried out as a request. -/
inductive Refusal where
  | noCommand
  | help
  | unknownCommand (word : String)
  | unknownFlag (word : String)
  | extraArgument (word : String)
  deriving DecidableEq, Repr

/-- Contents that are given have been read. -/
instance : Coe ByteArray (Except ReadFailure ByteArray) := ⟨.ok⟩

/-- What a request may look at: the standard input and the files, each of which may fail to
be read, and the text of the log filter if there is one. -/
structure Surroundings where
  standardInput : Except ReadFailure ByteArray
  file : String → Except ReadFailure ByteArray
  filter : Option String

def usage : String :=
  "Usage: bootcode <command> [args]\n" ++
  "\n" ++
  "Commands:\n" ++
  "  run [--trace] [input|-]      Run a program, repairing one corrupted instruction\n" ++
  "  check [input|-]              Parse a program without running it\n" ++
  "  disassemble [input|-]        Print a program in canonical form\n" ++
  "\n" ++
  "Input is read from stdin when no file (or '-') is given.\n" ++
  "Set RUST_LOG to control log output; --trace logs every step.\n"

def usageOfRun : String := "Usage: bootcode run [--trace] [input|-]\n"

def Refusal.reply : Refusal → Reply
  | .noCommand => ⟨1, "", usage⟩
  | .help => ⟨0, "", usage⟩
  | .unknownCommand word => ⟨1, "", "error: unknown command '" ++ word ++ "'\n\n" ++ usage⟩
  | .unknownFlag word => ⟨1, "", "error: unknown flag '" ++ word ++ "'\n" ++ usageOfRun⟩
  | .extraArgument word => ⟨1, "", "error: unexpected argument '" ++ word ++ "'\n" ++ usageOfRun⟩

/-- The standard input is meant by a single minus sign and by no argument. -/
def Source.ofArgument : Option String → Source
  | none => .standardInput
  | some word => if word = "-" then .standardInput else .file word

/-- What a source is called when it cannot be read. -/
def Source.name : Source → String
  | .standardInput => "stdin"
  | .file path => "'" ++ path ++ "'"

namespace Request

/-- Two minus signs begin a flag. -/
def isFlag (word : String) : Bool := ['-', '-'].isPrefixOf word.toList

/-- The request of the arguments of `run` that are still to be looked at. -/
def ofRunArguments (traced : Bool) (input : Option String) :
    List String → Except Refusal Request
  | [] => .ok ⟨.run traced, .ofArgument input⟩
  | word :: rest =>
      if word = "--trace" then ofRunArguments true input rest
      else if isFlag word then .error (.unknownFlag word)
      else if input.isNone then ofRunArguments traced (some word) rest
      else .error (.extraArgument word)

/-- The request of a list of arguments. Only `run` takes flags; the other commands look
at one argument and ignore the rest. -/
def ofArguments : List String → Except Refusal Request
  | [] => .error .noCommand
  | command :: rest =>
      if command = "run" then ofRunArguments false none rest
      else if command = "check" then .ok ⟨.check, .ofArgument rest.head?⟩
      else if command = "disassemble" then .ok ⟨.disassemble, .ofArgument rest.head?⟩
      else if command = "--help" ∨ command = "-h" ∨ command = "help" then .error .help
      else .error (.unknownCommand command)

end Request

/-- What is reported about a flip, with the argument that the instruction has. -/
def Program.describeFlip (p : Program) (f : Flip) : String :=
  let argument := (p.get? f.index).elim 0 Instruction.argument
  "instruction " ++ toString f.index ++ " (" ++ toString (Instruction.mk f.replaced argument 0) ++
    " -> " ++ toString (Instruction.mk f.replacement argument 0) ++ ")"

/-- The report of a run that ended with the program `p`. -/
def Outcome.report (outcome : Outcome) (p : Program) : String :=
  "repaired: " ++ outcome.flip.elim "none" p.describeFlip ++ "\n" ++
    "accumulator: " ++ fieldText outcome.accumulator ++ "\n"

namespace CommandLine

/-- Whether everything is to be shown. This is looked for before the arguments are read as a
request, behind every command alike, and also among words that are refused. -/
def asksForAll (arguments : List String) : Bool := arguments.tail.contains "--trace"

/-- The filter in effect: everything is shown if that is asked for, and a malformed filter
counts as none. -/
def filterOf (all : Bool) (text : Option String) : LogFilter :=
  if all then .full else (text.bind LogFilter.ofText?).getD .standard

/-- Run a program, with what is shown of its log before all else on the standard error. -/
def runReply (traced : Bool) (filter : LogFilter) (p : Program) : Reply :=
  let r := (Machine.start p).runLogged traced
  let log := filter.text r.seen.toList
  match r.result with
  | .ok outcome => ⟨0, outcome.report r.machine.program, log⟩
  | .error e => ⟨3, "", log ++ "runtime error: " ++ e.message ++ "\n"⟩

/-- Carry out a task on a program. -/
def perform (task : Task) (filter : LogFilter) (p : Program) : Reply :=
  match task with
  | .run traced => runReply traced filter p
  | .check => ⟨0, "OK: " ++ toString p.size ++ " instructions\n", ""⟩
  | .disassemble => ⟨0, p.text, ""⟩

/-- Contents as text, if they are UTF-8. -/
def decode (contents : ByteArray) : Except ReadFailure String :=
  match String.fromUTF8? contents with
  | some text => .ok text
  | none => .error .notText

/-- Carry out a request, given what its source holds. -/
def answer (request : Request) (filter : LogFilter)
    (contents : Except ReadFailure ByteArray) : Reply :=
  match contents.bind decode with
  | .error failure =>
      ⟨1, "", "error: cannot read " ++ request.source.name ++ ": " ++ failure.message ++ "\n"⟩
  | .ok text =>
      match Program.ofText text with
      | .error e => ⟨1, "", "error: " ++ e.message ++ "\n"⟩
      | .ok p => perform request.task filter p

/-- What a source holds. -/
def contentsOf (world : Surroundings) : Source → Except ReadFailure ByteArray
  | .standardInput => world.standardInput
  | .file path => world.file path

/-- The reply to a list of arguments. -/
def reply (world : Surroundings) (arguments : List String) : Reply :=
  match Request.ofArguments arguments with
  | .error refusal => refusal.reply
  | .ok request =>
      answer request (filterOf (asksForAll arguments) world.filter)
        (contentsOf world request.source)

end CommandLine
end LoopRepair
