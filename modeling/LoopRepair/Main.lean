import LoopRepair.CommandLine

/-!
# The program

Reads what the request asks for, and nothing more, and writes the reply.
-/
namespace LoopRepair.Main

/-- The number of a system error, which some calls give as a negative word. -/
def errorNumber (code : UInt32) : Nat :=
  if code.toNat < 0x80000000 then code.toNat else 0x100000000 - code.toNat

/-- The failure that a system error stands for. -/
def failure : IO.Error → ReadFailure
  | .noFileOrDirectory _ code text
  | .inappropriateType _ code text
  | .permissionDenied _ code text
  | .resourceExhausted _ code text
  | .invalidArgument _ code text
  | .hardwareFault code text
  | .otherError code text => .system (errorNumber code) text.capitalize
  | e => .system 5 (toString e)

/-- What a source holds. -/
def contentsOf (source : Source) : IO (Except ReadFailure ByteArray) := do
  try
    match source with
    | .standardInput => return .ok (← (← IO.getStdin).readBinToEnd)
    | .file path => return .ok (← IO.FS.readBinFile path)
  catch e => return .error (failure e)

end LoopRepair.Main

open LoopRepair

def main (arguments : List String) : IO UInt32 := do
  let reply ← match Request.ofArguments arguments with
    | .error refusal => pure refusal.reply
    | .ok request => do
        let contents ← Main.contentsOf request.source
        let filter := CommandLine.filterOf (CommandLine.asksForAll arguments)
          (← IO.getEnv "RUST_LOG")
        pure (CommandLine.answer request filter contents)
  (← IO.getStderr).putStr reply.stderr
  (← IO.getStdout).putStr reply.stdout
  return reply.exit.toUInt32
