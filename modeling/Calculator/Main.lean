import Mathlib.Tactic.DeprecateTo
import Calculator.CommandLine

/-! The program.  Files are read before anything is written; a dialogue reads a line whenever it has
answered the one before.  The clock is read before each line of a dialogue, and once for a file. -/

namespace Calculator

def Output.write (o : Output) : IO Unit := do
  let out ← IO.getStdout
  let err ← IO.getStderr
  out.putStr o.out
  out.flush
  err.putStr o.err
  err.flush

/-- Ends the program. -/
def Ending.finish : Ending → IO UInt32
  | .exit status => pure status.toUInt32
  | .stopped f => do
      (Output.errorLine f.message).write
      pure 1

def Transcript.finish (t : Transcript) : IO UInt32 := do
  t.output.write
  t.ending.finish

/-- Why a file cannot be read, as far as the system says so: it has a number for a directory that is
read as a file, and one for a name that is no text of the system. -/
def FileFault.ofError : IO.Error → FileFault
  | .inappropriateType _ code _ => if code = 21 then .directory else .notADirectory
  | .invalidArgument _ code _ => if code = 22 then .nullCharacter else .nameTooLong
  | _ => .missing

def readFile (path : String) : IO (Except FileFault (List UInt8)) := do
  try
    let bytes ← IO.FS.readBinFile path
    pure (.ok bytes.toList)
  catch e => pure (.error (.ofError e))

/-- The variables that the program looks at, as far as they are set. -/
def readVariables : IO (List (String × String)) := do
  let names := [Settings.pathVariable, "RWCALC_TRACE", "RWCALC_TRACE_CALLS", "RWCALC_TRACE_RESULTS"]
  names.filterMapM fun name => do
    let value ← IO.getEnv name
    pure (value.map fun value => (name, value))

/-- A clock that stands still at the time of day. -/
def readClock : IO (Nat → String) := do
  let now ← Std.Time.PlainDateTime.now
  pure fun _ => now.format "dd MMM HH:mm:ss"

/-- What a run finds around it.  The files that it may look at are the settings document and the one
that is named by the first argument. -/
def readSurroundings (args : List String) : IO Surroundings := do
  let vars ← readVariables
  let paths := (vars.lookup Settings.pathVariable).toList ++ args.take 1
  let files ← (paths.map Path.plain).mapM fun path => do
    let content ← readFile path
    pure (path, content)
  let clock ← readClock
  pure {
    file := fun path => (files.lookup path).getD (.error .missing)
    vars
    instruments := { clock } }

/-- Answers lines in a session; says in which session the dialogue goes on, or how it has ended. -/
def answerLines (s : Session) : List (List Char) → IO (Session ⊕ Ending)
  | [] => pure (.inl s)
  | [line] => do
      let (output, next) := Dialogue.answer s line
      output.write
      pure next
  | line :: rest => do
      let (output, next) := Dialogue.answer s line
      output.write
      match next with
      | .inl s => do
          Dialogue.prompt.write
          answerLines s rest
      | .inr ending => pure (.inr ending)

/-- A dialogue with whoever writes the lines. -/
partial def converse (s : Session) (input : IO.FS.Stream) : IO UInt32 := do
  Dialogue.prompt.write
  let raw ← input.getLine
  if raw.isEmpty then do
    Dialogue.farewell.write
    pure 0
  else
    let clock ← readClock
    let s := { s with instruments := { s.instruments with clock } }
    match ← answerLines s (Text.inputLines (Text.unifyNewlines raw.toList)) with
    | .inl s => converse s input
    | .inr ending => ending.finish

def runProgram (args : List String) : IO UInt32 := do
  let around ← readSurroundings args
  match Mode.ofArgs args, Settings.load around none with
  | .dialogue, .ok settings => do
      Dialogue.greeting.write
      converse (CommandLine.session around settings) (← IO.getStdin)
  | _, _ => (CommandLine.run around args []).finish

end Calculator

def main (args : List String) : IO UInt32 := Calculator.runProgram args
