/-
**The command line of the console.**

The program takes the path of a schema file, answers the lines of its input one by one, and ends
with the input or at the command for it.

Main definitions:

* `Main.readText` — the text of a file, or the reason why it cannot be read;
* `Main.run` — the program.
-/

import FilterQuery.Console

set_option relaxedAutoImplicit false
set_option autoImplicit false

namespace FilterQuery

namespace Main

/-- The text of a file, or the reason why it cannot be read. -/
def readText (path : String) : IO (Except String String) := do
  try
    return .ok (← IO.FS.readFile path)
  catch e =>
    return .error (toString e)

/-- Prints lines. -/
def printLines (stream : IO.FS.Stream) (lines : List String) : IO Unit := do
  for line in lines do
    stream.putStrLn line

/-- Answers the lines of the input until one of them ends the session. -/
partial def loop (s : Console.Session) (verbosity : Nat) (input : IO.FS.Stream) : IO Unit := do
  let line ← input.getLine
  unless line.isEmpty do
    match s.answer line with
    | none => return
    | some reply => do
        printLines (← IO.getStderr) (Console.log verbosity reply.notices)
        printLines (← IO.getStdout) reply.output
        loop s verbosity input

/-- Sets the console up, greets, and answers the standard input. -/
def run (args : List String) : IO UInt32 := do
  let file ← match Console.fileOf? args with
    | none => pure (.error "")
    | some path => readText path
  let verbosity := Console.verbosity args
  printLines (← IO.getStderr) (Console.log verbosity (Console.startNotices (fun _ => file) args))
  match Console.start (fun _ => file) args with
  | .error fault => do
      printLines (← IO.getStderr) fault.report
      return 1
  | .ok s => do
      printLines (← IO.getStdout) Console.greeting
      loop s verbosity (← IO.getStdin)
      return 0

end Main

end FilterQuery

/-- The program. -/
def main (args : List String) : IO UInt32 :=
  FilterQuery.Main.run args
