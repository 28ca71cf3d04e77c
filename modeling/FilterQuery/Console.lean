/-
**A console to try out a schema.**

The console reads commands line by line and answers each with a few lines.  The schema is the one
of a file or, if no file is named, the demonstration schema.  What happens behind the answers is
logged, in more detail for each `-v` among the arguments.

Main definitions:

* `Console.verbosity`, `Console.log` — how much is logged, and the log of notices;
* `Console.StartFault`, `Console.StartFault.report` — why the console does not start;
* `Console.Session`, `Console.start`, `Console.startNotices` — the tables in use, setting them up,
  and the notices of it;
* `Console.greeting`, `Console.Reply`, `Console.Session.answer` — what is printed at first, and the
  reply to a line;
* `Console.Transcript`, `Console.run` — what a whole run prints.
-/

import FilterQuery.Notice
import FilterQuery.Schema.Text
import FilterQuery.Text.Typed

set_option relaxedAutoImplicit false
set_option autoImplicit false

namespace FilterQuery

namespace Console

/-! ### Logging -/

/-- The lines of a text. -/
def linesOf (text : String) : List String :=
  (text.toList.splitOn '\n').map String.ofList

/-- How much is logged: the number of the letter v in all arguments that start with `-v`. -/
def verbosity (args : List String) : Nat :=
  ((args.map String.toList).filter fun cs => "-v".toList.isPrefixOf cs).flatten.count 'v'

/-- The lines of a notice in a log.  Further lines are indented, so that only the first line of a
notice starts with a bracket. -/
def noticeLines (n : Notice) : List String :=
  match linesOf n.message with
  | [] => []
  | line :: lines =>
      ("[" ++ n.level.label ++ "] " ++ line) :: lines.map fun l => "    " ++ l

/-- The log of notices. -/
def log (verbosity : Nat) (notices : List Notice) : List String :=
  (notices.filter fun n => n.level.rank ≤ verbosity).flatMap noticeLines

/-! ### Starting -/

/-- Why the console does not start. -/
inductive StartFault where
  /-- The file cannot be read. -/
  | unreadable (path reason : String)
  /-- The file does not declare a schema. -/
  | malformed (path : String)
  /-- The schema is not accepted. -/
  | faulty (fault : SchemaFault)

/-- A numbered cause.  Further lines of it are aligned with the first. -/
def cause (number : Nat) (text : String) : List String :=
  match linesOf text with
  | [] => []
  | line :: lines =>
      ("    " ++ toString number ++ ": " ++ line) :: lines.map fun l => "       " ++ l

/-- The report of a fault with the causes behind it. -/
def reportOf (summary : String) (causes : List String) : List String :=
  linesOf ("Error: " ++ summary) ++
    if causes.isEmpty then []
    else ["", "Caused by:"] ++ causes.zipIdx.flatMap fun c => cause c.2 c.1

/-- The lines that report a fault. -/
def StartFault.report : StartFault → List String
  | .unreadable path reason =>
      reportOf ("loading parser config from " ++ path)
        ["failed to read config file " ++ path ++ ": " ++ reason, reason]
  | .malformed path =>
      reportOf ("loading parser config from " ++ path)
        ["failed to parse config: not a schema", "not a schema"]
  | .faulty fault => reportOf fault.message []

/-- The tables that commands refer to. -/
structure Session where
  whitelist : Whitelist
  sortTable : SortTable

/-- The file that the arguments name: the first argument that is no option. -/
def fileOf? (args : List String) : Option String :=
  args.find? fun a => a.toList.head? ≠ some '-'

/-- The schema of a file.  Reading the file gives its text or the reason why it cannot be read. -/
def loadFile (readFile : String → Except String String) (path : String) :
    Except StartFault Schema :=
  match readFile path with
  | .error reason => .error (.unreadable path reason)
  | .ok text =>
      match Schema.ofText? text with
      | none => .error (.malformed path)
      | some s => .ok s

/-- The tables of a schema. -/
def Session.ofSchema (s : Schema) : Except SchemaFault Session :=
  s.whitelist.bind fun w => s.sortTable.map fun table => ⟨w, table⟩

/-- The schema that the arguments ask for. -/
def schemaOf (readFile : String → Except String String) (args : List String) :
    Except StartFault Schema :=
  match fileOf? args with
  | some path => loadFile readFile path
  | none => .ok .demo

/-- The tables of the schema that the arguments ask for. -/
def start (readFile : String → Except String String) (args : List String) :
    Except StartFault Session :=
  (schemaOf readFile args).bind fun s => (Session.ofSchema s).mapError .faulty

/-- The notices of setting the tables up. -/
def startNotices (readFile : String → Except String String) (args : List String) : List Notice :=
  (if (fileOf? args).isNone then [.demoUsed] else []) ++
    match schemaOf readFile args with
    | .ok s => s.notices
    | .error _ => []

/-! ### Answering -/

/-- The list of commands. -/
def help : List String :=
  ["commands:",
    "  filter <text>   parse a filter, e.g. filter name eq 'bob' and age gt 21",
    "  order <text>    parse an order by, e.g. order name desc, age",
    "  tokens <text>   show the raw tokens of a filter",
    "  help            show this message",
    "  quit            exit"]

/-- What is printed at first. -/
def greeting : List String :=
  "--- filter dispatcher ---" :: help

/-- The line of a refusal. -/
def refusalLine (r : Refusal) : String :=
  "error: " ++ r.message

/-- A text filled up with spaces on the left. -/
def padLeft (width : Nat) (s : String) : String :=
  String.ofList (List.replicate (width - s.length) ' ') ++ s

/-- A text filled up with spaces on the right. -/
def padRight (width : Nat) (s : String) : String :=
  s ++ String.ofList (List.replicate (width - s.length) ' ')

/-- The line of a token. -/
def tokenLine (t : Token) : String :=
  "  " ++ padLeft 3 (toString t.start) ++ ".." ++ padRight 3 (toString t.stop) ++ " " ++
    t.kinds.diagnostic ++ " " ++ t.text

/-- The line of an argument. -/
def argumentLine (index : Nat) (v : Value) : String :=
  "  @" ++ toString index ++ " = " ++ v.diagnostic

/-- What is printed for a line, and the notices of what has been done for it. -/
structure Reply where
  output : List String
  notices : List Notice

/-- A reply behind which nothing happens. -/
def Reply.ofOutput (output : List String) : Reply :=
  ⟨output, []⟩

namespace Session

/-- The answer to a filter: its text and its arguments. -/
def answerFilter (s : Session) (text : String) : List String :=
  match s.whitelist.parse (some text) with
  | .ok (some p) => p.text :: p.args.zipIdx.map fun a => argumentLine a.2 a.1
  | .ok none => ["(empty filter)"]
  | .error r => [refusalLine r]

/-- The answer to an ordering. -/
def answerOrder (s : Session) (text : String) : List String :=
  match s.sortTable.parseOrDefault (some text) with
  | .ok (some rendered) => [rendered]
  | .ok none => ["(no ordering)"]
  | .error r => [refusalLine r]

/-- The answer that shows the tokens of a text. -/
def answerTokens (s : Session) (text : String) : List String :=
  let tokens := s.whitelist.scan text
  tokens.items.map tokenLine ++ tokens.refusal?.toList.map refusalLine

/-- The reply to a line, none if it ends the session.  What was taken back while typing and the
blanks at both ends do not count, and the first space ends the command. -/
def answer (s : Session) (line : String) : Option Reply :=
  let trimmed := Text.trim (Text.typed line.toList)
  let command := String.ofList (trimmed.takeWhile (· != ' '))
  let rest := String.ofList ((trimmed.dropWhile (· != ' ')).drop 1)
  -- A blank line is passed over in silence.
  if trimmed.isEmpty then some (.ofOutput [])
  else if command = "filter" then
    some ⟨s.answerFilter rest, s.whitelist.parseNotices (some rest)⟩
  else if command = "order" then
    some ⟨s.answerOrder rest, s.sortTable.parseNotices (some rest)⟩
  else if command = "tokens" then some (.ofOutput (s.answerTokens rest))
  else if command = "help" then some (.ofOutput help)
  else if command = "quit" ∨ command = "exit" then none
  else some (.ofOutput ["unknown command '" ++ command ++ "', try 'help'"])

/-- The replies to lines, up to the one that ends the session. -/
def answers (s : Session) : List String → List Reply
  | [] => []
  | line :: lines =>
      match s.answer line with
      | some reply => reply :: s.answers lines
      | none => []

end Session

/-! ### Whole runs -/

/-- What a run prints, and how it ends.  The log and the report of a fault are kept apart from the
replies. -/
structure Transcript where
  output : List String
  errors : List String
  exitCode : Nat

/-- A whole run on the lines of the input. -/
def run (readFile : String → Except String String) (args lines : List String) : Transcript :=
  let started := log (verbosity args) (startNotices readFile args)
  match start readFile args with
  | .ok s =>
      let replies := s.answers lines
      ⟨greeting ++ replies.flatMap Reply.output,
        started ++ log (verbosity args) (replies.flatMap Reply.notices), 0⟩
  | .error fault => ⟨[], started ++ fault.report, 1⟩

end Console

end FilterQuery
