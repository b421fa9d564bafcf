import PropertyFilter.Log.Filter
import PropertyFilter.Log.Line
import PropertyFilter.Session.Basic

/-!
  # What a session prints

  A session prints what became of its settings, a banner with the help text, and for
  every line a prompt, the log records of the answer and the answer itself. Lines are
  bytes: one that is no UTF-8 ends the session with a failure once its prompt is
  there.
-/

namespace PropertyFilter

namespace Transcript

/-! ## Section 1: Logging -/

/-- How records are logged: which ones, and what stands for the time. -/
structure Logging where
  filter : Log.Filter
  time : String

/-- The source of the records about a session. -/
def sessionSource : String := "filter_sql"

/-- The source of the records about a conversion. -/
def conversionSource : String := "filter_sql::sql_converter"

/-- The source of the records about the terminal. -/
def terminalSource : String := "rustyline"

/-- The line of a record of some source, if it is logged. -/
def Logging.line (l : Logging) (source : String) (r : Log.Record) : String :=
  if l.filter.allows source r then r.line l.time ++ "\n" else ""

/-- The filter that the environment asks for: the program's own variable goes before
the general one, and without either it is `info`. -/
def filterOf (own general : Option String) : Log.Filter :=
  .ofText ((own.or general).getD "info")

/-- Settings as loaded from a file, or the default ones, and the record about it. -/
def settle (path : String) : Except SettingsError Settings → Settings × Log.Record
  | .ok s =>
    (s, { level := .info
          message := "loaded configuration"
          fields := [("path", .quoted path), ("key", .plain s.key)] })
  | .error e =>
    ({}, { level := .warn
           message := "using default configuration"
           fields := [("error", .plain e.message)] })

/-- The record that there is no line editing on this terminal. -/
def terminalRecord : Log.Record := { level := .debug, message := "unsupported terminal" }

/-! ## Section 2: Texts -/

/-- What the commands are. -/
def helpText : String :=
  "Enter a filter value (e.g. >=10, ~'*word*', !in(5,12,3), <10+>2).\n" ++
  "  :key <name>    change the filter key\n" ++
  "  :date <text>   parse a date with the configured format\n" ++
  "  :help          show this message\n" ++
  "  :quit          exit\n"

/-- The first lines of a session. -/
def banner : String := "--- filter_sql: filter to SQL converter ---\n" ++ helpText

/-- The line of a refusal. -/
def refusal (message : String) : String := "✗ " ++ message ++ "\n"

/-- An answer as it is printed. -/
def replyText : Reply → String
  | .nothing => ""
  | .help => helpText
  | .date (.ok m) => m.rfc3339 ++ "\n"
  | .date (.error e) => refusal e.message
  | .condition o =>
    match o.result with
    | .ok c => c.toJson.pretty ++ "\n"
    | .error e => refusal e.message

/-- The log lines of an answer. -/
def replyLog (l : Logging) : Reply → String
  | .condition o => String.join (o.events.map fun e => l.line conversionSource e.toRecord)
  | _ => ""

/-- What stands before a line is read. -/
def promptText (l : Logging) (s : Session) : String :=
  l.line terminalSource terminalRecord ++ s.prompt

/-- What stands before the first prompt. -/
def opening (l : Logging) (record : Log.Record) : String :=
  l.line sessionSource record ++ banner

/-! ## Section 3: Whole sessions -/

/-- How a session ends. -/
inductive Ending
  | success
  | failure
deriving DecidableEq, Repr

/-- What is printed from the prompt of the next line on, and how the session ends. A
line is none if it is no text. -/
def body (l : Logging) (s : Session) : List (Option String) → String × Ending
  | [] => (promptText l s, .success)
  | none :: _ => (promptText l s, .failure)
  | some line :: rest =>
    match s.step? line with
    | none => (promptText l s, .success)
    | some (next, reply) =>
      let (more, ending) := body l next rest
      (promptText l s ++ replyLog l reply ++ replyText reply ++ more, ending)

/-- The bytes of an input cut into lines: at each line feed, with a carriage return
before it; a last line without one counts unless it is empty. -/
def linesOf (input : List UInt8) : List (List UInt8) :=
  let cut (line : List UInt8) : List UInt8 :=
    if line.getLast? = some 13 then line.dropLast else line
  match input.splitOn 10 with
  | [] => []
  | lines =>
    let last := lines.getLast?.getD []
    lines.dropLast.map cut ++ if last.isEmpty then [] else [last]

/-- The text of a line, if it is one. -/
def textOf? (line : List UInt8) : Option String := String.fromUTF8? ⟨line.toArray⟩

/-- What a session prints with a settings file and an input, and how it ends. -/
def whole (l : Logging) (path : String) (file : SettingsFile) (input : List UInt8) :
    String × Ending :=
  let (settings, record) := settle path (Settings.load path file)
  let (text, ending) := body l (Session.start settings) ((linesOf input).map textOf?)
  (opening l record ++ text, ending)

end Transcript

end PropertyFilter
