import PropertyFilter.Session.Transcript
import Std.Time.DateTime.Timestamp

/-!
  # The command line

  Runs a session on standard input and output. The first argument is the path of the
  settings file. What is logged is chosen by the environment.
-/

open PropertyFilter

/-- The settings file used when no other is named. -/
def defaultSettingsPath : String := "filter_sql.json"

/-- The time of a number of seconds and nanoseconds since 1970, in universal time. -/
def timeText (seconds : Int) (nanos : Nat) : String :=
  let ofDay := (seconds % 86400).toNat
  let (year, ordinal) := Calendar.Date.yearAndOrdinal (seconds / 86400)
  let date := (Calendar.Date.ofOrdinal? year ordinal).map Calendar.Moment.dateText
  let two (n : Nat) : List Char := Digits.padded 2 n
  String.ofList (date.getD [] ++ 'T' :: (two (ofDay / 3600) ++ ':' :: (two (ofDay / 60 % 60) ++
    ':' :: (two (ofDay % 60) ++ '.' :: (Digits.padded 6 (nanos / 1000) ++ ['Z'])))))

/-- The time of day. -/
def currentTime : IO String := do
  let now ← Std.Time.Timestamp.now
  let duration := now.toDurationSinceUnixEpoch
  return timeText duration.second.val duration.nano.val.toNat

/-- What there is at a path. -/
def readSettingsFile (path : String) : IO SettingsFile := do
  try
    return .bytes (← IO.FS.readBinFile path)
  catch e =>
    match e with
    | .noFileOrDirectory .. => return .missing
    | _ => return .directory

/-- A line without its line break. -/
def withoutBreak (line : String) : String :=
  let cs := line.toList
  match cs.reverse with
  | '\n' :: '\r' :: rest => String.ofList rest.reverse
  | '\n' :: rest => String.ofList rest.reverse
  | _ => line

/-- Prompts for lines and answers them until the session or the input ends. -/
partial def answerLines (filter : Log.Filter) (stdin stdout : IO.FS.Stream) (s : Session) :
    IO Unit := do
  stdout.putStr (Transcript.promptText ⟨filter, ← currentTime⟩ s)
  stdout.flush
  let line ← stdin.getLine
  if line.isEmpty then return
  match s.step? (withoutBreak line) with
  | none => return
  | some (next, reply) =>
    let logging : Transcript.Logging := ⟨filter, ← currentTime⟩
    stdout.putStr (Transcript.replyLog logging reply ++ Transcript.replyText reply)
    answerLines filter stdin stdout next

def main (args : List String) : IO Unit := do
  let stdout ← IO.getStdout
  let filter := Transcript.filterOf (← IO.getEnv "FILTER_SQL_LOG") (← IO.getEnv "RUST_LOG")
  let path := args.head?.getD defaultSettingsPath
  let (settings, record) := Transcript.settle path (Settings.load path (← readSettingsFile path))
  stdout.putStr (Transcript.opening ⟨filter, ← currentTime⟩ record)
  answerLines filter (← IO.getStdin) stdout (Session.start settings)
