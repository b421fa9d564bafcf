import PropertyFilter.Condition.Conversion
import PropertyFilter.Condition.Json
import PropertyFilter.Session.Command
import PropertyFilter.Session.Settings

/-!
  # Sessions

  A session answers line by line. The only thing that a line changes for those after
  it is the key; the format of dates and the context stay as the settings say.

      step s line
        blank           → nothing
        :key name       → nothing, and the key is `name` from now on
        :date text      → the date
        help            → the help text
        :quit           → the session ends
        otherwise       → the condition of the filter
-/

namespace PropertyFilter

/-- The answer to a line. -/
inductive Reply
  | nothing
  | help
  | date (result : Except Calendar.DateError Calendar.Moment)
  | condition (outcome : Outcome)

/-- Where a session stands. -/
structure Session where
  key : String
  dateReader : Calendar.DateReader
  context : List (String × Json)

namespace Session

/-- The session that the settings start. -/
def start (settings : Settings) : Session :=
  ⟨settings.key, settings.dateReader, settings.context⟩

/-- The prompt in front of a line. -/
def prompt (s : Session) : String := s.key ++ "> "

/-- The session after a command and the answer to it; none if the session ends. -/
def run? (s : Session) : Command → Option (Session × Reply)
  | .key name => some ({ s with key := name }, .nothing)
  | .date text => some (s, .date (s.dateReader.read text))
  | .help => some (s, .help)
  | .quit => none
  | .filter value => some (s, .condition (convertReporting (.name s.key) value))

/-- The session after a line and the answer to it; none if the session ends. -/
def step? (s : Session) (line : String) : Option (Session × Reply) :=
  match Command.ofLine? line with
  | none => some (s, .nothing)
  | some command => s.run? command

/-- The answers to the lines of a session, each with the session before it, up to the
line that ends it. -/
def exchanges (s : Session) : List String → List (Session × Reply)
  | [] => []
  | line :: rest =>
    match s.step? line with
    | none => []
    | some (next, reply) => (s, reply) :: next.exchanges rest

end Session

end PropertyFilter
