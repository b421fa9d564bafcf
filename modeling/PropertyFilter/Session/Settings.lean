import PropertyFilter.Calendar.DateReader
import PropertyFilter.Json.Record

/-!
  # Settings of a session

  The settings are a JSON file with three fields, each of which may be missing: the
  key of the filters, the format of dates, and a context that is kept for later use.
  A file that cannot be used is reported, and the session goes on without it.
-/

namespace PropertyFilter

/-- The settings of a session. -/
structure Settings where
  /-- the key of every filter -/
  key : String := "property"
  /-- the format of dates, if it is not the default one -/
  dateFormat : Option String := none
  /-- variables, by name -/
  context : List (String × Json) := []

namespace Settings

/-- Are these the settings of a session without a file? -/
def isDefault (s : Settings) : Bool :=
  s.key == "property" && s.dateFormat.isNone && s.context.isEmpty

/-- The reader of dates that the settings ask for. -/
def dateReader (s : Settings) : Calendar.DateReader :=
  match s.dateFormat with
  | some format => ⟨format⟩
  | none => {}

theorem dateReader_eq (s : Settings) :
    s.dateReader = ⟨s.dateFormat.getD Calendar.defaultFormat⟩ := by
  unfold dateReader
  cases s.dateFormat with
  | some format => rfl
  | none => rfl

/-! ## Section 1: JSON -/

/-- The context as an object. -/
def contextJson (s : Settings) : Json := .object s.context

/-- The settings as an object, its fields in the order of their names. -/
def toJson (s : Settings) : Json :=
  .object [("context", s.contextJson), ("date_format", (s.dateFormat.map Json.text).getD .null),
    ("key", .text s.key)]

/-- Reads a context. -/
def readContext (depth : Nat) : Json.Reader (List (String × Json)) := fun cur =>
  let cur := cur.skipSpace
  match cur.rest, depth with
  | [], _ => .error (cur.fault .endInValue)
  | '{' :: _, d + 1 => Json.readObjectFields (Json.readValue d) cur.advance
  | '{' :: _, 0 => .error (cur.faultAhead .nestedTooDeep)
  | _, _ => .error (Json.wrongShape "a map" cur)

/-- The fields of the settings, each of which may be missing. -/
def jsonFields (depth : Nat) : List (Json.RecordField Settings) :=
  [ ⟨"key", fun s cur => do
      let (key, cur) ← Json.readWantedText cur
      return ({ s with key }, cur)⟩
  , ⟨"date_format", fun s cur => do
      let (dateFormat, cur) ← Json.readWantedText? cur
      return ({ s with dateFormat }, cur)⟩
  , ⟨"context", fun s cur => do
      let (context, cur) ← readContext depth cur
      return ({ s with context }, cur)⟩ ]

/-- The settings that a JSON text stands for. -/
def ofJsonText (source : String) : Except Json.ReadError Settings :=
  Json.readAll (Json.readRecord "struct ReplConfig" Json.depthLimit jsonFields false {}) source

end Settings

/-! ## Section 2: Files -/

/-- What is found where a settings file is looked for. -/
inductive SettingsFile
  | missing
  | directory
  | bytes (content : ByteArray)

/-- Why settings cannot be loaded. -/
inductive SettingsError
  | notFound (path : String)
  | unreadable (path reason : String)
  /-- The file holds this text, which is not the JSON of settings. -/
  | invalid (path content : String) (error : Json.ReadError)
deriving DecidableEq

/-- The wording of a settings error. -/
def SettingsError.message : SettingsError → String
  | notFound path => "配置文件不存在: " ++ path
  | unreadable path reason => "无法读取配置文件 " ++ path ++ ": " ++ reason
  | invalid path content error =>
    "无法解析JSON配置文件 " ++ path ++ ": " ++ error.message content

/-- The settings in a file. -/
def Settings.load (path : String) : SettingsFile → Except SettingsError Settings
  | .missing => .error (.notFound path)
  | .directory => .error (.unreadable path "Is a directory (os error 21)")
  | .bytes content =>
    match String.fromUTF8? content with
    | none => .error (.unreadable path "stream did not contain valid UTF-8")
    | some text =>
      match ofJsonText text with
      | .ok s => .ok s
      | .error e => .error (.invalid path text e)

end PropertyFilter
