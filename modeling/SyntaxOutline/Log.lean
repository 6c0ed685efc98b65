import SyntaxOutline.Value.Fields

/-
  Log records and loggers that carry context.

  A logger adds its own fields to every record; fields given
  with a call win over them.  A field may not bear the name
  of a part that every record has.  Records that are less grave
  than the threshold of the logger are not written.

  Key definitions include:
    * `Log.Level`
    * `Log.thresholdOf`
    * `Log.Record`
    * `Log.Logger`
    * `Log.Logger.log`
    * `Log.Logger.phase`
    * `Log.Logger.failure`
-/

------------------------------------------------------------
-- Levels
------------------------------------------------------------

namespace SyntaxOutline

namespace Log

/- How grave a record is. -/
inductive Level where
  | debug
  | info
  | warning
  | error
  | critical
  deriving DecidableEq, Repr, Inhabited

namespace Level

/- Levels in order of gravity. -/
def rank : Level → Nat
  | .debug => 10
  | .info => 20
  | .warning => 30
  | .error => 40
  | .critical => 50

/- All levels. -/
def all : List Level :=
  [.debug, .info, .warning, .error, .critical]

/- The name of a level in records. -/
def name : Level → String
  | .debug => "DEBUG"
  | .info => "INFO"
  | .warning => "WARNING"
  | .error => "ERROR"
  | .critical => "CRITICAL"

end Level

------------------------------------------------------------
-- Records
------------------------------------------------------------

/- The error that a record tells of: its kind and its text. -/
structure Cause where
  kind : String
  text : String
  deriving DecidableEq, Repr, Inhabited

/- One line of a log. -/
structure Record where
  level : Level
  logger : String
  message : String
  extra : Fields := []
  cause : Option Cause := none
  deriving Repr, Inhabited

------------------------------------------------------------
-- Reserved Names
------------------------------------------------------------

/- Parts of every record, which no field may be named after. -/
def reserved : List String :=
  ["name", "msg", "args", "levelname", "levelno", "pathname",
    "filename", "module", "exc_info", "exc_text", "stack_info",
    "lineno", "funcName", "created", "msecs", "relativeCreated",
    "thread", "threadName", "processName", "process", "message",
    "asctime"]

------------------------------------------------------------
-- Failures
------------------------------------------------------------

/- Why a call to a logger fails. -/
inductive Failure where
  | notFields (kind : String)
  | notContext (function kind : String)
  | reservedName (name : String)
  | repeatedArgument (function argument : String)
  | unknownLevel (name : String)
  | levelKind (value : String)
  deriving DecidableEq, Repr

/- The text of a failure. -/
def Failure.message : Failure → String
  | .notFields kind => "'" ++ kind ++ "' object is not a mapping"
  | .notContext function kind =>
      "simpletree.utils.logging." ++ function ++
        "() argument after ** must be a mapping, not " ++ kind
  | .reservedName name =>
      "Attempt to overwrite '" ++ name ++ "' in LogRecord"
  | .repeatedArgument function argument =>
      function ++ "() got multiple values for argument '" ++
        argument ++ "'"
  | .unknownLevel name => "Unknown level: " ++ Text.quote name
  | .levelKind value =>
      "Level not an integer or a valid string: " ++ value

------------------------------------------------------------
-- Thresholds
------------------------------------------------------------

/- Other names for levels. -/
def otherNames : List (String × Level) :=
  [("WARN", .warning), ("FATAL", .critical)]

/-
  The rank that a threshold has by its name.  Where none is set,
  everything is written.
-/
def rankOf?
    (name : String) : Option Int :=
  if name = "NOTSET" then some Level.debug.rank
  else
    ((Level.all.find? (·.name = name)).or (otherNames.lookup name)).map
      fun level => (level.rank : Int)

/- The threshold that a value gives: a rank or the name of one. -/
def thresholdOf : Value → Except Failure Int
  | .int n => .ok n
  | .bool b => .ok (if b then 1 else 0)
  | .str name =>
      match rankOf? name with
      | some rank => .ok rank
      | none => .error (.unknownLevel name)
  | other => .error (.levelKind other.literal)

------------------------------------------------------------
-- Loggers
------------------------------------------------------------

/- A logger with its threshold and its own fields. -/
structure Logger where
  name : String
  threshold : Int := Level.debug.rank
  bound : Fields := []
  deriving Repr, Inhabited

namespace Logger

/- A logger that carries the given fields. -/
def withContext
    (name : String)
    (threshold : Int)
    (context : Fields) : Except Failure Logger :=
  if context.any (·.1 = "name") then
    .error (.repeatedArgument "get_logger" "name")
  else
    .ok ⟨name, threshold, context⟩

/- The logger writes records of the level. -/
def isEnabled
    (l : Logger)
    (level : Level) : Bool :=
  l.threshold ≤ level.rank

/- Fields given with a call: missing fields are none at all. -/
def givenFields : Option Value → Except Failure Fields
  | none => .ok []
  | some (.map entries) =>
      .ok (entries.map fun (key, value) => (key.sentence, value))
  | some other => .error (.notFields other.kindName)

/- The fields of a record: the logger's own and those given. -/
def process
    (l : Logger)
    (given : Option Value) : Except Failure Fields := do
  let fields ← givenFields given
  return Fields.merge l.bound fields

/- Write one record with merged fields. -/
def write
    (l : Logger)
    (level : Level)
    (message : String)
    (fields : Fields)
    (cause : Option Cause) : Except Failure (List Record) :=
  match fields.find? (reserved.contains ·.1) with
  | some (name, _) => .error (.reservedName name)
  | none => .ok [⟨level, l.name, message, fields, cause⟩]

/- Log a message; below the threshold nothing happens at all. -/
def log
    (l : Logger)
    (level : Level)
    (message : String)
    (given : Option Value) : Except Failure (List Record) :=
  if l.isEnabled level then do
    let fields ← l.process given
    l.write level message fields none
  else
    .ok []

/- The context given to a function; nothing is no context. -/
def contextFields
    (function : String)
    (context : Value) : Except Failure Fields :=
  match context with
  | .map entries =>
      .ok (entries.map fun (key, value) => (key.sentence, value))
  | other =>
      if other.isEmpty then .ok []
      else .error (.notContext function other.kindName)

/- The first name among the fields that a call takes itself. -/
def repeated?
    (function : String)
    (arguments : List String)
    (context : Fields) : Except Failure Unit :=
  match context.find? (arguments.contains ·.1) with
  | some (name, _) => .error (.repeatedArgument function name)
  | none => .ok ()

/- Log that a phase of the work starts or ends. -/
def phase
    (l : Logger)
    (phase status : Value)
    (context : Fields := []) : Except Failure (List Record) := do
  repeated? "log_phase_transition" ["logger", "phase", "status"] context
  let fields := Fields.merge [("phase", phase), ("status", status)] context
  if l.isEnabled .info then
    l.write .info ("Phase " ++ status.sentence ++ ": " ++ phase.sentence)
      (Fields.merge l.bound fields) none
  else
    return []

/- Log that something failed, with the kind of its error. -/
def failure
    (l : Logger)
    (message : String)
    (cause : Cause)
    (context : Fields := []) : Except Failure (List Record) := do
  repeated? "log_error_with_context" ["logger", "message", "error"] context
  let fields := Fields.merge [("error_type", .str cause.kind)] context
  if l.isEnabled .error then
    l.write .error message (Fields.merge l.bound fields) (some cause)
  else
    return []

end Logger

end Log

end SyntaxOutline
