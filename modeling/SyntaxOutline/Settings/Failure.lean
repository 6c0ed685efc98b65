import SyntaxOutline.Schema.Fault
import SyntaxOutline.Settings.CommandLine
import SyntaxOutline.Settings.ListItems
import SyntaxOutline.Text.Encoding
import SyntaxOutline.Value.Misuse

/-
  Why there are no settings.

  Settings can be faulty as data.  Before that, a variable may
  hold a list that cannot be read, the arguments of a command
  line may be wrong, and the options that say how all of them are
  read may be of the wrong kind.

  Key definitions include:
    * `Settings.Channel`
    * `Settings.Failure`
    * `Settings.Failure.message`
-/

------------------------------------------------------------
-- Failures
------------------------------------------------------------

namespace SyntaxOutline

namespace Settings

/- A source of settings by name. -/
inductive Channel where
  | arguments
  | environment
  | file
  deriving DecidableEq, Repr

/- The name of a source in messages. -/
def Channel.name : Channel → String
  | .arguments => "CliSettingsSource"
  | .environment => "EnvSettingsSource"
  | .file => "DotEnvSettingsSource"

/- Why there are no settings. -/
inductive Failure where
  | unreadable (field : String) (channel : Channel)
  | unnamed (field : String) (channel : Channel)
  | secretsFile
  | argumentsKind (kind : String)
  | notArgument (kind : String)
  | stem (text : String)
  | noMark
  | commandLine (cause : CommandLine.Failure)
  | leaving (status : Nat)
  | items (field : String) (cause : ListItems.Fault)
  | notNumber (kind : String)
  | encodingKind (kind : String)
  | encoding (cause : Encoding.Failure)
  | notPair (kind : String)
  | pairSize (count : Nat)
  | notSource (kind : String)
  | misuse (cause : Misuse)
  | invalid (cause : Schema.Invalid)
  deriving DecidableEq, Repr

/- The end of a message about a setting from a source. -/
def aboutField
    (field : String)
    (channel : Channel) : String :=
  "\x22" ++ field ++ "\x22 from source \x22" ++ channel.name ++ "\x22"

/- The text of a failure; faulty data is listed, not described. -/
def Failure.message : Failure → String
  | .unreadable field channel =>
      "error parsing value for field " ++ aboutField field channel
  | .unnamed field channel =>
      "error getting value for field " ++ aboutField field channel
  | .secretsFile => "secrets_dir must reference a directory, not a file"
  | .argumentsKind kind =>
      "cli_parse_args must be a list or tuple of strings, received " ++
        "<class '" ++ kind ++ "'>"
  | .notArgument kind =>
      "expected string or bytes-like object, got '" ++ kind ++ "'"
  | .stem text => "CLI settings source prefix is invalid: " ++ text
  | .noMark => "string index out of range"
  | .commandLine cause => "error parsing CLI: " ++ cause.message
  | .leaving status => toString status
  | .items field cause =>
      "Parsing error encountered for " ++ field ++ ": " ++
        cause.message
  | .notNumber kind =>
      "unsupported operand type(s) for -: '" ++ kind ++ "' and 'int'"
  | .encodingKind kind =>
      "open() argument 'encoding' must be str or None, not " ++ kind
  | .encoding cause => cause.message
  | .notPair kind => "cannot unpack non-iterable " ++ kind ++ " object"
  | .pairSize count =>
      if count < 2 then
        "not enough values to unpack (expected 2, got " ++
          toString count ++ ")"
      else "too many values to unpack (expected 2)"
  | .notSource kind => "'" ++ kind ++ "' object is not callable"
  | .misuse cause => cause.message
  | .invalid _ => ""

end Settings

end SyntaxOutline
