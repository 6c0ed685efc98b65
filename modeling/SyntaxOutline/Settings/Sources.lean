import SyntaxOutline.Schema.Scalar
import SyntaxOutline.Settings.Arguments
import SyntaxOutline.Settings.Basic
import SyntaxOutline.Settings.Dotenv
import SyntaxOutline.Text.Lines

/-
  Where settings come from.

  A setting among arguments wins over one given explicitly,
  that one over the environment, and the environment over a
  file of variables.  Variables are named after the settings
  behind a common word, in letters of any case.  The two lists
  of names are given as JSON text, where null means not given.
  Explicit settings, and the variables of a file, must be
  known.

  Key definitions include:
    * `Settings.Origins`
    * `Settings.fromVariables`
    * `Settings.strangers`
    * `Settings.assemble`
-/

------------------------------------------------------------
-- Origins
------------------------------------------------------------

namespace SyntaxOutline

namespace Settings

/- Environment, text of the file of variables, explicit values. -/
structure Origins where
  environment : List (String × String) := []
  file : Option String := none
  explicit : Fields := []
  deriving Repr, Inhabited

------------------------------------------------------------
-- Variables
------------------------------------------------------------

/- The value that a text gives to a setting, if any. -/
def valueOf
    (nullWord : Option String)
    (channel : Channel)
    (field text : String) : Except Failure (Option Value) :=
  if nullWord = some text then .ok (some .null)
  else if field ∈ listNames then
    match Json.parse? text with
    | none => .error (.unreadable field channel)
    | some .null => .ok none
    | some value => .ok (some value)
  else .ok (some (.str text))

/- The settings that the texts of arguments give, in order. -/
def fromArguments
    (nullWord : Option String)
    (texts : List (String × String)) : Except Failure Fields :=
  fieldNames.foldlM
    (fun found field => do
      match texts.lookup field with
      | none => return found
      | some text =>
          match ← valueOf nullWord .arguments field text with
          | none => return found
          | some value => return found ++ [(field, value)])
    []

/- What nested variables give to a list: a mapping, not a list. -/
def nestedValue?
    (options : Options)
    (field : String)
    (given : Fields) : Option Value :=
  if field ∈ listNames ∧ given.any (options.isNested field ·.1) then
    some (.map [])
  else none

/- The value that variables give to a setting, if any. -/
def fromVariable
    (options : Options)
    (channel : Channel)
    (given : Fields)
    (field : String) : Except Failure (Option Value) :=
  match given.lookup (options.variableName field) with
  | some (.str text) => valueOf options.nullWord channel field text
  | _ => .ok (nestedValue? options field given)

/-
  The settings that variables give, in order.  Without a word
  that their names start with, no variable can be looked up.
-/
def fromVariables
    (options : Options)
    (channel : Channel)
    (given : Fields) : Except Failure Fields :=
  fieldNames.foldlM
    (fun found field => do
      if options.start.isNone then .error (.unnamed field channel)
      else
        match ← fromVariable options channel given field with
        | none => return found
        | some value => return found ++ [(field, value)])
    []

/- The variable of a file belongs to a setting. -/
def isKnownVariable
    (options : Options)
    (name : String) : Bool :=
  fieldNames.contains name ||
    (fieldNames.map options.variableName).contains name ||
    listNames.any (options.isNested · name)

/- The variables of a file with a value that nobody asked for. -/
def strangers
    (options : Options)
    (given : Fields) : List String :=
  given.filterMap fun (name, value) =>
    if value.isEmpty || isKnownVariable options name then none
    else some name

------------------------------------------------------------
-- Explicit Values
------------------------------------------------------------

/- The explicit value of a setting: the first one that means it. -/
def explicitValue?
    (options : Options)
    (explicit : Fields)
    (field : String) : Option Value :=
  (explicit.find? fun (name, _) => options.fold name = field).map (·.2)

/- Explicit names that are neither settings nor options. -/
def unknownNames
    (options : Options)
    (explicit : Fields) : List String :=
  (explicit.map (·.1)).filter fun name =>
    !fieldNames.contains (options.fold name) &&
      !optionNames.contains name

------------------------------------------------------------
-- Checking
------------------------------------------------------------

/- The route that a text gives. -/
def route : Value → Schema.Checked Route
  | .str s => .ok (Route.ofText s)
  | _ => Schema.fail .notPath

/- Settings out of plain data; what is missing has its default. -/
def ofData
    (entries : List (Value × Value)) : Schema.Checked Settings :=
  let base : Settings := {}
  .ok Settings.mk
    |> Schema.taking
        (Schema.optional "leaf_rule_names" base.ruleNames
          (Schema.list Schema.text) entries)
    |> Schema.taking
        (Schema.optional "leaf_symbolic_names" base.symbolNames
          (Schema.list Schema.text) entries)
    |> Schema.taking
        (Schema.optional "identifier_symbolic_name" base.identifierName
          Schema.text entries)
    |> Schema.taking
        (Schema.optional "eof_text" base.endText Schema.text entries)
    |> Schema.taking
        (Schema.optional "hidden_channel" base.hiddenChannel
          Schema.int entries)
    |> Schema.taking
        (Schema.optional "plugins_dir" base.pluginsDir
          (Schema.orNull route) entries)

/- Names that are not permitted, each with its own fault. -/
def noneOf
    (names : List String) : Schema.Checked Unit :=
  if names.isEmpty then .ok ()
  else .error (names.map fun name => ⟨.notPermitted, [.name name]⟩)

/- The variables of the file, if it is there and to be read. -/
def fileVariables
    (options : Options)
    (origins : Origins) : Except Failure Fields := do
  let isRead ← readsFile origins.explicit
  match origins.file with
  | none => return []
  | some text =>
      if isRead then
        let text ← decoded origins.explicit text
        return options.gather
          (Dotenv.read origins.environment (Text.asRead text))
      else return []

/-
  The settings of sources that are given ready, beside explicit
  settings.  Plain data is no source, so only none at all will do.
-/
def ofReadySources
    (value : Value) : Except Failure Settings :=
  match value.parts? with
  | none => .error (.notPair value.kindName)
  | some [sources, _] =>
      if sources.isEmpty then .ok {}
      else
        match sources.parts? with
        | none => .error (.misuse (.notIterable sources.kindName))
        | some [] => .ok {}
        | some (first :: _) => .error (.notSource first.kindName)
  | some parts => .error (.pairSize parts.length)

/- The settings that the usual sources together give. -/
def ofUsualSources
    (origins : Origins) : Except Failure Settings := do
  let options ← Options.of origins.explicit
  let environment :=
    options.gather (origins.environment.map fun (name, text) =>
      (name, .str text))
  let file ← fileVariables options origins
  let texts ← argumentTexts origins.explicit
  let named ← fromArguments (argumentNull origins.explicit) texts
  let first ← fromVariables options .environment environment
  let second ← fromVariables options .file file
  checkSecrets origins.explicit origins.file.isSome
  let entries :=
    fieldNames.filterMap fun field =>
      ((named.lookup field).or
        ((explicitValue? options origins.explicit field).or
          ((first.lookup field).or (second.lookup field)))).map
            fun value => (Value.str field, value)
  let unknown :=
    strangers options file ++ unknownNames options origins.explicit
  let checked : Schema.Checked Settings :=
    .ok (fun (s : Settings) (_ : Unit) => s)
      |> Schema.taking (ofData entries)
      |> Schema.taking (noneOf unknown.eraseDups)
  (Schema.titled "Settings" checked).mapError .invalid

/- The settings that all origins together give. -/
def assemble
    (origins : Origins) : Except Failure Settings :=
  match option? origins.explicit "_build_sources" with
  | some value => ofReadySources value
  | none => ofUsualSources origins

end Settings

end SyntaxOutline
