import SyntaxOutline.Classification
import SyntaxOutline.Cst
import SyntaxOutline.Raised
import SyntaxOutline.Schema.Fault
import SyntaxOutline.Value.Misuse

/-
  Grammar plugins.

  A plugin parses sources of one language.  Its language name
  and its file extensions come from plain data, so they need
  not be texts, and asking for them can fail.  So do a source and
  its path.  What a plugin does may write to the log.

  Key definitions include:
    * `Logged`
    * `Plugin.Failure`
    * `Plugin`
    * `sourceName`
-/

------------------------------------------------------------
-- Results With A Log
------------------------------------------------------------

namespace SyntaxOutline

/- A result and what was written to the log on the way. -/
structure Logged (α : Type) where
  logs : List Log.Record
  result : α

namespace Logged

variable {α β : Type}

/- A result without any log. -/
def quiet
    (a : α) : Logged α :=
  ⟨[], a⟩

/- A result after some more log. -/
def after
    (logs : List Log.Record)
    (l : Logged α) : Logged α :=
  ⟨logs ++ l.logs, l.result⟩

/- Another result with the same log. -/
def map
    (f : α → β)
    (l : Logged α) : Logged β :=
  ⟨l.logs, f l.result⟩

end Logged

/- How messages name a source, given the path it came from. -/
def sourceName
    (path : Value) : String :=
  if path.isEmpty then "<string>" else path.sentence

------------------------------------------------------------
-- Plugins
------------------------------------------------------------

/- Why a plugin cannot answer. -/
inductive Plugin.Failure where
  | parserFailed (cause : Raised)
  | noTree (source : String)
  | misuse (cause : Misuse)
  | raised (cause : Raised)
  | invalid (cause : Schema.Invalid)
  deriving DecidableEq, Repr

/- The text of a failure; faulty data is listed, not described. -/
def Plugin.Failure.message : Plugin.Failure → String
  | .parserFailed cause =>
      "Failed to parse JavaScript source: " ++ cause.text
  | .noTree source => "Failed to parse JavaScript file: " ++ source
  | .misuse cause => cause.message
  | .raised cause => cause.message
  | .invalid _ => ""

/- A plugin for one language. -/
structure Plugin where
  className : String
  language : Except Misuse Value
  extensions : Except Misuse Value
  tag : Except Misuse Value
  classification : Except Plugin.Failure Classification
  parse :
    (content path : Value) →
      Logged (Except Plugin.Failure ParsedSource)

end SyntaxOutline
