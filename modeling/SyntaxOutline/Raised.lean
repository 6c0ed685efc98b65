import SyntaxOutline.Log

/-
  Errors that come from outside, such as from an external
  parser.

  Key definitions include:
    * `Raised`
    * `Raised.of`
    * `Raised.text`
    * `Raised.cause`
-/

------------------------------------------------------------
-- Errors From Outside
------------------------------------------------------------

namespace SyntaxOutline

/- The kinds of errors that outside code raises. -/
inductive Raised.Kind where
  | runtime
  | value
  | type
  | lookup
  | parse
  deriving DecidableEq, Repr, Inhabited

namespace Raised.Kind

/- The name of a kind in log records. -/
def name : Raised.Kind → String
  | .runtime => "RuntimeError"
  | .value => "ValueError"
  | .type => "TypeError"
  | .lookup => "KeyError"
  | .parse => "ParseError"

/- All kinds. -/
def all : List Raised.Kind :=
  [.runtime, .value, .type, .lookup, .parse]

/- The kind with a name. -/
def ofName?
    (name : String) : Option Raised.Kind :=
  all.find? (·.name = name)

end Raised.Kind

/-
  An error with its kind and its message, and the message as it
  is spelled out.
-/
structure Raised where
  kind : Raised.Kind
  message : String
  literal : String := Text.quote message
  deriving DecidableEq, Repr, Inhabited

namespace Raised

/- An error whose message is a value of any kind. -/
def of
    (kind : Raised.Kind)
    (value : Value) : Raised :=
  ⟨kind, value.sentence, value.literal⟩

/- The error inside a sentence: a failed lookup quotes its key. -/
def text
    (r : Raised) : String :=
  match r.kind with
  | .lookup => r.literal
  | _ => r.message

/- The error as a log record tells of it. -/
def cause
    (r : Raised) : Log.Cause :=
  ⟨r.kind.name, r.text⟩

end Raised

end SyntaxOutline
