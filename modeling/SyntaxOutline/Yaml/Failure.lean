import SyntaxOutline.Value.Json

/-
  Why a YAML document cannot be read.

  A document fails as text, in its lexemes, in its grammar, in
  the way its nodes refer to each other, or when values are
  made of its nodes.  A value may also fail on its own: a word
  that is no number, a day that no calendar has.  A fault says
  how far the document had been read when it failed.

  Key definitions include:
    * `Yaml.Failure`
    * `Yaml.Fault`
    * `Yaml.BadValue`
    * `Yaml.BadValue.message`
-/

------------------------------------------------------------
-- Failures
------------------------------------------------------------

namespace SyntaxOutline

namespace Yaml

/- Why a scalar gives no value. -/
inductive BadValue where
  | integer (base : Nat) (text : List Nat)
  | longInteger (digits : Nat)
  | float (text : List Nat)
  | emptyNumber
  | hugeNumber
  | truth (word : List Nat)
  | moment
  | momentOf (kind : String)
  | calendar (fault : Moment.Fault)
  | character
  | hugeCharacter
  deriving DecidableEq, Repr

/- How much of a text that is no integer a message shows. -/
def excerpt : Nat := 200

/- The text of a failure. -/
def BadValue.message : BadValue → String
  | .integer base text =>
      "invalid literal for int() with base " ++ toString base ++ ": " ++
        String.ofList ((Text.quotePoints text).toList.take excerpt)
  | .longInteger digits =>
      "Exceeds the limit (" ++ toString Value.maxDigits ++
        " digits) for integer string conversion: value has " ++
        toString digits ++
        " digits; use sys.set_int_max_str_digits() to increase the limit"
  | .float text =>
      "could not convert string to float: " ++ Text.quotePoints text
  | .emptyNumber => "string index out of range"
  | .hugeNumber => "int too large to convert to float"
  | .truth word => Text.joined word
  | .moment => "'NoneType' object has no attribute 'groupdict'"
  | .momentOf kind =>
      "expected string or bytes-like object, got '" ++ kind ++ "'"
  | .calendar fault => fault.message
  | .character => "chr() arg not in range(0x110000)"
  | .hugeCharacter => "Python int too large to convert to C int"

/- The failure inside a sentence: a failed lookup quotes its key. -/
def BadValue.sentence : BadValue → String
  | .truth word => Text.quotePoints word
  | other => other.message

/- Why a document cannot be read. -/
inductive Failure where
  | unprintable
  | lexical
  | grammar
  | composition
  | construction
  | value (cause : BadValue)
  deriving DecidableEq, Repr

/- A failure, and how many characters had been read by then. -/
structure Fault where
  cause : Failure
  reach : Nat
  deriving DecidableEq, Repr

end Yaml

end SyntaxOutline
