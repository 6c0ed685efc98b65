import SyntaxOutline.Value.Basic

/-
  What can be wrong with data that should have a given shape,
  and how faults are collected.

  A fault is known by its cause and by the path of names and
  positions that leads to it.  Checking does not stop at the
  first fault: the faults of all fields are listed in the
  order of the fields.

  Key definitions include:
    * `Schema.Fault`
    * `Schema.FieldError`
    * `Schema.Checked`
    * `Schema.taking`
    * `Schema.Invalid`
-/

------------------------------------------------------------
-- Faults
------------------------------------------------------------

namespace SyntaxOutline

namespace Schema

/- What is wrong with one piece of data. -/
inductive Fault where
  | missing
  | notText
  | notInt
  | unreadableInt
  | oversizedInt
  | fractionalInt
  | notFinite
  | belowZero
  | unreadableBool
  | notBool
  | notList
  | notSet
  | notLiteral (expected : String)
  | notModel (name : String)
  | notObject
  | noTag
  | unknownTag (tag : String)
  | notStream
  | frozen
  | notPermitted
  | notPath
  deriving DecidableEq, Repr

namespace Fault

/- The short name of a fault. -/
def code : Fault → String
  | .missing => "missing"
  | .notText => "string_type"
  | .notInt => "int_type"
  | .unreadableInt => "int_parsing"
  | .oversizedInt => "int_parsing_size"
  | .fractionalInt => "int_from_float"
  | .notFinite => "finite_number"
  | .belowZero => "greater_than_equal"
  | .unreadableBool => "bool_parsing"
  | .notBool => "bool_type"
  | .notList => "list_type"
  | .notSet => "frozen_set_type"
  | .notLiteral _ => "literal_error"
  | .notModel _ => "model_type"
  | .notObject => "model_attributes_type"
  | .noTag => "union_tag_not_found"
  | .unknownTag _ => "union_tag_invalid"
  | .notStream => "is_instance_of"
  | .frozen => "frozen_instance"
  | .notPermitted => "extra_forbidden"
  | .notPath => "path_type"

/- The text of a fault. -/
def message : Fault → String
  | .missing => "Field required"
  | .notText => "Input should be a valid string"
  | .notInt => "Input should be a valid integer"
  | .unreadableInt =>
      "Input should be a valid integer, unable to parse string " ++
        "as an integer"
  | .oversizedInt =>
      "Unable to parse input string as an integer, exceeded " ++
        "maximum size"
  | .fractionalInt =>
      "Input should be a valid integer, got a number with a " ++
        "fractional part"
  | .notFinite => "Input should be a finite number"
  | .belowZero => "Input should be greater than or equal to 0"
  | .unreadableBool =>
      "Input should be a valid boolean, unable to interpret input"
  | .notBool => "Input should be a valid boolean"
  | .notList => "Input should be a valid list"
  | .notSet => "Input should be a valid frozenset"
  | .notLiteral expected => "Input should be " ++ expected
  | .notModel name =>
      "Input should be a valid dictionary or instance of " ++ name
  | .notObject =>
      "Input should be a valid dictionary or object to extract " ++
        "fields from"
  | .noTag => "Unable to extract tag using discriminator 'kind'"
  | .unknownTag tag =>
      "Input tag '" ++ tag ++ "' found using 'kind' does not match " ++
        "any of the expected tags: 'rule', 'terminal'"
  | .notStream => "Input should be an instance of TokenStream"
  | .frozen => "Instance is frozen"
  | .notPermitted => "Extra inputs are not permitted"
  | .notPath =>
      "Input is not a valid path for <class 'pathlib.Path'>"

end Fault

------------------------------------------------------------
-- Places
------------------------------------------------------------

/- One step on the way to a piece of data. -/
inductive Step where
  | name (name : String)
  | position (index : Nat)
  deriving DecidableEq, Repr

/- A fault and where it is. -/
structure FieldError where
  fault : Fault
  place : List Step
  deriving DecidableEq, Repr

------------------------------------------------------------
-- Collecting Faults
------------------------------------------------------------

/- A checked piece of data, or all that is wrong with it. -/
abbrev Checked (α : Type) :=
  Except (List FieldError) α

variable {α β : Type}

/- Data with one fault right here. -/
def fail
    (fault : Fault) : Checked α :=
  .error [⟨fault, []⟩]

/- The same check, one step further down. -/
def under
    (step : Step)
    (c : Checked α) : Checked α :=
  c.mapError fun errors =>
    errors.map fun e => { e with place := step :: e.place }

/-
  Supply one more checked part.  The faults of the parts
  before it come first.
-/
def taking
    (part : Checked α)
    (rest : Checked (α → β)) : Checked β :=
  match rest, part with
  | .ok f, .ok a => .ok (f a)
  | .ok _, .error errors => .error errors
  | .error errors, .ok _ => .error errors
  | .error errors, .error more => .error (errors ++ more)

/- Data that does not have the shape of the thing it is for. -/
structure Invalid where
  title : String
  errors : List FieldError
  deriving DecidableEq, Repr

/- Name the thing that was checked. -/
def titled
    (title : String)
    (c : Checked α) : Except Invalid α :=
  c.mapError (⟨title, ·⟩)

end Schema

end SyntaxOutline
