import SyntaxOutline.Value.Basic

/-
  Named values in order.

  Setting a name that is already there keeps its place; a new
  name goes last.

  Key definitions include:
    * `Fields`
    * `Fields.set`
    * `Fields.merge`
-/

------------------------------------------------------------
-- Fields
------------------------------------------------------------

namespace SyntaxOutline

/- Named values, in order. -/
abbrev Fields :=
  List (String × Value)

namespace Fields

/- The fields with one of them set; a new name goes last. -/
def set
    (name : String)
    (value : Value) :
    Fields → Fields
  | [] => [(name, value)]
  | (n, v) :: rest =>
      if n = name then (n, value) :: rest
      else (n, v) :: set name value rest

/- The fields of `base` overridden and extended by `later`. -/
def merge
    (base later : Fields) : Fields :=
  later.foldl (fun fields (name, value) => set name value fields) base

end Fields

end SyntaxOutline
