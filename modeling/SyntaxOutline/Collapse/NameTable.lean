import SyntaxOutline.Collapse
import SyntaxOutline.Value.Misuse

/-
  Tables of names out of plain data.

  A table may be a value of any kind, and so may the names in
  it.  Only texts are names; other values name nothing.  A table
  that has no size, or no place for a number, is found out when
  a terminal asks for a name, and so is a name that cannot be a
  member of a set.

  Key definitions include:
    * `Collapse.NameTable.names`
    * `Collapse.NameTable.entry`
    * `Collapse.NameTable.check`
-/

------------------------------------------------------------
-- Tables
------------------------------------------------------------

namespace SyntaxOutline

namespace Collapse

namespace NameTable

/- The names in a table, by number. -/
def names
    (table : Value) : List (Option String) :=
  (table.parts?.getD []).map Value.text?

/- What a table holds at a number; outside it there is nothing. -/
def entry
    (table : Value) :
    Option Int → Except Misuse Value
  | none => .ok .null
  | some index =>
      if index < 0 then .ok .null
      else
        match table.parts? with
        | none => .error (.sizeless table.kindName)
        | some parts =>
            match parts[index.toNat]?, table.content with
            | none, _ => .ok .null
            | some _, .map _ => .error (.missingKey (toString index))
            | some part, _ => .ok part

/- The value can be looked for in a set. -/
def checkMember
    (value : Value) : Except Misuse Unit := do
  let _ ← value.keyOrMisuse

------------------------------------------------------------
-- Checks
------------------------------------------------------------

/- The names that a terminal with this token asks for are there. -/
def checkTerminal
    (policy : Policy)
    (rules symbols : Value)
    (t : Terminal)
    (symbol : Token) : Except Misuse Unit := do
  let symbolName ← entry symbols (some symbol.type)
  let ruleName ← entry rules t.rule
  checkMember ruleName
  if (ruleName.text?.map policy.classification.ruleNames.contains).getD
      false then
    return ()
  else checkMember symbolName

/-
  Tables of names serve some terminals, one after the other, up
  to the first one for which collapsing fails on its own.
-/
def checkAll
    (policy : Policy)
    (rules symbols : Value)
    (source : Source) :
    List Terminal → Except Misuse Unit
  | [] => .ok ()
  | t :: rest =>
      match ofTerminal policy source t, t.symbol with
      | .ok _, some symbol =>
          if policy.endText = some t.text then
            checkAll policy rules symbols source rest
          else do
            checkTerminal policy rules symbols t symbol
            checkAll policy rules symbols source rest
      | .ok _, none => checkAll policy rules symbols source rest
      | .error _, some symbol =>
          checkTerminal policy rules symbols t symbol
      | .error _, none => .ok ()

/- Tables of names serve all terminals of a tree. -/
def check
    (policy : Policy)
    (rules symbols : Value)
    (stream : Stream)
    (root : Rule) : Except Misuse Unit :=
  checkAll policy rules symbols ⟨names rules, names symbols, stream⟩
    root.toCst.terminals

end NameTable

end Collapse

end SyntaxOutline
