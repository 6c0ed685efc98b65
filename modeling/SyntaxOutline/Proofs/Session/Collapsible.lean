import SyntaxOutline.Proofs.Session.Trivia

/-
  Whatever the plugin hands over can be collapsed.

  Collapsing fails on a terminal without a token and on a token
  whose number is not an index of the stream.  A conversion
  gives every terminal the token that it has just put on the
  tape, under its own place, and a root with a child at least.
  So there is an outline for any spans, in order or not, and
  for any policy, also one by which the end of the input reads
  like something else and its terminal becomes a leaf.

  Main statements:
    * `JavaScript.result_parse_eq_ok_iff`
    * `JavaScript.exists_collapse_of_parse`
-/

------------------------------------------------------------
-- Parsed Sources
------------------------------------------------------------

namespace SyntaxOutline

namespace JavaScript

variable {parser : Parser} {config content path : Value}
variable {parsed : ParsedSource}

/-
  A source is parsed exactly when it is a text, the external
  parser gives a tree, and the token types are a set.
-/
theorem result_parse_eq_ok_iff :
    (parse parser config content path).result =
        .ok parsed ↔
      ∃ text root types,
        content = .str text ∧
          parser.outcome = .ok (some root) ∧
          configuredSet config "token_node_types" =
            .ok types ∧
          parsedSource parser.names text types root =
            parsed := by
  constructor
  · intro hParsed
    cases content with
    | str text =>
        rw [parse, parseText] at hParsed
        cases hOutcome : parser.outcome with
        | error cause => simp [hOutcome] at hParsed
        | ok outcome =>
            cases outcome with
            | none => simp [hOutcome] at hParsed
            | some root =>
                cases hTypes :
                    configuredSet config
                      "token_node_types" with
                | error cause =>
                    simp [hOutcome, hTypes] at hParsed
                | ok types =>
                    refine ⟨text, root, types, rfl, rfl,
                      rfl, ?_⟩
                    simpa [hOutcome, hTypes] using hParsed
    | _ => simp [parse, Logged.quiet] at hParsed
  · rintro ⟨text, root, types, rfl, hRoot, hTypes, rfl⟩
    exact result_parse hRoot hTypes text path

------------------------------------------------------------
-- Their Outlines
------------------------------------------------------------

/-
  A parsed source has an outline by any policy: by any
  classification, any text for the end of the input and any
  hidden channel.
-/
theorem exists_collapse_of_parse
    (hParsed :
      (parse parser config content path).result =
        .ok parsed)
    (policy : Collapse.Policy) :
    ∃ branch,
      Collapse.collapse policy
          (Collapse.Source.ofParsed parsed) parsed.tree =
        .ok (some branch) := by
  rcases result_parse_eq_ok_iff.mp hParsed with
    ⟨text, root, types, -, -, -, rfl⟩
  have hStream :
      (Collapse.Source.ofParsed
        (parsedSource parser.names text types root)).stream =
        (Span.convert (Text.encode text)
          (isTokenType types) root).2 :=
    stream_parsedSource parser.names text types root
  rcases Collapse.exists_contributes_convert policy
      hStream with
    ⟨branch, hCollapse, -⟩
  exact ⟨branch, hCollapse⟩

/-
  Spans that fit no source: a comment that ends before it
  starts, a name beyond the end, and two spans that overlap
  within one letter.
-/
def crookedTree : SpanTree :=
  .mk ⟨0, "program", 0, 3, false, true⟩
    [.mk ⟨1, "comment", 2, 1, true, false⟩ [],
     .mk ⟨2, "identifier", 5, 9, false, false⟩ [],
     .mk ⟨3, "statement", 0, 3, false, true⟩
      [.mk ⟨2, "identifier", 0, 2, false, false⟩ [],
       .mk ⟨4, ";", 1, 3, false, false⟩ []]]

def crookedParser : Parser where
  names :=
    ["program", "comment", "identifier", "statement", ";"]
  outcome := .ok (some crookedTree)

/-
  Everything right below the root is atomic, the end of the
  input included, as another text is to mark it.
-/
def crookedPolicy : Collapse.Policy where
  classification :=
    { ruleNames := ["program"]
      symbolNames := ["identifier"]
      identifierName := "identifier" }
  endText := some "#"
  hiddenChannel := some 0

/- A letter of two octets and a mark. -/
def crookedText : String := "é;"

/- Even the crooked spans have an outline. -/
theorem exists_collapse_of_crooked :
    ∃ parsed,
      (parse crookedParser (.map []) (.str crookedText)
          .null).result = .ok parsed ∧
        parsed.stream.size = 7 ∧
        ∃ branch,
          Collapse.collapse crookedPolicy
              (Collapse.Source.ofParsed parsed)
              parsed.tree =
            .ok (some branch) := by
  have hParsed :
      (parse crookedParser (.map []) (.str crookedText)
          .null).result =
        .ok (parsedSource crookedParser.names crookedText []
          crookedTree) := rfl
  exact ⟨_, hParsed, rfl,
    exists_collapse_of_parse hParsed crookedPolicy⟩

end JavaScript

end SyntaxOutline
