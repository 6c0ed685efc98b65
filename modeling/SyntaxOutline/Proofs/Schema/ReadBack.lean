import SyntaxOutline.Schema.Outline

/-
  Outlines written as data are read back unchanged.

  Data does not say whether a part is a branch or a leaf, and
  the data of a leaf is that of a branch, too: of one without
  any of its fields.  The leaf wins, since it uses some of its
  own.  The data of a branch is no leaf, as it has no token.

  Key definitions include:
    * `Value.entriesOf`
    * `Leaf.written`
    * `Schema.whenGiven`
    * `Schema.branchData`

  Main statements:
    * `Schema.branchParts_eq`
    * `Schema.optional_of_written`
    * `Schema.gradedLeaf_toValue`
    * `Schema.prefer_leaf`
    * `Schema.prefer_branch`
    * `Schema.exists_partsFrom`
    * `Schema.branch_toValue`
-/

------------------------------------------------------------
-- Induction Over Lists Of Outlines
------------------------------------------------------------

namespace SyntaxOutline

namespace Outline

/-
  A property of lists of outlines holds of all of them when it
  passes on from the parts behind a leaf, and from the parts of
  a branch and the parts behind it.
-/
@[elab_as_elim]
theorem forest_induction
    {motive : List Outline → Prop}
    (nil : motive [])
    (leaf :
      ∀ l rest, motive rest → motive (.leaf l :: rest))
    (branch :
      ∀ label parts rest,
        motive parts → motive rest →
          motive (.branch label parts :: rest))
    (outlines : List Outline) :
    motive outlines :=
  match outlines with
  | [] => nil
  | .leaf l :: rest =>
      leaf l rest (forest_induction nil leaf branch rest)
  | .branch label parts :: rest =>
      branch label parts rest
        (forest_induction nil leaf branch parts)
        (forest_induction nil leaf branch rest)

end Outline

------------------------------------------------------------
-- Fields Of Records
------------------------------------------------------------

namespace Value

/- The entries of a record. -/
def entriesOf
    (fields : List (String × Value)) : List (Value × Value) :=
  fields.map fun (name, value) => (.str name, value)

/- A later entry under the same name wins. -/
theorem fieldOf?_cons
    (name : String)
    (key value : Value)
    (rest : List (Value × Value)) :
    fieldOf? name ((key, value) :: rest) =
      (fieldOf? name rest).or
        (if key.text? = some name then some value
          else none) := by
  rw [fieldOf?]
  cases fieldOf? name rest with
  | none => rfl
  | some later => rfl

@[simp] theorem fieldOf?_entriesOf_nil
    (name : String) :
    fieldOf? name (entriesOf []) = none := rfl

@[simp] theorem fieldOf?_entriesOf_cons
    (name field : String)
    (value : Value)
    (rest : List (String × Value)) :
    fieldOf? name (entriesOf ((field, value) :: rest)) =
      (fieldOf? name (entriesOf rest)).or
        (if field = name then some value else none) := by
  simp only [entriesOf, List.map_cons, fieldOf?_cons, text?,
    Option.some.injEq]

@[simp] theorem fieldOf?_entriesOf_append
    (name : String)
    (front back : List (String × Value)) :
    fieldOf? name (entriesOf (front ++ back)) =
      (fieldOf? name (entriesOf back)).or
        (fieldOf? name (entriesOf front)) := by
  induction front with
  | nil => simp
  | cons field front ih =>
      rcases field with ⟨field, value⟩
      rw [List.cons_append, fieldOf?_entriesOf_cons,
        fieldOf?_entriesOf_cons, ih, Option.or_assoc]

/- A field that may be missing is there if its content is. -/
@[simp] theorem fieldOf?_optionalField
    {α : Type}
    (name field : String)
    (write : α → Value)
    (content : Option α) :
    fieldOf? name
        (entriesOf (optionalField field write content)) =
      if field = name then content.map write else none := by
  cases content <;> simp [optionalField]

end Value

theorem length_optionalField
    {α : Type}
    (field : String)
    (write : α → Value)
    (content : Option α) :
    (optionalField field write content).length =
      content.toList.length := by
  cases content <;> rfl

/- The fields that a leaf is written with. -/
def Leaf.written
    (l : Leaf) : List (String × Value) :=
  [("token", .str l.token), ("isLeaf", .bool true)] ++
    optionalField "isVariable" .bool l.isVariable ++
    optionalField "isCapitalized" .bool l.isCapitalized ++
    optionalField "leading" .str l.leading ++
    optionalField "trailing" .str l.trailing

/- They are the entries of its data. -/
def Leaf.entries
    (l : Leaf) : List (Value × Value) :=
  Value.entriesOf l.written

theorem Leaf.toValue_eq
    (l : Leaf) :
    l.toValue = .map l.entries := rfl

theorem Leaf.length_written
    (l : Leaf) :
    l.written.length =
      2 + l.isVariable.toList.length +
        l.isCapitalized.toList.length +
        l.leading.toList.length +
        l.trailing.toList.length := by
  simp only [written, List.length_append,
    length_optionalField]
  rfl

------------------------------------------------------------
-- Fields Read Back
------------------------------------------------------------

namespace Schema

variable {α β : Type}

@[simp] theorem under_ok
    (step : Step)
    (a : α) :
    under step (.ok a) = .ok a := rfl

@[simp] theorem takingGraded_ok
    (f : Graded (α → β))
    (a : Graded α) :
    takingGraded (.ok a) (.ok f) = .ok (f.apply a) := rfl

/- The reading of a field that is written only if it is there. -/
def whenGiven
    (content : Option α) : Graded (Option α) :=
  ⟨content, content.toList.length, false⟩

/-
  A field that was written only if it is there is read back,
  missing or not.
-/
theorem optional_of_written
    {name : String}
    {check : Value → Checked (Graded (Option α))}
    {entries : List (Value × Value)}
    {content : Option α}
    (write : α → Value)
    (hCheck :
      ∀ a, check (write a) = .ok ⟨some a, 1, false⟩)
    (hWritten :
      Value.fieldOf? name entries = content.map write) :
    optional name (unused none) check entries =
      .ok (whenGiven content) := by
  cases content with
  | none =>
      rw [optional, hWritten]
      rfl
  | some a =>
      rw [optional, hWritten, Option.map_some]
      simp only [hCheck]
      rfl

/- Without its second name a field is read under the first. -/
theorem aliased_eq_optional
    {first second : String}
    {entries : List (Value × Value)}
    (hSecond : Value.fieldOf? second entries = none)
    (default : α)
    (check : Value → Checked (Graded α)) :
    aliased first second default check entries =
      optional first (unused default) check entries := by
  rw [aliased, optional, optional, hSecond]
  cases Value.fieldOf? first entries with
  | none => rfl
  | some value => rfl

/- The parts of a branch are those that its field gives. -/
theorem branchParts_eq
    (entries : List (Value × Value)) :
    branchParts entries =
      (Value.fieldOf? "children" entries).map partList := by
  induction entries with
  | nil => rfl
  | cons entry rest ih =>
      rcases entry with ⟨key, value⟩
      rw [branchParts, ih, Value.fieldOf?_cons]
      cases Value.fieldOf? "children" rest with
      | some later => rfl
      | none =>
          by_cases hKey : key.text? = some "children"
          · simp [hKey]
          · simp [hKey]

------------------------------------------------------------
-- Leaves
------------------------------------------------------------

/- A leaf is read back with all the fields it is written with. -/
theorem gradedLeaf_toValue
    (l : Leaf) :
    gradedLeaf l.toValue =
      .ok ⟨l, l.written.length, false⟩ := by
  have hToken :
      required "token" (plain text) l.entries =
        .ok ⟨l.token, 1, false⟩ := by
    have hField :
        Value.fieldOf? "token" l.entries =
          some (.str l.token) := by
      simp [Leaf.entries, Leaf.written]
    rw [required, hField]
    rfl
  have hMark :
      aliased "isLeaf" "is_leaf" () leafMark l.entries =
        .ok ⟨(), 1, false⟩ := by
    have hField :
        Value.fieldOf? "isLeaf" l.entries =
          some (.bool true) := by
      simp [Leaf.entries, Leaf.written]
    rw [aliased, hField]
    rfl
  have hVariable :
      aliased "isVariable" "is_variable" none flag
          l.entries =
        .ok (whenGiven l.isVariable) := by
    rw [aliased_eq_optional (by simp [Leaf.entries, Leaf.written])]
    exact optional_of_written .bool (fun _ => rfl)
      (by simp [Leaf.entries, Leaf.written])
  have hCapitalized :
      aliased "isCapitalized" "is_capitalized" none flag
          l.entries =
        .ok (whenGiven l.isCapitalized) := by
    rw [aliased_eq_optional (by simp [Leaf.entries, Leaf.written])]
    exact optional_of_written .bool (fun _ => rfl)
      (by simp [Leaf.entries, Leaf.written])
  have hLeading :
      optional "leading" (unused none)
          (plain (orNull text)) l.entries =
        .ok (whenGiven l.leading) :=
    optional_of_written .str (fun _ => rfl)
      (by simp [Leaf.entries, Leaf.written])
  have hTrailing :
      optional "trailing" (unused none)
          (plain (orNull text)) l.entries =
        .ok (whenGiven l.trailing) :=
    optional_of_written .str (fun _ => rfl)
      (by simp [Leaf.entries, Leaf.written])
  rw [Leaf.toValue_eq, gradedLeaf, object, leafFields, hToken,
    hMark, hVariable, hCapitalized, hLeading, hTrailing,
    l.length_written]
  rfl

/- As a branch, the data of a leaf gives no field at all. -/
theorem gradedBranch_leaf
    (l : Leaf) :
    gradedBranch l.toValue = .ok (unused ⟨"", []⟩) := by
  have hLabel :
      Value.fieldOf? "label" l.entries = none := by
    simp [Leaf.entries, Leaf.written]
  have hParts :
      Value.fieldOf? "children" l.entries = none := by
    simp [Leaf.entries, Leaf.written]
  rw [Leaf.toValue_eq, gradedBranch, branchParts_eq, hParts]
  unfold branchFields
  rw [optional, hLabel]
  rfl

/- The part that the data of a leaf gives is the leaf. -/
theorem prefer_leaf
    (l : Leaf) :
    prefer (gradedBranch l.toValue) (gradedLeaf l.toValue) =
      .ok ⟨.leaf l, l.written.length, false⟩ := by
  have hMore : 0 < l.written.length := by
    rw [l.length_written]
    omega
  -- Both readings succeed, and only the leaf uses any field.
  rw [gradedBranch_leaf, gradedLeaf_toValue]
  simp [prefer, better, Graded.map, unused, hMore]

------------------------------------------------------------
-- Branches
------------------------------------------------------------

/- The data of a branch with these items for its parts. -/
def branchData
    (label : String)
    (items : List Value) : Value :=
  .record
    [("label", .str label), ("children", .list items)]

/- As a leaf, the data of a branch has no token. -/
theorem gradedLeaf_branch
    (label : String)
    (items : List Value) :
    gradedLeaf (branchData label items) =
      .error [⟨.missing, [.name "token"]⟩] := rfl

/- A branch is read back once its parts are. -/
theorem gradedBranch_of_parts
    {items : List Value}
    {parts : List Outline}
    {fields : Nat}
    (hParts :
      partsFrom 0 items = .ok ⟨parts, fields, false⟩)
    (label : String) :
    gradedBranch (branchData label items) =
      .ok ⟨⟨label, parts⟩, 1 + (fields + 1), false⟩ := by
  have hChildren :
      branchParts
          (Value.entriesOf
            [("label", .str label),
              ("children", .list items)]) =
        some (.ok ⟨parts, fields, false⟩) := by
    rw [branchParts_eq, ← hParts]
    rfl
  rw [branchData, Value.record, gradedBranch,
    ← Value.entriesOf, hChildren]
  rfl

/- The part that the data of a branch gives is the branch. -/
theorem prefer_branch
    {items : List Value}
    {parts : List Outline}
    {fields : Nat}
    (hParts :
      partsFrom 0 items = .ok ⟨parts, fields, false⟩)
    (label : String) :
    ∃ total,
      prefer (gradedBranch (branchData label items))
          (gradedLeaf (branchData label items)) =
        .ok ⟨.branch label parts, total, false⟩ := by
  rw [gradedBranch_of_parts hParts, gradedLeaf_branch]
  exact ⟨_, rfl⟩

------------------------------------------------------------
-- Outlines
------------------------------------------------------------

/- Parts are read back, whatever position they start from. -/
theorem exists_partsFrom
    (parts : List Outline)
    (position : Nat) :
    ∃ fields,
      partsFrom position (Outline.toValues parts) =
        .ok ⟨parts, fields, false⟩ := by
  induction parts using Outline.forest_induction
    generalizing position with
  | nil => exact ⟨0, rfl⟩
  | leaf l rest ihRest =>
      rcases ihRest (position + 1) with ⟨others, hRest⟩
      refine ⟨l.written.length + others, ?_⟩
      rw [Outline.toValues, Outline.toValue, partsFrom,
        prefer_leaf, hRest]
      simp [unused, Graded.apply]
  | branch label children rest ihChildren ihRest =>
      rcases ihChildren 0 with ⟨fields, hChildren⟩
      rcases prefer_branch hChildren label with
        ⟨total, hBranch⟩
      rcases ihRest (position + 1) with ⟨others, hRest⟩
      refine ⟨total + others, ?_⟩
      rw [Outline.toValues, Outline.toValue, ← branchData,
        partsFrom, hBranch, hRest]
      simp [unused, Graded.apply]

/-
  Every outline written as data is read back as it was: leaves
  as leaves, and branches as branches with their labels.
-/
theorem branch_toValue
    (b : Branch) :
    branch b.toValue = .ok b := by
  rcases exists_partsFrom b.children 0 with
    ⟨fields, hParts⟩
  have hBranch :=
    gradedBranch_of_parts hParts b.label
  rw [branch, Branch.toValue, Branch.toOutline,
    Outline.toValue, ← branchData, hBranch]
  rfl

-- The least that a branch and a leaf are written with.
example :
    branch
        (.record
          [("label", .str ""),
            ("children",
              .list
                [.record
                  [("label", .str ""),
                    ("children", .list [])],
                 .record
                  [("token", .str ""),
                    ("isLeaf", .bool true)]])]) =
      .ok
        ⟨"", [.branch "" [],
          .leaf ⟨"", none, none, none, none⟩]⟩ := rfl

end Schema

end SyntaxOutline
