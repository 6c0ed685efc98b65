import SyntaxOutline.Proofs.Registry.Scanning
import Mathlib.Data.List.Basic

/-
  Which documents are taken for configurations.

  Loading promises a mapping with all required fields, or one of
  the failures it speaks of: there is no file, the file is no
  YAML, or fields are missing.  But it only asks whether the
  names of the fields are found in the document, and what that
  means depends on the kind of the document: a list is asked for
  an element and a text for a part of it, while a number or a
  date cannot be asked at all.  So the promise is kept for
  mappings, and for documents that count as nothing; a document
  of another kind breaks it when all names are found in it, or
  when it cannot be asked.

  Key definitions include:
    * `Value.Mentions`
    * `Value.isSearchable`
    * `Registry.IsComplete`
    * `Registry.IsAsPromised`

  Main statements:
    * `Value.holds_eq_ok_iff`
    * `Registry.missingFields_of_isSearchable`
    * `Registry.configOf_of_isSearchable`
    * `Registry.isAsPromised_load_iff`
-/

------------------------------------------------------------
-- Texts Within Values
------------------------------------------------------------

namespace SyntaxOutline

namespace Value

/- The value is a mapping. -/
def isMapping
    (v : Value) : Bool :=
  match v.content with
  | .map _ => true
  | _ => false

/- The value is of a kind that texts can be found in. -/
def isSearchable
    (v : Value) : Bool :=
  match v.content with
  | .map _ | .list _ | .set _ | .pair _ _ | .str _ | .halved _ =>
      true
  | _ => false

/-
  A text is a key of a mapping, an element of a collection, or
  a part of another text.
-/
def Mentions
    (v : Value)
    (text : String) : Prop :=
  match v.content with
  | .map entries => ∃ value, (.str text, value) ∈ entries
  | .list items => .str text ∈ items
  | .set items => .str text ∈ items
  | .pair a b => .str text ∈ [a, b]
  | .str s => text.toList <:+: s.toList
  | .halved points => Text.points text <:+: points
  | _ => False

theorem text?_eq_some_iff
    (v : Value)
    (text : String) :
    v.text? = some text ↔ v = .str text := by
  cases v <;> simp [text?]

theorem isSome_fieldOf?_iff
    (text : String)
    (entries : List (Value × Value)) :
    (fieldOf? text entries).isSome = true ↔
      ∃ value, (.str text, value) ∈ entries := by
  induction entries with
  | nil => simp [fieldOf?]
  | cons entry entries ih =>
      rcases entry with ⟨key, value⟩
      have hCons :
          (fieldOf? text ((key, value) :: entries)).isSome =
            ((fieldOf? text entries).isSome ||
              decide (key.text? = some text)) := by
        cases hLater : fieldOf? text entries with
        | some later => simp [fieldOf?, hLater]
        | none =>
            by_cases hKey : key.text? = some text
            · simp [fieldOf?, hLater, hKey]
            · simp [fieldOf?, hLater, hKey]
      rw [hCons, Bool.or_eq_true, ih, decide_eq_true_iff,
        text?_eq_some_iff]
      constructor
      · rintro (⟨found, hFound⟩ | rfl)
        · exact ⟨found, List.mem_cons_of_mem _ hFound⟩
        · exact ⟨value, List.mem_cons_self⟩
      · rintro ⟨found, hFound⟩
        rcases List.mem_cons.mp hFound with hFirst | hRest
        · exact .inr (congrArg Prod.fst hFirst).symm
        · exact .inl ⟨found, hRest⟩

theorem any_text?_iff
    (text : String)
    (items : List Value) :
    (items.any (·.text? = some text)) = true ↔
      .str text ∈ items := by
  simp [text?_eq_some_iff]

theorem occursIn_iff
    (text row : List Nat) :
    occursIn text row = true ↔ text <:+: row := by
  induction row with
  | nil => simp [occursIn]
  | cons c row ih =>
      rw [occursIn, Bool.or_eq_true,
        List.isPrefixOf_iff_prefix, ih, List.infix_cons_iff]

theorem points_infix_iff
    (text other : String) :
    Text.points text <:+: Text.points other ↔
      text.toList <:+: other.toList := by
  rw [Text.points, Text.points, List.infix_map_iff]
  constructor
  · rintro ⟨part, hPart, hEq⟩
    have hInjective : Function.Injective Char.toNat :=
      fun _ _ hSame => Char.toNat_inj.mp hSame
    rw [List.map_injective_iff.mpr hInjective hEq]
    exact hPart
  · intro hPart
    exact ⟨text.toList, hPart, rfl⟩

/- A test that decides a property answers as it holds. -/
theorem answer_eq_ok_iff
    {test isThere : Bool}
    {p : Prop}
    (hTest : test = true ↔ p) :
    (.ok test : Except Misuse Bool) = .ok isThere ↔
      true = true ∧ (isThere = true ↔ p) := by
  rw [← hTest, Except.ok.injEq, Bool.eq_iff_iff]
  simp [iff_comm]

/- What asking for a text answers, if it answers. -/
theorem holds_eq_ok_iff
    (v : Value)
    (text : String)
    (isThere : Bool) :
    v.holds text = .ok isThere ↔
      v.isSearchable = true ∧
        (isThere = true ↔ v.Mentions text) := by
  unfold holds isSearchable Mentions
  cases v.content with
  | map entries =>
      exact answer_eq_ok_iff (isSome_fieldOf?_iff text entries)
  | list items =>
      exact answer_eq_ok_iff (any_text?_iff text items)
  | set items =>
      exact answer_eq_ok_iff (any_text?_iff text items)
  | pair a b =>
      exact answer_eq_ok_iff (any_text?_iff text [a, b])
  | str s =>
      exact answer_eq_ok_iff ((occursIn_iff _ _).trans
        (points_infix_iff text s))
  | halved points =>
      exact answer_eq_ok_iff (occursIn_iff _ points)
  | null | bool | int | float | nan | bytes | moment | tied
    | loop => simp

/- What cannot be asked for one text can be asked for none. -/
theorem holds_of_not_isSearchable
    {v : Value}
    (hSearchable : v.isSearchable = false) :
    ∃ cause, ∀ text, v.holds text = .error cause := by
  unfold isSearchable at hSearchable
  unfold holds
  cases hContent : v.content with
  | map | list | set | pair | str | halved =>
      rw [hContent] at hSearchable
      exact absurd hSearchable (by simp)
  | null | bool | int | float | nan | bytes | moment | tied
    | loop => exact ⟨_, fun _ => rfl⟩

/- Only where texts can be found is a text found. -/
theorem mentions_iff_holds
    (v : Value)
    (text : String) :
    v.Mentions text ↔ v.holds text = .ok true := by
  rw [holds_eq_ok_iff]
  constructor
  · intro hMentions
    refine ⟨?_, fun _ => hMentions, fun _ => rfl⟩
    unfold Mentions at hMentions
    unfold isSearchable
    cases hContent : v.content with
    | map | list | set | pair | str | halved => rfl
    | null | bool | int | float | nan | bytes | moment
      | tied | loop =>
        rw [hContent] at hMentions
        exact hMentions.elim
  · rintro ⟨-, hMentions⟩
    exact hMentions.mp rfl

instance
    (v : Value)
    (text : String) :
    Decidable (v.Mentions text) :=
  decidable_of_iff _ (mentions_iff_holds v text).symm

theorem isSearchable_of_isMapping
    {v : Value}
    (hMapping : v.isMapping = true) :
    v.isSearchable = true := by
  unfold isMapping at hMapping
  unfold isSearchable
  split at hMapping
  · next entries hContent => rw [hContent]
  · cases hMapping

end Value

------------------------------------------------------------
-- What Loading Promises
------------------------------------------------------------

namespace Registry

/- A mapping that has all required fields. -/
def IsComplete
    (config : Value) : Prop :=
  config.isMapping = true ∧
    ∀ field ∈ requiredFields, config.Mentions field

instance
    (config : Value) :
    Decidable (IsComplete config) := by
  unfold IsComplete
  infer_instance

/- The failures that loading speaks of. -/
def LoadFailure.isPromised : LoadFailure → Bool
  | .notFound _ => true
  | .missing _ _ => true
  | .unreadable cause => isYamlFault cause
  | .file _ => false
  | .misuse _ => false

/- A complete configuration, or a failure that is spoken of. -/
def IsAsPromised : Except LoadFailure Value → Prop
  | .ok config => IsComplete config
  | .error failure => failure.isPromised = true

instance : (result : Except LoadFailure Value) →
    Decidable (IsAsPromised result)
  | .ok config => inferInstanceAs (Decidable (IsComplete config))
  | .error failure =>
      inferInstanceAs (Decidable (failure.isPromised = true))

------------------------------------------------------------
-- Fields Of A Document
------------------------------------------------------------

/- The missing fields are those that are not found. -/
theorem missingFields_of_isSearchable
    {config : Value}
    (hSearchable : config.isSearchable = true)
    (fields : List String) :
    missingFields config fields =
      .ok (fields.filter fun field =>
        ¬ config.Mentions field) := by
  induction fields with
  | nil => rfl
  | cons field fields ih =>
      have hAnswer :
          config.holds field =
            .ok (decide (config.Mentions field)) :=
        (config.holds_eq_ok_iff field _).mpr
          ⟨hSearchable, decide_eq_true_iff⟩
      rw [missingFields, hAnswer, ih]
      by_cases hThere : config.Mentions field
      · simp [hThere, bind, Except.bind, pure, Except.pure]
      · simp [hThere, bind, Except.bind, pure, Except.pure]

theorem missingFields_of_not_isSearchable
    {config : Value}
    (hSearchable : config.isSearchable = false) :
    ∃ cause,
      missingFields config requiredFields =
        .error cause := by
  rcases Value.holds_of_not_isSearchable hSearchable with
    ⟨cause, hCause⟩
  refine ⟨cause, ?_⟩
  rw [requiredFields, missingFields, hCause]
  rfl

variable {workshop : Workshop} {path text : String}
variable {document : Value}

/-
  A document that names can be found in is taken if they are
  all there, whatever its kind.
-/
theorem configOf_of_isSearchable
    (hRead : workshop.read path text = .ok document)
    (hSearchable : document.orEmpty.isSearchable = true) :
    configOf workshop path text =
      if ∀ field ∈ requiredFields,
          document.orEmpty.Mentions field then
        .ok document.orEmpty
      else
        .error (.missing
          (requiredFields.filter fun field =>
            ¬ document.orEmpty.Mentions field)
          path) := by
  simp only [configOf, hRead,
    missingFields_of_isSearchable hSearchable, bind,
    Except.bind, Except.mapError, List.isEmpty_iff,
    List.filter_eq_nil_iff, decide_not, Bool.not_eq_true',
    decide_eq_false_iff_not, not_not]
  rfl

/- A document of any other kind is misused. -/
theorem configOf_of_not_isSearchable
    (hRead : workshop.read path text = .ok document)
    (hSearchable : document.orEmpty.isSearchable = false) :
    ∃ cause,
      configOf workshop path text =
        .error (.misuse cause) := by
  rcases missingFields_of_not_isSearchable hSearchable with
    ⟨cause, hCause⟩
  refine ⟨cause, ?_⟩
  simp only [configOf, hRead, hCause, bind, Except.bind,
    Except.mapError]

/- A document that counts as nothing lacks all fields. -/
theorem configOf_of_isEmpty
    (hRead : workshop.read path text = .ok document)
    (hEmpty : document.isEmpty = true) :
    configOf workshop path text =
      .error (.missing requiredFields path) := by
  have hNothing : document.orEmpty = .map [] := by
    rw [Value.orEmpty, if_pos hEmpty]
  rw [configOf_of_isSearchable hRead (by rw [hNothing]; rfl),
    hNothing]
  rfl

------------------------------------------------------------
-- Loading A Document
------------------------------------------------------------

/-
  A document that counts as something is the configuration, or
  lacks a required name, or cannot be searched for any.
-/
theorem configOf_cases
    (hRead : workshop.read path text = .ok document)
    (hSomething : document.isEmpty = false) :
    (document.isSearchable = true ∧
        (∀ field ∈ requiredFields,
          document.Mentions field) ∧
        configOf workshop path text = .ok document) ∨
      (document.isSearchable = true ∧
        (∃ field ∈ requiredFields,
          ¬ document.Mentions field) ∧
        ∃ fields,
          configOf workshop path text =
            .error (.missing fields path)) ∨
      (document.isSearchable = false ∧
        ∃ cause,
          configOf workshop path text =
            .error (.misuse cause)) := by
  have hSelf : document.orEmpty = document := by
    rw [Value.orEmpty, hSomething]
    rfl
  cases hSearchable : document.isSearchable with
  | false =>
      rw [← hSelf] at hSearchable
      exact .inr (.inr ⟨rfl,
        configOf_of_not_isSearchable hRead hSearchable⟩)
  | true =>
      rw [← hSelf] at hSearchable
      have hConfig :=
        configOf_of_isSearchable hRead hSearchable
      rw [hSelf] at hConfig
      by_cases hAll :
          ∀ field ∈ requiredFields, document.Mentions field
      · rw [if_pos hAll] at hConfig
        exact .inl ⟨rfl, hAll, hConfig⟩
      · rw [if_neg hAll] at hConfig
        have hLacks :
            ∃ field ∈ requiredFields,
              ¬ document.Mentions field := by
          simpa using hAll
        exact .inr (.inl ⟨rfl, hLacks, _, hConfig⟩)

theorem isAsPromised_configOf_iff
    (hRead : workshop.read path text = .ok document) :
    IsAsPromised (configOf workshop path text) ↔
      document.isEmpty = true ∨
        document.isMapping = true ∨
        document.isSearchable = true ∧
          ∃ field ∈ requiredFields,
            ¬ document.Mentions field := by
  cases hSomething : document.isEmpty with
  | true =>
      rw [configOf_of_isEmpty hRead hSomething]
      simp [IsAsPromised, LoadFailure.isPromised]
  | false =>
      rcases configOf_cases hRead hSomething with
        ⟨hSearchable, hAll, hConfig⟩ |
          ⟨hSearchable, hLacks, fields, hConfig⟩ |
          ⟨hSearchable, cause, hConfig⟩
      · rw [hConfig]
        constructor
        · intro hComplete
          exact .inr (.inl hComplete.1)
        · rintro (hFalse | hMapping | ⟨-, field, hField, hLacks⟩)
          · cases hFalse
          · exact ⟨hMapping, hAll⟩
          · exact absurd (hAll field hField) hLacks
      · rw [hConfig]
        constructor
        · intro _
          exact .inr (.inr ⟨hSearchable, hLacks⟩)
        · intro _
          rfl
      · rw [hConfig]
        constructor
        · intro hPromised
          cases hPromised
        · rintro (hFalse | hMapping | ⟨hTrue, -⟩)
          · cases hFalse
          · rw [Value.isSearchable_of_isMapping hMapping]
              at hSearchable
            cases hSearchable
          · rw [hTrue] at hSearchable
            cases hSearchable

variable {files : FileTree} {r : Registry}
variable {directory : Route}

/- Without a known configuration the file decides. -/
theorem result_load_of_file
    (hFresh :
      r.configs.lookup (configPath directory) = none)
    (hFollowed :
      files.isTooLong (directory.child configName) = false)
    (hFile :
      files.find? (directory.child configName) =
        some (.file text)) :
    (r.load workshop files directory).result =
      configOf workshop (configPath directory) text := by
  rw [result_load, hFresh]
  simp only [readConfig, hFollowed, hFile]
  rfl

/-
  A file that is read for the first time, and that the reader
  gives a value for or finds to be no YAML, is loaded as
  promised exactly when its document counts as nothing, is a
  mapping, or can be searched but lacks a required name.  Any
  document that counts as something is itself the configuration
  exactly when all required names are found in it, and it is
  misused exactly when it is of a kind that cannot be searched.
-/
theorem isAsPromised_load_iff
    (hFresh :
      r.configs.lookup (configPath directory) = none)
    (hFollowed :
      files.isTooLong (directory.child configName) = false)
    (hFile :
      files.find? (directory.child configName) =
        some (.file text))
    (hReader :
      ∀ cause,
        workshop.read (configPath directory) text =
            .error cause →
          isYamlFault cause = true) :
    (IsAsPromised (r.load workshop files directory).result ↔
      ∀ document,
        workshop.read (configPath directory) text =
            .ok document →
          document.isEmpty = true ∨
            document.isMapping = true ∨
            document.isSearchable = true ∧
              ∃ field ∈ requiredFields,
                ¬ document.Mentions field) ∧
      ∀ document,
        workshop.read (configPath directory) text =
            .ok document →
          document.isEmpty = false →
            ((r.load workshop files directory).result =
                .ok document ↔
              document.isSearchable = true ∧
                ∀ field ∈ requiredFields,
                  document.Mentions field) ∧
            ((∃ cause,
              (r.load workshop files directory).result =
                .error (.misuse cause)) ↔
              document.isSearchable = false) := by
  rw [result_load_of_file hFresh hFollowed hFile]
  constructor
  · cases hRead :
        workshop.read (configPath directory) text with
    | error cause =>
        have hFailed :
            configOf workshop (configPath directory) text =
              .error (.unreadable cause) := by
          simp [configOf, hRead, bind, Except.bind,
            Except.mapError]
        rw [hFailed]
        simp [IsAsPromised, LoadFailure.isPromised,
          hReader cause hRead]
    | ok document =>
        rw [isAsPromised_configOf_iff hRead]
        simp
  · intro document hRead hSomething
    rcases configOf_cases hRead hSomething with
      ⟨hSearchable, hAll, hConfig⟩ |
        ⟨hSearchable, ⟨field, hField, hLacks⟩, fields, hConfig⟩ |
        ⟨hSearchable, cause, hConfig⟩
    · simpa [hConfig, hSearchable] using hAll
    · rw [hConfig]
      constructor
      · constructor
        · intro hReturned
          cases hReturned
        · rintro ⟨-, hAll⟩
          exact absurd (hAll field hField) hLacks
      · simp [hSearchable]
    · simp [hConfig, hSearchable]

------------------------------------------------------------
-- Documents Of Several Kinds
------------------------------------------------------------

/- A directory whose configuration file has a given text. -/
def documentFiles
    (text : String) : FileTree :=
  ⟨[(["a"], .directory), (["a", configName], .file text)]⟩

/- What the text is loaded as, with the reader of YAML. -/
def loadDocument
    (text : String) : Except LoadFailure Value :=
  (empty.load (.ofCatalog []) (documentFiles text)
    (.ofText "a")).result

def mappingText : String :=
  "{name: a, version: 1, file_extensions: [], plugin_class: p}"

/- A list whose elements are the names of the fields. -/
def listText : String :=
  "[name, version, file_extensions, plugin_class]\n"

/- One text that the names of the fields are parts of. -/
def wordsText : String :=
  "name version file_extensions plugin_class\n"

def numberText : String :=
  "5\n"

/- A mapping with all fields is returned as it was read. -/
theorem loadDocument_of_mappingText :
    IsAsPromised (loadDocument mappingText) ∧
      ∃ config,
        Yaml.load "a/config.yaml" mappingText = .ok config ∧
          loadDocument mappingText = .ok config := by
  have hDocument :
      ((Yaml.load "a/config.yaml" mappingText).toOption.any
        fun document =>
          !document.isEmpty && decide (IsComplete document)) =
        true := by
    decide +kernel
  cases hLoad :
      Yaml.load "a/config.yaml" mappingText with
  | error cause =>
      rw [hLoad] at hDocument
      cases hDocument
  | ok document =>
      rw [hLoad] at hDocument
      rcases Bool.and_eq_true_iff.mp hDocument with
        ⟨hSomething, hComplete⟩
      rw [Bool.not_eq_true'] at hSomething
      rw [decide_eq_true_iff] at hComplete
      have hRead :
          (Workshop.ofCatalog []).read
              (configPath (.ofText "a")) mappingText =
            .ok document := by
        have hPath :
            configPath (.ofText "a") = "a/config.yaml" := by
          decide
        have hText :
            Text.asRead mappingText = mappingText := by
          decide +kernel
        simp only [Workshop.ofCatalog, hPath, hText, hLoad]
      have hReader :
          ∀ cause,
            (Workshop.ofCatalog []).read
                (configPath (.ofText "a")) mappingText =
                .error cause →
              isYamlFault cause = true := by
        intro cause hFailed
        rw [hRead] at hFailed
        cases hFailed
      rcases @isAsPromised_load_iff (.ofCatalog [])
          mappingText (documentFiles mappingText) empty
          (.ofText "a") rfl (by decide) (by decide) hReader with
        ⟨hPromised, hKinds⟩
      unfold loadDocument
      constructor
      · rw [hPromised]
        intro other hOther
        rw [hRead] at hOther
        cases hOther
        exact .inr (.inl hComplete.1)
      · refine ⟨document, rfl, ?_⟩
        rw [(hKinds document hRead hSomething).1]
        exact ⟨Value.isSearchable_of_isMapping hComplete.1,
          hComplete.2⟩

/-
  A list and a text are taken for configurations, and a number
  is asked for fields that it cannot have.
-/
theorem not_isAsPromised_loadDocument :
    (loadDocument listText).toOption.map Value.kindName =
        some "list" ∧
      (loadDocument wordsText).toOption.map Value.kindName =
        some "str" ∧
      (loadDocument numberText).toOption.isNone = true ∧
      ∀ text ∈ [listText, wordsText, numberText],
        (Yaml.load "a/config.yaml" text).isOk = true ∧
          ¬ IsAsPromised (loadDocument text) := by
  decide +kernel

end Registry

end SyntaxOutline
