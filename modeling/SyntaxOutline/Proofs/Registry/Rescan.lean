import SyntaxOutline.Proofs.Registry.Entering
import SyntaxOutline.Proofs.Registry.Isolation

/-
  Scanning a directory twice.

  The second scan loads and builds the same plugins, so it does
  to the tables what the first one did.  While it runs, shared
  extensions move away and back; only when it is through are
  the tables what they were.  A plugin that cannot be taken in
  stops both scans alike.  It leaves nothing behind, unless the
  fault is an integer that is too long for the log: that one may
  come up when the plugin is half registered.

  Key definitions include:
    * `Registry.BlamesLong`
    * `Registry.AllListTexts`

  Main statements:
    * `Registry.exists_proper_or_fails`
    * `Registry.takeInAll_append_cases`
    * `Registry.takeInAll_takeInAll`
    * `Registry.exists_takeInAll_iff_proper`
    * `Registry.sameTables_scan_scan`
    * `Registry.scan_scan`
-/

------------------------------------------------------------
-- Plugins That Can Never Be Taken In
------------------------------------------------------------

namespace SyntaxOutline

namespace Registry

/- If there is a fault, a long integer is to blame. -/
def BlamesLong
    {α : Type}
    (outcome : Except Misuse α) : Prop :=
  ∀ cause, outcome = .error cause → cause = .longInteger

theorem blamesLong_ok
    {α : Type}
    (a : α) :
    BlamesLong (.ok a) := by
  rintro cause ⟨⟩

theorem BlamesLong.bind
    {α β : Type}
    {outcome : Except Misuse α}
    {next : α → Except Misuse β}
    (hOutcome : BlamesLong outcome)
    (hNext : ∀ a, BlamesLong (next a)) :
    BlamesLong (outcome >>= next) := by
  cases outcome with
  | error cause =>
      rintro other ⟨⟩
      exact hOutcome cause rfl
  | ok a => exact hNext a

theorem blamesLong_inMessage
    (v : Value) :
    BlamesLong v.inMessage := by
  rw [Value.inMessage]
  split
  · rintro cause ⟨⟩
    rfl
  · exact blamesLong_ok _

theorem blamesLong_replacedRecords
    (isThere : Bool)
    (language : Value) :
    BlamesLong (replacedRecords isThere language) := by
  rw [replacedRecords]
  split
  · exact (blamesLong_inMessage language).bind
      fun _ => blamesLong_ok _
  · exact blamesLong_ok _

theorem blamesLong_movedRecords
    (previous : Option Value)
    (extension language : Value) :
    BlamesLong
      (movedRecords previous extension language) := by
  unfold movedRecords
  split
  · exact blamesLong_ok _
  · exact blamesLong_ok _
  · next other _ =>
      split
      · exact (blamesLong_inMessage extension).bind fun _ =>
          (blamesLong_inMessage other).bind fun _ =>
            (blamesLong_inMessage language).bind fun _ =>
              blamesLong_ok _
      · exact blamesLong_ok _

theorem blamesLong_registeredRecord
    (language extensions : Value) :
    BlamesLong (registeredRecord language extensions) :=
  (blamesLong_inMessage language).bind fun _ =>
    (blamesLong_inMessage extensions).bind fun _ =>
      blamesLong_ok _

theorem blamesLong_startedRecord
    (config : Value) :
    BlamesLong (startedRecord config) :=
  (blamesLong_inMessage _).bind fun _ =>
    (blamesLong_inMessage _).bind fun _ =>
      blamesLong_ok _

theorem blamesLong_addExtensions
    {items : List Value}
    (hTexts : ∀ item ∈ items, item.isText = true)
    (language : Value)
    (r : Registry)
    (logs : List Log.Record) :
    BlamesLong
      (addExtensions language r logs items).result := by
  induction items generalizing r logs with
  | nil => exact blamesLong_ok ()
  | cons item items ih =>
      rw [List.forall_mem_cons] at hTexts
      rw [addExtensions_cons hTexts.1]
      have hMoved :=
        blamesLong_movedRecords
          (r.extensions.get? item.keyOrNull) item language
      split
      · next cause hFailed =>
          rintro other ⟨⟩
          exact hMoved cause hFailed
      · exact ih hTexts.2 _ _

theorem blamesLong_finish
    {step : Step (Except Misuse Unit)}
    {last : Except Misuse Log.Record}
    (hStep : BlamesLong step.result)
    (hLast : BlamesLong last) :
    BlamesLong (finish step last).result := by
  rcases step with ⟨r, logs, result⟩
  cases result with
  | error cause => exact hStep
  | ok =>
      cases last with
      | error cause =>
          rintro other ⟨⟩
          exact hLast cause rfl
      | ok last => exact blamesLong_ok ()

/- Without the record that ends it, nothing is registered. -/
theorem result_finish_ne_ok
    (step : Step (Except Misuse Unit))
    (cause : Misuse) :
    (finish step (.error cause)).result ≠ .ok () := by
  rcases step with ⟨r, logs, result⟩
  cases result with
  | error other => rintro ⟨⟩
  | ok => rintro ⟨⟩

section

variable {plugin : Plugin} {language : Value} {key : Key}
variable {items : List Value}

/- A key and texts can be registered but for long integers. -/
theorem blamesLong_register
    (hLanguage : plugin.language = .ok language)
    (hKey : language.keyOrMisuse = .ok key)
    (hExtensions : plugin.extensions = .ok (.list items))
    (hTexts : ∀ item ∈ items, item.isText = true)
    (r : Registry) :
    BlamesLong (r.register plugin).result := by
  rw [register_eq hLanguage hKey hExtensions]
  have hReplaced :=
    blamesLong_replacedRecords (r.plugins.has key) language
  split
  · next cause hFailed =>
      rintro other ⟨⟩
      exact hReplaced cause hFailed
  · exact blamesLong_finish
      (blamesLong_addExtensions hTexts _ _ _)
      (blamesLong_registeredRecord _ _)

/- A language that cannot be written is never registered. -/
theorem register_of_hasLong
    (hLanguage : plugin.language = .ok language)
    (hKey : language.keyOrMisuse = .ok key)
    (hLong : language.hasLong = true)
    (hExtensions : plugin.extensions = .ok (.list items))
    (hTexts : ∀ item ∈ items, item.isText = true)
    (r : Registry) :
    (r.register plugin).result = .error .longInteger := by
  have hBlame :=
    blamesLong_register hLanguage hKey hExtensions hTexts r
  cases hResult : (r.register plugin).result with
  | error cause => rw [hBlame cause hResult]
  | ok =>
      have hLast :
          registeredRecord language (.list items) =
            .error .longInteger := by
        rw [registeredRecord,
          Value.inMessage_of_hasLong hLong]
        rfl
      rw [register_eq hLanguage hKey hExtensions, hLast]
        at hResult
      split at hResult
      · cases hResult
      · exact absurd hResult (result_finish_ne_ok _ _)

end

/-
  A plugin with a list of texts for its extensions is proper, or
  it fails alike in every registry.  Unless a long integer is to
  blame, it then leaves nothing behind.
-/
theorem exists_proper_or_fails
    {plugin : Plugin}
    {items : List Value}
    (hExtensions : plugin.extensions = .ok (.list items))
    (hTexts : ∀ item ∈ items, item.isText = true)
    (config : Value) :
    (∃ p : Proper, p.made = (plugin, config)) ∨
      ∃ cause,
        (∀ r : Registry,
          (r.takeIn plugin config).result =
            .error cause) ∧
          (cause = .longInteger ∨
            ∀ r : Registry,
              (r.takeIn plugin config).registry = r) := by
  cases hLanguage : plugin.language with
  | error cause =>
      refine .inr ⟨cause, fun r => ?_, .inr fun r => ?_⟩
      · simp [takeIn, register, hLanguage, bind, Except.bind]
      · simp [takeIn, register, hLanguage, bind, Except.bind]
  | ok language =>
      cases hKey : language.keyOrMisuse with
      | error cause =>
          refine .inr ⟨cause, fun r => ?_, .inr fun r => ?_⟩
          · simp [takeIn, register, hLanguage, hKey, bind,
              Except.bind]
          · simp [takeIn, register, hLanguage, hKey, bind,
              Except.bind]
      | ok key =>
          cases hLong : language.hasLong with
          | true =>
              refine .inr ⟨.longInteger, fun r => ?_,
                .inl rfl⟩
              rw [takeIn, register_of_hasLong hLanguage hKey
                hLong hExtensions hTexts]
              rfl
          | false =>
              cases hStarted : startedRecord config with
              | ok started =>
                  exact .inl ⟨⟨plugin, config, language, key,
                    items, started, hLanguage, hKey, hLong,
                    hExtensions, hTexts, hStarted⟩, rfl⟩
              | error cause =>
                  refine .inr ⟨.longInteger, fun r => ?_,
                    .inl rfl⟩
                  have hBlame :=
                    blamesLong_register hLanguage hKey
                      hExtensions hTexts r
                  cases hResult :
                      (r.register plugin).result with
                  | error other =>
                      simp [takeIn, hResult,
                        hBlame other hResult, bind,
                        Except.bind]
                  | ok =>
                      simp [takeIn, hResult, hLanguage,
                        hStarted,
                        blamesLong_startedRecord config cause
                          hStarted, bind, Except.bind]

------------------------------------------------------------
-- Taking In Many Plugins
------------------------------------------------------------

/- The extensions of all plugins are lists of texts. -/
def AllListTexts
    (made : List (Plugin × Value)) : Prop :=
  ∀ m ∈ made, ∃ items,
    m.1.extensions = .ok (.list items) ∧
      ∀ item ∈ items, item.isText = true

theorem SameTables.takeInAll
    {r s : Registry}
    (hSame : SameTables r s)
    (made : List (Plugin × Value)) :
    (r.takeInAll made).2 = (s.takeInAll made).2 ∧
      SameTables (r.takeInAll made).1
        (s.takeInAll made).1 := by
  induction made generalizing r s with
  | nil => exact ⟨rfl, hSame⟩
  | cons m made ih =>
      rcases m with ⟨plugin, config⟩
      rcases hSame.takeIn plugin config with
        ⟨hTurn, hTaken⟩
      rw [Registry.takeInAll, Registry.takeInAll]
      dsimp only
      rw [hTurn]
      cases (s.takeIn plugin config).result with
      | error cause => exact ⟨rfl, hTaken⟩
      | ok turn =>
          rcases ih hTaken with ⟨hOthers, hLast⟩
          exact ⟨by rw [hOthers], hLast⟩

theorem takeInAll_of_error
    {r : Registry}
    {m : Plugin × Value}
    {cause : Misuse}
    (hFailed : (r.takeIn m.1 m.2).result = .error cause)
    (rest : List (Plugin × Value)) :
    r.takeInAll (m :: rest) =
      ((r.takeIn m.1 m.2).registry, .error cause) := by
  rw [takeInAll]
  dsimp only
  rw [hFailed]

/- Proper plugins are all entered, or one of them is stuck. -/
theorem takeInAll_append_cases
    (r : Registry)
    (ps : List Proper)
    (rest : List (Plugin × Value)) :
    (r.takeInAll (ps.map (·.made) ++ rest) =
      (((r.enterAll ps).takeInAll rest).1,
        ((r.enterAll ps).takeInAll rest).2.map
          (ps.map (·.language) ++ ·))) ∨
      ∃ front p back,
        ps = front ++ p :: back ∧
          (r.enterAll front).IsStuck p ∧
          r.takeInAll (ps.map (·.made) ++ rest) =
            (((r.enterAll front).takeIn p.plugin
                p.config).registry,
              .error .longInteger) := by
  induction ps generalizing r with
  | nil =>
      left
      rw [List.map_nil, List.nil_append, enterAll_nil]
      rcases r.takeInAll rest with ⟨last, outcome⟩
      cases outcome with
      | error cause => rfl
      | ok languages => rfl
  | cons p ps ih =>
      rw [List.map_cons, List.cons_append]
      rcases takeIn_cases r p with
        ⟨-, hTurn, hTaken⟩ | ⟨hTurn, hStuck⟩
      · have hCons :
            r.takeInAll
                (p.made :: (ps.map (·.made) ++ rest)) =
              (((r.enter p).takeInAll
                  (ps.map (·.made) ++ rest)).1,
                ((r.enter p).takeInAll
                  (ps.map (·.made) ++ rest)).2.map
                    (p.language :: ·)) := by
          rw [Proper.made, takeInAll]
          dsimp only
          rw [hTurn, hTaken]
        rw [hCons]
        rcases ih (r.enter p) with
          hAll | ⟨front, q, back, rfl, hStuck, hFailed⟩
        · left
          rw [hAll, enterAll_cons]
          rcases ((r.enter p).enterAll ps).takeInAll
              rest with ⟨last, outcome⟩
          cases outcome with
          | error cause => rfl
          | ok languages => rfl
        · right
          refine ⟨p :: front, q, back, rfl, hStuck, ?_⟩
          rw [hFailed]
          rfl
      · right
        exact ⟨[], p, ps, rfl, hStuck,
          takeInAll_of_error hTurn _⟩

/- After they were entered once, no plugin is stuck. -/
theorem takeInAll_enterAll_append
    (r : Registry)
    (ps : List Proper)
    (rest : List (Plugin × Value)) :
    (r.enterAll ps).takeInAll (ps.map (·.made) ++ rest) =
      (((r.enterAll ps).takeInAll rest).1,
        ((r.enterAll ps).takeInAll rest).2.map
          (ps.map (·.language) ++ ·)) := by
  rcases takeInAll_append_cases (r.enterAll ps) ps
      rest with
    hAll | ⟨front, p, back, hSplit, hStuck, -⟩
  · rw [hAll, enterAll_enterAll]
  · have hMem : p ∈ ps := by
      rw [hSplit]
      simp
    refine absurd hStuck (not_isStuck fun item hItem => ?_)
    exact (names_enterAll r hMem hItem).enterAll front

/- A plugin that was stuck is stuck again. -/
theorem IsStuck.takeIn_enterAll
    {r s : Registry}
    {front : List Proper}
    {p : Proper}
    (hStuck : (r.enterAll front).IsStuck p)
    (hLast :
      s =
        ((r.enterAll front).takeIn p.plugin
          p.config).registry) :
    ((s.enterAll front).takeIn p.plugin p.config).result =
      .error .longInteger := by
  rcases hStuck with ⟨item, hItem, hLead, hStays⟩
  rw [← hLast] at hStays
  rcases takeIn_cases (s.enterAll front) p with
    ⟨hLeads, -, -⟩ | ⟨hFailed, -⟩
  · -- Nobody before it lists the extension, so it leads where
    -- it led the first time.
    rcases get?_enterAll r front item.keyOrNull with
      ⟨q, -, -, hFrom⟩ | ⟨hNobody, -⟩
    · rw [hFrom] at hLead
      rw [canLead_of_not_hasLong (by
        rintro other ⟨⟩
        exact q.language_short)] at hLead
      cases hLead
    · rcases get?_enterAll s front item.keyOrNull with
        ⟨q, hMem, ⟨other, hOther, hKey⟩, -⟩ | ⟨-, hStill⟩
      · exact absurd hKey (hNobody q hMem other hOther)
      · have hLed := hLeads item hItem
        rw [hStill, hStays, hLead] at hLed
        cases hLed
  · exact hFailed

------------------------------------------------------------
-- Taking In The Same Plugins Twice
------------------------------------------------------------

/-
  Plugins are proper up to the last, or up to one that fails
  alike in every registry.
-/
theorem exists_proper_start
    {made : List (Plugin × Value)}
    (hLists : AllListTexts made) :
    ∃ (ps : List Proper) (rest : List (Plugin × Value)),
      made = ps.map (·.made) ++ rest ∧
        (rest = [] ∨
          ∃ m back cause,
            rest = m :: back ∧
              (∀ r : Registry,
                (r.takeIn m.1 m.2).result =
                  .error cause) ∧
              (cause = .longInteger ∨
                ∀ r : Registry,
                  (r.takeIn m.1 m.2).registry = r)) := by
  induction made with
  | nil => exact ⟨[], [], rfl, .inl rfl⟩
  | cons m made ih =>
      rw [AllListTexts, List.forall_mem_cons] at hLists
      rcases hLists with
        ⟨⟨items, hExtensions, hTexts⟩, hLists⟩
      rcases exists_proper_or_fails hExtensions hTexts
          m.2 with
        ⟨p, hProper⟩ | ⟨cause, hFails, hBlame⟩
      · rcases ih hLists with ⟨ps, rest, rfl, hRest⟩
        refine ⟨p :: ps, rest, ?_, hRest⟩
        rw [List.map_cons, hProper]
        rfl
      · exact ⟨[], m :: made, rfl,
          .inr ⟨m, made, cause, rfl, hFails, hBlame⟩⟩

/-
  Taking in plugins a second time comes to the same result, a
  list or a fault.  Unless a long integer is to blame for a
  fault, it changes nothing.
-/
theorem takeInAll_takeInAll
    (r : Registry)
    {made : List (Plugin × Value)}
    (hLists : AllListTexts made) :
    ((r.takeInAll made).1.takeInAll made).2 =
        (r.takeInAll made).2 ∧
      ((r.takeInAll made).2 ≠ .error .longInteger →
        ((r.takeInAll made).1.takeInAll made).1 =
          (r.takeInAll made).1) := by
  rcases exists_proper_start hLists with
    ⟨ps, rest, rfl, hRest⟩
  rcases takeInAll_append_cases r ps rest with
    hAll | ⟨front, p, back, rfl, hStuck, hFailed⟩
  · rcases hRest with
      rfl | ⟨m, behind, cause, rfl, hFails, hBlame⟩
    · have hFirst :
          r.takeInAll (ps.map (·.made) ++ []) =
            (r.enterAll ps,
              .ok (ps.map (·.language) ++ [])) := hAll
      rw [hFirst, takeInAll_enterAll_append]
      exact ⟨rfl, fun _ => rfl⟩
    · rw [takeInAll_of_error (hFails _)] at hAll
      rw [hAll]
      rcases hBlame with rfl | hSame
      · refine ⟨?_, fun hBlame => absurd rfl hBlame⟩
        rcases takeInAll_append_cases
            ((r.enterAll ps).takeIn m.1 m.2).registry ps
            (m :: behind) with
          hAgain | ⟨_, _, _, -, -, hAgain⟩
        · rw [hAgain, takeInAll_of_error (hFails _)]
        · rw [hAgain]
          rfl
      · rw [hSame, takeInAll_enterAll_append,
          takeInAll_of_error (hFails _)]
        exact ⟨rfl, fun _ => hSame _⟩
  · rw [hFailed]
    refine ⟨?_, fun hBlame => absurd rfl hBlame⟩
    rw [List.map_append, List.map_cons, List.append_assoc,
      List.cons_append]
    rcases takeInAll_append_cases
        ((r.enterAll front).takeIn p.plugin
          p.config).registry front
        (p.made :: (back.map (·.made) ++ rest)) with
      hAgain | ⟨_, _, _, -, -, hAgain⟩
    · rw [hAgain, takeInAll_of_error
        (hStuck.takeIn_enterAll rfl)]
      rfl
    · rw [hAgain]

/-
  Where all languages can be named, plugins are taken in to the
  last exactly when they are proper.
-/
theorem exists_takeInAll_iff_proper
    {r : Registry}
    (hNames : ∀ key, r.Names key)
    {made : List (Plugin × Value)}
    (hLists : AllListTexts made) :
    (∃ languages, (r.takeInAll made).2 = .ok languages) ↔
      ∀ m ∈ made, ∃ p : Proper, p.made = m := by
  rcases exists_proper_start hLists with
    ⟨ps, rest, rfl, rfl | ⟨m, back, cause, rfl, hFails, -⟩⟩
  · rcases takeInAll_append_cases r ps [] with
      hAll | ⟨front, p, back, -, hStuck, -⟩
    · rw [hAll]
      constructor
      · intro _ m hMem
        rw [List.append_nil] at hMem
        rcases List.mem_map.mp hMem with ⟨p, -, rfl⟩
        exact ⟨p, rfl⟩
      · intro _
        exact ⟨_, rfl⟩
    · exact absurd hStuck
        (not_isStuck fun _ _ => (hNames _).enterAll front)
  · constructor
    · rintro ⟨languages, hOk⟩
      rcases takeInAll_append_cases r ps (m :: back) with
        hAll | ⟨_, _, _, -, -, hFailed⟩
      · rw [hAll, takeInAll_of_error (hFails _)] at hOk
        cases hOk
      · rw [hFailed] at hOk
        cases hOk
    · intro hProper
      rcases hProper m (by simp) with ⟨p, rfl⟩
      rcases takeIn_cases r p with
        ⟨-, hTurn, -⟩ | ⟨-, hStuck⟩
      · have hFailed := (hFails r).symm.trans hTurn
        cases hFailed
      · exact absurd hStuck
          (not_isStuck fun _ _ => hNames _)

------------------------------------------------------------
-- Scanning A Directory Twice
------------------------------------------------------------

variable {workshop : Workshop} {files : FileTree}
variable {r : Registry} {directory : Route}

/- After a scan, each directory is loaded and built as before. -/
theorem builtAt_scanAll
    {all : List Route}
    (hPaths :
      ∀ d ∈ all, ∀ e ∈ all,
        configPath d = configPath e → d = e)
    {directories : List Route}
    (hAll : directories ⊆ all)
    (r : Registry)
    (logs : List Log.Record)
    (found : List Value)
    {d : Route}
    (hMem : d ∈ all) :
    builtAt workshop files
        (scanAll workshop files r logs found
          directories).registry d =
      builtAt workshop files r d := by
  induction directories generalizing r logs found with
  | nil => rfl
  | cons first rest ih =>
      have hFirst : first ∈ all := hAll (by simp)
      have hRest : rest ⊆ all :=
        fun e he => hAll (List.mem_cons_of_mem _ he)
      have hAfter :
          builtAt workshop files
              (r.prepare workshop files first).registry d =
            builtAt workshop files r d :=
        result_prepare_after workshop files r
          (hPaths d hMem first hFirst)
      have hTaken :
          ∀ plugin config,
            builtAt workshop files
                ((r.prepare workshop files
                  first).registry.takeIn plugin
                    config).registry d =
              builtAt workshop files r d := by
        intro plugin config
        rw [← hAfter]
        exact result_prepare_congr workshop files
          (configs_takeIn _ plugin config) d
      rw [scanAll]
      dsimp only
      split
      · rw [ih hRest, hAfter]
      · next plugin config _ =>
          split
          · exact hTaken plugin config
          · rw [ih hRest, hTaken plugin config]

theorem builtAt_scan
    {d : Route}
    (hMem : d ∈ pluginDirectories files directory) :
    builtAt workshop files
        (r.scan workshop files directory).registry d =
      builtAt workshop files r d := by
  rw [scan]
  split
  · rfl
  · split
    · exact builtAt_scanAll
        (fun d hd e he => eq_of_configPath_eq hd he)
        (fun _ hd => hd) _ _ _ hMem
    · rfl

theorem builtPlugins_scan :
    builtPlugins workshop files
        (r.scan workshop files directory).registry
        directory =
      builtPlugins workshop files r directory :=
  List.filterMap_congr fun _ hMem => builtAt_scan hMem

/- Without a directory, nothing is looked at. -/
theorem registry_scan_of_not_isDirectory
    (hNone :
      ¬ (files.isTooLong directory = false ∧
        files.isDirectory directory = true)) :
    (r.scan workshop files directory).registry = r := by
  rw [scan]
  split
  · rfl
  · next hFollowed =>
      split
      · next hDirectory =>
          exact absurd ⟨by simpa using hFollowed, hDirectory⟩
            hNone
      · rfl

/- Both scans take in the same plugins, if there is a directory. -/
theorem scan_scan_eq_takeInAll
    (hFollowed : files.isTooLong directory = false)
    (hDirectory : files.isDirectory directory = true) :
    let made := builtPlugins workshop files r directory
    let first := r.scan workshop files directory
    let second :=
      first.registry.scan workshop files directory
    (first.result =
        outcomeOf files directory (r.takeInAll made).2 ∧
      SameTables first.registry (r.takeInAll made).1) ∧
      second.result =
          outcomeOf files directory
            ((r.takeInAll made).1.takeInAll made).2 ∧
        SameTables second.registry
          ((r.takeInAll made).1.takeInAll made).1 := by
  intro made first second
  have hFirst :
      SameTables first.registry (r.takeInAll made).1 ∧
        first.result =
          outcomeOf files directory (r.takeInAll made).2 :=
    scan_eq_takeInAll hFollowed hDirectory
      fun _ _ => rfl
  have hSecond :
      SameTables second.registry
          (first.registry.takeInAll made).1 ∧
        second.result =
          outcomeOf files directory
            (first.registry.takeInAll made).2 :=
    scan_eq_takeInAll hFollowed hDirectory
      fun _ hMem => builtAt_scan hMem
  rcases hFirst.1.takeInAll made with ⟨hOutcome, hLast⟩
  rw [hOutcome] at hSecond
  exact ⟨⟨hFirst.2, hFirst.1⟩, hSecond.2,
    hSecond.1.trans hLast⟩

/-
  The second scan comes to the same result.  Unless a long
  integer is to blame for a fault, it leaves the same tables.
-/
theorem sameTables_scan_scan
    (hLists :
      AllListTexts
        (builtPlugins workshop files r directory)) :
    let first := r.scan workshop files directory
    let second :=
      first.registry.scan workshop files directory
    second.result = first.result ∧
      (first.result ≠ .error (.misuse .longInteger) →
        SameTables second.registry first.registry) := by
  intro first second
  by_cases hThere :
      files.isTooLong directory = false ∧
        files.isDirectory directory = true
  · rcases scan_scan_eq_takeInAll hThere.1 hThere.2 with
      ⟨⟨hFirst, hTables⟩, hSecond, hTablesAgain⟩
    rcases takeInAll_takeInAll r hLists with
      ⟨hSame, hStays⟩
    rw [hSame] at hSecond
    refine ⟨hSecond.trans hFirst.symm, ?_⟩
    intro hBlame
    have hTaken :
        (r.takeInAll
            (builtPlugins workshop files r directory)).2 ≠
          .error .longInteger := by
      intro hLong
      refine hBlame (hFirst.trans ?_)
      rw [hLong]
      rfl
    rw [hStays hTaken] at hTablesAgain
    exact hTablesAgain.trans hTables.symm
  · have hSecond : second = first := by
      simp only [second, first,
        registry_scan_of_not_isDirectory hThere]
    rw [hSecond]
    exact ⟨rfl, fun _ => ⟨rfl, rfl⟩⟩

/-
  A scan comes to a list exactly when nothing is in its way and
  all plugins are proper.
-/
theorem exists_scan_iff_proper
    (hFollowed : files.isTooLong directory = false)
    (hDirectory : files.isDirectory directory = true)
    (hNames : ∀ key, r.Names key)
    (hLists :
      AllListTexts
        (builtPlugins workshop files r directory)) :
    (∃ languages,
      (r.scan workshop files directory).result =
        .ok languages) ↔
      obstacle? files directory = none ∧
        ∀ m ∈ builtPlugins workshop files r directory,
          ∃ p : Proper, p.made = m := by
  have hScan :
      (r.scan workshop files directory).result =
        outcomeOf files directory
          (r.takeInAll
            (builtPlugins workshop files r directory)).2 :=
    (scan_eq_takeInAll hFollowed hDirectory
      fun _ _ => rfl).2
  simp only [hScan, outcomeOf_eq_ok_iff]
  rw [exists_and_left]
  exact and_congr_right fun _ =>
    exists_takeInAll_iff_proper hNames hLists

/-
  If all plugins that can be built in a directory list texts as
  their extensions, scanning it a second time comes to the same
  result, a list or a fault, and builds the same plugins from
  the same configurations.  Unless a long integer is to blame
  for a fault, the languages, the extensions and the plugin for
  every path are the same as after the first time.  There is a
  list exactly when no path in the directory is too long, the
  language of each of these plugins is a key and can be written,
  and so can what the log says about its configuration; this
  holds in every registry whose own languages can be written.
-/
theorem scan_scan
    (hLists :
      AllListTexts
        (builtPlugins workshop files r directory)) :
    let made := builtPlugins workshop files r directory
    let first := r.scan workshop files directory
    let second :=
      first.registry.scan workshop files directory
    second.result = first.result ∧
      builtPlugins workshop files first.registry
          directory =
        made ∧
      (first.result ≠ .error (.misuse .longInteger) →
        second.registry.languages =
            first.registry.languages ∧
          second.registry.supportedExtensions =
            first.registry.supportedExtensions ∧
          ∀ path,
            second.registry.pluginFor? path =
              first.registry.pluginFor? path) ∧
      (files.isTooLong directory = false →
        files.isDirectory directory = true →
        (∀ key, r.Names key) →
          ((∃ languages, first.result = .ok languages) ↔
            obstacle? files directory = none ∧
              ∀ m ∈ made, ∃ p : Proper, p.made = m)) := by
  intro made first second
  rcases sameTables_scan_scan hLists with
    ⟨hResult, hTables⟩
  refine ⟨hResult, builtPlugins_scan, ?_, ?_⟩
  · intro hBlame
    have hSame := hTables hBlame
    refine ⟨hSame.languages, ?_, hSame.pluginFor?⟩
    rw [supportedExtensions, supportedExtensions,
      hSame.extensions]
  · intro hFollowed hDirectory hNames
    exact exists_scan_iff_proper hFollowed hDirectory hNames
      hLists

------------------------------------------------------------
-- Plugins That Share An Extension
------------------------------------------------------------

def sharingText : String :=
  "name: alpha\nversion: v1\nfile_extensions: [.x, .a]\n" ++
    "plugin_class: stub:ConfigPlugin\n"

def sharedText : String :=
  "name: beta\nversion: v1\nfile_extensions: [.b, .x]\n" ++
    "plugin_class: stub:ConfigPlugin\n"

def listedText : String :=
  "name: [gamma]\nversion: v1\nfile_extensions: [.c]\n" ++
    "plugin_class: stub:ConfigPlugin\n"

/- The name of this plugin is a list, and no key. -/
def listedConfig : Value :=
  .record
    [("name", .strs ["gamma"]), ("version", .str "v1"),
      ("file_extensions", .strs [".c"]),
      ("plugin_class", .str "stub:ConfigPlugin")]

def sharingWorkshop : Workshop where
  read := fun _ text =>
    if text = sharingText then
      .ok (sampleConfig "alpha" (.strs [".x", ".a"])
        "stub:ConfigPlugin")
    else if text = sharedText then
      .ok (sampleConfig "beta" (.strs [".b", ".x"])
        "stub:ConfigPlugin")
    else if text = listedText then .ok listedConfig
    else .error .grammar
  build := sampleWorkshop.build

def sharingFiles : FileTree :=
  sampleFiles
    [("a", sharingText), ("b", sharedText),
      ("c", "name: [")]

def listedFiles : FileTree :=
  sampleFiles [("a", listedText), ("b", sharedText)]

/- A registry in which the extension leads elsewhere. -/
def deltaRegistry : Registry :=
  (empty.register
    (.configured
      (sampleConfig "delta" (.strs [".x"])
        "stub:ConfigPlugin"))).registry

/- The extension goes from one plugin to the other and back. -/
theorem scan_scan_of_shared :
    let first :=
      deltaRegistry.scan sharingWorkshop sharingFiles
        sampleRoute
    let second :=
      first.registry.scan sharingWorkshop sharingFiles
        sampleRoute
    first.result = .ok [.str "alpha", .str "beta"] ∧
      second.result = .ok [.str "alpha", .str "beta"] ∧
      second.registry.languages =
        [.str "delta", .str "alpha", .str "beta"] ∧
      second.registry.supportedExtensions =
        [.str ".x", .str ".a", .str ".b"] ∧
      ∀ path,
        second.registry.pluginFor? path =
          first.registry.pluginFor? path := by
  have hInner :=
    innerDirectories_of_sorted sharingFiles sampleRoute
      ["a", "b", "c"] rfl (by decide)
  have hFirst :
      (deltaRegistry.scan sharingWorkshop sharingFiles
            sampleRoute).result =
          .ok [.str "alpha", .str "beta"] ∧
        (deltaRegistry.scan sharingWorkshop sharingFiles
            sampleRoute).registry.languages =
          [.str "delta", .str "alpha", .str "beta"] ∧
        (deltaRegistry.scan sharingWorkshop sharingFiles
            sampleRoute).registry.supportedExtensions =
          [.str ".x", .str ".a", .str ".b"] := by
    rw [scan, if_neg (by decide), if_pos (by decide),
      pluginDirectories, obstacle?, hInner]
    exact ⟨rfl, rfl, rfl⟩
  have hLists :
      AllListTexts
        (builtPlugins sharingWorkshop sharingFiles
          deltaRegistry sampleRoute) := by
    rw [builtPlugins, pluginDirectories, hInner]
    intro m hMem
    rcases List.mem_pair.mp hMem with rfl | rfl
    · exact ⟨_, rfl, by decide⟩
    · exact ⟨_, rfl, by decide⟩
  rcases scan_scan hLists with ⟨hAgain, -, hStays, -⟩
  rcases hStays (by rw [hFirst.1]; rintro ⟨⟩) with
    ⟨hLanguages, hExtensions, hPaths⟩
  exact ⟨hFirst.1, hAgain.trans hFirst.1,
    hLanguages.trans hFirst.2.1,
    hExtensions.trans hFirst.2.2, hPaths⟩

/-
  A plugin whose name is a list is not skipped, although its
  extensions are texts: neither scan comes to a list.
-/
theorem scan_scan_of_listed :
    AllListTexts
        (builtPlugins sharingWorkshop listedFiles empty
          sampleRoute) ∧
      (empty.scan sharingWorkshop listedFiles
          sampleRoute).result =
        .error (.misuse (.unhashable "list")) ∧
      ((empty.scan sharingWorkshop listedFiles
          sampleRoute).registry.scan sharingWorkshop
            listedFiles sampleRoute).result =
        .error (.misuse (.unhashable "list")) := by
  have hInner :=
    innerDirectories_of_sorted listedFiles sampleRoute
      ["a", "b"] rfl (by decide)
  refine ⟨?_, ?_, ?_⟩
  · rw [builtPlugins, pluginDirectories, hInner]
    intro m hMem
    rcases List.mem_pair.mp hMem with rfl | rfl
    · exact ⟨_, rfl, by decide⟩
    · exact ⟨_, rfl, by decide⟩
  · rw [scan, if_neg (by decide), if_pos (by decide),
      pluginDirectories, obstacle?, hInner]
    rfl
  · rw [scan, if_neg (by decide), if_pos (by decide),
      scan, if_neg (by decide), if_pos (by decide),
      pluginDirectories, obstacle?, hInner]
    rfl

end Registry

end SyntaxOutline
