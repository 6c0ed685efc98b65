import SyntaxOutline.Plugin.Plain
import SyntaxOutline.Proofs.Registry.History
import SyntaxOutline.Proofs.Registry.Scanning
import Mathlib.Data.List.Forall2

/-
  What a broken plugin does to the others.

  Directories whose configuration cannot be loaded, or whose
  plugin cannot be found or built, do no harm: a scan does the
  same as if they were not there.  It comes to its end exactly
  when all plugins that were built can be taken in and no path
  is too long to ask for a configuration.  A plugin that cannot
  be registered is not skipped: it stops the scan, and the
  directories behind it are not looked at; so does a path that
  is too long.

  Key definitions include:
    * `Registry.builtPlugins`
    * `Registry.builtDirectories`
    * `Registry.IsBuiltFor`
    * `Registry.Narrowed`
    * `Registry.outcomeOf`

  Main statements:
    * `Registry.exists_takeInAll_iff`
    * `Registry.eq_of_configPath_eq`
    * `Registry.scan_eq_takeInAll`
    * `Registry.scan_of_built`
-/

------------------------------------------------------------
-- Scans That Come To Their End
------------------------------------------------------------

namespace SyntaxOutline

namespace Registry

/- Only a plugin with a language is registered. -/
theorem exists_language_of_register
    {r : Registry}
    {plugin : Plugin}
    (hRegistered : (r.register plugin).result = .ok ()) :
    ∃ language, plugin.language = .ok language := by
  cases hLanguage : plugin.language with
  | ok language => exact ⟨language, rfl⟩
  | error cause =>
      simp [register, hLanguage, bind, Except.bind]
        at hRegistered

/- What it takes to take in a plugin. -/
theorem result_takeIn_eq_ok_iff
    (r : Registry)
    (plugin : Plugin)
    (config language : Value)
    (started : Log.Record) :
    (r.takeIn plugin config).result =
        .ok (language, started) ↔
      (r.register plugin).result = .ok () ∧
        plugin.language = .ok language ∧
        startedRecord config = .ok started := by
  rw [takeIn]
  cases (r.register plugin).result with
  | error cause => simp [bind, Except.bind]
  | ok =>
      cases plugin.language with
      | error cause => simp [bind, Except.bind]
      | ok found =>
          cases startedRecord config with
          | error cause => simp [bind, Except.bind]
          | ok last =>
              simp [bind, Except.bind, pure, Except.pure]

theorem takeInAll_cons_eq_ok_iff
    (r : Registry)
    (plugin : Plugin)
    (config : Value)
    (rest : List (Plugin × Value))
    (languages : List Value) :
    (r.takeInAll ((plugin, config) :: rest)).2 =
        .ok languages ↔
      ∃ language started others,
        (r.takeIn plugin config).result =
            .ok (language, started) ∧
          ((r.register plugin).registry.takeInAll rest).2 =
            .ok others ∧
          languages = language :: others := by
  have hNext :
      (r.takeIn plugin config).registry =
        (r.register plugin).registry := rfl
  rw [takeInAll]
  dsimp only
  rw [hNext]
  cases (r.takeIn plugin config).result with
  | error cause => simp
  | ok turn =>
      rcases turn with ⟨language, started⟩
      cases ((r.register plugin).registry.takeInAll
          rest).2 with
      | error cause => simp [Except.map]
      | ok others => simp [Except.map, eq_comm]

/-
  Plugins are taken in to the last exactly when each can be
  registered at its turn and its configuration can be named.
-/
theorem exists_takeInAll_iff
    (r : Registry)
    (made : List (Plugin × Value)) :
    (∃ languages, (r.takeInAll made).2 = .ok languages) ↔
      (∃ last,
        r.registerAll (made.map (·.1)) = .ok last) ∧
        ∀ m ∈ made,
          ∃ started, startedRecord m.2 = .ok started := by
  induction made generalizing r with
  | nil => simp [takeInAll, registerAll]
  | cons first made ih =>
      rcases first with ⟨plugin, config⟩
      rw [List.map_cons, registerAll, List.forall_mem_cons]
      constructor
      · rintro ⟨languages, hAll⟩
        rcases (takeInAll_cons_eq_ok_iff ..).mp hAll with
          ⟨language, started, others, hTurn, hOthers, -⟩
        rcases (result_takeIn_eq_ok_iff ..).mp hTurn with
          ⟨hRegistered, -, hStarted⟩
        rcases (ih _).mp ⟨others, hOthers⟩ with
          ⟨hRest, hNamed⟩
        rw [hRegistered]
        exact ⟨hRest, ⟨started, hStarted⟩, hNamed⟩
      · rintro
          ⟨⟨last, hLast⟩, ⟨started, hStarted⟩, hNamed⟩
        cases hRegistered : (r.register plugin).result with
        | error cause =>
            rw [hRegistered] at hLast
            cases hLast
        | ok =>
            rw [hRegistered] at hLast
            rcases exists_language_of_register
                hRegistered with
              ⟨language, hLanguage⟩
            rcases (ih _).mpr ⟨⟨last, hLast⟩, hNamed⟩ with
              ⟨others, hOthers⟩
            have hTurn :=
              (result_takeIn_eq_ok_iff r plugin config
                language started).mpr
                ⟨hRegistered, hLanguage, hStarted⟩
            exact ⟨_, (takeInAll_cons_eq_ok_iff ..).mpr
              ⟨language, started, others, hTurn, hOthers,
                rfl⟩⟩

/- The result names the languages of the plugins in order. -/
theorem forall₂_language_of_takeInAll
    {r : Registry}
    {made : List (Plugin × Value)}
    {languages : List Value}
    (hAll : (r.takeInAll made).2 = .ok languages) :
    List.Forall₂
      (fun m language => m.1.language = .ok language) made
      languages := by
  induction made generalizing r languages with
  | nil =>
      rw [← Except.ok.inj hAll]
      exact .nil
  | cons first made ih =>
      rcases (takeInAll_cons_eq_ok_iff ..).mp hAll with
        ⟨language, started, others, hTurn, hOthers, rfl⟩
      rcases (result_takeIn_eq_ok_iff ..).mp hTurn with
        ⟨-, hLanguage, -⟩
      exact .cons hLanguage (ih hOthers)

------------------------------------------------------------
-- Directories Side By Side
------------------------------------------------------------

theorem text_child
    (directory : Route)
    (name : String) :
    (directory.child name).text =
      directory.anchor ++
        "/".intercalate (directory.names ++ [name]) := by
  simp [Route.text, Route.child]

/- The text of a path shows the last name but one. -/
theorem exists_intercalate_eq
    (names : List String) :
    ∃ front, ∀ name,
      "/".intercalate (names ++ [name] ++ [configName]) =
        front ++ (name ++ ("/" ++ configName)) := by
  induction names with
  | nil =>
      refine ⟨"", fun name => ?_⟩
      simp [String.append_assoc]
  | cons first names ih =>
      rcases ih with ⟨front, hNames⟩
      refine ⟨first ++ ("/" ++ front), fun name => ?_⟩
      rw [String.append_assoc, String.append_assoc,
        ← hNames name]
      cases names with
      | nil => simp [String.append_assoc]
      | cons second names => simp [String.append_assoc]

/- Names inside one directory have paths of their own. -/
theorem eq_of_configPath_child
    {directory : Route}
    {a b : String}
    (hPaths :
      configPath (directory.child a) =
        configPath (directory.child b)) :
    a = b := by
  -- Both texts start with the same anchor and the same front,
  -- and end with the same slash and name.
  rcases exists_intercalate_eq directory.names with
    ⟨front, hFront⟩
  rw [configPath, configPath, text_child, text_child]
    at hPaths
  have hNames := (String.append_right_inj _).mp hPaths
  rw [Route.child, Route.child, hFront a, hFront b] at hNames
  exact (String.append_left_inj _).mp
    ((String.append_right_inj _).mp hNames)

theorem exists_name_of_mem_pluginDirectories
    {files : FileTree}
    {directory d : Route}
    (hMem : d ∈ pluginDirectories files directory) :
    ∃ name, directory.child name = d := by
  have hInner : d ∈ innerDirectories files directory :=
    (List.takeWhile_sublist _).subset
      (List.mem_of_mem_filter hMem)
  rcases List.mem_map.mp hInner with ⟨name, -, hName⟩
  exact ⟨name, hName⟩

theorem eq_of_configPath_eq
    {files : FileTree}
    {directory d e : Route}
    (hFirst : d ∈ pluginDirectories files directory)
    (hSecond : e ∈ pluginDirectories files directory)
    (hPaths : configPath d = configPath e) :
    d = e := by
  rcases exists_name_of_mem_pluginDirectories hFirst with
    ⟨a, rfl⟩
  rcases exists_name_of_mem_pluginDirectories hSecond with
    ⟨b, rfl⟩
  rw [eq_of_configPath_child hPaths]

/- The names inside a directory are in order. -/
theorem pairwise_names
    (files : FileTree)
    (directory : Route) :
    (files.names directory).Pairwise (· ≤ ·) := by
  rw [FileTree.names]
  split
  · exact .nil
  · have hTrans :
        ∀ a b c : String,
          decide (a ≤ b) = true → decide (b ≤ c) = true →
            decide (a ≤ c) = true := by
      intro a b c hFirst hSecond
      exact decide_eq_true (String.le_trans
        (of_decide_eq_true hFirst)
        (of_decide_eq_true hSecond))
    have hTotal :
        ∀ a b : String,
          (decide (a ≤ b) || decide (b ≤ a)) = true := by
      intro a b
      simpa using String.le_total a b
    exact (List.pairwise_mergeSort hTrans hTotal _).imp
      of_decide_eq_true

------------------------------------------------------------
-- Directories That Are Left Out
------------------------------------------------------------

variable (workshop : Workshop) (files : FileTree)
variable (r : Registry) (directory : Route)

/-
  The plugin of a directory with its configuration, if the one
  can be loaded and the other can be found and built.
-/
def builtAt
    (d : Route) : Option (Plugin × Value) :=
  (r.prepare workshop files d).result

/- All plugins that can be built from inside a directory. -/
def builtPlugins : List (Plugin × Value) :=
  (pluginDirectories files directory).filterMap
    (builtAt workshop files r)

/- The directories that these plugins come from. -/
def builtDirectories : List Route :=
  (pluginDirectories files directory).filter fun d =>
    (builtAt workshop files r d).isSome

/- The plugin that is built from a directory has a language. -/
def IsBuiltFor
    (d : Route)
    (language : Value) : Prop :=
  ∃ plugin config,
    builtAt workshop files r d = some (plugin, config) ∧
      plugin.language = .ok language

/-
  A tree of files in which a directory holds only some of the
  plugin directories that it has, with the same configurations,
  and the obstacle behind them if there is one.
-/
structure Narrowed
    (kept : FileTree)
    (remaining : List Route) : Prop where
  followed : kept.isTooLong directory = false
  there : kept.isDirectory directory = true
  directories : pluginDirectories kept directory = remaining
  obstacle :
    obstacle? kept directory = obstacle? files directory
  found :
    ∀ d ∈ remaining,
      kept.find? (d.child configName) =
        files.find? (d.child configName)
  lengths :
    ∀ d ∈ remaining,
      kept.isTooLong (d.child configName) =
        files.isTooLong (d.child configName)

variable {workshop files r directory}

/- A directory that is kept is loaded and built as before. -/
theorem Narrowed.builtAt_eq
    {kept : FileTree}
    {remaining : List Route}
    (hKept : Narrowed files directory kept remaining)
    {d : Route}
    (hMem : d ∈ remaining) :
    builtAt workshop kept r d =
      builtAt workshop files r d := by
  rw [builtAt, builtAt, (prepare_eq workshop kept r d).1,
    (prepare_eq workshop files r d).1, result_load,
    result_load, readConfig, readConfig, hKept.found d hMem,
    hKept.lengths d hMem]

/- Leaving out what cannot be built leaves out no plugin. -/
theorem filterMap_builtDirectories :
    (builtDirectories workshop files r
        directory).filterMap (builtAt workshop files r) =
      builtPlugins workshop files r directory := by
  rw [builtDirectories, builtPlugins, List.filterMap_filter]
  congr 1
  funext d
  cases builtAt workshop files r d with
  | none => rfl
  | some built => rfl

/- Each language comes from the directory at its place. -/
theorem forall₂_isBuiltFor
    {directories : List Route}
    {languages : List Value}
    (hLanguages :
      List.Forall₂
        (fun built language =>
          built.1.language = .ok language)
        (directories.filterMap (builtAt workshop files r))
        languages) :
    List.Forall₂ (IsBuiltFor workshop files r)
      (directories.filter fun d =>
        (builtAt workshop files r d).isSome)
      languages := by
  induction directories generalizing languages with
  | nil => simpa using hLanguages
  | cons d rest ih =>
      cases hBuilt : builtAt workshop files r d with
      | none =>
          rw [List.filterMap_cons_none hBuilt] at hLanguages
          rw [List.filter_cons_of_neg (by simp [hBuilt])]
          exact ih hLanguages
      | some built =>
          rw [List.filterMap_cons_some hBuilt] at hLanguages
          rw [List.filter_cons_of_pos (by simp [hBuilt])]
          cases hLanguages with
          | cons hFirst hRest =>
              exact .cons ⟨built.1, built.2, hBuilt, hFirst⟩
                (ih hRest)

/- What a scan ends with when its plugins have been taken in. -/
def outcomeOf
    (files : FileTree)
    (directory : Route)
    (taken : Except Misuse (List Value)) :
    Except ScanFailure (List Value) :=
  (taken.mapError .misuse).bind
    (endAt (obstacle? files directory))

/- There is a list when there is no fault and no obstacle. -/
theorem outcomeOf_eq_ok_iff
    {taken : Except Misuse (List Value)}
    {languages : List Value} :
    outcomeOf files directory taken = .ok languages ↔
      obstacle? files directory = none ∧
        taken = .ok languages := by
  rw [outcomeOf]
  cases taken with
  | error cause => exact ⟨nofun, nofun⟩
  | ok found =>
      cases obstacle? files directory with
      | none => simp [Except.mapError, Except.bind, endAt]
      | some fault =>
          simp [Except.mapError, Except.bind, endAt]

/-
  A scan comes to what taking in plugins comes to, however it is
  known what can be built.
-/
theorem scan_eq_takeInAll
    {built : Route → Option (Plugin × Value)}
    (hFollowed : files.isTooLong directory = false)
    (hDirectory : files.isDirectory directory = true)
    (hBuilt :
      ∀ d ∈ pluginDirectories files directory,
        builtAt workshop files r d = built d) :
    SameTables
        (r.scan workshop files directory).registry
        (r.takeInAll
          ((pluginDirectories files directory).filterMap
            built)).1 ∧
      (r.scan workshop files directory).result =
        outcomeOf files directory
          (r.takeInAll
            ((pluginDirectories files directory).filterMap
              built)).2 := by
  rw [scan, if_neg (by simp [hFollowed]), if_pos hDirectory]
  rcases scanAll_eq_takeInAll workshop files
      (fun d hd e he => eq_of_configPath_eq hd he)
      (fun d hd => hd) ⟨rfl, rfl⟩ hBuilt
      [record .info
        ("Initializing plugins from " ++ directory.text)]
      [] with
    ⟨hTables, hResult⟩
  refine ⟨hTables, ?_⟩
  dsimp only
  rw [hResult, outcomeOf]
  cases (takeInAll _ _).2 with
  | error cause => rfl
  | ok languages => rfl

/- What is left out was not taken in before either. -/
theorem Narrowed.scan_eq
    {kept : FileTree}
    (hKept :
      Narrowed files directory kept
        (builtDirectories workshop files r directory)) :
    SameTables
        (r.scan workshop kept directory).registry
        (r.takeInAll
          (builtPlugins workshop files r directory)).1 ∧
      (r.scan workshop kept directory).result =
        outcomeOf files directory
          (r.takeInAll
            (builtPlugins workshop files r directory)).2 := by
  rw [outcomeOf, ← hKept.obstacle, ← outcomeOf,
    ← filterMap_builtDirectories, ← hKept.directories]
  apply scan_eq_takeInAll hKept.followed hKept.there
  intro d hMem
  rw [hKept.directories] at hMem
  exact hKept.builtAt_eq hMem

/- The directories are looked at in the order of their names. -/
theorem exists_names_builtDirectories :
    ∃ names : List String,
      names.Pairwise (· ≤ ·) ∧
        builtDirectories workshop files r directory =
          names.map directory.child := by
  refine ⟨((files.names directory).takeWhile fun name =>
      !isOutOfReach files (directory.child name)).filter
        fun name =>
          (builtAt workshop files r
              (directory.child name)).isSome &&
            files.isFile
              ((directory.child name).child configName),
    ((pairwise_names files directory).sublist
      (List.takeWhile_sublist _)).filter _, ?_⟩
  rw [builtDirectories, pluginDirectories, innerDirectories,
    List.filter_filter, List.takeWhile_map, List.filter_map]
  rfl

------------------------------------------------------------
-- Broken Plugins
------------------------------------------------------------

/-
  Scanning a directory comes to its end exactly when no path in
  it is too long, every plugin that can be built there can be
  registered, one after the other, and the log can name its
  configuration.  It then gives the languages of the directories
  that these plugins come from, in the order of the names.
  Either way, the result, the registered languages, the
  extensions and the plugin for every path are the same as if
  only these directories were there, with the path that is too
  long if there is one.
-/
theorem scan_of_built
    (hFollowed : files.isTooLong directory = false)
    (hDirectory : files.isDirectory directory = true) :
    ((∃ languages,
        (r.scan workshop files directory).result =
          .ok languages) ↔
      obstacle? files directory = none ∧
        (∃ last,
          r.registerAll
              ((builtPlugins workshop files r
                directory).map (·.1)) =
            .ok last) ∧
        ∀ built ∈ builtPlugins workshop files r directory,
          ∃ started,
            startedRecord built.2 = .ok started) ∧
      (∀ languages,
        (r.scan workshop files directory).result =
            .ok languages →
          List.Forall₂ (IsBuiltFor workshop files r)
            (builtDirectories workshop files r directory)
            languages) ∧
      (∃ names : List String,
        names.Pairwise (· ≤ ·) ∧
          builtDirectories workshop files r directory =
            names.map directory.child) ∧
      ∀ kept,
        Narrowed files directory kept
            (builtDirectories workshop files r directory) →
          (r.scan workshop kept directory).result =
              (r.scan workshop files directory).result ∧
            (r.scan workshop kept
                directory).registry.languages =
              (r.scan workshop files
                directory).registry.languages ∧
            (r.scan workshop kept
                directory).registry.extensions =
              (r.scan workshop files
                directory).registry.extensions ∧
            ∀ path,
              (r.scan workshop kept
                  directory).registry.pluginFor? path =
                (r.scan workshop files
                  directory).registry.pluginFor? path := by
  have hBuilt :
      ∀ d ∈ pluginDirectories files directory,
        builtAt workshop files r d =
          builtAt workshop files r d := fun _ _ => rfl
  rcases scan_eq_takeInAll hFollowed hDirectory hBuilt with
    ⟨hTables, hResult⟩
  rw [← builtPlugins] at hTables hResult
  refine ⟨?_, ?_, exists_names_builtDirectories, ?_⟩
  · simp only [hResult, outcomeOf_eq_ok_iff]
    rw [exists_and_left]
    exact and_congr_right fun _ => exists_takeInAll_iff r _
  · intro languages hOk
    rw [hResult, outcomeOf_eq_ok_iff] at hOk
    exact forall₂_isBuiltFor
      (forall₂_language_of_takeInAll hOk.2)
  · intro kept hKept
    rcases hKept.scan_eq with ⟨hTablesKept, hResultKept⟩
    have hSame := hTablesKept.trans hTables.symm
    exact ⟨hResultKept.trans hResult.symm, hSame.languages,
      hSame.extensions, hSame.pluginFor?⟩

------------------------------------------------------------
-- Broken Plugins Beside Good Ones
------------------------------------------------------------

/- What a complete configuration spells. -/
def sampleConfig
    (name : String)
    (extensions : Value)
    (reference : String) : Value :=
  .record
    [("name", .str name), ("version", .str "v1"),
      ("file_extensions", extensions),
      ("plugin_class", .str reference)]

def alphaText : String :=
  "name: alpha\nversion: v1\nfile_extensions: null\n" ++
    "plugin_class: stub:ConfigPlugin\n"

def betaText : String :=
  "name: beta\nversion: v1\nfile_extensions: [.b]\n" ++
    "plugin_class: stub:ConfigPlugin\n"

def gammaText : String :=
  "name: gamma\nversion: v1\nfile_extensions: [.c]\n" ++
    "plugin_class: nowhere:ConfigPlugin\n"

/- A workshop that reads three texts and has one class. -/
def sampleWorkshop : Workshop where
  read := fun _ text =>
    if text = alphaText then
      .ok (sampleConfig "alpha" .null "stub:ConfigPlugin")
    else if text = betaText then
      .ok (sampleConfig "beta" (.strs [".b"])
        "stub:ConfigPlugin")
    else if text = gammaText then
      .ok (sampleConfig "gamma" (.strs [".c"])
        "nowhere:ConfigPlugin")
    else .error .grammar
  build :=
    Catalog.build
      [⟨"stub", false,
        [("ConfigPlugin",
          .plugin fun config =>
            .quiet (.ok (.configured config)))]⟩]

/- Where the plugins are. -/
def sampleRoute : Route :=
  .ofText "plugins"

/- The files of plugins, by the names of their directories. -/
def sampleFiles
    (texts : List (String × String)) : FileTree :=
  ⟨(["plugins"], .directory) ::
    texts.flatMap fun (name, text) =>
      [(["plugins", name], .directory),
        (["plugins", name, configName], .file text)]⟩

/- One text is no YAML, and one names no module. -/
def mixedFiles : FileTree :=
  sampleFiles
    [("a", "name: ["), ("b", betaText), ("c", gammaText)]

def betaFiles : FileTree :=
  sampleFiles [("b", betaText)]

/- One plugin is built but has no extensions to go through. -/
def harmedFiles : FileTree :=
  sampleFiles [("a", alphaText), ("b", betaText)]

/- Names that are sorted already need no sorting. -/
theorem innerDirectories_of_sorted
    (files : FileTree)
    (directory : Route)
    (names : List String)
    (hNames :
      files.names directory =
        names.mergeSort fun a b => decide (a ≤ b))
    (hSorted :
      names.Pairwise fun a b => decide (a ≤ b) = true) :
    innerDirectories files directory =
      names.map directory.child := by
  rw [innerDirectories, hNames,
    List.mergeSort_of_pairwise hSorted]

theorem innerDirectories_mixedFiles :
    innerDirectories mixedFiles sampleRoute =
      ["a", "b", "c"].map sampleRoute.child :=
  innerDirectories_of_sorted mixedFiles sampleRoute
    ["a", "b", "c"] rfl (by decide)

theorem narrowed_betaFiles :
    Narrowed mixedFiles sampleRoute betaFiles
      [sampleRoute.child "b"] := by
  have hInner :=
    innerDirectories_of_sorted betaFiles sampleRoute ["b"]
      rfl (by decide)
  refine ⟨by decide, by decide, ?_, ?_, ?_, ?_⟩
  · rw [pluginDirectories, hInner]
    rfl
  · rw [obstacle?, obstacle?, hInner,
      innerDirectories_mixedFiles]
    rfl
  · intro d hMem
    rw [List.mem_singleton.mp hMem]
    rfl
  · intro d hMem
    rw [List.mem_singleton.mp hMem]
    rfl

/- One plugin of three is built, and it comes to no harm. -/
theorem scan_of_mixed :
    (empty.scan sampleWorkshop mixedFiles
        sampleRoute).result =
        .ok [.str "beta"] ∧
      ∀ path,
        (empty.scan sampleWorkshop betaFiles
            sampleRoute).registry.pluginFor? path =
          (empty.scan sampleWorkshop mixedFiles
            sampleRoute).registry.pluginFor? path := by
  rcases @scan_of_built sampleWorkshop mixedFiles empty
      sampleRoute (by decide) (by decide) with
    ⟨hEnds, hLanguages, -, hKept⟩
  rw [obstacle?, builtPlugins, pluginDirectories,
    innerDirectories_mixedFiles] at hEnds
  rw [builtDirectories, pluginDirectories,
    innerDirectories_mixedFiles] at hLanguages hKept
  rcases hEnds.mpr ⟨rfl, ⟨_, rfl⟩, by
    intro built hMem
    rw [List.mem_singleton.mp hMem]
    exact ⟨_, rfl⟩⟩ with
    ⟨languages, hOk⟩
  refine ⟨?_, (hKept betaFiles narrowed_betaFiles).2.2.2⟩
  rw [hOk]
  cases hLanguages languages hOk with
  | cons hFirst hRest =>
      cases hRest
      rcases hFirst with ⟨plugin, config, hBuilt, hLanguage⟩
      cases hBuilt
      cases hLanguage
      rfl

/-
  A plugin whose extensions cannot be gone through is left
  half registered, and the plugin behind it is lost.
-/
theorem scan_of_harmed :
    (builtAt sampleWorkshop harmedFiles empty
        (sampleRoute.child "b")).isSome ∧
      (empty.scan sampleWorkshop harmedFiles
          sampleRoute).result =
        .error (.misuse (.notIterable "NoneType")) ∧
      (empty.scan sampleWorkshop harmedFiles
          sampleRoute).registry.languages =
        [.str "alpha"] := by
  rw [scan, if_neg (by decide), if_pos (by decide),
    pluginDirectories, obstacle?,
    innerDirectories_of_sorted harmedFiles sampleRoute
      ["a", "b"] rfl (by decide)]
  exact ⟨rfl, rfl, rfl⟩

end Registry

end SyntaxOutline
