import SyntaxOutline.Plugin.Registry

/-
  A scan takes in the plugins that can be built.

  A directory is skipped when its configuration cannot be loaded
  or its plugin cannot be found or built.  Then it leaves nothing
  behind but its configuration, if there is one.  Registering
  heeds no configurations, and what a directory is loaded to does
  not depend on the directories before it.  So a scan comes to
  the same as taking in, one after the other, all plugins that
  can be built.

  Key definitions include:
    * `Registry.SameTables`
    * `Registry.buildOf`
    * `Registry.takeInAll`

  Main statements:
    * `Registry.register_withConfigs`
    * `Registry.load_cases`
    * `Registry.result_prepare_after`
    * `Registry.scanAll_eq_takeInAll`
-/

------------------------------------------------------------
-- Registering Heeds No Configurations
------------------------------------------------------------

namespace SyntaxOutline

namespace Registry

/- Two registries that may differ in their configurations. -/
structure SameTables
    (r s : Registry) : Prop where
  plugins : r.plugins = s.plugins
  extensions : r.extensions = s.extensions

theorem SameTables.trans
    {r s t : Registry}
    (hFirst : SameTables r s)
    (hSecond : SameTables s t) :
    SameTables r t :=
  ⟨hFirst.plugins.trans hSecond.plugins,
    hFirst.extensions.trans hSecond.extensions⟩

theorem SameTables.symm
    {r s : Registry}
    (hSame : SameTables r s) :
    SameTables s r :=
  ⟨hSame.plugins.symm, hSame.extensions.symm⟩

theorem SameTables.languages
    {r s : Registry}
    (hSame : SameTables r s) :
    r.languages = s.languages := by
  rw [Registry.languages, Registry.languages, hSame.plugins]

theorem SameTables.pluginFor?
    {r s : Registry}
    (hSame : SameTables r s)
    (path : String) :
    r.pluginFor? path = s.pluginFor? path := by
  rw [Registry.pluginFor?, Registry.pluginFor?,
    pluginByExtension?, pluginByExtension?, hSame.plugins,
    hSame.extensions]

/- The registry with other configurations. -/
def withConfigs
    (configs : List (String × Value))
    (r : Registry) : Registry :=
  { r with configs := configs }

/- What an operation leaves, with other configurations. -/
def Step.withConfigs
    {α : Type}
    (configs : List (String × Value))
    (step : Step α) : Step α :=
  { step with registry := step.registry.withConfigs configs }

theorem SameTables.eq_withConfigs
    {r s : Registry}
    (hSame : SameTables r s) :
    s = r.withConfigs s.configs := by
  rcases hSame with ⟨hPlugins, hExtensions⟩
  rw [withConfigs, hPlugins, hExtensions]

theorem addExtensions_withConfigs
    (configs : List (String × Value))
    (language : Value)
    (r : Registry)
    (logs : List Log.Record)
    (items : List Value) :
    addExtensions language (r.withConfigs configs) logs
        items =
      (addExtensions language r logs items).withConfigs
        configs := by
  induction items generalizing r logs with
  | nil => rfl
  | cons item items ih =>
      have hTable :
          (r.withConfigs configs).extensions =
            r.extensions := rfl
      rw [addExtensions, addExtensions, hTable]
      split
      · rfl
      · next key moved _ =>
          exact ih
            { r with
              extensions :=
                r.extensions.put key item language }
            (logs ++ moved)

theorem finish_withConfigs
    (configs : List (String × Value))
    (step : Step (Except Misuse Unit))
    (last : Except Misuse Log.Record) :
    finish (step.withConfigs configs) last =
      (finish step last).withConfigs configs := by
  rcases step with ⟨r, logs, result⟩
  cases result with
  | error cause => rfl
  | ok =>
      cases last with
      | error cause => rfl
      | ok last => rfl

/- What registering does depends on the two tables alone. -/
theorem register_withConfigs
    (configs : List (String × Value))
    (r : Registry)
    (plugin : Plugin) :
    (r.withConfigs configs).register plugin =
      (r.register plugin).withConfigs configs := by
  have hTable :
      (r.withConfigs configs).plugins = r.plugins := rfl
  rw [register, register, hTable]
  split
  · rfl
  · next language key logs _ =>
      dsimp only
      split
      · rfl
      · next extensions items _ =>
          rw [← finish_withConfigs,
            ← addExtensions_withConfigs]
          rfl

theorem takeIn_withConfigs
    (configs : List (String × Value))
    (r : Registry)
    (plugin : Plugin)
    (config : Value) :
    (r.withConfigs configs).takeIn plugin config =
      (r.takeIn plugin config).withConfigs configs := by
  rw [takeIn, takeIn, register_withConfigs]
  rfl

/- Taking in a plugin changes no configuration. -/
theorem configs_takeIn
    (r : Registry)
    (plugin : Plugin)
    (config : Value) :
    (r.takeIn plugin config).registry.configs =
      r.configs := by
  have hSelf := takeIn_withConfigs r.configs r plugin config
  have hSame : r.withConfigs r.configs = r := rfl
  rw [hSame] at hSelf
  rw [hSelf]
  rfl

theorem SameTables.takeIn
    {r s : Registry}
    (hSame : SameTables r s)
    (plugin : Plugin)
    (config : Value) :
    (r.takeIn plugin config).result =
        (s.takeIn plugin config).result ∧
      SameTables (r.takeIn plugin config).registry
        (s.takeIn plugin config).registry := by
  rw [hSame.eq_withConfigs, takeIn_withConfigs]
  exact ⟨rfl, rfl, rfl⟩

------------------------------------------------------------
-- Loading Configurations
------------------------------------------------------------

/- The path under which the configuration of a directory is kept. -/
def configPath
    (directory : Route) : String :=
  (directory.child configName).text

variable (workshop : Workshop) (files : FileTree)

/-
  A configuration is known already, or cannot be read, or is
  read and kept from now on.
-/
theorem load_cases
    (r : Registry)
    (directory : Route) :
    (∃ config,
      r.configs.lookup (configPath directory) =
          some config ∧
        (r.load workshop files directory).result =
          .ok config ∧
        (r.load workshop files directory).registry = r) ∨
      (r.configs.lookup (configPath directory) = none ∧
        ∃ failure,
          readConfig workshop files
              (directory.child configName) =
            .error failure ∧
          (r.load workshop files directory).result =
            .error failure ∧
          (r.load workshop files directory).registry = r) ∨
      (r.configs.lookup (configPath directory) = none ∧
        ∃ config,
          readConfig workshop files
              (directory.child configName) =
            .ok config ∧
          (r.load workshop files directory).result =
            .ok config ∧
          (r.load workshop files directory).registry =
            r.withConfigs
              (r.configs ++
                [(configPath directory, config)])) := by
  cases hKnown :
      r.configs.lookup (configPath directory) with
  | some config =>
      rw [configPath] at hKnown
      exact .inl ⟨config, rfl, by simp [load, hKnown],
        by simp [load, hKnown]⟩
  | none =>
      right
      rw [configPath] at hKnown
      cases hRead :
          readConfig workshop files
            (directory.child configName) with
      | error failure =>
          exact .inl ⟨rfl, failure, rfl,
            by simp [load, hKnown, hRead],
            by simp [load, hKnown, hRead]⟩
      | ok config =>
          exact .inr ⟨rfl, config, rfl,
            by simp [load, hKnown, hRead],
            by simp [load, hKnown, hRead, withConfigs,
              configPath]⟩

theorem result_load
    (r : Registry)
    (directory : Route) :
    (r.load workshop files directory).result =
      match r.configs.lookup (configPath directory) with
      | some config => .ok config
      | none =>
          readConfig workshop files
            (directory.child configName) := by
  rcases load_cases workshop files r directory with
    ⟨config, hKnown, hResult, -⟩ |
      ⟨hKnown, failure, hRead, hResult, -⟩ |
      ⟨hKnown, config, hRead, hResult, -⟩
  · rw [hResult, hKnown]
  · rw [hResult, hKnown, hRead]
  · rw [hResult, hKnown, hRead]

theorem sameTables_load
    (r : Registry)
    (directory : Route) :
    SameTables
      (r.load workshop files directory).registry r := by
  rcases load_cases workshop files r directory with
    ⟨_, -, -, hSame⟩ | ⟨-, _, -, -, hSame⟩ |
      ⟨-, _, -, -, hKept⟩
  · rw [hSame]
    exact ⟨rfl, rfl⟩
  · rw [hSame]
    exact ⟨rfl, rfl⟩
  · rw [hKept]
    exact ⟨rfl, rfl⟩

/-
  Loading a directory does not change what another one, or the
  same one again, is loaded to.
-/
theorem result_load_after
    (r : Registry)
    {directory other : Route}
    (hPaths :
      configPath other = configPath directory →
        other = directory) :
    ((r.load workshop files directory).registry.load
        workshop files other).result =
      (r.load workshop files other).result := by
  rcases load_cases workshop files r directory with
    ⟨_, -, -, hSame⟩ | ⟨-, _, -, -, hSame⟩ |
      ⟨hKnown, config, -, hResult, hKept⟩
  · rw [hSame]
  · rw [hSame]
  · by_cases hPath : configPath other = configPath directory
    · rw [hPaths hPath, hResult, result_load, hKept,
        withConfigs, List.lookup_append, hKnown]
      simp
    · rw [result_load, result_load, hKept, withConfigs,
        List.lookup_append, List.lookup_cons,
        beq_false_of_ne hPath, List.lookup_nil,
        Option.or_none]

------------------------------------------------------------
-- Building Plugins
------------------------------------------------------------

/- The plugin of a configuration that may be missing. -/
def buildOf
    (config : Except LoadFailure Value) :
    Option (Plugin × Value) :=
  match config with
  | .error _ => none
  | .ok config =>
      match (buildFrom workshop config).result with
      | .error _ => none
      | .ok plugin => some (plugin, config)

/- What a directory comes to depends on its configuration alone. -/
theorem prepare_eq
    (r : Registry)
    (directory : Route) :
    (r.prepare workshop files directory).result =
        buildOf workshop
          (r.load workshop files directory).result ∧
      (r.prepare workshop files directory).registry =
        (r.load workshop files directory).registry := by
  rw [prepare]
  cases hLoaded :
      (r.load workshop files directory).result with
  | error failure => exact ⟨rfl, rfl⟩
  | ok config =>
      rw [buildOf]
      cases hBuilt : (buildFrom workshop config).result with
      | error failure => simp [hBuilt]
      | ok plugin => simp [hBuilt]

theorem sameTables_prepare
    (r : Registry)
    (directory : Route) :
    SameTables
      (r.prepare workshop files directory).registry r := by
  rw [(prepare_eq workshop files r directory).2]
  exact sameTables_load workshop files r directory

theorem result_prepare_after
    (r : Registry)
    {directory other : Route}
    (hPaths :
      configPath other = configPath directory →
        other = directory) :
    ((r.prepare workshop files directory).registry.prepare
        workshop files other).result =
      (r.prepare workshop files other).result := by
  rw [(prepare_eq workshop files _ other).1,
    (prepare_eq workshop files r other).1,
    (prepare_eq workshop files r directory).2,
    result_load_after workshop files r hPaths]

theorem result_prepare_congr
    {r s : Registry}
    (hConfigs : r.configs = s.configs)
    (directory : Route) :
    (r.prepare workshop files directory).result =
      (s.prepare workshop files directory).result := by
  rw [(prepare_eq workshop files r directory).1,
    (prepare_eq workshop files s directory).1, result_load,
    result_load, hConfigs]

------------------------------------------------------------
-- A Scan Takes In What Can Be Built
------------------------------------------------------------

/- Take in plugins one after the other, up to a fault. -/
def takeInAll
    (r : Registry) :
    List (Plugin × Value) →
      Registry × Except Misuse (List Value)
  | [] => (r, .ok [])
  | (plugin, config) :: rest =>
      let taken := r.takeIn plugin config
      match taken.result with
      | .error cause => (taken.registry, .error cause)
      | .ok (language, _) =>
          let others := takeInAll taken.registry rest
          (others.1, others.2.map (language :: ·))

/-
  A scan does what taking in the plugins of its directories
  does, of those that can be loaded and built at all.
-/
theorem scanAll_eq_takeInAll
    {all : List Route}
    {built : Route → Option (Plugin × Value)}
    (hPaths :
      ∀ d ∈ all, ∀ e ∈ all,
        configPath d = configPath e → d = e)
    {directories : List Route}
    (hAll : directories ⊆ all)
    {r s : Registry}
    (hTables : SameTables r s)
    (hBuilt :
      ∀ d ∈ all,
        (r.prepare workshop files d).result = built d)
    (logs : List Log.Record)
    (found : List Value) :
    SameTables
        (scanAll workshop files r logs found
          directories).registry
        (s.takeInAll (directories.filterMap built)).1 ∧
      (scanAll workshop files r logs found
          directories).result =
        ((s.takeInAll (directories.filterMap built)).2.map
          (found ++ ·)).mapError .misuse := by
  -- Two things survive a directory: the tables, and what each
  -- of the directories comes to.
  induction directories generalizing r s logs found with
  | nil =>
      have hFound :
          (.ok found : Except ScanFailure (List Value)) =
            .ok (found ++ []) := by
        rw [List.append_nil]
      exact ⟨hTables, hFound⟩
  | cons directory rest ih =>
      have hMem : directory ∈ all := hAll (by simp)
      have hRest : rest ⊆ all :=
        fun d hd => hAll (List.mem_cons_of_mem _ hd)
      have hTablesAfter :=
        (sameTables_prepare workshop files r
          directory).trans hTables
      have hBuiltAfter :
          ∀ d ∈ all,
            ((r.prepare workshop files
                directory).registry.prepare workshop files
              d).result = built d := by
        intro d hd
        rw [result_prepare_after workshop files r
          (hPaths d hd directory hMem)]
        exact hBuilt d hd
      rw [scanAll, hBuilt directory hMem]
      cases hMade : built directory with
      | none =>
          rw [List.filterMap_cons_none hMade]
          exact ih hRest hTablesAfter hBuiltAfter _ found
      | some made =>
          rcases made with ⟨plugin, config⟩
          rcases hTablesAfter.takeIn plugin config with
            ⟨hTurn, hTaken⟩
          rw [List.filterMap_cons_some hMade, takeInAll]
          dsimp only
          rw [hTurn]
          cases (s.takeIn plugin config).result with
          | error cause => exact ⟨hTaken, rfl⟩
          | ok turn =>
              rcases turn with ⟨language, started⟩
              have hBuiltTaken :
                  ∀ d ∈ all,
                    (((r.prepare workshop files
                        directory).registry.takeIn plugin
                      config).registry.prepare workshop
                        files d).result = built d := by
                intro d hd
                rw [result_prepare_congr workshop files
                  (configs_takeIn _ plugin config)]
                exact hBuiltAfter d hd
              rcases ih hRest hTaken hBuiltTaken _
                  (found ++ [language]) with
                ⟨hLast, hResult⟩
              refine ⟨hLast, hResult.trans ?_⟩
              cases (takeInAll _ _).2 with
              | error cause => rfl
              | ok languages =>
                  exact congrArg Except.ok
                    (List.append_assoc found [language]
                      languages)

end Registry

end SyntaxOutline
