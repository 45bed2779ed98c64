import ChainStore.CommandLine.Run
import ChainStore.Proofs.Settings.Repathing

set_option autoImplicit false
set_option relaxedAutoImplicit false

/-!
A path given on the command line stands in for the one in the settings file. Two files that differ
in this path alone cannot be told apart by what a command prints or leaves behind, as long as
neither path is empty: a file with an empty path is refused when it is loaded, before the other path
is looked at.
-/

namespace ChainStore.CommandLine

open Files (Disk Place)
open Files.Disk (SameBut SameRun)
open Settings (Repathed)

variable {disk other : Disk} {command : Command} {database text text' path path' : String}
  {change : Disk.Rewriting}

/-- A command line asks for a command on the database that it names itself, under the settings of a
file that holds a text. -/
inductive Asks (arguments : List String) (disk : Disk) (command : Command) (database text : String) :
    Prop where
  | intro {file : String} : invocation? arguments = some ⟨file, some database, command⟩ →
    disk.Holds file text → Asks arguments disk command database text

theorem run_repath {file file' : String} {loaded : Settings} (foreign : change.Foreign)
    (same : SameBut change disk other) (read : Settings.load file disk = .ok loaded)
    (read' : Settings.load file' other = .ok (loaded.repath path')) (log : Log) (now : Int) :
    SameRun change (Invocation.run ⟨file, some database, command⟩ log now disk)
      (Invocation.run ⟨file', some database, command⟩ log now other) := by
  have opening := Files.openCache_same foreign same (loaded.repath database)
  obtain ⟨result, opened, opened', ran, ran', same⟩ := opening.toSameRun.cases
  have inForce : Invocation.settings ⟨file, some database, command⟩ loaded =
      loaded.repath database := rfl
  have inForce' : Invocation.settings ⟨file', some database, command⟩ (loaded.repath path') =
      loaded.repath database := rfl
  unfold Invocation.run
  simp only [read, read', inForce, inForce', ran, ran']
  cases result with
  | error failure =>
    cases failure with
    | error e => exact ⟨rfl, same⟩
    | crash => exact ⟨rfl, same⟩
  | ok link =>
    have apart : link.Apart change := opening.apart link (congrArg Prod.fst ran)
    simp only [apart.connection same]
    exact ⟨rfl, (apart.after same _).1.left⟩

/-- With a path on the command line, the one in the settings file decides nothing, except that it
must not be empty. -/
theorem override_hides_path {arguments arguments' : List String} {rewrites : Place → Prop}
    (asks : Asks arguments disk command database text)
    (asks' : Asks arguments' other command database text')
    (repathed : Repathed text text' path path')
    (same : SameBut (.ofTexts rewrites text text') disk other) (log : Log) (now : Int) :
    ((path = "" ↔ path' = "") →
      SameRun (.ofTexts rewrites text text') (run arguments log now disk)
        (run arguments' log now other)) ∧
    (path = "" →
      run arguments log now disk =
        (.finished (.failure "" (errorReport (.settings .pathUnset))), disk)) := by
  obtain ⟨sensible, holds⟩ := asks
  obtain ⟨sensible', holds'⟩ := asks'
  obtain ⟨settings, given, read, read'⟩ := repathed.load holds holds'
  rw [run_of_invocation? sensible, run_of_invocation? sensible']
  refine ⟨fun both => ?_, fun empty => ?_⟩
  · rw [Settings.validate_repath (given ▸ both)] at read'
    cases valid : settings.validate with
    | error e =>
      simp only [valid, Except.map] at read read'
      simp only [Invocation.run, read, read']
      exact ⟨rfl, same⟩
    | ok u =>
      simp only [valid, Except.map] at read read'
      exact run_repath (repathed.foreign rewrites) same read read' log now
  · rw [Settings.validate_of_unset (given.trans empty)] at read
    simp only [Invocation.run, read, Except.map]

/-! ### Settings files beside nothing else -/

private def settingsPlace : Place := Disk.empty.home ++ [Files.Name.ofText "cache.toml"]

private def configured (text : String) : Disk :=
  Disk.empty.set settingsPlace (.file (.bytes text.toUTF8.data.toList))

private theorem configured_same (text text' : String) :
    SameBut (.ofTexts (· = settingsPlace) text text') (configured text) (configured text') :=
  Disk.sameBut_of_free (by decide +kernel) text text'

private def rangeArguments : List String := ["--db", "d", "range", "1", "2"]

private theorem nodeAt?_settings (disk : Disk) :
    disk.nodeAt? "cache.toml" = disk.node? (disk.home ++ [Files.Name.ofText "cache.toml"]) := by
  have pieces : (Files.Name.ofText "cache.toml").pieces = [Files.Name.ofText "cache.toml"] := by
    decide +kernel
  have led : disk.walk disk.home [Files.Name.ofText "cache.toml"] =
      .ok (disk.home ++ [Files.Name.ofText "cache.toml"]) := by
    rw [Disk.walk, Disk.node?_home]
    simp only
    rw [if_neg (by decide +kernel), if_neg (by decide +kernel), if_neg (by decide +kernel),
      if_neg (by decide +kernel), Disk.walk]
  unfold Disk.nodeAt? Disk.nodeNamed?
  rw [if_neg (by decide +kernel), if_neg (by decide +kernel), pieces, List.map_singleton,
    if_neg (by decide +kernel), List.nil_append]
  unfold Disk.look?
  rw [led]

private theorem asks_configured (text : String) :
    Asks rangeArguments (configured text) (.range 1 2) "d" text := by
  have sensible : invocation? rangeArguments = some ⟨"cache.toml", some "d", .range 1 2⟩ := by
    decide +kernel
  have there : (configured text).nodeAt? "cache.toml" =
      some (.file (.bytes text.toUTF8.data.toList)) := by
    rw [nodeAt?_settings]
    exact Disk.node?_set_of_free (by decide +kernel) _
  exact .intro sensible (.bytes there (by simp))

private def pathless : String := "[database]\npath = \"\"\n"

private def pathed : String := "[database]\npath = \"x\"\n"

private theorem read_pathless :
    Toml.document? pathless = some [("database", .table [("path", .string "")])] := by
  refine (Toml.document?_of_unmarked (by simp only [pathless, String.reduceToList]; rfl) ?_).trans ?_
  · decide
  · rfl

private theorem read_pathed :
    Toml.document? pathed = some [("database", .table [("path", .string "x")])] := by
  refine (Toml.document?_of_unmarked (by simp only [pathed, String.reduceToList]; rfl) ?_).trans ?_
  · decide
  · rfl

private theorem repathed_pathless : Repathed pathless pathed "" "x" :=
  .intro read_pathless (.byName List.mem_cons_self List.mem_cons_self) rfl read_pathed

theorem pathed_override_hides_path :
    let elsewhere := "[database]\npath = \"no/where\"\n"
    Asks rangeArguments (configured pathed) (.range 1 2) "d" pathed ∧
      Asks rangeArguments (configured elsewhere) (.range 1 2) "d" elsewhere ∧
      Repathed pathed elsewhere "x" "no/where" ∧
      SameRun (.ofTexts (· = settingsPlace) pathed elsewhere)
        (run rangeArguments .silent 0 (configured pathed))
        (run rangeArguments .silent 0 (configured elsewhere)) ∧
      (run rangeArguments .silent 0 (configured elsewhere)).1 =
        .finished (.success "range: 0 of 2 heights stored\n") ∧
      run rangeArguments .silent 0 (configured pathless) =
        (.finished (.failure "" (errorReport (.settings .pathUnset))), configured pathless) := by
  intro elsewhere
  have read_elsewhere : Toml.document? elsewhere =
      some [("database", .table [("path", .string "no/where")])] := by
    refine (Toml.document?_of_unmarked
      (by simp only [elsewhere, String.reduceToList]; rfl) ?_).trans ?_
    · decide
    · rfl
  have repathed : Repathed pathed elsewhere "x" "no/where" :=
    .intro read_pathed (.byName List.mem_cons_self List.mem_cons_self) rfl read_elsewhere
  have hidden := override_hides_path (asks_configured pathed) (asks_configured elsewhere) repathed
    (configured_same pathed elsewhere) .silent 0
  have refused := override_hides_path (asks_configured pathless) (asks_configured pathed)
    repathed_pathless (configured_same pathless pathed) .silent 0
  exact ⟨asks_configured pathed, asks_configured elsewhere, repathed,
    hidden.1 (by decide), by decide +kernel, refused.2 rfl⟩

/-- An empty path is not hidden: the same command line, with the same database of its own, is
refused under one settings file and carried out under another that differs in its path alone. -/
theorem override_shows_empty_path :
    Asks rangeArguments (configured pathless) (.range 1 2) "d" pathless ∧
      Asks rangeArguments (configured pathed) (.range 1 2) "d" pathed ∧
      Repathed pathless pathed "" "x" ∧
      SameBut (.ofTexts (· = settingsPlace) pathless pathed) (configured pathless)
        (configured pathed) ∧
      (run rangeArguments .silent 0 (configured pathless)).1 =
        .finished (.failure "" "Config(\"database.path must be set\")") ∧
      (run rangeArguments .silent 0 (configured pathed)).1 =
        .finished (.success "range: 0 of 2 heights stored\n") ∧
      ¬ SameRun (.ofTexts (· = settingsPlace) pathless pathed)
        (run rangeArguments .silent 0 (configured pathless))
        (run rangeArguments .silent 0 (configured pathed)) := by
  have refused : (run rangeArguments .silent 0 (configured pathless)).1 =
      .finished (.failure "" "Config(\"database.path must be set\")") := by
    decide +kernel
  have carriedOut : (run rangeArguments .silent 0 (configured pathed)).1 =
      .finished (.success "range: 0 of 2 heights stored\n") := by
    decide +kernel
  refine ⟨asks_configured pathless, asks_configured pathed, repathed_pathless,
    configured_same pathless pathed, refused, carriedOut, fun same => ?_⟩
  rw [SameRun.answer same] at carriedOut
  cases carriedOut.symm.trans refused

end ChainStore.CommandLine
