/-
**Settings.**

Six settings govern the library.  Each is looked for in the environment, then in the environment
file of the working directory, and has a default; names are compared without regard to letter case.
All six are checked, and either all are good or every problem is reported.

Main definitions:

* `Settings` — the settings;
* `Settings.given?`, `Settings.chosen?` — where a setting's text comes from;
* `Settings.check` — the settings, given the chosen texts;
* `Settings.toJson` — the settings as a report shows them.

Main results:

* `Settings.check_congr` — each setting depends on its own text alone.
-/

import ElementLookup.Check.Field
import ElementLookup.Environment.File
import ElementLookup.Files.Tree
import ElementLookup.Log.Record

set_option autoImplicit false

namespace ElementLookup

/-- The attribute that holds test ids if nothing else is said. -/
def defaultTestIdAttribute : String := "data-testid"

/-- The settings. -/
structure Settings where
  testIdAttribute : String
  queriesDir : Path
  logLevel : Log.Level
  logToFile : Bool
  logFile : Path
  colorizedOutput : Bool
  deriving DecidableEq, Repr

namespace Settings

/-! ### Sources -/

/-- A text without regard to the case of ASCII letters. -/
def fold (s : String) : String := String.ofList (s.toList.map Char.toLower)

/-- The value that a source gives to a name: the last one of that name, whatever its case. -/
def given? (source : EnvFile.Variables) (name : String) : Option String :=
  (source.reverse.find? fun v => fold v.1 = fold name).bind (·.2)

/-- The environment as a source. -/
def ofEnvironment (env : Environment) : EnvFile.Variables :=
  env.bindings.map fun v => (v.1, some v.2)

/-- The text chosen for a setting: the environment goes before the file. -/
def chosen? (env : Environment) (file : EnvFile.Variables) (name : String) : Option String :=
  (given? (ofEnvironment env) name).or (given? file name)

/-! ### Checks -/

/-- An attribute for test ids. -/
def attributeName (s : String) : Checked String :=
  Check.nonBlank "TEST_ID_ATTRIBUTE cannot be empty" s

/-- A path, seen from the working directory. -/
def absolutePath (cwd : Path) (s : String) : Checked Path :=
  .good (cwd.join (Path.ofText s))

/-- A level by its name. -/
def level (s : String) : Checked Log.Level :=
  match Log.Level.ofName? s with
  | some l => .good l
  | none => .fail (.notOneOf (Log.Level.all.map Log.Level.name))

/-- A setting by its name: its text checked, or its default. -/
def field {α : Type} (text? : String → Option String) (name : String) (default : α)
    (check : String → Checked α) : Checked α :=
  match text? name with
  | some s => Checked.within name (check s)
  | none => .good default

/-- The settings, given the text chosen for each name. -/
def check (cwd : Path) (text? : String → Option String) : Checked Settings :=
  Settings.mk
    <$> field text? "TEST_ID_ATTRIBUTE" defaultTestIdAttribute attributeName
    <*> field text? "QUERIES_DIR" (cwd.join ⟨.here, ["queries"]⟩) (absolutePath cwd)
    <*> field text? "LOG_LEVEL" .info level
    <*> field text? "LOG_TO_FILE" false Check.boolOfText
    <*> field text? "LOG_FILE" (cwd.join ⟨.here, ["getby.log"]⟩) (absolutePath cwd)
    <*> field text? "COLORIZED_OUTPUT" true Check.boolOfText

theorem check_congr (cwd : Path) {f g : String → Option String} (h : ∀ name, f name = g name) :
    check cwd f = check cwd g := by
  rw [show f = g from funext h]

/-! ### Report -/

/-- The settings as a report shows them. -/
def toJson (s : Settings) : Json :=
  .object [("TEST_ID_ATTRIBUTE", .text s.testIdAttribute), ("QUERIES_DIR", .text s.queriesDir.text),
    ("LOG_LEVEL", .text s.logLevel.name), ("LOG_TO_FILE", .bool s.logToFile),
    ("LOG_FILE", .text s.logFile.text), ("COLORIZED_OUTPUT", .bool s.colorizedOutput)]

end Settings

end ElementLookup
