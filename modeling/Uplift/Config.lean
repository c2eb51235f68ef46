import Uplift.Engine
import Uplift.Toml.Parser

set_option autoImplicit false

/-! # Configuration

A project may have a configuration file with a section for each concern. Every setting has a default.
Settings that are not known are left alone, as long as their values can be read; a known setting has
to have a value of its type. A section may also be written as an array of its settings in order. What
is given on the command line wins over the file. -/

namespace Uplift

/-- The name of the configuration file. -/
def configFile : String := "upgrader.toml"

/-- What a configuration file says. -/
structure Config where
  framework : Option String := none
  codemodsDir : Option String := none
  registryUrl : Option String := none
  program : Option String := none
  args : List String := []
  parser : Option String := none
  autoConfirm : Bool := false
  gitChecks : Bool := true
  deriving DecidableEq, Repr

namespace Config

/-! ## Reading -/

/-- The values of the known settings of a section. -/
def section? (fields : Fields Toml) (name : String) (keys : List String) :
    Option (List (Option Toml)) :=
  match fields.get? name with
  | none => some (keys.map fun _ => none)
  | some (.table _ inner) =>
    if Toml.fieldsInRange (inner.filter fun (key, _) => !keys.contains key) then
      some (keys.map (Fields.get? inner))
    else none
  | some (.arr _ items) => some (keys.zipIdx.map fun (_, i) => items[i]?)
  | some _ => none

/-- The string of a setting that may be missing. -/
def text? : Option Toml → Option (Option String)
  | none => some none
  | some (.str s) => some (some s)
  | some _ => none

/-- The strings of a setting. -/
def texts? : Option Toml → Option (List String)
  | none => some []
  | some (.arr _ items) => items.mapM fun
    | .str s => some s
    | _ => none
  | some _ => none

/-- The truth of a setting with a default. -/
def flag? (default : Bool) : Option Toml → Option Bool
  | none => some default
  | some (.bool b) => some b
  | some _ => none

/-- The names of the sections. -/
def sections : List String := ["framework", "codemods", "registry", "engine", "upgrade"]

/-- The configuration that a document holds. -/
def ofToml? (fields : Fields Toml) : Option Config := do
  if !Toml.fieldsInRange (fields.filter fun (key, _) => !sections.contains key) then none
  let [package] ← section? fields "framework" ["package"] | none
  let [dir] ← section? fields "codemods" ["dir"] | none
  let [url] ← section? fields "registry" ["url"] | none
  let [program, args, parser] ← section? fields "engine" ["program", "args", "parser"] | none
  let [autoConfirm, gitChecks] ← section? fields "upgrade" ["auto_confirm", "git_checks"] | none
  return {
    framework := ← text? package
    codemodsDir := ← text? dir
    registryUrl := ← text? url
    program := ← text? program
    args := ← texts? args
    parser := ← text? parser
    autoConfirm := ← flag? false autoConfirm
    gitChecks := ← flag? true gitChecks }

/-- Read a configuration. -/
def read (text : String) : Except Fault Config :=
  match (Toml.read? text).bind ofToml? with
  | some config => .ok config
  | none => .error ⟨"invalid TOML", ["malformed document"]⟩

/-! ## Finding -/

/-- The configuration file of a project, if it has one. The path of the project is seen from a working
    directory. -/
def find? (t : Tree) (cwd project : Path) : Option Path :=
  let path := project.child configFile
  if t.has (cwd.join path) then some path else none

/-- The configuration of a project, which is the default one if there is no file. -/
def load (t : Tree) (cwd project : Path) : Except Fault Config :=
  match find? t cwd project with
  | none => .ok {}
  | some path =>
    match t.readText (cwd.join path) with
    | none => .error ⟨"read config file " ++ path.text, ["the file could not be read"]⟩
    | some text => (read text).mapError fun fault => fault.within ("parse config file " ++ path.text)

end Config

/-! ## Settings -/

/-- What the command line says about the configuration. -/
structure Overrides where
  framework : Option String := none
  codemodsDir : Option String := none
  registryUrl : Option String := none
  yes : Bool := false
  deriving DecidableEq, Repr

/-- The settings of a run. -/
structure Settings where
  framework : Option String
  codemodsDir : Path
  registryUrl : Option String
  engine : EngineProgram
  parser : Option String
  autoConfirm : Bool
  gitChecks : Bool
  deriving DecidableEq, Repr

/-- The settings that a configuration and the command line lead to. -/
def Config.settings (c : Config) (o : Overrides) : Settings where
  framework := o.framework.or c.framework
  codemodsDir := ⟨(o.codemodsDir.or c.codemodsDir).getD "codemods"⟩
  registryUrl := o.registryUrl.or c.registryUrl
  engine := { program := c.program.getD ({} : EngineProgram).program, args := c.args }
  parser := c.parser
  autoConfirm := o.yes || c.autoConfirm
  gitChecks := c.gitChecks

namespace Settings

/-- The package of the framework, which has to be given somewhere. -/
def package (s : Settings) : Except Fault String :=
  match s.framework with
  | some package => .ok package
  | none => .error ⟨"no framework package configured; pass --framework or set [framework].package in "
      ++ configFile, []⟩

/-- The directory of the codemods of a project. -/
def codemodsRoot (s : Settings) (project : Path) : Path := project.resolve s.codemodsDir

end Settings

/-- Where a project and its codemods are, and what the project is built on. -/
structure ProjectSettings where
  path : Path
  codemodsDir : Path
  framework : String
  registryUrl : Option String
  deriving DecidableEq, Repr

/-- The settings of the project at a path. -/
def Settings.ofProject (s : Settings) (project : Path) : Except Fault ProjectSettings := do
  let framework ← s.package
  return { path := project, codemodsDir := s.codemodsDir, framework, registryUrl := s.registryUrl }

/-- The directory of the codemods of the project. -/
def ProjectSettings.codemodsRoot (p : ProjectSettings) : Path := p.path.resolve p.codemodsDir

end Uplift
