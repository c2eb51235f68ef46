import Uplift.Cli.Scan
import Uplift.CodemodRun
import Uplift.Config
import Uplift.Target

set_option autoImplicit false

/-! # Commands

The command line has commands to upgrade a project, to run codemods and to list them. Some options go
with all commands and may be given at any level; the innermost one counts. An option may be given
once a level. -/

namespace Uplift.Cli

/-! ## Options of all commands -/

/-- The options of all commands, as far as they are given. -/
structure Options where
  dry : Bool := false
  debug : Bool := false
  silent : Bool := false
  yes : Bool := false
  projectPath : Option String := none
  codemodsDir : Option String := none
  framework : Option String := none
  registry : Option String := none
  deriving DecidableEq, Repr

/-- Set what is not set yet. -/
def once {α : Type} (old : Option α) (new : α) : Option (Option α) :=
  match old with
  | none => some (some new)
  | some _ => none

namespace Options

/-- The options by name. -/
def long : String → Option (Meaning Options)
  | "dry" => some (.flag fun o => if o.dry then none else some { o with dry := true })
  | "debug" => some (.flag fun o => if o.debug then none else some { o with debug := true })
  | "silent" => some (.flag fun o => if o.silent then none else some { o with silent := true })
  | "yes" => some (.flag fun o => if o.yes then none else some { o with yes := true })
  | "project-path" => some (.value fun o v => do
      return { o with projectPath := ← once o.projectPath v })
  | "codemods-dir" => some (.value fun o v => do
      return { o with codemodsDir := ← once o.codemodsDir v })
  | "framework" => some (.value fun o v => do return { o with framework := ← once o.framework v })
  | "registry" => some (.value fun o v => do return { o with registry := ← once o.registry v })
  | "help" => some (.stop .help)
  | _ => none

/-- The options by letter. -/
def short : Char → Option (Meaning Options)
  | 'y' => long "yes"
  | 'h' => some (.stop .help)
  | _ => none

/-- The options of two levels; those of the inner one count. -/
def merge (outer inner : Options) : Options where
  dry := outer.dry || inner.dry
  debug := outer.debug || inner.debug
  silent := outer.silent || inner.silent
  yes := outer.yes || inner.yes
  projectPath := inner.projectPath.or outer.projectPath
  codemodsDir := inner.codemodsDir.or outer.codemodsDir
  framework := inner.framework.or outer.framework
  registry := inner.registry.or outer.registry

/-- Whether the options of one level go together. -/
def areValid (o : Options) : Bool := !(o.debug && o.silent)

/-- The path of the project. -/
def project (o : Options) : Path := ⟨o.projectPath.getD "."⟩

/-- What the options say about the configuration. -/
def overrides (o : Options) : Overrides :=
  { framework := o.framework, codemodsDir := o.codemodsDir, registryUrl := o.registry,
    yes := o.yes }

end Options

/-! ## Levels -/

/-- What is known at a level: the options of all commands, and its own. -/
structure Known (τ : Type) where
  options : Options := {}
  own : τ

variable {τ : Type}

/-- What an option of all commands does at a level. -/
def liftOptions : Meaning Options → Meaning (Known τ)
  | .flag set => .flag fun k => do return { k with options := ← set k.options }
  | .value set => .value fun k v => do return { k with options := ← set k.options v }
  | .stop s => .stop s

/-- What an own option of a level does. -/
def liftOwn (set : τ → String → Option τ) : Meaning (Known τ) :=
  .value fun k v => do return { k with own := ← set k.own v }

/-- A level with own options, arguments without a name, and commands. -/
def level (own : String → Option (τ → String → Option τ)) (positional : τ → String → Option τ)
    (commands : List String) : Level (Known τ) where
  long name := ((own name).map liftOwn).or ((Options.long name).map liftOptions)
  short c := (Options.short c).map liftOptions
  positional k v := do return { k with own := ← positional k.own v }
  commands

/-- The first level, which also knows the version. -/
def rootLevel : Level (Known Unit) :=
  let base : Level (Known Unit) :=
    level (fun _ => none) (fun _ _ => none) ["upgrade", "codemods", "help"]
  { base with
    long := fun name => if name = "version" then some (.stop .version) else base.long name
    short := fun c => if c = 'V' then some (.stop .version) else base.short c }

/-- The level of the commands on codemods. -/
def codemodsLevel : Level (Known Unit) :=
  level (fun _ => none) (fun _ _ => none) ["run", "list", "help"]

/-! ## Commands -/

/-- How a list is printed. -/
inductive Format where
  | text | json
  deriving DecidableEq, Repr

/-- The formats by name. -/
def Format.read? : String → Option Format
  | "text" => some .text
  | "json" => some .json
  | _ => none

/-- The arguments of an upgrade. -/
structure UpgradeArgs where
  target : Option Target := none
  codemodsTarget : Option Version := none
  report : Option String := none
  deriving DecidableEq, Repr

/-- The level of an upgrade. -/
def upgradeLevel : Level (Known UpgradeArgs) :=
  level (fun
    | "codemods-target" => some fun a v => do
      return { a with codemodsTarget := ← once a.codemodsTarget (← (Version.parse v).toOption) }
    | "report" => some fun a v => do return { a with report := ← once a.report v }
    | _ => none)
    (fun a v => do return { a with target := ← once a.target (← (Target.parse v).toOption) }) []

/-- The arguments of a codemod run. -/
structure RunArgs where
  range : Option Range := none
  uid : Option String := none
  report : Option String := none
  deriving DecidableEq, Repr

/-- The level of a codemod run. -/
def runLevel : Level (Known RunArgs) :=
  level (fun
    | "range" => some fun a v => do
      return { a with range := ← once a.range (← (Range.parse v).toOption) }
    | "uid" => some fun a v => do return { a with uid := ← once a.uid v }
    | "report" => some fun a v => do return { a with report := ← once a.report v }
    | _ => none)
    (fun _ _ => none) []

/-- The arguments of a list of codemods. -/
structure ListArgs where
  range : Option Range := none
  format : Option Format := none
  deriving DecidableEq, Repr

/-- The level of a list of codemods. -/
def listLevel : Level (Known ListArgs) :=
  level (fun
    | "range" => some fun a v => do
      return { a with range := ← once a.range (← (Range.parse v).toOption) }
    | "format" => some fun a v => do
      return { a with format := ← once a.format (← Format.read? v) }
    | _ => none)
    (fun _ _ => none) []

/-- A command. -/
inductive Command where
  | upgrade (target : Target) (codemodsTarget : Option Version) (report : Option String)
  | runCodemods (selection : Selection) (report : Option String)
  | listCodemods (range : Range) (format : Format)
  deriving DecidableEq, Repr

namespace Command

/-- Scan a level that has no commands. -/
def leaf (l : Level (Known τ)) (own : τ) (args : List String) : Except Stop (Known τ) := do
  let (known, _) ← l.scan { own } args
  if known.options.areValid then return known else .error .usage

/-- The command of an upgrade. -/
def readUpgrade (args : List String) : Except Stop (Options × Command) := do
  let k ← leaf upgradeLevel {} args
  let target ← fits k.own.target
  return (k.options, .upgrade target k.own.codemodsTarget k.own.report)

/-- The command of a codemod run. -/
def readRun (args : List String) : Except Stop (Options × Command) := do
  let k ← leaf runLevel {} args
  let selection ← match k.own.uid, k.own.range with
    | some _, some _ => .error .usage
    | some uid, none => pure (Selection.uid uid)
    | none, some range => pure (Selection.range range)
    | none, none => pure Selection.pending
  return (k.options, .runCodemods selection k.own.report)

/-- The command of a list of codemods. -/
def readList (args : List String) : Except Stop (Options × Command) := do
  let k ← leaf listLevel {} args
  return (k.options, .listCodemods (k.own.range.getD Range.any) (k.own.format.getD .text))

/-- Put what an inner level read below the options of an outer one. -/
def below (outer : Options) (inner : Except Stop (Options × Command)) :
    Except Stop (Options × Command) := do
  let (options, command) ← inner
  if outer.areValid then return (outer.merge options, command) else .error .usage

/-- The command on codemods. -/
def readCodemods (args : List String) : Except Stop (Options × Command) := do
  match ← codemodsLevel.scan { own := () } args with
  | (k, some ("run", args)) => below k.options (readRun args)
  | (k, some ("list", args)) => below k.options (readList args)
  | (_, some ("help", args)) =>
    .error (if [[], ["run"], ["list"], ["help"]].contains args then .help else .usage)
  | _ => .error .usage

/-- Read a command line. -/
def read (args : List String) : Except Stop (Options × Command) := do
  match ← rootLevel.scan { own := () } args with
  | (k, some ("upgrade", args)) => below k.options (readUpgrade args)
  | (k, some ("codemods", args)) => below k.options (readCodemods args)
  | (_, some ("help", args)) =>
    .error (if [[], ["upgrade"], ["codemods"], ["help"], ["codemods", "run"], ["codemods", "list"],
      ["codemods", "help"]].contains args then .help else .usage)
  | _ => .error .usage

end Command

end Uplift.Cli
