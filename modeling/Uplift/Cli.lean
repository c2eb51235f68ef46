import Uplift.Cli.Command
import Uplift.Cli.Report
import Uplift.PackageManager
import Uplift.Registry
import Uplift.Report.Table
import Uplift.Upgrade

set_option autoImplicit false

/-! # The command line

A command line is run on the files, with programs and requests answered by a machine. What comes of
it is what is printed, how it ended, and the files after it, together with the programs that were
called and the addresses that were requested on the way. Nobody is asked anything: what can be waved
through is, if the user said so beforehand. -/

namespace Uplift.Cli

/-! ## Machine and outcome -/

/-- What a command line needs of the machine that it runs on, and of the build that runs there. -/
structure Machine where
  launch : Launcher
  fetch : Fetcher
  overflow : Overflow
  /-- The id of the run. -/
  runId : String
  /-- The time of the report. -/
  time : String

/-- How a command line ended. -/
inductive Ending where
  | success
  | failure (fault : Fault)
  /-- The arguments were wrong. -/
  | usage
  /-- A duration or a checked count was out of range, which ends the program at once. -/
  | abort
  deriving DecidableEq, Repr

/-- The exit status. -/
def Ending.exit : Ending → Nat
  | .success => 0
  | .failure _ => 1
  | .usage => 2
  | .abort => 101

/-- What came of a command line. -/
structure Outcome where
  stdout : String := ""
  ending : Ending := .success
  tree : Tree
  calls : List Invocation := []
  requests : List String := []

/-- The outcome of a failure before anything was done. -/
def Outcome.failed (t : Tree) (fault : Fault) : Outcome := { ending := .failure fault, tree := t }

/-- Whether a failure ends the program at once. -/
def isAbort : Failure → Bool
  | .transform (.overflow _) => true
  | _ => false

/-! ## Projects -/

/-- The absolute path of the project. -/
def projectRoot (t : Tree) (cwd path : Path) : Except Fault Path :=
  match if path.text = "" then none else t.place? (cwd.join path) with
  | some place =>
    if (t.get? place).isSome then .ok ⟨"/" ++ Text.joined "/" place⟩
    else .error ⟨"resolve project path " ++ path.text, ["no such file or directory"]⟩
  | none => .error ⟨"resolve project path " ++ path.text, ["no such file or directory"]⟩

/-- Load the codemods of a directory. -/
def openRepository (t : Tree) (root : Path) : Except Fault Repository :=
  (Repository.load t root).mapError fun e => ⟨"load codemods from " ++ root.text, [e.message]⟩

/-- Load the project and its codemods. -/
def openProject (t : Tree) (cwd : Path) (o : Options) (s : Settings) :
    Except Fault (Project × Repository) := do
  let root ← projectRoot t cwd o.project
  let p ← s.ofProject root
  let project ← (Project.load t p.path ⟨p.framework⟩).mapError fun e =>
    ⟨"load project at " ++ p.path.text, [e.message]⟩
  let repository ← openRepository t p.codemodsRoot
  return (project, repository)

/-- What codemods are applied with. -/
def servicesOf (m : Machine) (s : Settings) : Services := { engine := s.engine.engine m.launch }

/-! ## Texts -/

/-- What is printed about the reports of a run. -/
def runText (reports : List CodemodReport) (totals : Totals) (dry : Bool) : String :=
  (if reports.isEmpty then "" else (reportTable reports totals).render ++ "\n")
    ++ (if dry then "Dry run: no files were written.\n" else "")

/-- What is printed first about an upgrade. -/
def upgradeText (package : String) (u : Upgraded) : String :=
  "Upgraded " ++ package ++ " " ++ (u.old.map Version.text).getD "plugin" ++ " → " ++ u.new.text
    ++ "\n"

/-- What is printed about the dependencies that were pinned anew. -/
def bumpedText (u : Upgraded) : String :=
  String.join (u.bumped.map fun dependency =>
    "  bumped " ++ dependency ++ " → " ++ u.new.text ++ "\n")

/-- What stands below the table of a list. -/
def listHint : String := "\n\nUse 'upgrader codemods run --uid <uid>' to run one.\n"

/-- What is printed about codemods. -/
def listText (range : Range) (collections : List Collection) : Format → String
  | .json => (Json.arr (collections.map Collection.toJson)).pretty ++ "\n"
  | .text =>
    if collections.isEmpty then "No codemods match " ++ range.text ++ ".\n"
    else (codemodTable collections).render ++ listHint

/-! ## Commands -/

/-- Write the report of a run, if one is wanted, and end. -/
def conclude (cwd : Path) (report : Option String) (e : Envelope) (ending : Ending) (stdout : String)
    (t : Tree) : Outcome :=
  match report with
  | none => { stdout, ending, tree := t }
  | some path =>
    match writeReport t cwd e ⟨path⟩ with
    | .ok t => { stdout, ending, tree := t }
    | .error fault => { stdout, ending := .failure fault, tree := t }

/-- End a run: print `before`, what there is to say about the reports, and `after`. -/
def concludeRun (m : Machine) (cwd : Path) (report : Option String) (dry : Bool) (t : Tree)
    (before after : String) : Except Failure (List CodemodReport) → Outcome
  | .error failure =>
    if isAbort failure then { ending := .abort, tree := t }
    else
      conclude cwd report (Envelope.failure m.runId m.time failure.fault) (.failure failure.fault) "" t
  | .ok reports =>
    match Totals.ofReports? m.overflow reports with
    | none => { stdout := before, ending := .abort, tree := t }
    | some totals =>
      conclude cwd report (Envelope.success m.runId m.time reports totals) .success
        (before ++ runText reports totals dry ++ after) t

/-- The program call behind an event of a codemod run. -/
def runCall? (engine : EngineProgram) : Event → Option Invocation
  | .engine call => some (engine.invocation call)
  | _ => none

/-- The program call behind an event of an upgrade. -/
def upgradeCall? (engine : EngineProgram) (manager : PackageManager) (root : Path) :
    Event → Option Invocation
  | .inquiry (.check _ .gitInstalled) => some Git.versionCall
  | .inquiry (.check _ .gitRepository) => some (Git.repositoryCall root)
  | .inquiry (.check _ .gitStatus) => some (Git.statusCall root)
  | .install cwd => some (manager.installCall cwd)
  | event => runCall? engine event

/-- The address requested by an event. -/
def request? (registry : Registry) : Event → Option String
  | .registry package => some (registry.packageUrl package)
  | _ => none

/-- The parties of an upgrade of a project. -/
def partiesOf (m : Machine) (s : Settings) (t : Tree) (project : Project) (manager : PackageManager)
    (registry : Registry) : Parties where
  registry _ package := registry.versions m.fetch package
  confirm := answerAlways s.autoConfirm
  git := Git.ask m.launch t project.cwd
  manager := manager.program
  install _ cwd t := manager.install m.launch cwd t

/-- Upgrade a project. -/
def upgrade (m : Machine) (t : Tree) (cwd : Path) (o : Options) (s : Settings) (target : Target)
    (codemodsTarget : Option Version) (report : Option String) : Outcome :=
  match openProject t cwd o s with
  | .error fault => .failed t fault
  | .ok (project, repository) =>
    let manager := PackageManager.detect t project.cwd
    let configured := manager.registry m.launch t project.cwd
    let registry := Registry.atUrl (Registry.resolveUrl s.registryUrl configured)
    let u : Upgrade := {
      repository, services := servicesOf m s
      parties := partiesOf m s t project manager registry
      target, codemodsTarget, dry := o.dry, parser := s.parser, gitChecks := s.gitChecks }
    let (result, _, w) := u.run project { tree := t }
    let outcome := match result with
      | .error failure => concludeRun m cwd report o.dry w.tree "" "" (.error failure)
      | .ok upgraded =>
        concludeRun m cwd report o.dry w.tree (upgradeText project.framework.package upgraded)
          (bumpedText upgraded) (.ok upgraded.reports)
    { outcome with
      calls := (if Registry.isGiven s.registryUrl then [] else [manager.registryCall project.cwd])
        ++ w.log.filterMap (upgradeCall? s.engine manager project.cwd)
      requests := w.log.filterMap (request? registry) }

/-- What a codemod run comes to once the project is open: its reports, and the world after it. -/
def ran (m : Machine) (t : Tree) (cwd : Path) (o : Options) (s : Settings) (selection : Selection) :
    Except Fault (Except Failure (List CodemodReport) × World) := do
  let (project, repository) ← openProject t cwd o s
  let run : CodemodRun := {
    project, repository, services := servicesOf m s, dry := o.dry, parser := s.parser }
  return (run.run selection).on { tree := t }

/-- Run codemods on a project. -/
def runCodemods (m : Machine) (t : Tree) (cwd : Path) (o : Options) (s : Settings)
    (selection : Selection) (report : Option String) : Outcome :=
  match ran m t cwd o s selection with
  | .error fault => .failed t fault
  | .ok (result, w) =>
    { concludeRun m cwd report o.dry w.tree "" "" result with
      calls := w.log.filterMap (runCall? s.engine) }

/-- The collections that a list shows. -/
def listed (t : Tree) (cwd : Path) (o : Options) (s : Settings) (range : Range) :
    Except Fault (List Collection) := do
  let root ← projectRoot t cwd o.project
  let repository ← openRepository t (s.codemodsRoot root)
  return repository.inRange range

/-- List codemods. -/
def listCodemods (t : Tree) (cwd : Path) (o : Options) (s : Settings) (range : Range)
    (format : Format) : Outcome :=
  match listed t cwd o s range with
  | .error fault => .failed t fault
  | .ok collections => { stdout := listText range collections format, tree := t }

/-- Run a command. -/
def runCommand (m : Machine) (t : Tree) (cwd : Path) (o : Options) (command : Command) : Outcome :=
  match Config.load t cwd o.project with
  | .error fault => .failed t (fault.within "load upgrader.toml config")
  | .ok config =>
    let s := config.settings o.overrides
    match command with
    | .upgrade target codemodsTarget report => upgrade m t cwd o s target codemodsTarget report
    | .runCodemods selection report => runCodemods m t cwd o s selection report
    | .listCodemods range format => listCodemods t cwd o s range format

/-! ## The whole command line -/

/-- The text that tells the version. -/
def versionText : String := "upgrader 0.1.0\n"

/-- The text that helps. -/
def helpText : String :=
  "Upgrade a project's framework version and run the codemods that go with it.\n\n"
    ++ "Usage: upgrader [OPTIONS] <COMMAND>\n\n"
    ++ "Commands:\n"
    ++ "  upgrade   Upgrade to a release type (major, minor, patch, latest) or an exact version\n"
    ++ "  codemods  Run or list codemods without touching dependencies\n"
    ++ "  help      Print this message or the help of the given subcommand(s)\n\n"
    ++ "Options:\n"
    ++ "      --dry                          Report what would change without writing files or reinstalling\n"
    ++ "      --debug                        Verbose logging\n"
    ++ "      --silent                       Only log errors\n"
    ++ "      --project-path <PROJECT_PATH>  Project root (default: current directory) [default: .]\n"
    ++ "  -y, --yes                          Answer yes to every prompt\n"
    ++ "      --codemods-dir <CODEMODS_DIR>  Codemods directory (default: <project_path>/codemods)\n"
    ++ "      --framework <FRAMEWORK>        Framework package, e.g. @acme/core\n"
    ++ "      --registry <REGISTRY>          Module registry URL\n"
    ++ "  -h, --help                         Print help\n"
    ++ "  -V, --version                      Print version\n"

/-- Run a command line in a working directory. -/
def run (m : Machine) (cwd : Path) (args : List String) (t : Tree) : Outcome :=
  match Command.read args with
  | .error .usage => { ending := .usage, tree := t }
  | .error .version => { stdout := versionText, tree := t }
  | .error .help => { stdout := helpText, tree := t }
  | .ok (o, command) => runCommand m t cwd o command

end Uplift.Cli
