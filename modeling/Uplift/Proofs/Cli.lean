import Uplift.Cli
import Uplift.Proofs.CodemodRun
import Uplift.Proofs.Except
import Uplift.Proofs.Range.Text
import Uplift.Proofs.Report.Listing

set_option autoImplicit false

/-! # Listing and running

The command that lists codemods and the one that runs them find them on ways of their own. The list
takes the directory of the codemods from the settings and shows the collections of a range as they are
loaded. A run opens the project with settings that were made for it, takes the directory from those,
sorts the collections once more and reports what it has run.

Both ways lead to the same codemods in the same order (`run_agrees_with_list`): the directories are the
same, and a loaded repository is sorted already. What a list shows is what can be read off its output: the
collections from the JSON, and the uids from the last column of the table (`Shows`). -/

namespace Uplift

theorem CodemodRun.codemods_of_runRange {x : CodemodRun} {t : Tree} {root : Path} {range : Range}
    {reports : List CodemodReport} {w w' : World} (hload : Repository.load t root = .ok x.repository)
    (hsel : x.selector = none) (h : (x.runRange range).on w = (.ok reports, w')) :
    reports.map (·.codemod) = Collection.flatten (x.repository.inRange range) := by
  rw [on_runRange_eq_ok hsel, Repository.flattenAscending_inRange_of_load hload] at h
  exact Project.runCodemods_codemods h

theorem Project.pending_of_application {p : Project} {c : Version} (h : p.kind = .application c) :
    p.pending = .ok (.after c) := by
  have hversion : p.version? = some c := by rw [version?, h]; rfl
  exact rangeTo_release_of_version? hversion .latest

namespace Cli

variable {m : Machine} {t : Tree} {cwd : Path} {o : Options} {s : Settings} {selection : Selection}
  {project : Project} {repository : Repository} {reports : List CodemodReport} {w : World}

/-! ## Opening -/

/-- The settings of a project lead to the same directory of codemods as the settings that they are
    made of. -/
theorem codemodsRoot_of_ofProject {root : Path} {p : ProjectSettings} (h : s.ofProject root = .ok p) :
    p.codemodsRoot = s.codemodsRoot root := by
  obtain ⟨framework, -, h⟩ := bind_eq_ok_iff.1 h
  obtain rfl := Except.ok.inj h
  rfl

theorem load_of_openRepository {root : Path} (h : openRepository t root = .ok repository) :
    Repository.load t root = .ok repository :=
  mapError_eq_ok_iff.1 h

/-- A project that was opened has the codemods in the directory that the list reads. -/
theorem openRepository_of_openProject (h : openProject t cwd o s = .ok (project, repository)) :
    ∃ root, projectRoot t cwd o.project = .ok root ∧
      openRepository t (s.codemodsRoot root) = .ok repository := by
  obtain ⟨root, hroot, h⟩ := bind_eq_ok_iff.1 h
  obtain ⟨p, hsettings, h⟩ := bind_eq_ok_iff.1 h
  obtain ⟨project', -, h⟩ := bind_eq_ok_iff.1 h
  obtain ⟨repository', hopen, h⟩ := bind_eq_ok_iff.1 h
  obtain ⟨-, rfl⟩ := Prod.mk.inj (Except.ok.inj h)
  rw [codemodsRoot_of_ofProject hsettings] at hopen
  exact ⟨root, hroot, hopen⟩

theorem ran_eq_ok (h : ran m t cwd o s selection = .ok (.ok reports, w)) :
    ∃ project repository, openProject t cwd o s = .ok (project, repository) ∧
      (CodemodRun.run {
        project, repository, services := servicesOf m s, dry := o.dry, parser := s.parser }
        selection).on { tree := t } = (.ok reports, w) := by
  obtain ⟨⟨project, repository⟩, hopen, h⟩ := bind_eq_ok_iff.1 h
  exact ⟨project, repository, hopen, Except.ok.inj h⟩

theorem ran_of_success {report : Option String}
    (h : (runCodemods m t cwd o s selection report).ending = .success) :
    ∃ reports w, ran m t cwd o s selection = .ok (.ok reports, w) := by
  unfold runCodemods at h
  cases hran : ran m t cwd o s selection with
  | error fault =>
    rw [hran] at h
    cases h
  | ok result =>
    obtain ⟨e | reports, w⟩ := result
    · rw [hran] at h
      -- a failure is written to the report at most, and stays one
      exfalso
      simp only [concludeRun] at h
      split at h
      · cases h
      · simp only [conclude] at h
        split at h
        · cases h
        · split at h <;> cases h
    · exact ⟨reports, w, rfl⟩

/-! ## Lists -/

/-- A text shows a table with these cells in its last column: the frame, the head and a rule, a block of
    lines for each cell, and after the frame an empty line and a hint. -/
def ShowsLastColumn (text : String) (cells : List String) : Prop :=
  ∃ above blocks below, Text.splitAt '\n' text.toList = above ++ blocks.flatten ++ below ∧
    above.length = 3 ∧ List.Forall₂ Table.Draws blocks cells ∧ below.length = 4

/-- The list of a range shows the codemods with these uids in order. The JSON that is printed is read
    back as the collections that are listed, and these have the codemods. The text is the table of the
    collections, whose last column has the uids, or says that there are none. -/
def Shows (t : Tree) (cwd : Path) (o : Options) (s : Settings) (range : Range) (uids : List String) :
    Prop :=
  ∃ collections json text, listed t cwd o s range = .ok collections ∧
    (Collection.flatten collections).map (·.uid) = uids ∧
    listCodemods t cwd o s range .json = { stdout := json, tree := t } ∧
    Json.decode (Json.list Collection.decoder) json = .ok collections ∧
    listCodemods t cwd o s range .text = { stdout := text, tree := t } ∧
    (collections = [] → text = "No codemods match " ++ range.text ++ ".\n") ∧
    (collections ≠ [] →
      text = (codemodTable collections).render ++ listHint ∧
      (codemodTable collections).rows.map List.getLast? = uids.map some ∧
      ShowsLastColumn text uids)

theorem showsLastColumn_codemodTable (collections : List Collection) :
    ShowsLastColumn ((codemodTable collections).render ++ listHint)
      ((Collection.flatten collections).map (·.uid)) := by
  obtain ⟨above, blocks, bottom, htable, habove, hblocks⟩ := splitAt_codemodTable collections
  have hhint : listHint.toList = '\n' :: listHint.toList.tail := by decide +kernel
  have hbelow : (Text.splitAt '\n' listHint.toList.tail).length = 3 := by decide +kernel
  refine ⟨above, blocks, bottom :: Text.splitAt '\n' listHint.toList.tail, ?_, habove, hblocks, ?_⟩
  · rw [String.toList_append, hhint, Text.splitAt_append_cons, htable, List.append_assoc,
      List.singleton_append]
    rfl
  · rw [List.length_cons, hbelow]

theorem shows_of_openProject (h : openProject t cwd o s = .ok (project, repository)) (range : Range) :
    Shows t cwd o s range ((Collection.flatten (repository.inRange range)).map (·.uid)) := by
  obtain ⟨root, hroot, hopen⟩ := openRepository_of_openProject h
  have hlisted : listed t cwd o s range = .ok (repository.inRange range) :=
    bind_eq_ok_iff.2 ⟨root, hroot, bind_eq_ok_iff.2 ⟨repository, hopen, rfl⟩⟩
  have hprinted (format : Format) : listCodemods t cwd o s range format
      = { stdout := listText range (repository.inRange range) format, tree := t } := by
    rw [listCodemods, hlisted]
  refine ⟨_, _, _, hlisted, rfl, hprinted .json, decode_collections _, hprinted .text, ?_, ?_⟩
  · intro hnil
    simp [listText, hnil]
  · intro hne
    have htext : listText range (repository.inRange range) .text = _ :=
      if_neg (mt List.isEmpty_iff.1 hne)
    rw [htext]
    exact ⟨rfl, getLast?_codemodTable _, showsLastColumn_codemodTable _⟩

/-- The reports of a run over a range are about the codemods that the list of the range shows. -/
theorem shows_of_runRange (hopen : openProject t cwd o s = .ok (project, repository)) {range : Range}
    (hrun : (CodemodRun.runRange {
      project, repository, services := servicesOf m s, dry := o.dry, parser := s.parser }
      range).on { tree := t } = (.ok reports, w)) :
    Shows t cwd o s range (reports.map (·.codemod.uid)) := by
  obtain ⟨root, -, hload⟩ := openRepository_of_openProject hopen
  have hcodemods := CodemodRun.codemods_of_runRange (load_of_openRepository hload) rfl hrun
  have huids : reports.map (·.codemod.uid)
      = (Collection.flatten (repository.inRange range)).map (·.uid) := by
    rw [← hcodemods, List.map_map]
    rfl
  rw [huids]
  exact shows_of_openProject hopen range

/-- **Listing and running agree.** On any files, with any settings: a run of codemods that ends in
    success has reports. Where a run over a range has reports, the list of the range shows the codemods
    that they are about, in order. Where a run of what is pending in an application has reports, they
    are about the codemods that the list of `>c` shows, with `c` the version of the application. -/
theorem run_agrees_with_list (m : Machine) (t : Tree) (cwd : Path) (o : Options) (s : Settings) :
    (∀ selection report, (runCodemods m t cwd o s selection report).ending = .success →
      ∃ reports w, ran m t cwd o s selection = .ok (.ok reports, w)) ∧
    (∀ range reports w, ran m t cwd o s (.range range) = .ok (.ok reports, w) →
      Shows t cwd o s range (reports.map (·.codemod.uid))) ∧
    (∀ project repository c reports w, openProject t cwd o s = .ok (project, repository) →
      project.kind = .application c → ran m t cwd o s .pending = .ok (.ok reports, w) →
      ∃ range, Range.parse (">" ++ c.text) = .ok range ∧
        Shows t cwd o s range (reports.map (·.codemod.uid))) := by
  refine ⟨fun selection report h => ran_of_success h, ?_, ?_⟩
  · intro range reports w hran
    obtain ⟨project, repository, hopen, hrun⟩ := ran_eq_ok hran
    exact shows_of_runRange hopen hrun
  · intro project repository c reports w hopen hkind hran
    obtain ⟨project', repository', hopen', hrun⟩ := ran_eq_ok hran
    rw [hopen] at hopen'
    obtain ⟨rfl, rfl⟩ := Prod.mk.inj (Except.ok.inj hopen')
    simp only [CodemodRun.run, Project.pending_of_application hkind] at hrun
    exact ⟨.after c, Range.parse_lowerText ⟨c, false⟩, shows_of_runRange hopen hrun⟩

/-- An application at 1.0.0 with codemods of its own, and codemods elsewhere on the disk. -/
def shelves : Tree :=
  .dir [
    ("app", .dir [
      ("package.json", .file (.text "\x7b\"dependencies\":\x7b\"core\":\"1.0.0\"\x7d\x7d")),
      ("index.ts", .file (.text "")),
      ("codemods", .dir [
        ("3.0.0", .dir [("c.code.ts", .file (.text ""))]),
        ("2.0.0", .dir [("b.code.ts", .file (.text "")), ("a.code.ts", .file (.text ""))]),
        ("1.0.0", .dir [("z.code.ts", .file (.text ""))])])]),
    ("shared", .dir [("1.5.0", .dir [("s.code.ts", .file (.text ""))])])]

/-- A machine on which every program prints a summary. -/
def shelvesMachine : Machine where
  launch _ t := (.ok { stdout := "Results:\n1 ok\n" }, t)
  fetch _ := .error ⟨"offline", []⟩
  overflow := .wrap
  runId := "1"
  time := "0"

/-- Settings with this directory of codemods. -/
def shelvesSettings (dir : String) : Settings :=
  { Config.settings {} {} with framework := some "core", codemodsDir := ⟨dir⟩ }

/-- The uids of the reports of a run on that machine. -/
def shelvesUids (dir : String) (selection : Selection) : Option (List String) :=
  match ran shelvesMachine shelves ⟨"/app"⟩ {} (shelvesSettings dir) selection with
  | .ok (.ok reports, _) => some (reports.map (·.codemod.uid))
  | _ => none

theorem ran_of_shelvesUids {dir : String} {selection : Selection} {uids : List String}
    (h : shelvesUids dir selection = some uids) :
    ∃ reports w, ran shelvesMachine shelves ⟨"/app"⟩ {} (shelvesSettings dir) selection
      = .ok (.ok reports, w) ∧ reports.map (·.codemod.uid) = uids := by
  unfold shelvesUids at h
  split at h
  · rename_i reports w hran
    exact ⟨reports, w, hran, Option.some.inj h⟩
  · cases h

/-- A range of codemods in a directory below the project, and what is pending in one elsewhere. -/
theorem run_agrees_with_list_shelves :
    Shows shelves ⟨"/app"⟩ {} (shelvesSettings "codemods") (.after (.release 1 0 0))
      ["2.0.0-a-code", "2.0.0-b-code", "3.0.0-c-code"] ∧
    ∃ range, Range.parse ">1.0.0" = .ok range ∧
      Shows shelves ⟨"/app"⟩ {} (shelvesSettings "/shared") range ["1.5.0-s-code"] := by
  have hbelow : shelvesUids "codemods" (.range (.after (.release 1 0 0)))
      = some ["2.0.0-a-code", "2.0.0-b-code", "3.0.0-c-code"] := by decide +kernel
  have helsewhere : shelvesUids "/shared" .pending = some ["1.5.0-s-code"] := by decide +kernel
  obtain ⟨reports, w, hran, huids⟩ := ran_of_shelvesUids hbelow
  obtain ⟨reports', w', hran', huids'⟩ := ran_of_shelvesUids helsewhere
  rw [← huids, ← huids']
  refine ⟨(run_agrees_with_list _ _ _ _ _).2.1 _ _ _ hran, ?_⟩
  obtain ⟨project, repository, hopen, -⟩ := ran_eq_ok hran'
  have hkind : project.kind = .application (.release 1 0 0) := by
    have hopened : (openProject shelves ⟨"/app"⟩ {} (shelvesSettings "/shared")).toOption.map
        (·.1.kind) = some (.application (.release 1 0 0)) := by decide +kernel
    rw [hopen] at hopened
    exact Option.some.inj hopened
  have htext : ">" ++ (Version.release 1 0 0).text = ">1.0.0" := by decide +kernel
  rw [← htext]
  exact (run_agrees_with_list _ _ _ _ _).2.2 project repository _ _ _ hopen hkind hran'

end Cli

end Uplift
