import Uplift.Proofs.Repository

set_option autoImplicit false

/-! # A repository answers as of its last refresh

While a repository is in use, files come and go on the disk. A refresh looks at the disk and at nothing
that the repository had before: it leaves what is loaded anew from the same root, or nothing where that
fails (`repository_step_refresh`). An edit of the disk leaves the repository alone. So whatever happened
before, the answers after a refresh are those of a repository that is opened on the disk as it was then,
and they stay so until the next refresh (`session_answers`). -/

namespace Uplift.Repository

/-! ## Questions -/

/-- What a repository can be asked. -/
inductive Question where
  | versions
  | ofVersion (v : Version)
  | withUid (uid : String)
  | find (query : Query)
  | count (v : Version)
  | countIn (range : Range)

/-- An answer to a question. -/
inductive Answer where
  | versions (vs : List Version)
  | codemods (ms : List Codemod)
  | codemod (m : Option Codemod)
  | collections (cs : List Collection)
  | number (n : Nat)
  deriving DecidableEq

/-- The answer of a repository. -/
def answer (r : Repository) : Question → Answer
  | .versions => .versions r.versions
  | .ofVersion v => .codemods (r.ofVersion v)
  | .withUid uid => .codemod (r.withUid? uid)
  | .find query => .collections (r.find query)
  | .count v => .number (r.count v)
  | .countIn range => .number (r.countIn range)

/-! ## Sessions -/

/-- A change of the disk. Where it cannot be made, nothing changes. -/
inductive Edit where
  | write (p : Path) (c : Content)
  | makeDir (p : Path)
  | remove (p : Path)

/-- The disk after an edit. Directories above a file are made with it, and a directory is removed with
    all that is in it. -/
def Edit.apply (t : Tree) : Edit → Tree
  | .write p c => (t.writeDeep p c).getD t
  | .makeDir p => (t.makeDir p).getD t
  | .remove p => t.remove p

/-- What happens in a session. -/
inductive Step where
  | edit (e : Edit)
  | refresh

/-- A disk and a repository on it. -/
structure Session where
  tree : Tree
  repository : Repository

namespace Session

/-- One step of a session. -/
def step (s : Session) : Step → Session
  | .edit e => { s with tree := e.apply s.tree }
  | .refresh => { s with repository := (s.repository.refresh s.tree).2 }

/-- A session of many steps. -/
def run (s : Session) (steps : List Step) : Session := steps.foldl step s

theorem run_append (s : Session) (steps more : List Step) :
    s.run (steps ++ more) = (s.run steps).run more :=
  List.foldl_append

/-- A refresh keeps the root and nothing else. -/
theorem repository_step_refresh (s : Session) : (s.step .refresh).repository =
    match load s.tree s.repository.root with
      | .ok fresh => fresh
      | .error _ => { root := s.repository.root } := by
  rw [step, refresh_eq]
  cases load s.tree s.repository.root <;> rfl

theorem root_step (s : Session) (step : Step) :
    (s.step step).repository.root = s.repository.root := by
  cases step with
  | edit e => rfl
  | refresh =>
    rw [repository_step_refresh]
    cases h : load s.tree s.repository.root with
    | error e => rfl
    | ok fresh => exact root_of_load h

theorem root_run (s : Session) (steps : List Step) :
    (s.run steps).repository.root = s.repository.root := by
  induction steps generalizing s with
  | nil => rfl
  | cons first rest ih => exact (ih (s.step first)).trans (s.root_step first)

theorem repository_run_edits (s : Session) (edits : List Edit) :
    (s.run (edits.map .edit)).repository = s.repository := by
  induction edits generalizing s with
  | nil => rfl
  | cons e edits ih => exact ih (s.step (.edit e))

theorem repository_run_refresh (s : Session) (before : List Step) (edits : List Edit) :
    (s.run (before ++ .refresh :: edits.map .edit)).repository =
      match load (s.run before).tree s.repository.root with
        | .ok fresh => fresh
        | .error _ => { root := s.repository.root } := by
  have hsplit : s.run (before ++ .refresh :: edits.map .edit)
      = ((s.run before).step .refresh).run (edits.map .edit) := s.run_append before _
  rw [hsplit, repository_run_edits, repository_step_refresh, root_run]

end Session

/-- **A repository answers as of its last refresh.** In any session, after a refresh that succeeded every
    question is answered as by a repository that was opened on the disk as it was at the refresh. After
    a refresh that failed every question is answered as by a repository without codemods. Edits of the
    disk change no answer. -/
theorem session_answers (s : Session) (before : List Step) (edits : List Edit) :
    let now := s.run before
    let outcome := (now.repository.refresh now.tree).1
    let later := s.run (before ++ .refresh :: edits.map .edit)
    (outcome = .ok () → ∃ fresh, load now.tree s.repository.root = .ok fresh ∧
      ∀ q, later.repository.answer q = fresh.answer q) ∧
    (∀ e, outcome = .error e → load now.tree s.repository.root = .error e ∧
      ∀ q, later.repository.answer q = answer { root := s.repository.root } q) ∧
    (∀ q, (s.run (before ++ edits.map .edit)).repository.answer q = now.repository.answer q) := by
  intro now outcome later
  have hroot : now.repository.root = s.repository.root := s.root_run before
  have hlater := s.repository_run_refresh before edits
  refine ⟨fun hok => ?_, fun e he => ?_, fun q => ?_⟩
  · obtain ⟨fresh, hload⟩ := refresh_eq_ok_iff.1 hok
    rw [hroot] at hload
    refine ⟨fresh, hload, fun q => ?_⟩
    rw [hlater, hload]
  · have hload := refresh_eq_error_iff.1 he
    rw [hroot] at hload
    refine ⟨hload, fun q => ?_⟩
    rw [hlater, hload]
  · rw [s.run_append, Session.repository_run_edits]

/-- A disk with an empty root. -/
def bareRoot : Session := ⟨.dir [("codemods", .dir [])], { root := ⟨"/codemods"⟩ }⟩

/-- A refresh that fails, and a codemod that is written after it. -/
def arrival : List Step := [.refresh, .edit (.write ⟨"/codemods/2.0.0/a.code.ts"⟩ (.text ""))]

/-- The codemod that is written. -/
def arrived : Codemod := ⟨.code, .release 2 0 0, ⟨"/codemods/2.0.0"⟩, "a.code.ts"⟩

/-- A refresh that finds it, and the end of the whole root. -/
def departure : List Step := arrival ++ [.refresh, .edit (.remove ⟨"/codemods"⟩)]

/-- What a refresh has found is there also when its files are gone. One more refresh fails, and leaves
    nothing. -/
theorem session_answers_bareRoot :
    (bareRoot.run departure).repository.answer .versions = .versions [.release 2 0 0] ∧
      (bareRoot.run (departure ++ [.refresh])).repository.answer .versions = .versions [] := by
  constructor
  · have hok : (refresh (bareRoot.run arrival).tree (bareRoot.run arrival).repository).1 = .ok () :=
      rfl
    obtain ⟨fresh, hload, hanswer⟩ :=
      (session_answers bareRoot arrival [.remove ⟨"/codemods"⟩]).1 hok
    have hfresh : load (bareRoot.run arrival).tree ⟨"/codemods"⟩
        = .ok { root := ⟨"/codemods"⟩, collections := [⟨.release 2 0 0, [arrived]⟩] } := rfl
    obtain rfl := Except.ok.inj (hfresh.symm.trans hload)
    exact hanswer .versions
  · have herror : (refresh (bareRoot.run departure).tree (bareRoot.run departure).repository).1
        = .error (.invalidRepository ⟨"/codemods"⟩ .noDirectory) := rfl
    exact ((session_answers bareRoot departure []).2.1 _ herror).2 .versions

end Uplift.Repository
