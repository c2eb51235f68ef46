import Uplift.Proofs.Except
import Uplift.Proofs.Tree
import Uplift.World

set_option autoImplicit false

/-! # What the log of a run says about its files

Every event in the log stands for something that was done to the files: a write put its text there,
the engine and the package manager did whatever they do, and all other events left the files alone.
So the files after a run are those before it with the logged events *replayed* on them, and what a
run did to the files can be read off its log.

`Leads o P w events w'` says that a run got from `w` to `w'` by exactly these events, each of which
satisfied `P` when it happened. `Action.Does o P a w` says it of an action without naming the events.
It is proved of an action piece by piece: `Does.bind` chains what was proved of the pieces. -/

namespace Uplift

/-! ## Running actions -/

namespace Action

variable {ε δ α β : Type}

@[simp] theorem on_pure (x : α) (w : World) : (pure x : Action ε α).on w = (.ok x, w) := rfl

@[simp] theorem on_throw (e : ε) (w : World) : (throw e : Action ε α).on w = (.error e, w) := rfl

@[simp] theorem on_get (w : World) : (get : Action ε World).on w = (.ok w, w) := rfl

@[simp] theorem on_set (w' w : World) : (set w' : Action ε Unit).on w = (.ok (), w') := rfl

@[simp] theorem on_modify (f : World → World) (w : World) :
    (modify f : Action ε Unit).on w = (.ok (), f w) := rfl

@[simp] theorem on_lift (x : Except ε α) (w : World) :
    (liftM x : Action ε α).on w = (x, w) := rfl

@[simp] theorem on_record (e : Event) (w : World) :
    (record e : Action ε Unit).on w = (.ok (), { w with log := w.log ++ [e] }) := rfl

theorem on_bind (a : Action ε α) (f : α → Action ε β) (w : World) :
    (a >>= f).on w = match a.on w with
      | (.ok x, w') => (f x).on w'
      | (.error e, w') => (.error e, w') := by
  change (match a w with
    | (x, w') => ExceptT.bindCont f x w') = match a w with
      | (.ok x, w') => f x w'
      | (.error e, w') => (.error e, w')
  rcases a w with ⟨e | x, w'⟩ <;> rfl

theorem on_bind_ok {a : Action ε α} {x : α} {w w' : World} (h : a.on w = (.ok x, w'))
    (f : α → Action ε β) : (a >>= f).on w = (f x).on w' := by
  rw [on_bind, h]

theorem on_bind_error {a : Action ε α} {e : ε} {w w' : World} (h : a.on w = (.error e, w'))
    (f : α → Action ε β) : (a >>= f).on w = (.error e, w') := by
  rw [on_bind, h]

theorem on_mapError (g : ε → δ) (a : Action ε α) (w : World) :
    (a.mapError g).on w = ((a.on w).1.mapError g, (a.on w).2) := by
  change (match a.on w with
    | (.ok x, w) => (Except.ok x, w)
    | (.error e, w) => (Except.error (g e), w)) = _
  rcases a.on w with ⟨e | x, w'⟩ <;> rfl

end Action

/-! ## Replaying events -/

/-- Whether an event can change files. -/
def Event.mutates : Event → Bool
  | .engine _ => true
  | .write _ => true
  | .install _ => true
  | _ => false

/-- What engine and package manager do to the files when they are called after a log. -/
structure Outside where
  engine : List Event → EngineCall → Tree → Tree
  install : List Event → Path → Tree → Tree

/-- A condition on an event, given the log and the files before it. -/
abbrev EventRule := List Event → Tree → Event → Prop

namespace Outside

variable (o : Outside)

/-- The files after an event. -/
def after (log : List Event) (t : Tree) : Event → Tree
  | .engine call => o.engine log call t
  | .write f => (t.write f.path (.text f.text)).getD t
  | .install cwd => o.install log cwd t
  | _ => t

/-- The files after events that come one after the other. -/
def replay : List Event → Tree → List Event → Tree
  | _, t, [] => t
  | log, t, e :: es => replay (log ++ [e]) (o.after log t e) es

/-- The rule holds for every event at its time. -/
def Every (P : EventRule) : List Event → Tree → List Event → Prop
  | _, _, [] => True
  | log, t, e :: es => P log t e ∧ Every P (log ++ [e]) (o.after log t e) es

theorem after_of_not_mutates (log : List Event) (t : Tree) {e : Event} (h : e.mutates = false) :
    o.after log t e = t := by
  cases e with
  | registry package => rfl
  | inquiry i => rfl
  | select versions => rfl
  | engine call => cases h
  | write file => cases h
  | install cwd => cases h

theorem replay_append (log : List Event) (t : Tree) (es fs : List Event) :
    o.replay log t (es ++ fs) = o.replay (log ++ es) (o.replay log t es) fs := by
  induction es generalizing log t with
  | nil => simp [replay]
  | cons e es ih =>
    rw [List.cons_append, replay, replay, ih]
    simp

theorem replay_eq_self {P : EventRule} (hP : ∀ log t e, P log t e → o.after log t e = t)
    {log : List Event} {t : Tree} {es : List Event} (h : o.Every P log t es) :
    o.replay log t es = t := by
  induction es generalizing log t with
  | nil => rfl
  | cons e es ih =>
    obtain ⟨he, hes⟩ := h
    rw [replay, ih hes, hP log t e he]

/-- An entry that differs in the end was changed by one of the events. -/
theorem exists_change {log : List Event} {t : Tree} {es : List Event} {place : List String}
    (h : (o.replay log t es).entryAt place ≠ t.entryAt place) :
    ∃ before e rest, es = before ++ e :: rest ∧
      (o.after (log ++ before) (o.replay log t before) e).entryAt place
        ≠ (o.replay log t before).entryAt place := by
  induction es generalizing log t with
  | nil => exact absurd rfl h
  | cons e es ih =>
    by_cases he : (o.after log t e).entryAt place = t.entryAt place
    · rw [replay, ← he] at h
      obtain ⟨before, e', rest, rfl, hchange⟩ := ih h
      exact ⟨e :: before, e', rest, rfl, by simpa [replay] using hchange⟩
    · exact ⟨[], e, es, rfl, by simpa [replay] using he⟩

variable {o}

theorem Every.append {P : EventRule} {log : List Event} {t : Tree} {es fs : List Event}
    (hes : o.Every P log t es) (hfs : o.Every P (log ++ es) (o.replay log t es) fs) :
    o.Every P log t (es ++ fs) := by
  induction es generalizing log t with
  | nil => simpa [replay] using hfs
  | cons e es ih =>
    obtain ⟨he, hes⟩ := hes
    exact ⟨he, ih hes (by simpa [replay] using hfs)⟩

theorem Every.at {P : EventRule} {log : List Event} {t : Tree} {before rest : List Event} {e : Event}
    (h : o.Every P log t (before ++ e :: rest)) :
    P (log ++ before) (o.replay log t before) e := by
  induction before generalizing log t with
  | nil => simpa [replay] using h.1
  | cons b before ih => simpa [replay] using ih h.2

theorem Every.mono {P Q : EventRule} (hPQ : ∀ log t e, P log t e → Q log t e)
    {log : List Event} {t : Tree} {es : List Event} (h : o.Every P log t es) :
    o.Every Q log t es := by
  induction es generalizing log t with
  | nil => trivial
  | cons e es ih => exact ⟨hPQ log t e h.1, ih h.2⟩

end Outside

/-! ## From one world to another -/

/-- From `w` these events lead to `w'`: they were logged, the files are as they left them, and each
    obeyed the rule. -/
structure Leads (o : Outside) (P : EventRule) (w : World) (events : List Event) (w' : World) :
    Prop where
  log : w'.log = w.log ++ events
  tree : w'.tree = o.replay w.log w.tree events
  every : o.Every P w.log w.tree events

namespace Leads

variable {o : Outside} {P Q : EventRule} {w w₁ w₂ : World} {es fs : List Event}

/-- Loading transforms is not an event. -/
theorem nothing (hlog : w₁.log = w.log) (htree : w₁.tree = w.tree) : Leads o P w [] w₁ where
  log := by simpa using hlog
  tree := htree
  every := trivial

theorem single {e : Event} (he : P w.log w.tree e) (hlog : w₁.log = w.log ++ [e])
    (htree : w₁.tree = o.after w.log w.tree e) : Leads o P w [e] w₁ where
  log := hlog
  tree := htree
  every := ⟨he, trivial⟩

theorem trans (h : Leads o P w es w₁) (h' : Leads o P w₁ fs w₂) : Leads o P w (es ++ fs) w₂ where
  log := by rw [h'.log, h.log, List.append_assoc]
  tree := by rw [h'.tree, h.log, h.tree, o.replay_append]
  every := by
    have hfs := h'.every
    rw [h.log, h.tree] at hfs
    exact h.every.append hfs

theorem mono (hPQ : ∀ log t e, P log t e → Q log t e) (h : Leads o P w es w₁) :
    Leads o Q w es w₁ where
  log := h.log
  tree := h.tree
  every := h.every.mono hPQ

theorem tree_eq (hP : ∀ log t e, P log t e → o.after log t e = t) (h : Leads o P w es w₁) :
    w₁.tree = w.tree := by
  rw [h.tree, o.replay_eq_self hP h.every]

end Leads

namespace Action

variable {ε δ α β : Type} {o : Outside} {P Q : EventRule}

/-- Whatever an action does, it does by logged events that obey the rule. -/
def Does (o : Outside) (P : EventRule) (a : Action ε α) (w : World) : Prop :=
  ∃ events, Leads o P w events (a.on w).2

theorem Does.pure (x : α) (w : World) : Does o P (Pure.pure x : Action ε α) w :=
  ⟨[], Leads.nothing rfl rfl⟩

theorem Does.throw (e : ε) (w : World) : Does o P (MonadExcept.throw e : Action ε α) w :=
  ⟨[], Leads.nothing rfl rfl⟩

theorem Does.get (w : World) : Does o P (MonadState.get : Action ε World) w :=
  ⟨[], Leads.nothing rfl rfl⟩

theorem Does.bind {a : Action ε α} {f : α → Action ε β} {w : World} (ha : Does o P a w)
    (hf : ∀ x w', a.on w = (.ok x, w') → Does o P (f x) w') : Does o P (a >>= f) w := by
  obtain ⟨es, hes⟩ := ha
  rcases h : a.on w with ⟨e | x, w'⟩
  · rw [h] at hes
    exact ⟨es, by rw [on_bind_error h]; exact hes⟩
  · obtain ⟨fs, hfs⟩ := hf x w' h
    rw [h] at hes
    exact ⟨es ++ fs, by rw [on_bind_ok h]; exact hes.trans hfs⟩

theorem Does.mono (hPQ : ∀ log t e, P log t e → Q log t e) {a : Action ε α} {w : World}
    (h : Does o P a w) : Does o Q a w := by
  obtain ⟨es, hes⟩ := h
  exact ⟨es, hes.mono hPQ⟩

theorem Does.mapError (g : ε → δ) {a : Action ε α} {w : World} (h : Does o P a w) :
    Does o P (a.mapError g) w := by
  obtain ⟨es, hes⟩ := h
  exact ⟨es, by rw [on_mapError]; exact hes⟩

/-- A write is logged with its text, or has not taken place. -/
theorem on_write (p : Path) (text : String) (w : World) :
    (∃ tree, w.tree.write p (.text text) = some tree ∧
      (write p text : Action ε Bool).on w
        = (.ok true, { w with tree, log := w.log ++ [.write ⟨p, text⟩] })) ∨
    (w.tree.write p (.text text) = none ∧ (write p text : Action ε Bool).on w = (.ok false, w)) := by
  cases h : w.tree.write p (.text text) with
  | none => exact Or.inr ⟨rfl, by simp [on, write, h, ExceptT.run]⟩
  | some tree => exact Or.inl ⟨tree, rfl, by simp [on, write, h, ExceptT.run]⟩

theorem Does.write {p : Path} {text : String} {w : World}
    (hP : P w.log w.tree (.write ⟨p, text⟩)) : Does o P (Action.write p text : Action ε Bool) w := by
  rcases on_write (ε := ε) p text w with ⟨tree, ht, hw⟩ | ⟨-, hw⟩
  · refine ⟨[.write ⟨p, text⟩], ?_⟩
    rw [hw]
    exact Leads.single hP rfl (by simp [Outside.after, ht])
  · exact ⟨[], by rw [hw]; exact Leads.nothing rfl rfl⟩

end Action

end Uplift
