import Mathlib.Data.List.TakeWhile
import Uplift.Proofs.Document
import Uplift.Proofs.Manifest
import Uplift.Proofs.Version.Text

set_option autoImplicit false

/-! # What pinning changes

The framework's dependencies are told by their names alone (`Framework.owns_iff`): those below its scope,
or its own package if that has no scope. Pinning them from one version to another goes two levels down
into the manifest, to the entries of `dependencies`, and replaces the texts that are exactly the old
version. So a path into the manifest reads as before, unless it ends at such an entry or on the way to
one (`getAt_bump_of_not_prefix`), and what is on the way keeps its keys (`keys?_getAt_bump`). Where
nothing is pinned, there is no way to go, and the manifest stays as it is (`bump_eq_self`). After pinning
no entry is pinned to the old version, so that pinning once more finds nothing to do (`bump_exact`). -/

namespace Uplift

/-! ## Names -/

/-- What belongs to a framework: if its package starts with `@`, the names that start with the scope and
    a slash, where the scope is the package up to its first slash; else the package itself. -/
def Framework.Scoped (f : Framework) (name : String) : Prop :=
  if f.package.toList.head? = some '@' then
    ∃ rest, name.toList = f.package.toList.takeWhile (· ≠ '/') ++ '/' :: rest
  else name = f.package

/-- Up to its first slash a package is its scope, if it starts with `@`. -/
theorem Framework.toList_scope {f : Framework} (hat : f.package.toList.head? = some '@') :
    f.scope.toList = f.package.toList.takeWhile (· ≠ '/') := by
  unfold scope
  cases hsplit : Text.splitFirst '/' f.package.toList with
  | none =>
    have hslash := Text.splitFirst_eq_none.1 hsplit
    refine (List.takeWhile_eq_self_iff.2 fun c hc => ?_).symm
    simp only [ne_eq, decide_not, Bool.not_eq_true', decide_eq_false_iff_not]
    rintro rfl
    exact hslash hc
  | some cut =>
    obtain ⟨front, back⟩ := cut
    obtain ⟨htext, hslash⟩ := Text.splitFirst_eq_some hsplit
    have hfront : front.head? = some '@' := by
      rw [htext] at hat
      cases front with
      | nil => simp at hat
      | cons c front => simpa using hat
    have hall : ∀ c ∈ front, decide (c ≠ '/') = true := by
      intro c hc
      rw [decide_eq_true_eq]
      rintro rfl
      exact hslash hc
    simp only [hfront, ↓reduceIte, String.toList_ofList]
    rw [htext, List.takeWhile_append_of_pos hall, List.takeWhile_cons_of_neg (by simp), List.append_nil]

/-- A package that does not start with `@` is its own scope. -/
theorem Framework.scope_of_head {f : Framework} (hat : f.package.toList.head? ≠ some '@') :
    f.scope = f.package := by
  unfold scope
  split
  · rename_i front back hsplit
    obtain ⟨htext, -⟩ := Text.splitFirst_eq_some hsplit
    have hfront : front.head? ≠ some '@' := by
      intro hfront
      rw [htext, List.head?_append, hfront] at hat
      exact hat rfl
    rw [if_neg hfront]
  · rfl

/-- **A framework owns what is in its scope.** -/
theorem Framework.owns_iff (f : Framework) (name : String) : f.owns name = true ↔ f.Scoped name := by
  by_cases hat : f.package.toList.head? = some '@'
  · have hscope := toList_scope hat
    have hhead : f.scope.toList.head? = some '@' := by
      rw [hscope]
      cases hlist : f.package.toList with
      | nil => simp [hlist] at hat
      | cons c cs =>
        obtain rfl : c = '@' := by simpa [hlist] using hat
        rfl
    rw [owns, if_pos hhead, Scoped, if_pos hat, ← hscope]
    constructor
    · intro h
      split at h
      · rename_i rest hrest
        have hname := Text.dropPrefix?_eq_some_iff.1 hrest
        cases rest with
        | nil => simp at h
        | cons c rest =>
          obtain rfl : c = '/' := by simpa using h
          exact ⟨rest, hname⟩
      · cases h
    · rintro ⟨rest, hname⟩
      rw [Text.dropPrefix?_eq_some_iff.2 hname]
      rfl
  · have hhead : f.scope.toList.head? ≠ some '@' := by
      rwa [scope_of_head hat]
    rw [owns, if_neg hhead, Scoped, if_neg hat, decide_eq_true_eq]

/-- The keys of an object in their order. -/
def Json.keys? (v : Json) : Option (List String) := v.fields?.map Fields.keys

theorem Json.member?_eq_some_iff {v w : Json} {key : String} :
    v.member? key = some w ↔ ∃ fields, v = .obj fields ∧ Fields.get? fields key = some w := by
  cases v <;> simp [member?, fields?]

namespace Manifest

open Document

/-! ## Pins -/

/-- A dependency that is pinned to a version: it is in the framework's scope, and its entry in
    `dependencies` is the text of the version. -/
structure PinnedTo (m : Json) (f : Framework) (v : Version) (name : String) : Prop where
  inScope : f.Scoped name
  entry : (m.member? "dependencies").bind (·.member? name) = some (.str v.text)

section

variable {m : Json} {f : Framework} {v : Version}

theorem PinnedTo.exists_entry {name : String} (h : PinnedTo m f v name) : ∃ fields deps,
    m = .obj fields ∧ Fields.get? fields "dependencies" = some (.obj deps) ∧
      Fields.get? deps name = some (.str v.text) := by
  obtain ⟨d, hd, hentry⟩ := Option.bind_eq_some_iff.1 h.entry
  obtain ⟨fields, rfl, hfields⟩ := Json.member?_eq_some_iff.1 hd
  obtain ⟨deps, rfl, hdeps⟩ := Json.member?_eq_some_iff.1 hentry
  exact ⟨fields, deps, rfl, hfields, hdeps⟩

theorem isPin_iff {name : String} {value : Json} :
    isPin f v (name, value) = true ↔ f.Scoped name ∧ value = .str v.text := by
  have hstr : value.str? = some v.text ↔ value = .str v.text := by
    cases value <;> simp [Json.str?]
  simp [isPin, Framework.owns_iff, hstr]

theorem get?_dependencies (m : Json) (name : String) :
    Fields.get? (dependencies m) name = (m.member? "dependencies").bind (·.member? name) := by
  unfold dependencies
  cases m.member? "dependencies" with
  | none => rfl
  | some d => cases d <;> rfl

theorem nodup_dependencies (hm : m.wellFormed = true) : (Fields.keys (dependencies m)).Nodup := by
  unfold dependencies
  cases hd : m.member? "dependencies" with
  | none => exact List.nodup_nil
  | some d =>
    obtain ⟨fields, rfl, hget⟩ := Json.member?_eq_some_iff.1 hd
    have hwf := ((Json.wellFormed_obj_iff fields).1 hm).2 _ (Fields.mem_of_get? hget)
    cases d with
    | obj deps => exact ((Json.wellFormed_obj_iff deps).1 hwf).1
    | _ => exact List.nodup_nil

/-- The pins are the names of the dependencies that are pinned. -/
theorem mem_pins_iff (hm : m.wellFormed = true) {name : String} :
    name ∈ pins m f v ↔ PinnedTo m f v name := by
  constructor
  · intro h
    obtain ⟨⟨name, value⟩, hentry, rfl⟩ := List.mem_map.1 h
    obtain ⟨hmem, hpin⟩ := List.mem_filter.1 hentry
    obtain ⟨hscoped, rfl⟩ := isPin_iff.1 hpin
    refine ⟨hscoped, ?_⟩
    rw [← get?_dependencies]
    exact Fields.get?_of_mem (nodup_dependencies hm) hmem
  · rintro ⟨hscoped, hentry⟩
    rw [← get?_dependencies] at hentry
    exact List.mem_map.2 ⟨_, List.mem_filter.2 ⟨Fields.mem_of_get? hentry,
      isPin_iff.2 ⟨hscoped, rfl⟩⟩, rfl⟩

variable (m f v) in
theorem pins_eq_owned : pins m f v = ((owned m f).filter fun d => d.2 = v.text).map (·.1) := by
  unfold pins owned
  induction dependencies m with
  | nil => rfl
  | cons e rest ih =>
    obtain ⟨name, value⟩ := e
    by_cases howns : f.owns name = true
    · cases value with
      | str s => by_cases hs : s = v.text <;> simp [isPin, howns, Json.str?, hs, ih]
      | _ => simp [isPin, howns, Json.str?, ih]
    · simp [isPin, howns, ih]

end

/-! ## Paths -/

section

variable (m : Json) (f : Framework) (old new : Version)

theorem child?_bump (s : String) :
    child? (bump m f old new) s = (child? m s).map fun v => (bumpMember f old new (s, v)).2 := by
  cases m with
  | obj fields => exact Fields.get?_map (bumpMember_fst f old new) fields s
  | arr items =>
    -- an array is left alone, and has nothing below `dependencies`
    by_cases hs : s = "dependencies"
    · have hnone : child? (.arr items) s = none := by
        rw [hs]
        rfl
      show child? (.arr items) s = _
      rw [hnone, Option.map_none]
    · simp [bump, bumpMember_of_ne f old new hs]
  | null | bool _ | int _ | float _ | str _ => rfl

theorem child?_bumpMember (deps : List (String × Json)) (s : String) :
    child? (bumpMember f old new ("dependencies", .obj deps)).2 s
      = (Fields.get? deps s).map fun v => (repin f old new (s, v)).2 :=
  Fields.get?_map (repin_fst f old new) deps s

theorem bumpMember_of_not_obj {v : Json} (h : v.isObject = false) (key : String) :
    bumpMember f old new (key, v) = (key, v) := by
  cases v with
  | obj deps => cases h
  | _ => simp [bumpMember]

end

section

variable {m : Json} {f : Framework} {old : Version} (new : Version)

/-- An entry reads as before, unless it is a pin and the path ends there. -/
theorem getAt_repin {name : String} {v : Json} {below : List String}
    (h : below = [] → isPin f old (name, v) = false) :
    getAt (repin f old new (name, v)).2 below = getAt v below := by
  by_cases hpin : isPin f old (name, v) = true
  · -- a text has nothing below it
    obtain ⟨-, rfl⟩ := isPin_iff.1 hpin
    cases below with
    | nil =>
      rw [h rfl] at hpin
      cases hpin
    | cons b below =>
      rw [repin, if_pos hpin]
      rfl
  · rw [repin, if_neg hpin]

/-- What is below `dependencies` reads as before, unless the path ends at a pin. -/
theorem getAt_bumpMember {d : Json} {name : String} {below : List String}
    (h : ∀ deps, d = .obj deps → ∀ v, Fields.get? deps name = some v → below = [] →
      isPin f old (name, v) = false) :
    getAt (bumpMember f old new ("dependencies", d)).2 (name :: below) = getAt d (name :: below) := by
  by_cases hobj : d.isObject = true
  · cases d with
    | obj deps =>
      rw [getAt_cons, getAt_cons, child?_bumpMember, child?]
      cases hentry : Fields.get? deps name with
      | none => rfl
      | some v => exact getAt_repin new (h deps rfl v hentry)
    | _ => cases hobj
  · rw [bumpMember_of_not_obj f old new (by simpa using hobj)]

/-- **A path reads as before**, unless it ends on the way to an entry or at an entry that is pinned to
    the old version. -/
theorem getAt_bump {path : List String} (hroot : path ≠ []) (hdeps : path ≠ ["dependencies"])
    (hpin : ∀ name, PinnedTo m f old name → path ≠ ["dependencies", name]) :
    getAt (bump m f old new) path = getAt m path := by
  cases path with
  | nil => exact absurd rfl hroot
  | cons s rest =>
    rw [getAt_cons, getAt_cons, child?_bump]
    cases hchild : child? m s with
    | none => rfl
    | some d =>
      rw [Option.map_some, Option.bind_some, Option.bind_some]
      by_cases hs : s = "dependencies"
      · subst hs
        cases rest with
        | nil => exact absurd rfl hdeps
        | cons name below =>
          refine getAt_bumpMember new ?_
          rintro deps rfl v hentry rfl
          -- the path ends at an entry, which is none of the pinned ones
          cases m with
          | obj fields =>
            have hmember : (Json.obj fields).member? "dependencies" = some (.obj deps) := hchild
            have hvalue : (Json.obj deps).member? name = some v := hentry
            rw [← Bool.not_eq_true, isPin_iff]
            rintro ⟨hscoped, rfl⟩
            exact hpin name ⟨hscoped, by rw [hmember, Option.bind_some, hvalue]⟩ rfl
          | _ => cases hchild
      · rw [bumpMember_of_ne f old new hs]

theorem bumpMember_eq_self {e : String × Json}
    (h : ∀ deps, e = ("dependencies", .obj deps) → ∀ d ∈ deps, isPin f old d = false) :
    bumpMember f old new e = e := by
  obtain ⟨key, v⟩ := e
  by_cases hkey : key = "dependencies"
  · subst hkey
    cases v with
    | obj deps =>
      have hmap : deps.map (repin f old new) = deps.map id := List.map_congr_left fun d hd => by
        rw [repin, if_neg (by simp [h deps rfl d hd])]
        rfl
      simp only [bumpMember, hmap, List.map_id]
    | _ => exact bumpMember_of_not_obj f old new rfl "dependencies"
  · exact bumpMember_of_ne f old new hkey v

/-- **Where nothing is pinned to the old version, nothing is changed.** -/
theorem bump_eq_self (hm : m.wellFormed = true) (h : ∀ name, ¬ PinnedTo m f old name) :
    bump m f old new = m := by
  cases m with
  | obj fields =>
    obtain ⟨hkeys, hvalues⟩ := (Json.wellFormed_obj_iff fields).1 hm
    have hmap : fields.map (bumpMember f old new) = fields.map id := by
      refine List.map_congr_left fun e he => bumpMember_eq_self new ?_
      rintro deps rfl ⟨name, v⟩ hentry
      rw [← Bool.not_eq_true, isPin_iff]
      rintro ⟨hscoped, rfl⟩
      -- names are not repeated, so each entry is the one that is found by its name
      have hdeps := Fields.get?_of_mem hkeys he
      have hname := Fields.get?_of_mem ((Json.wellFormed_obj_iff deps).1 (hvalues _ he)).1 hentry
      exact h name ⟨hscoped, Option.bind_eq_some_iff.2 ⟨.obj deps, hdeps, hname⟩⟩
    rw [bump_obj, hmap, List.map_id]
  | _ => rfl

/-- A path reads as before, unless it is on the way to an entry that is pinned to the old version, or
    ends there. -/
theorem getAt_bump_of_not_prefix (hm : m.wellFormed = true) {path : List String}
    (h : ∀ name, PinnedTo m f old name → ¬ path <+: ["dependencies", name]) :
    getAt (bump m f old new) path = getAt m path := by
  by_cases hany : ∃ name, PinnedTo m f old name
  · obtain ⟨name, hname⟩ := hany
    refine getAt_bump new ?_ ?_ fun n hn heq => h n hn (heq ▸ List.prefix_rfl)
    · rintro rfl
      exact h name hname List.nil_prefix
    · rintro rfl
      exact h name hname ⟨[name], rfl⟩
  · rw [bump_eq_self new hm fun name hname => hany ⟨name, hname⟩]

theorem getAt_bump_of_pinnedTo {name : String} (h : PinnedTo m f old name) :
    getAt (bump m f old new) ["dependencies", name] = some (.str new.text) := by
  obtain ⟨fields, deps, rfl, hdeps, hget⟩ := h.exists_entry
  have hchild : child? (.obj fields) "dependencies" = some (.obj deps) := hdeps
  have hpin : isPin f old (name, .str old.text) = true := isPin_iff.2 ⟨h.inScope, rfl⟩
  simp only [getAt_cons, child?_bump, hchild, child?_bumpMember, hget, repin, hpin, Option.map_some,
    Option.bind_some, ↓reduceIte, getAt_nil]

variable (m f old) in
/-- **Keys stay in their order, at every level.** -/
theorem keys?_getAt_bump (path : List String) :
    (getAt (bump m f old new) path).map Json.keys? = (getAt m path).map Json.keys? := by
  by_cases hroot : path = []
  · subst hroot
    rw [getAt_nil, getAt_nil]
    cases m with
    | obj fields =>
      have hkeys := Fields.keys_map (bumpMember_fst f old new) fields
      simp [bump_obj, Json.keys?, Json.fields?, hkeys]
    | _ => rfl
  by_cases hdeps : path = ["dependencies"]
  · subst hdeps
    rw [getAt_cons, getAt_cons, child?_bump]
    cases child? m "dependencies" with
    | none => rfl
    | some d =>
      cases d with
      | obj deps =>
        have hkeys := Fields.keys_map (repin_fst f old new) deps
        simp [bumpMember, Json.keys?, Json.fields?, hkeys]
      | _ => rfl
  by_cases hpin : ∃ name, PinnedTo m f old name ∧ path = ["dependencies", name]
  · obtain ⟨name, hpinned, rfl⟩ := hpin
    obtain ⟨fields, deps, rfl, hdeps, hget⟩ := hpinned.exists_entry
    have hbefore : getAt (.obj fields) ["dependencies", name] = some (.str old.text) := by
      simp [getAt, hdeps, hget]
    rw [getAt_bump_of_pinnedTo new hpinned, hbefore]
    rfl
  · rw [getAt_bump new hroot hdeps fun name hpinned heq => hpin ⟨name, hpinned, heq⟩]

end

/-! ## Once more -/

section

variable {f : Framework} {old new : Version}

theorem isPin_repin (hne : old ≠ new) (e : String × Json) :
    isPin f old (repin f old new e) = false := by
  unfold repin
  split
  · have htext : new.text ≠ old.text := fun heq => hne (Version.text_injective heq).symm
    simp [isPin, Json.str?, htext]
  · rename_i hpin
    simpa using hpin

variable (m : Json)

theorem pins_bump (hne : old ≠ new) : pins (bump m f old new) f old = [] := by
  rw [pins, dependencies_bump, List.map_eq_nil_iff, List.filter_eq_nil_iff]
  intro e he
  obtain ⟨e', -, rfl⟩ := List.mem_map.1 he
  simp [isPin_repin hne e']

theorem repin_repin (hne : old ≠ new) (e : String × Json) :
    repin f old new (repin f old new e) = repin f old new e := by
  have hpin := isPin_repin (f := f) hne e
  rw [repin, if_neg (by simp [hpin])]

theorem bumpMember_bumpMember (hne : old ≠ new) (e : String × Json) :
    bumpMember f old new (bumpMember f old new e) = bumpMember f old new e := by
  obtain ⟨key, v⟩ := e
  by_cases hkey : key = "dependencies"
  · subst hkey
    by_cases hobj : v.isObject = true
    · cases v with
      | obj deps => simp [bumpMember, repin_repin hne]
      | _ => cases hobj
    · simp only [bumpMember_of_not_obj f old new (by simpa using hobj)]
  · simp only [bumpMember_of_ne f old new hkey]

theorem bump_bump (hne : old ≠ new) :
    bump (bump m f old new) f old new = bump m f old new := by
  cases m with
  | obj fields =>
    rw [bump_obj, bump_obj, List.map_map]
    congr 1
    exact List.map_congr_left fun e _ => bumpMember_bumpMember hne e
  | _ => rfl

end

/-- **Pinning changes exactly the dependencies that are pinned to the old version.** At every level the
    keys are the same and in the same order. A path reads as before, unless it ends at a pinned dependency
    or on the way to one; where there is none, the manifest is the same. A pinned dependency is the text of
    the new version. The names that are reported
    are those of the pinned dependencies, in the order of the manifest, and the same that are found among
    the framework's own dependencies. To do it again reports nothing and changes nothing, provided that
    the versions are different. -/
theorem bump_exact (f : Framework) (old new : Version) {m : Json} (hm : m.wellFormed = true) :
    let m' := bump m f old new
    (∀ path, (getAt m' path).map Json.keys? = (getAt m path).map Json.keys?) ∧
    (∀ path, (∀ name, PinnedTo m f old name → ¬ path <+: ["dependencies", name]) →
      getAt m' path = getAt m path) ∧
    ((∀ name, ¬ PinnedTo m f old name) → m' = m) ∧
    (∀ name, PinnedTo m f old name → getAt m' ["dependencies", name] = some (.str new.text)) ∧
    (pins m f old).Sublist (Fields.keys (dependencies m)) ∧
    (∀ name, name ∈ pins m f old ↔ PinnedTo m f old name) ∧
    pins m f old = ((owned m f).filter fun d => d.2 = old.text).map (·.1) ∧
    (old ≠ new → pins m' f old = [] ∧ bump m' f old new = m') := by
  refine ⟨keys?_getAt_bump m f old new, fun path => getAt_bump_of_not_prefix new hm,
    bump_eq_self new hm, fun name hpinned => getAt_bump_of_pinnedTo new hpinned, ?_,
    fun name => mem_pins_iff hm, pins_eq_owned m f old,
    fun hne => ⟨pins_bump m hne, bump_bump m hne⟩⟩
  exact List.filter_sublist.map _

/-- A manifest with two dependencies that are pinned to version 4.15.4. The others miss it: by their scope,
    by an operator, by build metadata, by not being a text, and by not being in `dependencies`. -/
def nearMisses : Json := .obj [
  ("name", .str "app"),
  ("dependencies", .obj [
    ("@acme/users", .str "4.15.4"),
    ("@acmex/core", .str "4.15.4"),
    ("@acme/range", .str "^4.15.4"),
    ("@acme/build", .str "4.15.4+b"),
    ("@acme/number", .int 4),
    ("@acme/core", .str "4.15.4")]),
  ("devDependencies", .obj [("@acme/core", .str "4.15.4")])]

/-- The two are pinned anew, and all else reads as before. -/
theorem bump_exact_nearMisses :
    let f : Framework := ⟨"@acme/core"⟩
    let old : Version := .release 4 15 4
    let m' := bump nearMisses f old (.release 5 0 0)
    nearMisses.wellFormed = true ∧ pins nearMisses f old = ["@acme/users", "@acme/core"] ∧
      getAt m' ["dependencies", "@acme/users"] = some (.str "5.0.0") ∧
      getAt m' ["dependencies", "@acme/build"] = some (.str "4.15.4+b") ∧
      getAt m' ["devDependencies", "@acme/core"] = some (.str "4.15.4") ∧
      (getAt m' []).map Json.keys? = some (some ["name", "dependencies", "devDependencies"]) ∧
      pins m' f old = [] := by
  intro f old m'
  have hm : nearMisses.wellFormed = true := by decide
  have hpins : pins nearMisses f old = ["@acme/users", "@acme/core"] := by decide
  obtain ⟨hkeys, hframe, -, hpinned, -, hmem, -, hagain⟩ := bump_exact f old (.release 5 0 0) hm
  refine ⟨hm, hpins, ?_, ?_, ?_, (hkeys []).trans rfl, (hagain (by decide)).1⟩
  · exact hpinned "@acme/users" ((hmem _).1 (by rw [hpins]; decide))
  · refine (hframe _ fun name hname hprefix => ?_).trans rfl
    obtain rfl : "@acme/build" = name := by simpa using hprefix
    have hlisted := (hmem _).2 hname
    rw [hpins] at hlisted
    revert hlisted
    decide
  · exact (hframe _ fun name _ hprefix => by simp at hprefix).trans rfl

end Manifest

end Uplift
