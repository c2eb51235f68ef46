import Uplift.Codemod
import Uplift.Proofs.List
import Uplift.Proofs.Version.Text

set_option autoImplicit false

/-! # When two codemods share a uid

A uid joins version, name and kind with hyphens and leaves the extension out. Versions and names may
contain hyphens themselves, so a uid does not always tell where the version ends. `Clash` lists the
pairs of files that get the same uid for one of these reasons, and `uid_eq_iff` says that there is no
other reason. -/

namespace Uplift

open Text

/-! ## File names -/

namespace Kind

theorem text_of_read? {s : String} {k : Kind} (h : read? s = some k) : k.text = s := by
  unfold read? at h
  split at h
  · obtain rfl := Option.some.inj h
    rfl
  · obtain rfl := Option.some.inj h
    rfl
  · cases h

theorem text_injective {k l : Kind} (h : k.text = l.text) : k = l := by
  cases k <;> cases l
  · rfl
  · exact absurd h (by decide)
  · exact absurd h (by decide)
  · rfl

theorem hyphen_notMem_text (k : Kind) : '-' ∉ k.text.toList := by
  cases k <;> decide

theorem read?_text (k : Kind) : read? k.text = some k := by
  cases k <;> rfl

theorem dot_notMem_text (k : Kind) : '.' ∉ k.text.toList := by
  cases k <;> decide

end Kind

namespace FileName

/-- The parts of a codemod file name: there is a name, and an extension without dots. -/
structure Proper (f : FileName) : Prop where
  name : f.name ≠ ""
  ext : f.ext ≠ ""
  dotless : '.' ∉ f.ext.toList

theorem toList_text (f : FileName) :
    f.text.toList = (f.name.toList ++ '.' :: f.kind.text.toList) ++ '.' :: f.ext.toList := by
  simp [text]

theorem read?_eq_some {file : String} {f : FileName} (h : read? file = some f) :
    f.Proper ∧ f.text = file := by
  simp only [read?, Option.bind_eq_bind, Option.bind_eq_some_iff] at h
  obtain ⟨⟨front, ext⟩, hext, ⟨name, kind⟩, hkind, k, hread, h⟩ := h
  obtain ⟨hfile, hdot⟩ := splitLast_eq_some hext
  obtain ⟨rfl, -⟩ := splitLast_eq_some hkind
  simp only [Option.ite_none_left_eq_some, Option.pure_def, Option.some.injEq, Bool.or_eq_true,
    List.isEmpty_iff, not_or] at h
  obtain ⟨⟨hname, hne⟩, rfl⟩ := h
  refine ⟨⟨?_, ?_, by simpa using hdot⟩, String.toList_injective ?_⟩
  · simpa [← String.toList_inj] using hname
  · simpa [← String.toList_inj] using hne
  · rw [hfile, toList_text]
    simp [Kind.text_of_read? hread]

/-- The parts that a file name is split into make up the file name. -/
theorem text_of_read? {file : String} {f : FileName} (h : read? file = some f) : f.text = file :=
  (read?_eq_some h).2

theorem read?_text {f : FileName} (h : f.Proper) : read? f.text = some f := by
  have hname : f.name.toList ≠ [] := by simpa using h.name
  have hext : f.ext.toList ≠ [] := by simpa using h.ext
  simp only [read?, toList_text, splitLast_append h.dotless,
    splitLast_append f.kind.dot_notMem_text, String.ofList_toList, Kind.read?_text,
    Option.bind_eq_bind, Option.bind_some, Option.pure_def]
  simp [hname, hext]

end FileName

namespace Codemod

/-- Whether the file name of a codemod says of what kind it is. -/
def Named (c : Codemod) : Prop := ∃ f, FileName.read? c.filename = some f ∧ f.kind = c.kind

/-- The extension in the file name of a codemod. -/
def suffix? (c : Codemod) : Option String := (FileName.read? c.filename).map (·.ext)

theorem Named.filename_eq {a b : Codemod} (ha : a.Named) (hb : b.Named) (hname : a.name = b.name)
    (hkind : a.kind = b.kind) (hsuffix : a.suffix? = b.suffix?) : a.filename = b.filename := by
  obtain ⟨f, hf, hfkind⟩ := ha
  obtain ⟨g, hg, hgkind⟩ := hb
  simp only [name, suffix?, hf, hg, Option.map_some, Option.some.injEq] at hname hsuffix
  rw [← FileName.text_of_read? hf, ← FileName.text_of_read? hg, FileName.text, FileName.text, hname,
    hsuffix, hfkind, hgkind, hkind]

/-! ## Uids -/

theorem toList_uid (c : Codemod) :
    c.uid.toList = (c.version.chars ++ '-' :: c.name.toList) ++ '-' :: c.kind.text.toList := by
  simp [uid, Version.text]

/-- The kind can be read off a uid, since it comes last. -/
theorem uid_eq_iff_front {a b : Codemod} : a.uid = b.uid ↔
    a.kind = b.kind ∧ a.version.chars ++ '-' :: a.name.toList = b.version.chars ++ '-' :: b.name.toList
    := by
  rw [← String.toList_inj, toList_uid, toList_uid]
  constructor
  · intro h
    obtain ⟨hfront, hkind⟩ := append_sep_inj a.kind.hyphen_notMem_text b.kind.hyphen_notMem_text h
    exact ⟨Kind.text_injective (String.toList_injective hkind), hfront⟩
  · rintro ⟨hkind, hfront⟩
    rw [hfront, hkind]

/-- The name of `a` takes in the end of the version of `b`, as `rc-x` of version `1.0.0` does with `x`
    of version `1.0.0-rc`. -/
def Takes (a b : Codemod) : Prop :=
  ∃ piece, b.version.text = a.version.text ++ "-" ++ piece ∧ a.name = piece ++ "-" ++ b.name

/-- How two files come to share a uid. -/
inductive Clash (a b : Codemod) : Prop
  /-- They belong to one version and differ in their extensions alone. -/
  | extension (hversion : a.version = b.version) (hname : a.name = b.name) (hkind : a.kind = b.kind)
      (hsuffix : a.suffix? ≠ b.suffix?)
  /-- What is a part of the version of `b` is a part of the name of `a`. -/
  | takes (h : a.Takes b) (hkind : a.kind = b.kind)
  /-- What is a part of the version of `a` is a part of the name of `b`. -/
  | taken (h : b.Takes a) (hkind : a.kind = b.kind)

theorem takes_iff {a b : Codemod} : a.Takes b ↔ ∃ piece : List Char,
    b.version.chars = a.version.chars ++ '-' :: piece ∧
      a.name.toList = piece ++ '-' :: b.name.toList := by
  constructor
  · rintro ⟨piece, hversion, hname⟩
    refine ⟨piece.toList, ?_, by simp [hname]⟩
    simpa [Version.text, ← String.toList_inj] using hversion
  · rintro ⟨piece, hversion, hname⟩
    refine ⟨String.ofList piece, ?_, ?_⟩
    · simp [Version.text, ← String.toList_inj, hversion]
    · simp [← String.toList_inj, hname]

theorem Takes.front_eq {a b : Codemod} (h : a.Takes b) :
    a.version.chars ++ '-' :: a.name.toList = b.version.chars ++ '-' :: b.name.toList := by
  obtain ⟨piece, hversion, hname⟩ := takes_iff.1 h
  simp [hversion, hname]

theorem Clash.uid_eq {a b : Codemod} (h : a.Clash b) : a.uid = b.uid := by
  rw [uid_eq_iff_front]
  cases h with
  | extension hversion hname hkind _ => exact ⟨hkind, by rw [hversion, hname]⟩
  | takes h hkind => exact ⟨hkind, h.front_eq⟩
  | taken h hkind => exact ⟨hkind, h.front_eq.symm⟩

theorem Clash.irrefl (a : Codemod) : ¬ a.Clash a := by
  have htakes : ¬ a.Takes a := by
    intro h
    obtain ⟨piece, hversion, -⟩ := takes_iff.1 h
    have hlength := congrArg List.length hversion
    simp at hlength
  intro h
  cases h with
  | extension _ _ _ hsuffix => exact hsuffix rfl
  | takes h _ => exact htakes h
  | taken h _ => exact htakes h

/-- Two texts that are the same up to where the shorter version ends: the versions are the same, or a
    piece of the longer one is in the name that goes with the shorter one. -/
theorem takes_of_front_eq {a b : Codemod}
    (h : a.version.chars ++ '-' :: a.name.toList = b.version.chars ++ '-' :: b.name.toList) :
    (a.version = b.version ∧ a.name = b.name) ∨ a.Takes b ∨ b.Takes a := by
  have hsame : a.version.chars = b.version.chars → a.version = b.version := fun hchars =>
    Version.text_injective (by rw [Version.text, Version.text, hchars])
  rcases List.append_eq_append_iff.1 h with ⟨rest, hversion, hname⟩ | ⟨rest, hversion, hname⟩
  · cases rest with
    | nil =>
      refine Or.inl ⟨hsame (by simpa using hversion.symm), String.toList_injective ?_⟩
      simpa using hname
    | cons c rest =>
      obtain ⟨rfl, hrest⟩ := List.cons.inj hname
      exact Or.inr (Or.inl (takes_iff.2 ⟨rest, hversion, hrest⟩))
  · cases rest with
    | nil =>
      refine Or.inl ⟨hsame (by simpa using hversion), String.toList_injective ?_⟩
      simpa using hname.symm
    | cons c rest =>
      obtain ⟨rfl, hrest⟩ := List.cons.inj hname
      exact Or.inr (Or.inr (takes_iff.2 ⟨rest, hversion, hrest⟩))

/-- **Two different files share a uid exactly when they clash.** -/
theorem uid_eq_iff {a b : Codemod} (ha : a.Named) (hb : b.Named)
    (hne : a.version = b.version → a.filename ≠ b.filename) : a.uid = b.uid ↔ a.Clash b := by
  refine ⟨fun h => ?_, Clash.uid_eq⟩
  obtain ⟨hkind, hfront⟩ := uid_eq_iff_front.1 h
  rcases takes_of_front_eq hfront with ⟨hversion, hname⟩ | htakes | htaken
  · refine .extension hversion hname hkind fun hsuffix => ?_
    exact hne hversion (ha.filename_eq hb hname hkind hsuffix)
  · exact .takes htakes hkind
  · exact .taken htaken hkind

end Codemod

end Uplift
