import Uplift.Proofs.Path
import Uplift.Proofs.Repository.Contents

set_option autoImplicit false

/-! # File names of codemods and their parts

A codemod file name joins a name, a word for the kind and an extension with dots. A name may have dots
in it, and even another `.code.`, so a file name has to be read from its end. Neither an extension nor a
word for a kind has a dot, and this makes the reading exact: file names are split if they are joined of
such parts, and into no others (`joined_iff`, `Joined.unique`).

A codemod that was loaded keeps the name of its file and the kind that was read off it. These two and
what stands after the last dot make up the file name again (`read?_inverts_joining`). -/

namespace Uplift

namespace Kind

theorem exists_text_eq_iff {word : String} :
    (∃ k : Kind, k.text = word) ↔ word = "code" ∨ word = "document" := by
  constructor
  · rintro ⟨k, rfl⟩
    cases k with
    | code => exact Or.inl rfl
    | document => exact Or.inr rfl
  · rintro (rfl | rfl)
    · exact ⟨.code, rfl⟩
    · exact ⟨.document, rfl⟩

end Kind

namespace FileName

/-- A file name is joined of a name, which may have dots, a word for a kind and an extension without
    dots. -/
structure Joined (file name word ext : String) : Prop where
  file_eq : file = name ++ "." ++ word ++ "." ++ ext
  name_ne : name ≠ ""
  word_eq : word = "code" ∨ word = "document"
  ext_ne : ext ≠ ""
  dotless : '.' ∉ ext.toList

theorem read?_eq_some_iff {file : String} {f : FileName} :
    read? file = some f ↔ f.Proper ∧ f.text = file := by
  constructor
  · exact read?_eq_some
  · rintro ⟨hproper, rfl⟩
    exact read?_text hproper

/-- **A file name is split into the parts that it is joined of.** -/
theorem joined_iff {file name word ext : String} :
    Joined file name word ext ↔ ∃ k : Kind, k.text = word ∧ read? file = some ⟨name, k, ext⟩ := by
  constructor
  · rintro ⟨rfl, hname, hword, hext, hdotless⟩
    obtain ⟨k, rfl⟩ := Kind.exists_text_eq_iff.2 hword
    exact ⟨k, rfl, read?_eq_some_iff.2 ⟨⟨hname, hext, hdotless⟩, rfl⟩⟩
  · rintro ⟨k, rfl, hread⟩
    obtain ⟨hproper, rfl⟩ := read?_eq_some_iff.1 hread
    exact ⟨rfl, hproper.name, Kind.exists_text_eq_iff.1 ⟨k, rfl⟩, hproper.ext, hproper.dotless⟩

theorem Joined.unique {file name word ext name' word' ext' : String} (h : Joined file name word ext)
    (h' : Joined file name' word' ext') : name = name' ∧ word = word' ∧ ext = ext' := by
  obtain ⟨k, rfl, hread⟩ := joined_iff.1 h
  obtain ⟨k', rfl, hread'⟩ := joined_iff.1 h'
  obtain ⟨rfl, rfl, rfl⟩ := FileName.mk.inj (Option.some.inj (hread.symm.trans hread'))
  exact ⟨rfl, rfl, rfl⟩

end FileName

namespace Repository

variable {t : Tree} {m : Codemod}

/-- A loaded codemod is a file in the directory of its version. -/
theorem exists_file_of_load {root : Path} {r : Repository} (h : load t root = .ok r)
    (hm : m ∈ r.codemods) : ∃ v files f content, VersionDir t root v files ∧ FileName.Proper f ∧
      (f.text, .file content) ∈ files ∧ m = ⟨f.kind, v, root.child v.text, f.text⟩ := by
  obtain ⟨c, hc, hm⟩ := List.mem_flatMap.1 hm
  obtain ⟨entries, v, files, hlookup, hdir, rfl⟩ := exists_dir_of_load h hc
  obtain ⟨f, content, hproper, hentry, rfl⟩ := mem_codemodsIn.1 hm
  exact ⟨v, files, f, content, ⟨entries, hlookup, hdir⟩, hproper, hentry, rfl⟩

/-- What a refresh has left was loaded by it. -/
theorem exists_load_of_mem_refresh {start : Repository} (hm : m ∈ (refresh t start).2.codemods) :
    ∃ r, load t start.root = .ok r ∧ m ∈ r.codemods := by
  rw [refresh_eq] at hm
  cases hload : load t start.root with
  | ok fresh =>
    rw [hload] at hm
    exact ⟨fresh, rfl, hm⟩
  | error e =>
    rw [hload] at hm
    cases hm

theorem VersionDir.isName (hnames : t.wellNamed = true) {root : Path} {v : Version}
    {files : List (String × Tree)} (h : VersionDir t root v files) {name : String} {node : Tree}
    (hentry : (name, node) ∈ files) : Tree.isName name = true := by
  obtain ⟨entries, hlookup, hdir⟩ := h
  have hroot := (Tree.wellNamed_dir_iff entries).1 (Tree.wellNamed_of_lookup hnames hlookup)
  exact ((Tree.wellNamed_dir_iff files).1 (hroot _ hdir).2 _ hentry).1

end Repository

namespace FileName

/-- The extension of a file with a codemod's name is the part after the last dot. -/
theorem Proper.extension? {f : FileName} (h : f.Proper) (hname : Tree.isName f.text = true) :
    (Path.mk f.text).extension? = some f.ext := by
  rw [Path.extension?_of_isName hname f.toList_text (by simp) h.dotless, String.ofList_toList]

/-- **Splitting a file name undoes joining it.** A file name is split into a name, a kind and an
    extension exactly if it is joined of these, where the name is not empty, the kind is written `code`
    or `document`, and the extension is not empty and has no dot. No file name is joined of other parts
    as well. So name and kind of a codemod that was loaded from a disk make up its file name, together
    with what stands after the last dot, which is its extension. -/
theorem read?_inverts_joining (file : String) :
    (∀ name word ext, (∃ k : Kind, k.text = word ∧ read? file = some ⟨name, k, ext⟩) ↔
      Joined file name word ext) ∧
    (∀ name word ext name' word' ext', Joined file name word ext → Joined file name' word' ext' →
      name = name' ∧ word = word' ∧ ext = ext') ∧
    (∀ (t : Tree) (start : Repository), ∀ m ∈ (Repository.refresh t start).2.codemods,
      ∃ front ext, m.filename = front ++ "." ++ ext ∧ '.' ∉ ext.toList ∧
        m.filename = m.name ++ "." ++ m.kind.text ++ "." ++ ext ∧
        (t.wellNamed = true → m.extension? = some ext)) := by
  refine ⟨fun _ _ _ => joined_iff.symm, fun _ _ _ _ _ _ h h' => h.unique h', ?_⟩
  intro t start m hm
  obtain ⟨r, hload, hm⟩ := Repository.exists_load_of_mem_refresh hm
  obtain ⟨v, files, f, content, hdir, hproper, hentry, rfl⟩ := Repository.exists_file_of_load hload hm
  refine ⟨f.name ++ "." ++ f.kind.text, f.ext, rfl, hproper.dotless, ?_, fun hnames => ?_⟩
  · simp only [Codemod.name, read?_text hproper]
    rfl
  · exact hproper.extension? (hdir.isName hnames hentry)

/-- A name that ends in a word for a kind, and a codemod from a disk with a dot in its name. -/
theorem read?_inverts_joining_shelf :
    let after := Repository.refresh Repository.shelf { root := ⟨"/mods[*]"⟩ }
    Joined "x.code.code.ts" "x.code" "code" "ts" ∧
      (∀ name word ext, Joined "x.code.code.ts" name word ext →
        name = "x.code" ∧ word = "code" ∧ ext = "ts") ∧
      Repository.shelved ∈ after.2.codemods ∧ Repository.shelf.wellNamed = true ∧
      Repository.shelved.name = "a.v2" ∧
      ∃ ext, Repository.shelved.filename = "a.v2" ++ "." ++ "document" ++ "." ++ ext ∧
        Repository.shelved.extension? = some ext := by
  intro after
  have hjoined : Joined "x.code.code.ts" "x.code" "code" "ts" :=
    ⟨rfl, by decide, Or.inl rfl, by decide, by decide⟩
  obtain ⟨-, hunique, hloaded⟩ := read?_inverts_joining "x.code.code.ts"
  have hmem : Repository.shelved ∈ after.2.codemods := by decide
  have hnames : Repository.shelf.wellNamed = true := by decide
  obtain ⟨front, ext, -, -, hfilename, hext⟩ := hloaded _ _ _ hmem
  refine ⟨hjoined, fun name word ext h => hunique _ _ _ _ _ _ h hjoined, hmem, hnames, by decide,
    ext, hfilename, hext hnames⟩

end FileName

end Uplift
