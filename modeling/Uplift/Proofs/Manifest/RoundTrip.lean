import Uplift.Manifest
import Uplift.Proofs.Json.Plain
import Uplift.Proofs.Tree

set_option autoImplicit false

/-! # Manifests on the disk

A manifest is written as the text of a document file and read by the reader of all JSON. One that is
legible is read back as it was (`read_of_write`). This is so for every object without doubles that is
nested no deeper than the reader goes, and to write what was read changes no byte on the disk
(`write_reads_back`). -/

namespace Uplift.Manifest

variable {t t' : Tree} {path : Path} {m : Json}

/-- A manifest that was read is an object, from the text of its file. -/
theorem read_eq_ok (h : read t path = .ok m) :
    m.isObject = true ∧ ∃ text, t.readText path = some text ∧ Json.read? text = some m := by
  unfold read at h
  split at h
  · cases h
  · rename_i text htext
    split at h
    · cases h
    · rename_i v hv
      split at h
      · rename_i hobject
        obtain rfl := Except.ok.inj h
        exact ⟨hobject, text, htext, hv⟩
      · cases h

theorem read_of_write (hlegible : Json.Legible Json.maxDepth m)
    (hobject : m.isObject = true) (hwrite : t.write path (.text m.fileText) = some t') :
    read t' path = .ok m := by
  simp [read, Tree.readText_write hwrite, Json.read?_fileText hlegible, hobject]

/-- A manifest that was written can be written once more, and this changes nothing. -/
theorem write_of_write (h : write t path m = some t') : write t' path m = some t' := by
  obtain ⟨place, hplace, hdir, -⟩ := Tree.write_eq_some h
  have hplace' : t'.place? path = some place :=
    (Tree.place?_congr (Tree.hasDir_write h) path).trans hplace
  have hdir' : t'.hasDir place = false := (Tree.hasDir_write h place).trans hdir
  have hsame : t'.put place (.file (.text m.fileText)) = t' :=
    Tree.put_of_get? (Tree.get?_of_write h hplace)
  simp [write, Tree.write, hplace', hdir', hsame]

/-- **A manifest that is written is read back as it was.** It may be any object that has no doubles, no
    integers beyond 64 bits and no key twice in one object, and at most 127 arrays and objects nested in
    each other. It can be written wherever there is a directory for it and no directory in its place.
    What is read is the value with all members in their order, and writing that once more leaves the
    disk as it is. -/
theorem write_reads_back (hobject : m.isObject = true) (hplain : m.isPlain = true)
    (hdepth : m.depth ≤ 127) {place : List String} (hplace : t.place? path = some place)
    (hfree : t.hasDir place = false) :
    ∃ t', write t path m = some t' ∧ t'.readText path = some m.fileText ∧ read t' path = .ok m ∧
      ∀ again, read t' path = .ok again → write t' path again = some t' := by
  have hlegible : Json.Legible Json.maxDepth m := Json.legible_of_isPlain m hplain hdepth
  have hwrite : write t path m = some (t.put place (.file (.text m.fileText))) := by
    simp [write, Tree.write, hplace, hfree]
  have hread := read_of_write hlegible hobject hwrite
  refine ⟨_, hwrite, Tree.readText_write hwrite, hread, fun again hagain => ?_⟩
  obtain rfl : m = again := Except.ok.inj (hread.symm.trans hagain)
  exact write_of_write hwrite

/-- A value inside of so many arrays. -/
def nested : Nat → Json → Json
  | 0, v => v
  | n + 1, v => .arr [nested n v]

/-- A manifest with the greatest and the least integer, a key and a text that are escaped, empty lists,
    and nesting as deep as it may be. -/
def sprawling : Json := .obj [
  ("z", .arr [.int 18446744073709551615, .int (-9223372036854775808), .int 0]),
  ("\"\\\n\x00é", .obj [("b", .str "\t\x1f\x7f𝄞/"), ("a", .null)]),
  ("empty", .arr [.arr [], .obj []]),
  ("deep", nested 126 (.bool true))]

/-- It is read back from a file that did not exist before. -/
theorem write_reads_back_sprawling :
    let t : Tree := .dir [("app", .dir [])]
    sprawling.isObject = true ∧ sprawling.isPlain = true ∧ sprawling.depth = 127 ∧
      ∃ t', write t ⟨"/app/package.json"⟩ sprawling = some t' ∧
        read t' ⟨"/app/package.json"⟩ = .ok sprawling ∧
        write t' ⟨"/app/package.json"⟩ sprawling = some t' := by
  intro t
  have hplain : sprawling.isPlain = true := by decide +kernel
  have hdepth : sprawling.depth = 127 := by decide +kernel
  have hplace : t.place? ⟨"/app/package.json"⟩ = some ["app", "package.json"] := by decide +kernel
  obtain ⟨t', hwrite, -, hread, hagain⟩ :=
    write_reads_back rfl hplain (Nat.le_of_eq hdepth) hplace rfl
  exact ⟨rfl, hplain, hdepth, t', hwrite, hread, hagain _ hread⟩

end Uplift.Manifest
