import Mathlib.Data.List.Forall2
import Uplift.Proofs.Codemod
import Uplift.Proofs.Json.Decode
import Uplift.Proofs.List
import Uplift.Proofs.Report.Markdown
import Uplift.Report.Json
import Uplift.Report.Table

set_option autoImplicit false

/-! # Lists of codemods can be read back

Codemods are listed as JSON or as a table. From the JSON the collections are read back as they were
(`decode_collections`).

The last column of the table has the uids. A uid takes its name from a file, so it may have line ends in
it and then takes as many lines of the table; the cells beside it never do. The lines below the head are
cut into blocks, and the block of a codemod ends in the lines of its uid (`splitAt_codemodTable`). -/

namespace Uplift

open Json (Reads Fills)

/-! ## JSON -/

theorem reads_kind (k : Kind) : Reads Kind.decoder (.str k.text) k := by
  have hread := (Json.reads_text k.text).through (Kind.read?_text k)
  refine ⟨hread.opens, fun level {cs rest} hcs => ?_⟩
  have hname := hread.reads level (Json.skipGap_skipGap cs ▸ hcs)
  -- a name starts with a quote, and an object with a brace
  unfold Kind.decoder
  split
  · rename_i hbrace
    rw [hbrace] at hcs
    exact nomatch (List.cons.inj hcs).1
  · exact hname

theorem reads_codemod (c : Codemod) : Reads Codemod.decoder c.toJson c := by
  have hversion := (Json.reads_text c.version.text).through (Version.read?_text c.version)
  have hbase := (Json.reads_text c.base.text).through (f := fun s => some (Path.mk s)) rfl
  refine Fills.reads_record
    (s := ⟨some c.kind, some c.version, some c.base, some c.filename⟩) ?_ (by simp) rfl
  exact .cons rfl rfl ((reads_kind c.kind).slot _ _ _ _) <|
    .cons rfl rfl (hversion.slot _ _ _ _) <|
    .cons rfl rfl (hbase.slot _ _ _ _) <|
    .cons rfl rfl ((Json.reads_text c.filename).slot _ _ _ _) .nil

theorem reads_collection (c : Collection) : Reads Collection.decoder c.toJson c := by
  have hversion := (Json.reads_text c.version.text).through (Version.read?_text c.version)
  have hcodemods := Json.reads_list fun m (_ : m ∈ c.codemods) => reads_codemod m
  refine Fills.reads_record (s := ⟨some c.version, some c.codemods⟩) ?_ (by simp) rfl
  exact .cons rfl rfl (hversion.slot _ _ _ _) <| .cons rfl rfl (hcodemods.slot _ _ _ _) .nil

/-- **The JSON of a list is read back as the collections that were listed.** -/
theorem decode_collections (collections : List Collection) :
    Json.decode (Json.list Collection.decoder) (Json.arr (collections.map Collection.toJson)).fileText
      = .ok collections :=
  (Json.reads_list fun c _ => reads_collection c).decode_pretty

/-! ## Tables -/

namespace Table

open Text

/-- A line ends in a text in the last column, set to the left. -/
def EndsIn (line text : List Char) : Prop :=
  ∃ n, ' ' :: text ++ List.replicate n ' ' ++ [' ', '│'] <:+ line

/-- Lines end in a cell, line by line. -/
def Draws (block : List (List Char)) (cell : String) : Prop :=
  List.Forall₂ EndsIn block (Text.splitAt '\n' cell.toList)

theorem notMem_copies {d : Char} {s : String} (h : d ∉ s.toList) (n : Nat) :
    d ∉ (copies n s).toList := by
  simp only [copies, String.toList_join, List.mem_flatMap, List.mem_replicate]
  rintro ⟨_, ⟨-, rfl⟩, hd⟩
  exact h hd

theorem toList_copies_blank (n : Nat) : (copies n " ").toList = List.replicate n ' ' := by
  rw [copies, String.toList_join]
  induction n with
  | zero => rfl
  | succ n ih => rw [List.replicate_succ, List.flatMap_cons, ih]; rfl

theorem toList_padded (w : Nat) (s : String) :
    (padded w false s).toList = ' ' :: s.toList ++ List.replicate (w - width s) ' ' ++ [' '] := by
  simp [padded, toList_copies_blank]

theorem lineBreak_notMem_padded {s : String} (h : '\n' ∉ s.toList) (w : Nat) (right : Bool) :
    '\n' ∉ (padded w right s).toList := by
  have hblanks : '\n' ∉ (copies (w - width s) " ").toList := notMem_copies (by decide) _
  cases right <;> simp [padded, h, hblanks]

theorem lineBreak_notMem_rule {left line cross right : String} (hleft : '\n' ∉ left.toList)
    (hline : '\n' ∉ line.toList) (hcross : '\n' ∉ cross.toList) (hright : '\n' ∉ right.toList)
    (ws : List Nat) : '\n' ∉ (rule left line cross right ws).toList := by
  have hmid : '\n' ∉ (joined cross (ws.map fun w => copies (w + 2) line)).toList := by
    rw [toList_joined]
    apply notMem_intercalate hcross
    simp only [List.mem_map]
    rintro _ ⟨_, ⟨w, -, rfl⟩, rfl⟩
    exact notMem_copies hline _
  simp [rule, hleft, hmid, hright]

theorem line_eq (ws : List Nat) (right : List Bool) (cells : List String) : line ws right cells
    = "│" ++ joined "┆" ((ws.zip (right.zip cells)).map fun c => padded c.1 c.2.1 c.2.2) ++ "│" := rfl

theorem lineBreak_notMem_line {cells : List String} (h : ∀ cell ∈ cells, '\n' ∉ cell.toList)
    (ws : List Nat) (right : List Bool) : '\n' ∉ (line ws right cells).toList := by
  have hmid : '\n' ∉ (joined "┆"
      ((ws.zip (right.zip cells)).map fun c => padded c.1 c.2.1 c.2.2)).toList := by
    rw [toList_joined]
    apply notMem_intercalate (by decide)
    simp only [List.mem_map]
    rintro _ ⟨_, ⟨⟨w, r, s⟩, hmem, rfl⟩, rfl⟩
    exact lineBreak_notMem_padded (h s (List.of_mem_zip (List.of_mem_zip hmem).2).2) w r
  simp [line_eq, hmid]

/-- However a row is cut into lines, there is no line end left in them. -/
theorem lineBreak_notMem_of_mem_rowLines {ws : List Nat} {right : List Bool} {row : List String}
    {l : String} (h : l ∈ rowLines ws right row) : '\n' ∉ l.toList := by
  obtain ⟨i, -, rfl⟩ := List.mem_map.1 h
  apply lineBreak_notMem_line
  simp only [List.mem_map]
  rintro _ ⟨_, ⟨cell, -, rfl⟩, rfl⟩
  cases hi : (cellLines cell)[i]? with
  | none => decide
  | some piece =>
    obtain ⟨cs, hcs, rfl⟩ := List.mem_map.1 (List.mem_of_getElem? hi)
    simpa using fun hbreak => absurd (of_mem_splitWhere hcs '\n' hbreak) (by decide)

/-- A table is cut into its rules and the lines of its rows again. -/
theorem splitAt_render (t : Table) :
    Text.splitAt '\n' t.render.toList
      = ([rule "┌" "─" "┬" "┐" t.widths] ++ rowLines t.widths t.right t.header
        ++ [rule "╞" "═" "╪" "╡" t.widths] ++ t.rows.flatMap (rowLines t.widths t.right)
        ++ [rule "└" "─" "┴" "┘" t.widths]).map String.toList := by
  rw [render, toList_joined]
  apply splitAt_intercalate (by simp)
  simp only [List.mem_map, List.mem_append, List.mem_cons, List.mem_flatMap, List.not_mem_nil, or_false]
  rintro _ ⟨l, (((rfl | hl) | rfl) | ⟨row, -, hl⟩) | rfl, rfl⟩
  · exact lineBreak_notMem_rule (by decide) (by decide) (by decide) (by decide) _
  · exact lineBreak_notMem_of_mem_rowLines hl
  · exact lineBreak_notMem_rule (by decide) (by decide) (by decide) (by decide) _
  · exact lineBreak_notMem_of_mem_rowLines hl
  · exact lineBreak_notMem_rule (by decide) (by decide) (by decide) (by decide) _

section LastColumn

variable {ws : List Nat} {right : List Bool} {cells : List String}

theorem endsIn_line (hws : ws.length = cells.length) (hright : right.length = cells.length) (w : Nat)
    (s : String) : EndsIn (line (ws ++ [w]) (right ++ [false]) (cells ++ [s])).toList s.toList := by
  refine ⟨w - width s, ?_⟩
  have hcells : ((ws ++ [w]).zip ((right ++ [false]).zip (cells ++ [s]))).map
      (fun c => padded c.1 c.2.1 c.2.2)
      = (ws.zip (right.zip cells)).map (fun c => padded c.1 c.2.1 c.2.2) ++ [padded w false s] := by
    rw [List.zip_append hright, List.zip_append (by simp [hws, hright])]
    simp
  have hsep : "┆".toList = ['┆'] := rfl
  obtain ⟨before, hbefore⟩ := suffix_intercalate '┆'
    (((ws.zip (right.zip cells)).map fun c => padded c.1 c.2.1 c.2.2).map String.toList)
    (padded w false s).toList
  refine ⟨"│".toList ++ before, ?_⟩
  rw [line_eq, hcells, String.toList_append, String.toList_append, toList_joined, List.map_append,
    List.map_singleton, hsep, ← hbefore, toList_padded]
  simp

theorem length_cellLines (cell : String) :
    (cellLines cell).length = (Text.splitAt '\n' cell.toList).length := by
  rw [cellLines, List.length_map]

/-- A row whose other cells have one line takes the lines of its last cell. -/
theorem draws_rowLines (hws : ws.length = cells.length) (hright : right.length = cells.length)
    (hcells : ∀ cell ∈ cells, '\n' ∉ cell.toList) (w : Nat) (s : String) :
    Draws ((rowLines (ws ++ [w]) (right ++ [false]) (cells ++ [s])).map String.toList) s := by
  have hones : ∀ n ∈ (cells.map cellLines).map List.length, n = 1 := by
    simp only [List.mem_map]
    rintro _ ⟨_, ⟨cell, hcell, rfl⟩, rfl⟩
    rw [length_cellLines, splitAt_of_notMem (hcells cell hcell)]
    rfl
  have hpos : 1 ≤ (cellLines s).length := by
    rw [length_cellLines]
    exact List.length_pos_of_ne_nil (splitWhere_ne_nil _ _)
  have hheight : (((cells ++ [s]).map cellLines).map List.length).foldl max 1
      = (cellLines s).length := by
    rw [List.map_append, List.map_append, List.foldl_append, foldl_max_ones hones]
    exact Nat.max_eq_right hpos
  simp only [Draws, rowLines, hheight]
  refine List.forall₂_iff_get.2 ⟨by simp [length_cellLines], fun i _ hi => ?_⟩
  have hpiece : ((cellLines s)[i]?.getD "").toList = (Text.splitAt '\n' s.toList).get ⟨i, hi⟩ := by
    simp [cellLines, hi]
  simp only [List.get_eq_getElem, List.getElem_map, List.getElem_range, List.map_append,
    List.map_singleton] at hpiece ⊢
  rw [← hpiece]
  exact endsIn_line (by simpa using hws) (by simpa using hright) w _

end LastColumn

theorem length_widths {t : Table} (h : ∀ row ∈ t.rows, row.length = t.header.length) :
    t.widths.length = t.header.length := by
  have hfold (rows : List (List String)) (ws : List Nat) (hws : ws.length = t.header.length)
      (hrows : ∀ row ∈ rows, row.length = t.header.length) :
      (rows.foldl (fun ws row => List.zipWith max ws (row.map cellWidth)) ws).length
        = t.header.length := by
    induction rows generalizing ws with
    | nil => exact hws
    | cons row rows ih =>
      simp only [List.mem_cons, forall_eq_or_imp] at hrows
      exact ih _ (by simp [hws, hrows.1]) hrows.2
  exact hfold t.rows _ (by simp) h

end Table

theorem getLast?_codemodTable (collections : List Collection) :
    (codemodTable collections).rows.map List.getLast?
      = ((Collection.flatten collections).map (·.uid)).map some := by
  simp [codemodTable, Collection.flatten, List.map_flatMap, Function.comp_def]

theorem eq_of_mem_codemodTable {collections : List Collection} {row : List String}
    (h : row ∈ (codemodTable collections).rows) :
    ∃ (v : Version) (c : Codemod), row = [v.text, c.kind.text, c.title] ++ [c.uid] := by
  obtain ⟨collection, -, h⟩ := List.mem_flatMap.1 h
  obtain ⟨c, -, h⟩ := List.mem_map.1 h
  exact ⟨collection.version, c, h.symm⟩

theorem length_widths_codemodTable (collections : List Collection) :
    (codemodTable collections).widths.length = 4 := by
  have hrows : ∀ row ∈ (codemodTable collections).rows,
      row.length = (codemodTable collections).header.length := by
    intro row hrow
    obtain ⟨v, c, hrow⟩ := eq_of_mem_codemodTable hrow
    simp [hrow, codemodTable]
  rw [Table.length_widths hrows]
  simp [codemodTable]

theorem draws_of_mem_codemodTable {collections : List Collection} {row : List String}
    (h : row ∈ (codemodTable collections).rows) {uid : String} (hlast : row.getLast? = some uid) :
    Table.Draws ((Table.rowLines (codemodTable collections).widths (codemodTable collections).right
      row).map String.toList) uid := by
  obtain ⟨v, c, rfl⟩ := eq_of_mem_codemodTable h
  rw [List.getLast?_concat] at hlast
  obtain rfl := Option.some.inj hlast
  have hwidths := length_widths_codemodTable collections
  generalize (codemodTable collections).widths = ws at hwidths ⊢
  have hne : ws ≠ [] := List.ne_nil_of_length_pos (by omega)
  have hright : (codemodTable collections).right = [false, false, false] ++ [false] := rfl
  rw [← List.dropLast_append_getLast hne, hright]
  refine Table.draws_rowLines (by simp [hwidths]) (by simp) ?_ _ c.uid
  simp only [List.mem_cons, List.not_mem_nil, or_false]
  rintro _ (rfl | rfl | rfl)
  · exact Markdown.notMem_versionText (.inr rfl) _
  · exact Markdown.notMem_kindText (.inr rfl) _
  · exact Markdown.notMem_title (.inr rfl) _

theorem draws_codemodTable (collections : List Collection) :
    List.Forall₂ Table.Draws
      ((codemodTable collections).rows.map fun row => (Table.rowLines
        (codemodTable collections).widths (codemodTable collections).right row).map String.toList)
      ((Collection.flatten collections).map (·.uid)) := by
  have huids : List.Forall₂ (fun row uid => row.getLast? = some uid) (codemodTable collections).rows
      ((Collection.flatten collections).map (·.uid)) := by
    rw [← List.forall₂_map_right_iff (f := some), ← List.forall₂_map_left_iff (f := List.getLast?),
      getLast?_codemodTable]
    exact List.forall₂_refl _
  rw [List.forall₂_map_left_iff]
  refine ((List.forall₂_and_left _ _).2 ⟨fun row hrow => hrow, huids⟩).imp ?_
  rintro row uid ⟨hrow, hlast⟩
  exact draws_of_mem_codemodTable hrow hlast

/-- **The table of codemods shows their uids.** Between three lines above and one below, it has a block of
    lines for each codemod in order, which ends in the uid. -/
theorem splitAt_codemodTable (collections : List Collection) :
    ∃ above blocks bottom,
      Text.splitAt '\n' (codemodTable collections).render.toList = above ++ blocks.flatten ++ [bottom] ∧
      above.length = 3 ∧
      List.Forall₂ Table.Draws blocks ((Collection.flatten collections).map (·.uid)) := by
  have hsplit := Table.splitAt_render (codemodTable collections)
  rw [List.map_append, List.map_append, List.map_flatMap, List.flatMap_def] at hsplit
  refine ⟨_, _, _, hsplit, ?_, draws_codemodTable collections⟩
  have hheight : ((["Version", "Kind", "Name", "UID"].map Table.cellLines).map List.length).foldl max 1
      = 1 := by decide +kernel
  have hhead : (Table.rowLines (codemodTable collections).widths (codemodTable collections).right
      (codemodTable collections).header).length = 1 := by
    rw [Table.rowLines, List.length_map, List.length_range]
    exact hheight
  simp [hhead]

end Uplift
