import Uplift.Json.Printer
import Uplift.Json.Record
import Uplift.Report

set_option autoImplicit false

/-! # Reports as JSON

Codemods, collections, reports and totals as JSON objects with their members in a fixed order, and
the records they are read back from. Durations are seconds. -/

namespace Uplift

open Json (Decoder Slot slot record)

/-! ## Writing -/

/-- A count. -/
def Json.ofNat (n : Nat) : Json := .int n

/-- A duration in seconds. -/
def Duration.toJson (d : Duration) : Json := .float d.seconds

/-- A codemod as an object. -/
def Codemod.toJson (c : Codemod) : Json :=
  .obj [("kind", .str c.kind.text), ("version", .str c.version.text),
    ("base_directory", .str c.base.text), ("filename", .str c.filename)]

/-- A collection as an object. -/
def Collection.toJson (c : Collection) : Json :=
  .obj [("version", .str c.version.text), ("codemods", .arr (c.codemods.map Codemod.toJson))]

/-- A report as an object. -/
def Report.toJson (r : Report) : Json :=
  .obj [("ok", .ofNat r.ok), ("nochange", .ofNat r.nochange), ("skip", .ofNat r.skip),
    ("error", .ofNat r.error), ("time_elapsed", r.elapsed.toJson)]

/-- A codemod and its report as an object. -/
def CodemodReport.toJson (r : CodemodReport) : Json :=
  .obj [("codemod", r.codemod.toJson), ("report", r.report.toJson)]

/-- Totals as an object. -/
def Totals.toJson (t : Totals) : Json :=
  .obj [("codemods", .ofNat t.codemods), ("ok", .ofNat t.ok), ("nochange", .ofNat t.nochange),
    ("skip", .ofNat t.skip), ("error", .ofNat t.error), ("time_elapsed", t.elapsed.toJson)]

/-! ## Reading -/

/-- Seconds from zero on. Finite seconds of `2 ^ 64` and more end the reading. -/
def Duration.decoder : Decoder Duration := fun cs => do
  let (s, rest) ← Json.real cs
  if s.isNegative then .error .malformed
  else match Duration.ofSeconds? s with
    | some d => return (d, rest)
    | none => .error .overflow

/-- A version in the strict grammar. -/
def Version.decoder : Decoder Version := Json.through Version.read? Json.text

/-- A path. -/
def Path.decoder : Decoder Path := Json.through (fun s => some ⟨s⟩) Json.text

/-- A kind: its name, or an object with the name as its only key and null as its value. -/
def Kind.decoder : Decoder Kind := fun cs =>
  match Json.skipGap cs with
  | '{' :: rest => do
    let (kind, rest) ← Json.through Kind.read? Json.text rest
    match Json.skipGap rest with
    | ':' :: rest =>
      match "null".toList.isPrefixOf? (Json.skipGap rest) with
      | some rest =>
        match Json.skipGap rest with
        | '}' :: rest => return (kind, rest)
        | _ => .error .malformed
      | none => .error .malformed
    | _ => .error .malformed
  | cs => Json.through Kind.read? Json.text cs

/-- The members of a codemod so far. -/
structure Codemod.Draft where
  kind : Option Kind := none
  version : Option Version := none
  base : Option Path := none
  filename : Option String := none

/-- The members of a codemod. -/
def Codemod.Draft.slots : List (Slot Codemod.Draft) :=
  [slot "kind" Draft.kind (fun d kind => { d with kind := some kind }) Kind.decoder,
   slot "version" Draft.version (fun d v => { d with version := some v }) Version.decoder,
   slot "base_directory" Draft.base (fun d base => { d with base := some base }) Path.decoder,
   slot "filename" Draft.filename (fun d f => { d with filename := some f }) Json.text]

/-- A codemod. -/
def Codemod.decoder : Decoder Codemod :=
  record Codemod.Draft.slots {} fun d => do return ⟨← d.kind, ← d.version, ← d.base, ← d.filename⟩

/-- The members of a collection so far. -/
structure Collection.Draft where
  version : Option Version := none
  codemods : Option (List Codemod) := none

/-- A collection. -/
def Collection.decoder : Decoder Collection :=
  record
    [slot "version" Draft.version (fun d v => { d with version := some v }) Version.decoder,
     slot "codemods" Draft.codemods (fun d cs => { d with codemods := some cs })
       (Json.list Codemod.decoder)]
    {} fun d => do return ⟨← d.version, ← d.codemods⟩

/-- The members of totals or of a report so far. -/
structure Totals.Draft where
  codemods : Option Nat := none
  ok : Option Nat := none
  nochange : Option Nat := none
  skip : Option Nat := none
  error : Option Nat := none
  elapsed : Option Duration := none

/-- The members that reports and totals share. -/
def Totals.Draft.slots : List (Slot Totals.Draft) :=
  [slot "ok" Draft.ok (fun d n => { d with ok := some n }) Json.count,
   slot "nochange" Draft.nochange (fun d n => { d with nochange := some n }) Json.count,
   slot "skip" Draft.skip (fun d n => { d with skip := some n }) Json.count,
   slot "error" Draft.error (fun d n => { d with error := some n }) Json.count,
   slot "time_elapsed" Draft.elapsed (fun d t => { d with elapsed := some t }) Duration.decoder]

/-- The members of totals. -/
def Totals.Draft.allSlots : List (Slot Totals.Draft) :=
  slot "codemods" Draft.codemods (fun d n => { d with codemods := some n }) Json.count :: slots

/-- A report. -/
def Report.decoder : Decoder Report :=
  record Totals.Draft.slots {} fun d => do
    return ⟨← d.ok, ← d.nochange, ← d.skip, ← d.error, ← d.elapsed⟩

/-- Totals. -/
def Totals.decoder : Decoder Totals :=
  record Totals.Draft.allSlots {} fun d => do
    return ⟨← d.codemods, ← d.ok, ← d.nochange, ← d.skip, ← d.error, ← d.elapsed⟩

/-- The members of a codemod report so far. -/
structure CodemodReport.Draft where
  codemod : Option Codemod := none
  report : Option Report := none

/-- The members of a codemod report. -/
def CodemodReport.Draft.slots : List (Slot CodemodReport.Draft) :=
  [slot "codemod" Draft.codemod (fun d c => { d with codemod := some c }) Codemod.decoder,
   slot "report" Draft.report (fun d r => { d with report := some r }) Report.decoder]

/-- A codemod and its report. -/
def CodemodReport.decoder : Decoder CodemodReport :=
  record CodemodReport.Draft.slots {} fun d => do return ⟨← d.codemod, ← d.report⟩

end Uplift
