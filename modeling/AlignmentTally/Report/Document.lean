import AlignmentTally.Format
import AlignmentTally.Instant

/-!
# The report document

The report as a value, and as a JSON document. Unlike the plain report, a document is complete
even without rejections, and has all its sections.

A document is made from tallies and what is known about the run (`Metadata`). Making it needs a
format for each descriptor and fails with the first one that has none; there is no document on a
part of the descriptors. Each section lists its entries ascending by count, and the section of
formats lists labels, of which two formats may share one.

The members of objects are written in the order in which this module lists them. What an object
holds does not depend on that order, and a reader need not keep it.
-/

namespace AlignmentTally.Report

/-- Where the output came from. -/
inductive Source where
  /-- A run of the test binary. -/
  | launch (command : String)
  /-- A file, or `-` for standard input. -/
  | replay (path : String)
  deriving DecidableEq, Repr, Inhabited

/-- What a report says about itself. -/
structure Metadata where
  /-- When the report was made. -/
  generatedAt : Instant := {}
  /-- The backend that the test binary was asked to use. -/
  backend : String := ""
  /-- The vendor of the adapter that the test binary was asked to use. -/
  adapterVendorId : String := ""
  /-- Where the output came from. -/
  source : Source := .replay ""
  /-- The number of lines of the output. -/
  linesScanned : Nat := 0
  deriving DecidableEq, Repr, Inhabited

/-- A name and its count. -/
structure Entry where
  /-- The name under which the count is listed. -/
  name : String
  /-- The count. -/
  count : Nat
  deriving DecidableEq, Repr, Inhabited

/-- The entries of a tally ascending by count, each key under its name. -/
def entriesOf {κ : Type} (name : κ → String) (counts : Counts κ) : List Entry :=
  counts.ranked.map fun entry ↦ ⟨name entry.1, entry.2⟩

/-- A complete report. -/
structure Document where
  /-- What the report says about itself. -/
  metadata : Metadata
  /-- The number of distinct descriptors rejected. -/
  uniqueResources : Nat
  /-- The number of rejections. -/
  totalRejections : Nat
  /-- Rejections by descriptor. -/
  byResource : List Entry
  /-- Rejections by test. -/
  byTest : List Entry
  /-- Distinct descriptors by format. -/
  byFormat : List Entry
  deriving DecidableEq, Repr, Inhabited

/-- The report on tallies. -/
def document (tallies : Tallies) (metadata : Metadata) : Except TallyError Document := do
  let formats ← tallies.formatCounts
  return {
    metadata
    uniqueResources := tallies.uniqueResources
    totalRejections := tallies.totalRejections
    byResource := entriesOf id tallies.byResource
    byTest := entriesOf id tallies.byTest
    byFormat := entriesOf Format.label formats }

/-! ### As JSON -/

/-- The source with its kind first. -/
def Source.toJson : Source → Json
  | launch command => .object [("kind", .string "launch"), ("command", .string command)]
  | replay path => .object [("kind", .string "replay"), ("path", .string path)]

/-- The metadata in the order in which they are written. -/
def Metadata.toJson (metadata : Metadata) : Json :=
  .object [
    ("generated_at", .string metadata.generatedAt.write),
    ("backend", .string metadata.backend),
    ("adapter_vendor_id", .string metadata.adapterVendorId),
    ("source", metadata.source.toJson),
    ("lines_scanned", .integer metadata.linesScanned)]

/-- An entry as an object. -/
def Entry.toJson (entry : Entry) : Json :=
  .object [("name", .string entry.name), ("count", .integer entry.count)]

/-- The report in the order in which it is written. -/
def Document.toJson (report : Document) : Json :=
  .object [
    ("metadata", report.metadata.toJson),
    ("unique_resources", .integer report.uniqueResources),
    ("total_rejections", .integer report.totalRejections),
    ("by_resource", .array (report.byResource.map Entry.toJson)),
    ("by_test", .array (report.byTest.map Entry.toJson)),
    ("by_format", .array (report.byFormat.map Entry.toJson))]

/-- The report as a JSON document. -/
def Document.write (report : Document) : String := report.toJson.pretty

end AlignmentTally.Report
