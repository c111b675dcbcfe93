import AlignmentTally.Proofs.Conservation
import AlignmentTally.Proofs.Json.Pretty

/-!
# The report document is read back

The document that is written is read as an object with all that the report holds, and nothing else
(`Report.document_read_back`). What an object holds does not depend on the order of its members, so
it is said up to that order (`Json.IsObject`); the order of entries in a section does matter and is
kept. Names, texts and paths come back as they are, whatever characters they hold. Only the time is
not looked into: it comes back as some string.

## What a value has to hold

`Report.Document.ReadAs` relates a report and a JSON value, section by section and entry by entry.
It does not mention the writer, so a writer that dropped or renamed a member would not satisfy it.
For a source there are two forms, told apart by their members.

## What it rests on

* **The reader reads what is laid out** (`Json.read_pretty`), up to normal form. Putting a document
  in normal form changes the order of members at most (`Json.isObject_normalize`).
* **Numbers fit 64 bits** (`Report.Document.Bounded`). For a report that is built from tallies this
  has to be known of a few totals only, since a count in a section is bounded by what the section
  adds up to (`Report.Document.bounded_of_document`).
* A report is nested less deep than the reader allows, whatever it holds
  (`Report.Document.plain_toJson`).
-/

namespace AlignmentTally

namespace Json

/-! ### Objects by their members -/

/-- An object has exactly some members, in whatever order. -/
def IsObject (value : Json) (members : List (String × Json)) : Prop :=
  ∃ listed, value = .object listed ∧ listed.Perm members

/-- A new key adds a member and changes no other. -/
theorem insertMember_perm {key : String} {members : List (String × Json)}
    (fresh : key ∉ members.map Prod.fst) (value : Json) :
    (insertMember key value members).Perm ((key, value) :: members) := by
  fun_induction insertMember key value members with
  | case1 => exact .refl _
  | case2 => exact absurd List.mem_cons_self fresh
  | case3 => exact .refl _
  | case4 k v rest differ below ih =>
    have freshRest : key ∉ rest.map Prod.fst := fun mem ↦ fresh (List.mem_cons_of_mem k mem)
    exact ((ih freshRest).cons (k, v)).trans (.swap (key, value) (k, v) rest)

theorem foldl_insertMember_perm {members sorted : List (String × Json)}
    (distinct : ((members ++ sorted).map Prod.fst).Nodup) :
    (members.foldl (fun sorted member ↦ insertMember member.1 member.2 sorted) sorted).Perm
      (members ++ sorted) := by
  induction members generalizing sorted with
  | nil => exact .refl _
  | cons member rest ih =>
    rw [List.cons_append, List.map_cons, List.nodup_cons] at distinct
    obtain ⟨fresh, distinctRest⟩ := distinct
    have freshSorted : member.1 ∉ sorted.map Prod.fst := fun mem ↦
      fresh (by rw [List.map_append]; exact List.mem_append_right _ mem)
    have inserted := insertMember_perm freshSorted member.2
    have moved : (rest ++ insertMember member.1 member.2 sorted).Perm
        (member :: (rest ++ sorted)) :=
      (inserted.append_left rest).trans List.perm_middle
    have distinctNext :
        ((rest ++ insertMember member.1 member.2 sorted).map Prod.fst).Nodup :=
      (moved.map Prod.fst).nodup_iff.2 (List.nodup_cons.2 ⟨fresh, distinctRest⟩)
    exact (ih distinctNext).trans moved

/-- Members with distinct keys are all kept in normal form. -/
theorem isObject_normalize {members : List (String × Json)}
    (distinct : (members.map Prod.fst).Nodup) :
    IsObject (normalize (.object members))
      (members.map fun member ↦ (member.1, member.2.normalize)) := by
  have keys : ((members.map fun member ↦ (member.1, member.2.normalize)).map Prod.fst).Nodup := by
    rwa [List.map_map]
  have kept := @foldl_insertMember_perm _ [] (by rwa [List.append_nil])
  rw [List.append_nil] at kept
  rw [normalize, normalizeMembers_eq_map]
  exact ⟨_, rfl, kept⟩

end Json

namespace Report

open Json (IsObject)

/-! ### What a value has to hold -/

/-- A value holds an entry: its name and its count. -/
def Entry.ReadAs (entry : Entry) (value : Json) : Prop :=
  IsObject value [("name", .string entry.name), ("count", .integer entry.count)]

/-- A value holds a source: its kind and the command or the path. -/
def Source.ReadAs : Source → Json → Prop
  | launch command, value =>
    IsObject value [("kind", .string "launch"), ("command", .string command)]
  | replay path, value => IsObject value [("kind", .string "replay"), ("path", .string path)]

/-- A value holds metadata. The time is some string. -/
def Metadata.ReadAs (metadata : Metadata) (value : Json) : Prop :=
  ∃ time source, metadata.source.ReadAs source ∧
    IsObject value [
      ("generated_at", .string time),
      ("backend", .string metadata.backend),
      ("adapter_vendor_id", .string metadata.adapterVendorId),
      ("source", source),
      ("lines_scanned", .integer metadata.linesScanned)]

/-- A value holds a section: its entries in their order. -/
def SectionReadAs (entries : List Entry) (value : Json) : Prop :=
  ∃ items, value = .array items ∧ List.Forall₂ Entry.ReadAs entries items

/-- A value holds a report. -/
def Document.ReadAs (report : Document) (value : Json) : Prop :=
  ∃ metadata byResource byTest byFormat,
    report.metadata.ReadAs metadata ∧ SectionReadAs report.byResource byResource ∧
    SectionReadAs report.byTest byTest ∧ SectionReadAs report.byFormat byFormat ∧
    IsObject value [
      ("metadata", metadata),
      ("unique_resources", .integer report.uniqueResources),
      ("total_rejections", .integer report.totalRejections),
      ("by_resource", byResource),
      ("by_test", byTest),
      ("by_format", byFormat)]

/-- All numbers of a report fit 64 bits. -/
structure Document.Bounded (report : Document) : Prop where
  uniqueResources : report.uniqueResources < 1 <<< 64
  totalRejections : report.totalRejections < 1 <<< 64
  linesScanned : report.metadata.linesScanned < 1 <<< 64
  byResource : ∀ entry ∈ report.byResource, entry.count < 1 <<< 64
  byTest : ∀ entry ∈ report.byTest, entry.count < 1 <<< 64
  byFormat : ∀ entry ∈ report.byFormat, entry.count < 1 <<< 64

/-! ### What is written is plain -/

section Plain

variable {depth : Nat}

theorem plain_natCast {n : Nat} (fits : n < 1 <<< 64) : Json.Plain depth (.integer n) :=
  Json.plain_integer (by omega) (Int.ofNat_lt.2 fits) depth

theorem Entry.plain_toJson {entry : Entry} (fits : entry.count < 1 <<< 64) :
    Json.Plain (depth + 1) entry.toJson := by
  rw [toJson, Json.plain_object_iff]
  simp only [List.forall_mem_cons]
  exact ⟨Json.plain_string _ _, plain_natCast fits, by simp⟩

theorem plain_section {entries : List Entry} (fits : ∀ entry ∈ entries, entry.count < 1 <<< 64) :
    Json.Plain (depth + 2) (.array (entries.map Entry.toJson)) := by
  rw [Json.plain_array_iff, List.forall_mem_map]
  exact fun entry mem ↦ Entry.plain_toJson (fits entry mem)

theorem Source.plain_toJson (source : Source) : Json.Plain (depth + 1) source.toJson := by
  cases source <;>
  · rw [toJson, Json.plain_object_iff]
    simp only [List.forall_mem_cons]
    exact ⟨Json.plain_string _ _, Json.plain_string _ _, by simp⟩

theorem Metadata.plain_toJson {metadata : Metadata} (fits : metadata.linesScanned < 1 <<< 64) :
    Json.Plain (depth + 2) metadata.toJson := by
  rw [toJson, Json.plain_object_iff]
  simp only [List.forall_mem_cons]
  exact ⟨Json.plain_string _ _, Json.plain_string _ _, Json.plain_string _ _,
    metadata.source.plain_toJson, plain_natCast fits, by simp⟩

theorem Document.plain_toJson {report : Document} (bounded : report.Bounded) :
    Json.Plain (depth + 3) report.toJson := by
  rw [toJson, Json.plain_object_iff]
  simp only [List.forall_mem_cons]
  exact ⟨Metadata.plain_toJson bounded.linesScanned, plain_natCast bounded.uniqueResources,
    plain_natCast bounded.totalRejections, plain_section bounded.byResource,
    plain_section bounded.byTest, plain_section bounded.byFormat, by simp⟩

end Plain

/-! ### What is read -/

theorem Entry.readAs_normalize (entry : Entry) : entry.ReadAs entry.toJson.normalize :=
  Json.isObject_normalize (by simp)

theorem Source.readAs_normalize (source : Source) : source.ReadAs source.toJson.normalize := by
  cases source <;> exact Json.isObject_normalize (by simp)

theorem Metadata.readAs_normalize (metadata : Metadata) :
    metadata.ReadAs metadata.toJson.normalize :=
  ⟨_, _, metadata.source.readAs_normalize, Json.isObject_normalize (by simp)⟩

theorem sectionReadAs_normalize (entries : List Entry) :
    SectionReadAs entries (Json.array (entries.map Entry.toJson)).normalize := by
  rw [Json.normalize, Json.normalizeItems_eq_map]
  refine ⟨_, rfl, ?_⟩
  rw [List.map_map, List.forall₂_map_right_iff, List.forall₂_same]
  exact fun entry _ ↦ entry.readAs_normalize

theorem Document.readAs_normalize (report : Document) : report.ReadAs report.toJson.normalize :=
  ⟨_, _, _, _, report.metadata.readAs_normalize, sectionReadAs_normalize _,
    sectionReadAs_normalize _, sectionReadAs_normalize _, Json.isObject_normalize (by simp)⟩

/-- A report whose numbers fit 64 bits is read back. -/
theorem Document.read_write {report : Document} (bounded : report.Bounded) :
    ∃ value, Json.read report.write = .ok value ∧ report.ReadAs value :=
  ⟨_, Json.read_pretty (Document.plain_toJson bounded), report.readAs_normalize⟩

/-! ### Reports on tallies -/

theorem count_le_of_mem_entriesOf {κ : Type} {name : κ → String} {counts : Counts κ} {entry : Entry}
    (mem : entry ∈ entriesOf name counts) : entry.count ≤ counts.total :=
  total_entriesOf name counts ▸ Entry.count_le_total mem

/-- The numbers of a report fit 64 bits if those of its tallies do. A format counts descriptors, so
its count needs no bound of its own. -/
theorem Document.bounded_of_document {tallies : Tallies} {metadata : Metadata} {report : Document}
    (built : document tallies metadata = .ok report)
    (unique : tallies.uniqueResources < 1 <<< 64) (total : tallies.totalRejections < 1 <<< 64)
    (tests : ∀ entry ∈ tallies.byTest.entries, entry.2 < 1 <<< 64)
    (scanned : metadata.linesScanned < 1 <<< 64) : report.Bounded := by
  obtain ⟨formats, hformats, rfl⟩ := document_eq_ok_iff.1 built
  refine ⟨unique, total, scanned, fun entry mem ↦ ?_, fun entry mem ↦ ?_, fun entry mem ↦ ?_⟩
  · exact Nat.lt_of_le_of_lt (count_le_of_mem_entriesOf mem) total
  · obtain ⟨counted, ranked, rfl⟩ := List.mem_map.1 mem
    exact tests counted (tallies.byTest.ranked_perm.mem_iff.1 ranked)
  · refine Nat.lt_of_le_of_lt (count_le_of_mem_entriesOf mem) ?_
    rwa [Tallies.total_of_formatCounts hformats]

/-- **The written report is valid JSON and loses nothing.** Let a report be built from tallies whose
numbers fit 64 bits. Its document is read as an object with exactly the members of a report: the
numbers, the sections entry by entry in their order, and the metadata, whatever characters the names
and texts hold. -/
theorem document_read_back {tallies : Tallies} {metadata : Metadata} {report : Document}
    (built : document tallies metadata = .ok report)
    (unique : tallies.uniqueResources < 1 <<< 64) (total : tallies.totalRejections < 1 <<< 64)
    (tests : ∀ entry ∈ tallies.byTest.entries, entry.2 < 1 <<< 64)
    (scanned : metadata.linesScanned < 1 <<< 64) :
    ∃ value, Json.read report.write = .ok value ∧ report.ReadAs value :=
  Document.read_write (Document.bounded_of_document built unique total tests scanned)

/-- A descriptor that is JSON with an escape in it, and a name of all that has to be escaped. -/
theorem document_read_back_escapes :
    let name := "quote \" backslash \\ feed \n control \x01 sign \u2028"
    let tallies := Tallies.empty.record "\x7b\"Format\": \"\\u0041\"\x7d" name
    let metadata : Metadata := { source := .launch "\"a\\b\"", linesScanned := 1 }
    ∃ report value, document tallies metadata = .ok report ∧ report.byTest = [⟨name, 1⟩] ∧
      Json.read report.write = .ok value ∧ report.ReadAs value := by
  intro name tallies metadata
  have formats : tallies.formatCounts = .ok ⟨[(⟨"\"A\"", "A"⟩, 1)], by decide⟩ := by
    decide +kernel
  have built : document tallies metadata = .ok (documentOf _ _ _) :=
    document_eq_ok_iff.2 ⟨_, formats, rfl⟩
  obtain ⟨value, read, holds⟩ := document_read_back built (by decide) (by decide)
    (by decide) (by decide)
  have listed : entriesOf id tallies.byTest = [⟨name, 1⟩] := by
    rw [entriesOf, Counts.ranked_of_pairwise (by decide)]
    rfl
  exact ⟨_, value, built, listed, read, holds⟩

end Report

end AlignmentTally
