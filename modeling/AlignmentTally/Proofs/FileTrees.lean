import AlignmentTally.Files.Basic
import AlignmentTally.Proofs.Steps

/-!
# Reading back what was written

A regular file that was written holds what was written: `Files.read_of_write`. Writing goes to the
place that a path leads to, and reading has to find the same place in a tree that has changed.

## The way there is the same

A walk sees only directories and links on its way, and writing a file leaves both as they were
(`Files.Keeps`). So a walk that succeeded does so again and ends at the same place, with links
followed as before (`Files.walkLinks_eq_ok`). The induction is on the walk, and `Keeps` is all that
it knows of the change.

## Nothing else is touched

That rests on where a path can lead. Whatever a walk ends at stands in a directory that is there
(`Files.Seated`), so no directory has to be made and nothing but the file is replaced
(`Node.HasRoom`). A last component that is missing is seated too: this is how a new file comes
about.

## What is written to

Writing to a device succeeds and keeps nothing, so `Files.read_of_write` asks that the path leads to
a regular file afterwards. Where there was nothing before, it does
(`Files.read_of_write_of_missing`).
-/

namespace AlignmentTally

/-! ### Nodes with one entry changed -/

namespace Node

/-- The target of the link under a name, if there is a link. -/
def link? (name : String) (node : Node) : Option String :=
  match node.entry? name with
  | some (.link target) => some target
  | _ => none

/-- At the end of a chain of entries there is room for a file: all nodes on the way are directories,
and nothing is there or a file. -/
inductive HasRoom : List String → Option Node → Prop
  | missing : HasRoom [] none
  | file (content : List UInt8) (executable : Bool) : HasRoom [] (some (file content executable))
  | inside {name : String} {rest : List String} {entries : List (String × Node)}
      (h : HasRoom rest (entries.lookup name)) : HasRoom (name :: rest) (some (directory entries))

theorem lookup_setEntry_self (name : String) (node : Node) (entries : List (String × Node)) :
    (setEntry name node entries).lookup name = some node := by
  fun_induction setEntry name node entries with
  | case1 => simp
  | case2 => simp
  | case3 n old rest h ih => rw [List.lookup_cons, beq_false_of_ne (Ne.symm h), ih]

theorem lookup_setEntry_of_ne {name other : String} (h : other ≠ name) (node : Node)
    (entries : List (String × Node)) :
    (setEntry name node entries).lookup other = entries.lookup other := by
  have hne : (other == name) = false := beq_false_of_ne h
  fun_induction setEntry name node entries with
  | case1 => simp [List.lookup_cons, hne]
  | case2 => simp [List.lookup_cons, hne]
  | case3 n old rest _ ih => rw [List.lookup_cons, List.lookup_cons, ih]

theorem isDirectory_iff {node : Node} :
    node.isDirectory ↔ ∃ entries, node = directory entries := by
  cases node <;> simp [isDirectory]

/-- Only directories have entries. -/
theorem isDirectory_of_entry {node below : Node} {name : String}
    (h : node.entry? name = some below) : node.isDirectory := by
  cases node with
  | directory entries => rfl
  | _ => cases h

theorem descend?_directory (entries : List (String × Node)) (name : String)
    (rest : List String) :
    (directory entries).descend? (name :: rest) =
      (entries.lookup name).bind (·.descend? rest) := rfl

theorem descend?_cons_eq_some_iff {node found : Node} {name : String} {rest : List String} :
    node.descend? (name :: rest) = some found ↔
      ∃ below, node.entry? name = some below ∧ below.descend? rest = some found :=
  Option.bind_eq_some_iff

/-- A chain of entries is followed in two parts. -/
theorem descend?_append (node : Node) (front back : List String) :
    node.descend? (front ++ back) = (node.descend? front).bind (·.descend? back) := by
  induction front generalizing node with
  | nil => rfl
  | cons name front ih =>
    cases node with
    | directory entries =>
      rw [List.cons_append, descend?_directory, descend?_directory, Option.bind_assoc]
      exact Option.bind_congr fun below _ ↦ ih below
    | _ => rfl

/-- Where the entry under a name is no link, there is no link under that name. -/
theorem link?_eq_none {entry : Option Node} {name : String} {node : Node}
    (hentry : node.entry? name = entry) (h : ∀ target, entry ≠ some (.link target)) :
    node.link? name = none := by
  rw [link?, hentry]
  split
  · next target => exact absurd rfl (h target)
  · rfl

/-- There is room for a file in a directory unless something else is there. -/
theorem hasRoom_of_bind_descend? {place : List String} {old : Option Node}
    (h : place = [] ∨ ∃ node, old.bind (·.descend? place.dropLast) = some node ∧ node.isDirectory)
    (hfile : ∀ node, old.bind (·.descend? place) = some node →
      ∃ content executable, node = .file content executable) : HasRoom place old := by
  induction place generalizing old with
  | nil =>
    cases old with
    | none => exact .missing
    | some root =>
      obtain ⟨content, executable, rfl⟩ := hfile root rfl
      exact .file content executable
  | cons name rest ih =>
    obtain ⟨above, habove, hkind⟩ := h.resolve_left (List.cons_ne_nil _ _)
    obtain ⟨root, rfl, hroot⟩ := Option.bind_eq_some_iff.1 habove
    -- the first node is a directory, whether the file stands in it or further down
    by_cases hrest : rest = []
    · subst hrest
      cases hroot
      obtain ⟨entries, rfl⟩ := isDirectory_iff.1 hkind
      exact .inside (ih (Or.inl rfl) hfile)
    · rw [List.dropLast_cons_of_ne_nil hrest] at hroot
      obtain ⟨below, hbelow, -⟩ := descend?_cons_eq_some_iff.1 hroot
      obtain ⟨entries, rfl⟩ := isDirectory_iff.1 (isDirectory_of_entry hbelow)
      exact .inside (ih (Or.inr ⟨above, hroot, hkind⟩) hfile)

namespace HasRoom

variable {place : List String} {old : Option Node}

/-- The file is put there. -/
theorem descend?_modify (h : HasRoom place old) (content : List UInt8) (executable : Bool) :
    (modify (fun _ ↦ .file content executable) place old).descend? place =
      some (.file content executable) := by
  induction h with
  | missing => rfl
  | file => rfl
  | inside _ ih =>
    rw [modify, descend?_directory, lookup_setEntry_self, Option.bind_some, ih]

/-- There is no link on the way to where there is room for a file, and none is put there. -/
theorem ne_link (h : HasRoom place old) (content : List UInt8) (executable : Bool)
    (target : String) :
    old ≠ some (.link target) ∧
      modify (fun _ ↦ .file content executable) place old ≠ .link target := by
  cases h <;> simp [modify]

/-- The directories stay, with the links in them. -/
theorem exists_descend?_modify (h : HasRoom place old) (content : List UInt8) (executable : Bool)
    {other : List String} {node : Node} (hnode : old.bind (·.descend? other) = some node)
    (hdirectory : node.isDirectory) :
    ∃ new, (modify (fun _ ↦ .file content executable) place old).descend? other = some new ∧
      new.isDirectory ∧ ∀ name, new.link? name = node.link? name := by
  induction h generalizing other with
  | missing => cases hnode
  | file =>
    cases other with
    | nil =>
      cases hnode
      cases hdirectory
    | cons => cases hnode
  | @inside name rest entries hinside ih =>
    rw [modify]
    cases other with
    | nil =>
      cases hnode
      refine ⟨_, rfl, rfl, fun other ↦ ?_⟩
      by_cases hother : other = name
      · -- the changed entry is no link, and it was none
        subst hother
        have hlookup : Node.entry? other (directory entries) = entries.lookup other := rfl
        rw [link?_eq_none hlookup fun target ↦ (hinside.ne_link content executable target).1]
        refine link?_eq_none (lookup_setEntry_self _ _ _) fun target heq ↦ ?_
        exact (hinside.ne_link content executable target).2 (Option.some.inj heq)
      · rw [link?, link?, entry?, entry?, lookup_setEntry_of_ne hother]
    | cons next other =>
      by_cases hnext : next = name
      · subst hnext
        rw [descend?_directory, lookup_setEntry_self]
        exact ih hnode
      · rw [descend?_directory, lookup_setEntry_of_ne hnext]
        exact ⟨node, hnode, hdirectory, fun _ ↦ rfl⟩

end HasRoom

end Node

/-! ### Paths that start from the working directory -/

namespace Path

theorem go_ne_nil (text : List Char) : components.go text ≠ [] := by
  fun_induction components.go text with
  | case1 => simp
  | case2 => simp
  | case3 c rest _ ih => simpa using ih

/-- A path that is neither empty nor absolute has a component. -/
theorem components_ne_nil {path : String} (hempty : ¬ path.isEmpty) (h : ¬ isAbsolute path) :
    components path ≠ [] := by
  obtain ⟨c, rest, htext⟩ : ∃ c rest, path.toList = c :: rest := by
    refine List.exists_cons_of_ne_nil fun htext ↦ hempty ?_
    rw [String.isEmpty_iff, ← String.toList_eq_nil_iff, htext]
  have hc : c ≠ '/' := by
    rintro rfl
    exact h (by simp [isAbsolute, htext])
  obtain ⟨name, names, hnames⟩ := List.exists_cons_of_ne_nil (go_ne_nil rest)
  have hgo : components.go (c :: rest) = (components.go rest).modifyHead (c :: ·) := by
    rw [components.go]
    exact hc
  rw [components, htext, hgo, hnames]
  simp

end Path

namespace Files

variable {files after : Files} {place : List String}

/-! ### Where a walk ends -/

/-- A place is the root or stands in a directory. -/
def Seated (files : Files) (place : List String) : Prop :=
  place = [] ∨ ∃ node, files.at? place.dropLast = some node ∧ node.isDirectory

/-- Whatever is there is in its place. -/
theorem seated_of_at? {node : Node} (h : files.at? place = some node) : files.Seated place := by
  rcases List.eq_nil_or_concat' place with rfl | ⟨above, name, rfl⟩
  · exact Or.inl rfl
  · rw [at?, Node.descend?_append] at h
    obtain ⟨directory, hdirectory, hentry⟩ := Option.bind_eq_some_iff.1 h
    obtain ⟨below, hbelow, -⟩ := Node.descend?_cons_eq_some_iff.1 hentry
    refine Or.inr ⟨directory, ?_, Node.isDirectory_of_entry hbelow⟩
    rw [List.dropLast_concat]
    exact hdirectory

theorem seated_concat {node : Node} (h : files.at? place = some node)
    (hdirectory : node.isDirectory) (name : String) : files.Seated (place ++ [name]) :=
  Or.inr ⟨node, by rw [List.dropLast_concat, h], hdirectory⟩

/-- A walk goes on from a directory. -/
theorem exists_of_walk_cons {name : String} {rest : List String}
    {found : List String ⊕ (List String × List String)}
    (h : files.walk place (name :: rest) = .ok found) :
    ∃ node, files.at? place = some node ∧ node.isDirectory := by
  rw [walk] at h
  cases hnode : files.at? place with
  | none => simp [hnode] at h
  | some node =>
    refine ⟨node, rfl, ?_⟩
    by_contra hdirectory
    simp [hnode, hdirectory] at h

/-- The next step of a walk in a directory. -/
theorem walk_cons {node : Node} (h : files.at? place = some node) (hdirectory : node.isDirectory)
    (name : String) (rest : List String) :
    files.walk place (name :: rest) =
      if name = "." then files.walk place rest
      else if name = ".." then files.walk place.dropLast rest
      else if maxNameSize < name.utf8ByteSize then .error .nameTooLong
      else
        match node.link? name with
        | some target =>
          .ok (.inr (if Path.isAbsolute target then [] else place, Path.components target ++ rest))
        | none => files.walk (place ++ [name]) rest := by
  rw [walk, h]
  simp only [hdirectory, not_true_eq_false, if_false]
  rw [Node.link?]
  cases hentry : node.entry? name with
  | none => rfl
  | some below => cases below <;> rfl

/-- A walk that starts in a directory, or at a place in one, ends or is led on by a link at such a
place. -/
theorem seated_of_walk {names : List String} {found : List String ⊕ (List String × List String)}
    (hplace : files.Seated place) (h : files.walk place names = .ok found) :
    files.Seated (found.elim id Prod.fst) := by
  induction names generalizing place with
  | nil =>
    cases h
    exact hplace
  | cons name rest ih =>
    obtain ⟨node, hnode, hdirectory⟩ := exists_of_walk_cons h
    rw [walk_cons hnode hdirectory] at h
    split_ifs at h with hstay hup
    · exact ih hplace h
    · refine ih ?_ h
      rcases hplace with rfl | ⟨above, habove, -⟩
      · exact Or.inl rfl
      · exact seated_of_at? habove
    · cases hlink : node.link? name with
      | none =>
        rw [hlink] at h
        exact ih (seated_concat hnode hdirectory name) h
      | some target =>
        rw [hlink] at h
        cases h
        split_ifs
        · exact Or.inl rfl
        · exact hplace

theorem seated_of_walkLinks {links : Nat} {names : List String} {found : List String}
    (hplace : files.Seated place) (h : files.walkLinks links place names = .ok found) :
    files.Seated found := by
  induction links generalizing place names with
  | zero => cases h
  | succ links ih =>
    rw [walkLinks] at h
    obtain ⟨next, hnext, h⟩ := bind_eq_ok_iff.1 h
    have hseated := seated_of_walk hplace hnext
    cases next with
    | inl last =>
      cases h
      exact hseated
    | inr next => exact ih hseated h

/-- A path leads to the root or to a place in a directory. -/
theorem seated_of_place {path : String} (h : files.place path = .ok place) :
    files.Seated place := by
  rw [Files.place] at h
  split_ifs at h with hnul hempty hlong habsolute
  · exact seated_of_walkLinks (Or.inl rfl) h
  · -- the first step shows that the working directory is there
    obtain ⟨name, rest, hnames⟩ :=
      List.exists_cons_of_ne_nil (Path.components_ne_nil hempty habsolute)
    rw [hnames] at h
    obtain ⟨next, hnext, -⟩ := bind_eq_ok_iff.1 h
    obtain ⟨node, hnode, -⟩ := exists_of_walk_cons hnext
    exact seated_of_walkLinks (seated_of_at? hnode) h

/-! ### The same way in a tree with one file changed -/

/-- A tree keeps the directories of another one, with the links in them. -/
structure Keeps (files after : Files) : Prop where
  /-- The working directory is the same. -/
  workingDirectory_eq : after.workingDirectory = files.workingDirectory
  /-- Each directory is still there and has the same links. -/
  exists_at? : ∀ place node, files.at? place = some node → node.isDirectory →
    ∃ new, after.at? place = some new ∧ new.isDirectory ∧ ∀ name, new.link? name = node.link? name

namespace Keeps

variable (h : files.Keeps after)

include h

theorem walk_eq_ok {names : List String} {found : List String ⊕ (List String × List String)}
    (hwalk : files.walk place names = .ok found) : after.walk place names = .ok found := by
  induction names generalizing place with
  | nil => exact hwalk
  | cons name rest ih =>
    obtain ⟨node, hnode, hdirectory⟩ := exists_of_walk_cons hwalk
    obtain ⟨new, hnew, hnewDirectory, hlinks⟩ := h.exists_at? place node hnode hdirectory
    rw [walk_cons hnode hdirectory] at hwalk
    rw [walk_cons hnew hnewDirectory, hlinks]
    split_ifs at hwalk ⊢
    · exact ih hwalk
    · exact ih hwalk
    · cases hlink : node.link? name with
      | none =>
        rw [hlink] at hwalk
        exact ih hwalk
      | some target =>
        rw [hlink] at hwalk
        exact hwalk

theorem walkLinks_eq_ok {links : Nat} {names found : List String}
    (hwalk : files.walkLinks links place names = .ok found) :
    after.walkLinks links place names = .ok found := by
  induction links generalizing place names with
  | zero => cases hwalk
  | succ links ih =>
    rw [walkLinks] at hwalk ⊢
    obtain ⟨next, hnext, hrest⟩ := bind_eq_ok_iff.1 hwalk
    refine bind_eq_ok_iff.2 ⟨next, h.walk_eq_ok hnext, ?_⟩
    cases next with
    | inl last => exact hrest
    | inr next => exact ih hrest

/-- A path that leads somewhere leads to the same place. -/
theorem place_eq_ok {path : String} (hplace : files.place path = .ok place) :
    after.place path = .ok place := by
  rw [Files.place] at hplace ⊢
  rw [h.workingDirectory_eq]
  split_ifs at hplace ⊢
  · exact h.walkLinks_eq_ok hplace
  · exact h.walkLinks_eq_ok hplace

end Keeps

/-- A place in a directory has room for a file unless something else is there. -/
theorem hasRoom_of_seated (h : files.Seated place)
    (hfile : ∀ node, files.at? place = some node →
      ∃ content executable, node = .file content executable) :
    Node.HasRoom place (some files.root) :=
  Node.hasRoom_of_bind_descend? h hfile

/-- A file that is put where there is room for it leaves the directories and links. -/
theorem keeps_put (h : Node.HasRoom place (some files.root)) (content : List UInt8)
    (executable : Bool) : files.Keeps (files.put place (.file content executable)) where
  workingDirectory_eq := rfl
  exists_at? _ _ hnode hdirectory := h.exists_descend?_modify content executable hnode hdirectory

/-- A file that is put where there is room for it is there. -/
theorem at?_put (h : Node.HasRoom place (some files.root)) (content : List UInt8)
    (executable : Bool) :
    (files.put place (.file content executable)).at? place = some (.file content executable) :=
  h.descend?_modify content executable

/-! ### Writing and reading -/

/-- Without a slash at its end, a path leads to whatever is at its place. -/
theorem find_eq_ok {path : String} {node : Node} (hplace : files.place path = .ok place)
    (hslash : ¬ asksForDirectory path) (hnode : files.at? place = some node) :
    files.find path = .ok node := by
  refine bind_eq_ok_iff.2 ⟨place, hplace, ?_⟩
  rw [hnode]
  exact if_neg fun h ↦ hslash h.1

/-- Writing puts a file where there is room for it, or leaves a device as it is. -/
theorem write_eq_ok {path : String} {content : List UInt8}
    (h : files.write path content = .ok after) :
    (∃ place executable, files.place path = .ok place ∧ ¬ asksForDirectory path ∧
      Node.HasRoom place (some files.root) ∧ after = files.put place (.file content executable)) ∨
    (∃ device, files.find path = .ok (.device device) ∧ after = files) := by
  obtain ⟨place, hplace, h⟩ := bind_eq_ok_iff.1 h
  by_cases hslash : asksForDirectory path
  · rw [if_pos hslash] at h
    cases h
  rw [if_neg hslash] at h
  have hroom := hasRoom_of_seated (seated_of_place hplace)
  cases hnode : files.at? place with
  | none =>
    rw [hnode] at h hroom
    cases h
    exact Or.inl ⟨place, false, hplace, hslash, hroom (by simp), rfl⟩
  | some node =>
    rw [hnode] at h hroom
    have hfind := find_eq_ok hplace hslash hnode
    cases node with
    | file old executable =>
      cases h
      have hfile : ∀ node, some (Node.file old executable) = some node →
          ∃ content executable, node = .file content executable :=
        fun _ heq ↦ ⟨old, executable, (Option.some.inj heq).symm⟩
      exact Or.inl ⟨place, executable, hplace, hslash, hroom hfile, rfl⟩
    | device device =>
      refine Or.inr ⟨device, hfind, ?_⟩
      cases device with
      | full =>
        dsimp only at h
        split_ifs at h
        cases h
        rfl
      | terminal => cases h
      | _ =>
        cases h
        rfl
    | _ => cases h

/-- **What was written is found** as a regular file, unless it went to a device. -/
theorem find_of_write {path : String} {content : List UInt8}
    (h : files.write path content = .ok after) :
    (∃ executable, after.find path = .ok (.file content executable)) ∨
      ∃ device, files.find path = .ok (.device device) ∧ after = files := by
  rcases write_eq_ok h with ⟨place, executable, hplace, hslash, hroom, rfl⟩ | hdevice
  · have hafter := (keeps_put hroom content executable).place_eq_ok hplace
    exact Or.inl ⟨executable, find_eq_ok hafter hslash (at?_put hroom content executable)⟩
  · exact Or.inr hdevice

theorem read_of_find {path : String} {content : List UInt8} {executable : Bool}
    (h : files.find path = .ok (.file content executable)) : files.read path = .ok content := by
  rw [read, h]
  rfl

/-- **A regular file that was written holds what was written.** -/
theorem read_of_write {path : String} {content : List UInt8}
    (h : files.write path content = .ok after) (hfile : after.isFile path) :
    after.read path = .ok content := by
  rcases find_of_write h with ⟨executable, hfind⟩ | ⟨device, hfind, rfl⟩
  · exact read_of_find hfind
  · rw [isFile, hfind] at hfile
    cases hfile

/-- A file that is made by writing to it holds what was written. -/
theorem read_of_write_of_missing {path : String} {content : List UInt8}
    (h : files.write path content = .ok after) (hmissing : files.has path = false) :
    after.has path ∧ after.read path = .ok content := by
  rcases find_of_write h with ⟨executable, hfind⟩ | ⟨device, hfind, -⟩
  · refine ⟨?_, read_of_find hfind⟩
    rw [has, hfind]
    rfl
  · rw [has, hfind] at hmissing
    cases hmissing

end Files

end AlignmentTally
