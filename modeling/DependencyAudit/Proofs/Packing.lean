import DependencyAudit.Proofs.EntryNames
import DependencyAudit.Proofs.Supply
import DependencyAudit.Proofs.Tree
import DependencyAudit.Proofs.Written

/-!
A class directory and the jar that is packed from it. The jar has an entry for every file of the
tree, and one with a slash at its end for every subdirectory (`Node.PackedAs`). The latter stand
for no class, so the jar holds exactly the classes of the files.

In the directory everything that a search comes to is taken for what its name says. So the classes
of the directory are those of the files exactly if no subdirectory is named like the file of
another class, and no class is out of the search's sight because of what may not be listed or
entered; and they can only be listed if the path of no subdirectory is too long.

Main statement: `lists_like_jar_iff`. A subdirectory that is named like a class file refutes it
without the conditions (`directory_listed_as_class`).
-/

namespace DependencyAudit

open ClassName

namespace Node

/-- The classes that the files below a node stand for. -/
def fileClasses (n : Node) : List String :=
  Ascending.strings (n.files.filterMap fun f => ofEntry? ("/".intercalate f.1))

theorem mem_fileClasses {n : Node} {name : String} :
    name ∈ n.fileClasses ↔ ∃ way bytes access, n.Holds way (.file bytes access) ∧
      ofEntry? ("/".intercalate way) = some name := by
  simp only [fileClasses, Ascending.mem_strings, List.mem_filterMap, Prod.exists, mem_files,
    exists_and_right]

/-- The classes that everything a search comes to stands for. -/
def revealedClasses (n : Node) : List String :=
  Ascending.strings (n.revealed.filterMap fun e => ofEntry? ("/".intercalate e.1))

theorem mem_revealedClasses {n : Node} {name : String} :
    name ∈ n.revealedClasses ↔
      ∃ way found, n.Reveals way found ∧ ofEntry? ("/".intercalate way) = some name := by
  simp only [revealedClasses, Ascending.mem_strings, List.mem_filterMap, Prod.exists, mem_revealed]
  refine ⟨?_, ?_⟩
  · intro hparts
    obtain ⟨way, _, ⟨found, hfound, _⟩, hname⟩ := hparts
    exact ⟨way, found, hfound, hname⟩
  · intro hparts
    obtain ⟨way, found, hfound, hname⟩ := hparts
    exact ⟨way, found.kind, ⟨found, hfound, rfl⟩, hname⟩

/-- A way to a subdirectory stands for no class but for those of the files. -/
def AddsNoClass (n : Node) : Prop :=
  ∀ way entries access name, n.Reveals way (.directory entries access) →
    ofEntry? ("/".intercalate way) = some name → name ∈ n.fileClasses

/-- A search comes to something that stands for the class of each file. -/
def HidesNoClass (n : Node) : Prop := ∀ name ∈ n.fileClasses, name ∈ n.revealedClasses

/-- The entry of an archive for what lies at the end of a way. -/
def packedEntry (e : List String × Kind) : String :=
  match e.2 with
  | .file => "/".intercalate e.1
  | .directory => "/".intercalate e.1 ++ "/"

/-- The archive with these entries is packed from what lies below the node. -/
def PackedAs (n : Node) (names : List String) : Prop :=
  ∀ entry, entry ∈ names ↔ entry ∈ n.descendants.map packedEntry

/-- Among the packed entries those of files stand for classes, and no others. -/
theorem PackedAs.fileClasses_eq {n : Node} {names : List String} (h : n.PackedAs names) :
    n.fileClasses = Ascending.strings (names.filterMap ofEntry?) := by
  refine Ascending.strings_congr ?_
  intro name
  rw [← Ascending.mem_strings, ← fileClasses, mem_fileClasses, List.mem_filterMap]
  refine ⟨?_, ?_⟩
  · intro hparts
    obtain ⟨way, bytes, access, hfound, hname⟩ := hparts
    have hmem : (way, Kind.file) ∈ n.descendants := mem_descendants.mpr ⟨_, hfound, rfl⟩
    exact ⟨_, (h _).mpr (List.mem_map_of_mem (f := packedEntry) hmem), hname⟩
  · intro hparts
    obtain ⟨entry, hentry, hname⟩ := hparts
    obtain ⟨⟨way, k⟩, hmem, rfl⟩ := List.mem_map.mp ((h entry).mp hentry)
    obtain ⟨found, hfound, rfl⟩ := mem_descendants.mp hmem
    cases found with
    | file bytes access => exact ⟨way, bytes, access, hfound, hname⟩
    | directory entries access =>
      have hnone : ofEntry? (packedEntry (way, .directory)) = none := ofEntry?_directory _
      exact absurd (hnone.symm.trans hname) nofun

/-- What a search comes to stands for the classes of the files, unless a directory stands for
another one, or a class is hidden. -/
theorem fileClasses_eq_revealedClasses_iff {n : Node} :
    n.fileClasses = n.revealedClasses ↔ n.AddsNoClass ∧ n.HidesNoClass := by
  refine ⟨?_, ?_⟩
  · intro heq
    refine ⟨?_, fun name hname => heq ▸ hname⟩
    intro way entries access name hfound hname
    rw [heq]
    exact mem_revealedClasses.mpr ⟨way, _, hfound, hname⟩
  · intro hparts
    obtain ⟨hadds, hhides⟩ := hparts
    have hsame : ∀ name, name ∈ n.fileClasses ↔ name ∈ n.revealedClasses := by
      intro name
      refine ⟨hhides name, ?_⟩
      intro hmem
      obtain ⟨way, found, hfound, hname⟩ := mem_revealedClasses.mp hmem
      cases found with
      | file bytes access => exact mem_fileClasses.mpr ⟨way, bytes, access, hfound.holds, hname⟩
      | directory entries access => exact hadds way entries access name hfound hname
    simp only [fileClasses, revealedClasses, Ascending.mem_strings] at hsame
    exact Ascending.strings_congr hsame

end Node

namespace Disk

open Inspection Written

variable {disk : Disk} {p : Path} {entries : List (String × Node)} {access : Access}
  {names : List String}

theorem lists_directory_iff (hp : disk.find p = .ok (.directory entries access)) :
    disk.Lists p names ↔
      Enterable p (.directory entries access) ∧
        names = (Node.directory entries access).revealedClasses := by
  have hdir : (isDirectory p).outcome disk = .ok true := outcome_isKind_of_ok (kind_of_find hp)
  have hbelow : (listClasses p).outcome disk =
      ((descendants p).bind fun found => .done (Ascending.strings
        (found.filterMap fun e => ofEntry? ("/".intercalate e.1)))).outcome disk :=
    outcome_bind_of_ok hdir _
  rw [Lists, hbelow, outcome_descendants_bind_eq_ok hp, outcome_done, Except.ok.injEq, eq_comm]
  rfl

theorem lists_jar {bytes : List UInt8} (hread : disk.read p = .ok bytes)
    (hnames : Archive.names bytes = .ok names) :
    disk.Lists p (Ascending.strings (names.filterMap ofEntry?)) := by
  have hdir : (isDirectory p).outcome disk = .ok false := outcome_isKind_of_ok (kind_of_read hread)
  have hbytes : (Inspection.bytes p).outcome disk = .ok bytes := by rw [outcome_bytes, hread]
  refine (outcome_bind_of_ok hdir _).trans ((outcome_bind_of_ok hbytes _).trans ?_)
  simp only [hnames]
  rfl

theorem lists_like_jar_iff (hp : disk.find p = .ok (.directory entries access)) :
    let tree := Node.directory entries access
    (disk.Lists p tree.fileClasses ↔
        Enterable p tree ∧ tree.AddsNoClass ∧ tree.HidesNoClass) ∧
      ∀ jar bytes names, disk.read jar = .ok bytes → Archive.names bytes = .ok names →
        tree.PackedAs names → disk.Lists jar tree.fileClasses := by
  intro tree
  refine ⟨?_, ?_⟩
  · rw [lists_directory_iff hp, Node.fileClasses_eq_revealedClasses_iff]
  · intro jar bytes names hread hnames hpacked
    rw [hpacked.fileClasses_eq]
    exact lists_jar hread hnames

/-! ## A directory and its jar -/

/-- A directory `out`, and beside it a jar with the given entries. -/
def packedDisk (entries : List (String × Node)) (names : List String) : Disk where
  root := .directory [("out", .directory entries), ("out.jar", .file (bareJar names))]

/-- A tree with classes at different depths, a description, and an empty directory. -/
def sampleTree : List (String × Node) :=
  [("Main.class", .file [0xCA]), ("module-info.class", .file []),
    ("com", .directory [("foo", .directory [("Bar$Baz.class", .file [])]),
      ("notes.txt", .file [])]),
    ("empty", .directory [])]

def samplePacked : List String :=
  ["Main.class", "module-info.class", "com/", "com/foo/", "com/foo/Bar$Baz.class",
    "com/notes.txt", "empty/"]

theorem sample_packed : (Node.directory sampleTree).PackedAs samplePacked := by
  have heq : (Node.directory sampleTree).descendants.map Node.packedEntry = samplePacked := by
    decide +kernel
  intro entry
  rw [heq]

theorem sample_lists_like_jar :
    let disk := packedDisk sampleTree samplePacked
    disk.find (.parse "out") = .ok (.directory sampleTree) ∧
      disk.Lists (.parse "out") ["Main", "com.foo.Bar$Baz"] ∧
      disk.Lists (.parse "out.jar") ["Main", "com.foo.Bar$Baz"] := by
  intro disk
  have hfind : disk.find (.parse "out") = .ok (.directory sampleTree) := rfl
  have hfiles : (Node.directory sampleTree).files =
      [(["Main.class"], [0xCA]), (["module-info.class"], []),
        (["com", "foo", "Bar$Baz.class"], []), (["com", "notes.txt"], [])] := by
    simp [sampleTree, Node.files, Node.entryFiles]
  have hclasses : (Node.directory sampleTree).fileClasses = ["Main", "com.foo.Bar$Baz"] := by
    rw [Node.fileClasses, hfiles]
    decide +kernel
  have hopen : Enterable (.parse "out") (.directory sampleTree) :=
    enterable_iff.mpr (by decide +kernel)
  have hways : (Node.directory sampleTree).AddsNoClass ∧ (Node.directory sampleTree).HidesNoClass :=
    Node.fileClasses_eq_revealedClasses_iff.mp (hclasses.trans (by decide +kernel))
  obtain ⟨hdirectory, hjar⟩ := lists_like_jar_iff hfind
  rw [← hclasses]
  exact ⟨hfind, hdirectory.mpr ⟨hopen, hways⟩,
    hjar _ (bareJar samplePacked) _ rfl (by decide +kernel) sample_packed⟩

/-- The tree without files has no class, and so has its jar, but its folder is listed as one. -/
theorem directory_listed_as_class :
    let tree := Node.directory [("weird.class", .directory [])]
    let disk := packedDisk [("weird.class", .directory [])] ["weird.class/"]
    disk.find (.parse "out") = .ok tree ∧ tree.fileClasses = [] ∧
      tree.PackedAs ["weird.class/"] ∧ disk.Lists (.parse "out.jar") [] ∧
      disk.Lists (.parse "out") ["weird"] ∧ ¬ disk.Lists (.parse "out") tree.fileClasses := by
  intro tree disk
  have hfind : disk.find (.parse "out") = .ok tree := rfl
  have hfiles : tree.files = [] := by simp [tree, Node.files, Node.entryFiles]
  have hclasses : tree.fileClasses = [] := by
    rw [Node.fileClasses, hfiles]
    rfl
  have hentries : tree.descendants.map Node.packedEntry = ["weird.class/"] := by decide +kernel
  have hpacked : tree.PackedAs ["weird.class/"] := fun entry => by rw [hentries]
  have hlisted : disk.Lists (.parse "out") ["weird"] :=
    (lists_directory_iff hfind).mpr
      ⟨enterable_iff.mpr (by decide +kernel), by decide +kernel⟩
  have hread : disk.read (.parse "out.jar") = .ok (bareJar ["weird.class/"]) := rfl
  have hnames : Archive.names (bareJar ["weird.class/"]) = .ok ["weird.class/"] := by
    decide +kernel
  have hjar : disk.Lists (.parse "out.jar") [] := by
    rw [← hclasses, hpacked.fileClasses_eq]
    exact lists_jar hread hnames
  refine ⟨hfind, hclasses, hpacked, hjar, hlisted, ?_⟩
  intro hnone
  have heq := hlisted.unique hnone
  rw [hclasses] at heq
  cases heq

end Disk

end DependencyAudit
