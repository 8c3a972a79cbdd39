namespace CanaryMetrics

/-!
# Files and directories

* `FileNode` — what can stand at a path.
* `FileTree` — all files and directories, with the directory in which a command works.
* `FileTree.ofList` — a directory to work in, with given contents; around it stands what every system has,
  `surroundings`.
* `FileTree.find?` — what stands at a path.  A path that begins with a slash leads from the root, another
  path from the directory in which the command works; a path that is too long leads nowhere.
-/

/-- What can stand at a path. -/
inductive FileNode
  /-- A directory. -/
  | directory
  /-- A file with its bytes. -/
  | file (content : List UInt8)
deriving DecidableEq

/-- A file that holds a text. -/
def FileNode.ofText (text : String) : FileNode :=
  .file text.toUTF8.data.toList

/-- The bytes of a text are read back as the text. -/
theorem fromUTF8?_bytes (text : String) :
    String.fromUTF8? text.toUTF8.data.toList.toByteArray = some text := by
  have h : text.toUTF8.data.toList.toByteArray = text.toUTF8 := by
    ext1
    simp
  rw [h]
  exact dif_pos text.isValidUTF8

/-- A place among the files: the names on the way from the root to it. -/
abbrev Place := List String

/-- All files and directories, with the directory in which a command works. -/
structure FileTree where
  /-- The entries with their places; the first entry of a place counts.  A directory on the way to an entry
      needs no entry of its own. -/
  entries : List (Place × FileNode) := []
  /-- The directory in which a command works. -/
  workplace : Place := []

namespace FileTree

/-! ### Paths -/

/-- The text between slashes. -/
def splitAtSlashes : List Char → List (List Char)
  | [] => [[]]
  | c :: cs =>
    if c = '/' then [] :: splitAtSlashes cs
    else
      match splitAtSlashes cs with
      | [] => [[c]]
      | name :: names => (c :: name) :: names

/-- The names in a path, empty ones too. -/
def segments (path : String) : List String :=
  (splitAtSlashes path.toList).map String.ofList

/-- The place to which a name leads from a directory: an empty name and a point stay there, and two points
    lead to the directory above it.  The root stands above itself. -/
def enter (place : Place) (name : String) : Place :=
  if name = "" ∨ name = "." then place
  else if name = ".." then place.dropLast
  else place ++ [name]

/-- The least number of bytes that is too many for a path. -/
def pathLimit : Nat := 4096

/-! ### What stands at a path -/

/-- What stands at a place. -/
def node? (t : FileTree) (place : Place) : Option FileNode :=
  match t.entries.lookup place with
  | some node => some node
  | none =>
    if (t.workplace :: t.entries.map (·.1)).any place.isPrefixOf then some .directory else none

/-- What stands at the end of a way; every name on it must be looked up in a directory. -/
def follow? (t : FileTree) (place : Place) : List String → Option FileNode
  | [] => t.node? place
  | name :: names =>
    match t.node? place with
    | some .directory => t.follow? (enter place name) names
    | _ => none

/-- What stands at a path, if anything does. -/
def find? (t : FileTree) (path : String) : Option FileNode :=
  if path = "" ∨ pathLimit ≤ path.utf8ByteSize then none
  else t.follow? (if path.toList.head? = some '/' then [] else t.workplace) (segments path)

/-! ### A directory to work in -/

/-- What every system has: its directories, the null device, input that has ended, and the lists of its
    users, groups and hosts. -/
def surroundings : List (Place × FileNode) :=
  ["bin", "boot", "dev", "etc", "home", "lib", "media", "mnt", "opt", "proc", "root", "run", "sbin", "srv",
      "sys", "tmp", "usr", "var"].map (fun name => ([name], .directory))
    ++ ["fd", "pts", "shm"].map (fun name => (["dev", name], .directory))
    ++ ["bin", "include", "lib", "local", "sbin", "share", "src"].map (fun name => (["usr", name], .directory))
    ++ ["cache", "lib", "log", "run", "spool", "tmp"].map (fun name => (["var", name], .directory))
    ++ [(["dev", "null"], .file []), (["dev", "stdin"], .file []),
      (["etc", "passwd"], .ofText "root:x:0:0:root:/root:/bin/sh\n"), (["etc", "group"], .ofText "root:x:0:\n"),
      (["etc", "hosts"], .ofText "127.0.0.1 localhost\n")]

/-- The tree with these entries, given by their paths, in the directory to work in.  That directory stands
    among the temporary ones, and no path can mention its name. -/
def ofList (entries : List (String × FileNode)) : FileTree :=
  let workplace := ["tmp", ""]
  ⟨surroundings ++ entries.map fun e => ((segments e.1).foldl enter workplace, e.2), workplace⟩

/-! ### Unit test: paths with what stands there -/

example :
    let t := FileTree.ofList [("a", .ofText "x"), ("d", .directory), ("e/f", .ofText "y")]
    (["a", "./a", "e/../a"].map t.find? = List.replicate 3 (some (.ofText "x")))
      ∧ t.find? "e//f" = some (.ofText "y")
      ∧ (["/dev/null", "//dev/./null", "/dev/../../dev//null", "../../dev/null", "e/../../../../dev/null"].map
          t.find? = List.replicate 5 (some (.ofText "")))
      ∧ (["d", "d/", "e", ".", "..", "/", "/..", "e/..", "/dev/", "../../usr"].map t.find?
          = List.replicate 10 (some .directory))
      ∧ (["", "b", "A", "a/", "a/.", "a/..", "d/a", "b/../a", "../a", "/a", "/dev/null/", "/dev/null/..",
          "dev/null"].map t.find? = List.replicate 13 none) := by
  decide +kernel

end FileTree

end CanaryMetrics
