import KvmWorkload.Lib.Fields

/-! # Paths and the files they name

A path leads through directories to a name in the last one.  How a single name
leads from one directory to the next is left open, so that `..`, symbolic links
and mounts are all covered; two paths name one file when they end in the same
directory at the same name.
-/

namespace KvmWorkload

/-- The names between the slashes; repeated slashes count once. -/
def components (path : Text) : List Text := (path.splitOn '/').filter (· ≠ [])

theorem components_join {dir name : Text} (plain : '/' ∉ name) (named : name ≠ []) :
    components (dir ++ '/' :: name) = components dir ++ [name] := by
  unfold components
  rw [List.splitOn_append_cons_self, splitOn_of_not_mem plain, List.filter_append]
  simp [named]

structure FileSystem (Dir : Type) where
  root : Dir
  /-- Where a path without a leading slash starts. -/
  cwd : Dir
  child : Dir → Text → Dir

namespace FileSystem

variable {Dir : Type} (fs : FileSystem Dir)

def origin (path : Text) : Dir := if path.head? = some '/' then fs.root else fs.cwd

/-- The directory that a path leads to. -/
def directory (path : Text) : Dir := (components path).foldl fs.child (fs.origin path)

/-- The file that a path names: its directory and its name in there. -/
def locate (path : Text) : Dir × Option Text :=
  ((components path).dropLast.foldl fs.child (fs.origin path), (components path).getLast?)

theorem origin_append {path : Text} (nonempty : path ≠ []) (rest : Text) :
    fs.origin (path ++ rest) = fs.origin path := by
  cases path with
  | nil => exact absurd rfl nonempty
  | cons c path => rfl

theorem locate_join {dir name : Text} (some_dir : dir ≠ []) (plain : '/' ∉ name)
    (named : name ≠ []) : fs.locate (dir ++ '/' :: name) = (fs.directory dir, some name) := by
  unfold locate directory
  rw [components_join plain named, fs.origin_append some_dir, List.dropLast_concat,
    List.getLast?_concat]

/-- Directories as lists of names, without links. -/
def plain : FileSystem (List Text) where
  root := []
  cwd := []
  child dir name :=
    if name = "..".toList then dir.dropLast else if name = ".".toList then dir else dir ++ [name]

end FileSystem

end KvmWorkload
