import StorefrontLoad.Dictionary

/-!
# Files and folders

A disk has some folders and, by their paths, files of bytes. A file can be made in any folder;
folders are never made.
-/

namespace StorefrontLoad

structure Disk where
  folders : List String
  files : Dictionary (List UInt8)
  deriving DecidableEq, Repr

namespace Disk

inductive Fault
  | notFound
  | isDirectory
  deriving DecidableEq, Repr

def Fault.message : Fault → String
  | .notFound => "No such file or directory (os error 2)"
  | .isDirectory => "Is a directory (os error 21)"

/-- A disk without files. -/
def empty (folders : List String) : Disk := ⟨folders, []⟩

def isFolder (disk : Disk) (path : String) : Bool := path ∈ disk.folders

/-- The folder a path lies in; a path without a slash lies in the current one. -/
def parent (path : String) : String :=
  match path.toList.reverse.dropWhile (· ≠ '/') with
  | [] => "."
  | ['/'] => "/"
  | _ :: rest => String.ofList rest.reverse

def read (path : String) (disk : Disk) : Except Fault (List UInt8) :=
  if disk.isFolder path then .error .isDirectory
  else match disk.files.find? path with
    | some content => .ok content
    | none => .error .notFound

/-- Replaces the content of a file, which is made when it is not there yet. -/
def write (path : String) (content : List UInt8) (disk : Disk) : Except Fault Disk :=
  if disk.isFolder path then .error .isDirectory
  else if (disk.files.find? path).isSome || disk.isFolder (parent path) then
    .ok { disk with files := disk.files.insert path content }
  else .error .notFound

/-- Adds to the end of a file, which is made when it is not there yet. -/
def append (path : String) (bytes : List UInt8) (disk : Disk) : Except Fault Disk :=
  disk.write path ((disk.files.find? path).getD [] ++ bytes)

theorem read_of_write {path : String} {content : List UInt8} {disk after : Disk}
    (h : disk.write path content = .ok after) : after.read path = .ok content := by
  unfold write at h
  split at h
  · cases h
  · next hFolder =>
    split at h
    · cases h
      simpa [read, isFolder] using hFolder
    · cases h

/-- Afterwards there is no such file. -/
def delete (path : String) (disk : Disk) : Disk :=
  { disk with files := disk.files.erase path }

end Disk

end StorefrontLoad
