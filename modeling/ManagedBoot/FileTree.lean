import ManagedBoot.Config.Resolution
import ManagedBoot.Text.Utf8
/-!
A tree of files below one working directory.

Paths are walked part by part as a file system does it: a part can only be looked up in a directory,
names are at most 255 bytes long and whole paths shorter than 4096, an empty part and a single dot
stay where they are, and two dots go up. Nothing outside the tree exists but its directories.
-/
namespace ManagedBoot

/-- The files by the parts of their path, and the directories that hold nothing. -/
structure FileTree where
  files : List (List String × List UInt8) := []
  directories : List (List String) := []

namespace FileTree

/-- The longest name of a file. -/
def maxName : Nat := 255

/-- A bound on whole paths. -/
def pathLimit : Nat := 4096

/-- Where a walk stands: outside the tree, in a directory of it, or at a file. -/
inductive Position where
  | outside
  | directory (parts : List String)
  | file (content : List UInt8)

/-- Whether some path of the tree leads through these parts. -/
def isDirectory (t : FileTree) (parts : List String) : Bool :=
  parts.isEmpty || t.directories.any (parts.isPrefixOf ·) ||
    t.files.any fun (path, _) => parts.isPrefixOf path && parts.length < path.length

/-- Takes one part of a path. -/
def step (t : FileTree) (position : Position) (part : String) : Except ReadError Position :=
  match position with
  | .file _ => .error .notDirectory
  | .outside =>
    if part.isEmpty || part = "." || part = ".." then .ok .outside
    else if maxName < part.utf8ByteSize then .error .nameTooLong
    else .error .notFound
  | .directory parts =>
    if part.isEmpty || part = "." then .ok (.directory parts)
    else if part = ".." then .ok (if parts.isEmpty then .outside else .directory parts.dropLast)
    else if maxName < part.utf8ByteSize then .error .nameTooLong
    else
      let path := parts ++ [part]
      match t.files.lookup path with
      | some content => .ok (.file content)
      | none => if t.isDirectory path then .ok (.directory path) else .error .notFound

/-- Where a path leads. -/
def locate (t : FileTree) (path : String) : Except ReadError Position := do
  if path.isEmpty then throw .notFound
  if pathLimit ≤ path.utf8ByteSize then throw .nameTooLong
  let root : Position := if path.startsWith "/" then .outside else .directory []
  (path.splitOn "/").foldlM t.step root

/-- The text of a file. -/
def read (t : FileTree) : FileReader := fun path => do
  if path.contains '\x00' then throw .nulInName
  match ← t.locate path with
  | .file content =>
    match Utf8.toString? content with
    | some text => return text
    | none => throw .notUtf8
  | _ => throw .isDirectory

/-- The tree of the given paths; nothing stands for an empty directory. -/
def ofList (entries : List (String × Option (List UInt8))) : FileTree :=
  entries.foldl
    (fun t (path, content) =>
      match content with
      | some bytes => { t with files := t.files ++ [(path.splitOn "/", bytes)] }
      | none => { t with directories := t.directories ++ [path.splitOn "/"] })
    {}

end FileTree
end ManagedBoot
