import TaggerFeatures.Settings.Path

/-! A tree of files in memory, and what stands at a path. -/
namespace TaggerFeatures

/-- What stands at a path. -/
inductive Entry
  | file (bytes : List UInt8)
  | directory
  | missing
  | notDirectory
  | nameTooLong
deriving DecidableEq, Repr

/-- What stands at each path. -/
abbrev FileSystem := String → Entry

/-- Files by the parts of their paths. A directory is there if a file is in it. -/
abbrev FileTree := List (List String × List UInt8)

namespace FileTree

def file? (t : FileTree) (parts : List String) : Option (List UInt8) := t.lookup parts

/-- Whether there is a directory with these parts. -/
def hasDirectory (t : FileTree) (parts : List String) : Bool :=
  parts.isEmpty || t.any fun (file, _) => parts.isPrefixOf file && parts.length < file.length

/-- A directory: inside the tree, or a number of levels above it. -/
inductive Place
  | inside (parts : List String)
  | above (levels : Nat)

/-- The directory above. -/
def Place.up : Place → Place
  | inside [] => above 1
  | inside parts => inside parts.dropLast
  | above levels => above (levels + 1)

/-- The longest name of a file or directory, in bytes. -/
def maxName : Nat := 255

/-- The longest path, in bytes. -/
def maxPath : Nat := 4095

/-- Follows the pieces of a path from a directory. Nothing above the tree has a name. -/
def follow (t : FileTree) : Place → List String → Entry
  | _, [] => .directory
  | place, piece :: rest =>
    if piece.isEmpty || piece == "." then follow t place rest
    else if piece == ".." then follow t place.up rest
    else if maxName < piece.utf8ByteSize then .nameTooLong
    else
      match place with
      | .above _ => .missing
      | .inside parts =>
        let parts := parts ++ [piece]
        if t.hasDirectory parts then follow t (.inside parts) rest
        else
          match t.file? parts with
          | none => .missing
          | some bytes => if rest.isEmpty then .file bytes else .notDirectory

def ofList (files : List (String × List UInt8)) : FileTree :=
  files.map fun (path, bytes) => ((Path.ofString path).parts, bytes)

/-- What stands at a path; from the root nothing but the root is there. -/
def look (t : FileTree) : FileSystem := fun path =>
  if path.isEmpty then .missing
  else if maxPath < path.utf8ByteSize then .nameTooLong
  else if path.toList.head? = some '/' then follow [] (.above 0) (Path.pieces path)
  else t.follow (.inside []) (Path.pieces path)

end FileTree
end TaggerFeatures
