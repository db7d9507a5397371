import TaggerFeatures.Text.Blank

/-! Paths of files: their parts, joining them, and their written form. -/
namespace TaggerFeatures

/-- The slashes at the start of a path, and its parts. Empty parts and single dots are dropped. -/
structure Path where
  root : String
  parts : List String
deriving DecidableEq, Repr

namespace Path

def pieces (s : String) : List String :=
  (Text.splitWhen (· == '/') s.toList).map String.ofList

/-- The slashes that count at the start of a path: exactly two stay two, others are one. -/
def rootOf (s : List Char) : String :=
  match (s.takeWhile (· == '/')).length with
  | 0 => ""
  | 2 => "//"
  | _ => "/"

def ofString (s : String) : Path :=
  ⟨rootOf s.toList, (pieces s).filter fun part => !part.isEmpty && part != "."⟩

/-- The path of the directory that holds a file. -/
def parent (p : Path) : Path := ⟨p.root, p.parts.dropLast⟩

/-- Goes on from a path; a path from the root replaces it. -/
def join (p : Path) (s : String) : Path :=
  let q := ofString s
  if q.root.isEmpty then ⟨p.root, p.parts ++ q.parts⟩ else q

/-- The written form; a path without parts is a dot. -/
def print (p : Path) : String :=
  if p.root.isEmpty && p.parts.isEmpty then "."
  else p.root ++ Text.joinWith "/" p.parts

end Path
end TaggerFeatures
