/-
# ExportDocs.Path -- paths of files

A path is a root and a list of parts.  Reading a path drops empty parts and single dots but keeps
double dots; `normalize` also removes those, without a look at the files.  Exactly two slashes at
the start are a root of their own.
-/
import ExportDocs.Text

namespace ExportDocs

set_option autoImplicit false

/-- Where a path starts. -/
inductive Root where
  /-- The current directory. -/
  | current
  /-- One slash, or three or more. -/
  | absolute
  /-- Exactly two slashes. -/
  | network
  deriving DecidableEq, Repr, Inhabited

/-- A path. -/
structure Path where
  root : Root
  parts : List Text
  deriving DecidableEq, Repr, Inhabited

namespace Path

/-- The parent of a directory. -/
def up : Text := ['.', '.']

/-- The root of a path that starts with the given number of slashes. -/
def rootOf : Nat → Root
  | 0 => .current
  | 2 => .network
  | _ => .absolute

/-- The parts between slashes, without empty ones and single dots. -/
def partsOf (t : Text) : List Text :=
  (Text.splitAtChar '/' t).filter fun part => !part.isEmpty && part != ['.']

/-- Reads a path. -/
def ofText (t : Text) : Path :=
  { root := rootOf (t.takeWhile (· == '/')).length, parts := partsOf t }

/-- The slashes that a root is written with. -/
def rootText : Root → Text
  | .current => []
  | .absolute => ['/']
  | .network => ['/', '/']

/-- Writes a path; the current directory is a dot. -/
def toText (path : Path) : Text :=
  match path.root, path.parts with
  | .current, [] => ['.']
  | root, parts => rootText root ++ Text.joinWith ['/'] parts

/-- A path inside another; a path with a root stands alone. -/
def join (base path : Path) : Path :=
  match path.root with
  | .current => { base with parts := base.parts ++ path.parts }
  | _ => path

/-- The path without its last part. -/
def parent (path : Path) : Path := { path with parts := path.parts.dropLast }

/-- The directory of a file whose path is given as text: what stands before the last slash. -/
def folderOf (t : Text) : Path :=
  ofText ((t.reverse.dropWhile (· != '/')).reverse)

/-- Takes one more part into a list of parts, last first: a double dot removes the part before it,
or is kept where there is none, except at a root. -/
def take (root : Root) (reversed : List Text) (part : Text) : List Text :=
  if part = up then
    match reversed with
    | [] => if root = .current then [up] else []
    | last :: rest => if last = up then up :: last :: rest else rest
  else part :: reversed

/-- The path without double dots, as far as they have a part to remove. -/
def normalize (path : Path) : Path :=
  { path with parts := (path.parts.foldl (take path.root) []).reverse }

/-- The parts of the absolute normal form, `current` being the parts of the current directory. -/
def absoluteParts (current : List Text) (path : Path) : List Text :=
  let parts := match path.root with
    | .current => current ++ path.parts
    | _ => path.parts
  (normalize { root := .absolute, parts }).parts

/-- What is left of two lists after their common beginning. -/
def dropCommon : List Text → List Text → List Text × List Text
  | a :: as, b :: bs => if a = b then dropCommon as bs else (a :: as, b :: bs)
  | as, bs => (as, bs)

/-- The way from the directory `start` to `path`, as text. -/
def relativeTo (current : List Text) (path start : Path) : Text :=
  let (ups, downs) := dropCommon (absoluteParts current start) (absoluteParts current path)
  toText { root := .current, parts := List.replicate ups.length up ++ downs }

/-- The last part, or nothing. -/
def name (path : Path) : Text := path.parts.getLastD []

/-- The name without its extension.  A dot at the start or the end of the name starts none. -/
def stem (path : Path) : Text :=
  let name := path.name
  let before := (name.reverse.dropWhile (· != '.')).reverse.dropLast
  if before.isEmpty || name.getLast? == some '.' then name else before

end Path

end ExportDocs
