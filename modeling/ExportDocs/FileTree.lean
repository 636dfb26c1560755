/-
# ExportDocs.FileTree -- files and directories

A file tree is a list of files and a list of directories, each under the parts of its absolute
path, and the current directory.  A directory also exists if something lies in it.  A path is
looked up part by part (`locate`): a double dot leads to the directory above, and every part but
the last must be a directory.

Operations fail with a `FileFault` that names the path as it was given.
-/
import ExportDocs.Path
import ExportDocs.Symbol
import ExportDocs.Text.Lines
import ExportDocs.Text.Quoted
import ExportDocs.Text.Utf8

namespace ExportDocs

set_option autoImplicit false

/-- Why a file cannot be used. -/
inductive FileFault where
  | notFound (path : Text)
  | alreadyExists (path : Text)
  | notDirectory (path : Text)
  | isDirectory (path : Text)
  | undecodable (fault : Text.DecodeFault)
  /-- A path that no file can have. -/
  | nullCharacter
  deriving DecidableEq, Repr, Inhabited

namespace FileFault

/-- The message of a fault with its number. -/
def numbered (number : Nat) (what : String) (path : Text) : Text :=
  "[Errno ".toList ++ Text.ofNat number ++ "] ".toList ++ what.toList ++ ": ".toList ++
    Text.quoted path

/-- The words for why bytes are no text. -/
def reasonText : Text.DecodeReason → String
  | .startByte => "invalid start byte"
  | .continuationByte => "invalid continuation byte"
  | .endOfData => "unexpected end of data"

/-- The message of a fault. -/
def message : FileFault → Text
  | notFound path => numbered 2 "No such file or directory" path
  | alreadyExists path => numbered 17 "File exists" path
  | notDirectory path => numbered 20 "Not a directory" path
  | isDirectory path => numbered 21 "Is a directory" path
  | undecodable fault =>
    let place :=
      if fault.length = 1 then
        "byte 0x".toList ++ Text.hexDigits 2 fault.byte ++ " in position ".toList ++
          Text.ofNat fault.position
      else
        "bytes in position ".toList ++ Text.ofNat fault.position ++
          '-' :: Text.ofNat (fault.position + fault.length - 1)
    "'utf-8' codec can't decode ".toList ++ place ++ ": ".toList ++
      (reasonText fault.reason).toList
  | nullCharacter => "embedded null byte".toList

end FileFault

/-- What a file holds. -/
inductive Content where
  | text (text : Text)
  | bytes (bytes : List Nat)
  deriving DecidableEq, Repr, Inhabited

namespace Content

/-- The text of a file, with every line end a line feed. -/
def read : Content → Except FileFault Text
  | text t => .ok (Text.foldNewlines t)
  | bytes bs =>
    match Text.decode bs with
    | .ok t => .ok (Text.foldNewlines t)
    | .error fault => .error (.undecodable fault)

/-- Whether two contents are the same bytes. -/
def same : Content → Content → Bool
  | text t, text u => t == u
  | text t, bytes bs => Text.encode t == bs
  | bytes bs, text t => Text.encode t == bs
  | bytes bs, bytes cs => bs == cs

end Content

/-- Files and directories by the parts of their absolute paths, and the current directory. -/
structure FileTree where
  files : List (List Text × Content) := []
  directories : List (List Text) := []
  current : List Text := []
  deriving DecidableEq, Repr, Inhabited

/-- What stands at a path. -/
inductive Located where
  | directory (parts : List Text)
  | file (parts : List Text) (content : Content)
  /-- Nothing, in a directory that exists. -/
  | vacant (parts : List Text)
  /-- Nothing, in a directory that does not exist either. -/
  | absent
  /-- Nothing, because a file stands where a directory should. -/
  | blocked
  deriving DecidableEq, Repr, Inhabited

namespace FileTree

/-- Whether a directory exists. -/
def isDirectory (tree : FileTree) (parts : List Text) : Bool :=
  parts.isEmpty || tree.directories.any (fun directory => parts.isPrefixOf directory) ||
    tree.files.any fun (file, _) => parts.isPrefixOf file && parts != file

/-- Looks up further parts from a directory. -/
def locateFrom (tree : FileTree) (directory : List Text) : List Text → Located
  | [] => .directory directory
  | part :: rest =>
    if part = Path.up then tree.locateFrom directory.dropLast rest
    else
      let here := directory ++ [part]
      match tree.files.lookup here with
      | some content => if rest.isEmpty then .file here content else .blocked
      | none =>
        if tree.isDirectory here then tree.locateFrom here rest
        else if rest.isEmpty then .vacant here
        else .absent

/-- Looks up a path. -/
def locate (tree : FileTree) (path : Path) : Located :=
  tree.locateFrom (if path.root = .current then tree.current else []) path.parts

/-- Whether a path is one that a file can have. -/
def isValid (path : Path) : Bool := !path.parts.any (·.contains '\x00')

/-- Whether something stands at a path. -/
def hasPath (tree : FileTree) (path : Path) : Bool :=
  isValid path && match tree.locate path with
    | .directory _ => true
    | .file .. => true
    | _ => false

/-- Whether a file stands at a path. -/
def hasFile (tree : FileTree) (path : Path) : Bool :=
  isValid path && match tree.locate path with
    | .file .. => true
    | _ => false

/-- Whether a directory stands at a path. -/
def hasDirectory (tree : FileTree) (path : Path) : Bool :=
  isValid path && match tree.locate path with
    | .directory _ => true
    | _ => false

/-- The content of the file at a path. -/
def contentAt (tree : FileTree) (path : Path) : Except FileFault Content :=
  if !isValid path then .error .nullCharacter
  else match tree.locate path with
    | .file _ content => .ok content
    | .directory _ => .error (.isDirectory path.toText)
    | .blocked => .error (.notDirectory path.toText)
    | .vacant _ => .error (.notFound path.toText)
    | .absent => .error (.notFound path.toText)

/-- The text of the file at a path. -/
def read (tree : FileTree) (path : Path) : Except FileFault Text := do
  (← tree.contentAt path).read

/-- The tree in which a file has a content. -/
def setFile (tree : FileTree) (parts : List Text) (content : Content) : FileTree :=
  { tree with files := (parts, content) :: tree.files.filter (·.1 != parts) }

/-- Removes a file; its directory stays. -/
def removeFile (tree : FileTree) (parts : List Text) : FileTree :=
  { tree with
    files := tree.files.filter (·.1 != parts)
    directories := parts.dropLast :: tree.directories }

/-- Writes a text to the file at a path, which is made if there is none. -/
def write (tree : FileTree) (path : Path) (text : Text) : Except FileFault FileTree :=
  if !isValid path then .error .nullCharacter
  else match tree.locate path with
    | .file parts _ => .ok (tree.setFile parts (.text text))
    | .vacant parts => .ok (tree.setFile parts (.text text))
    | .directory _ => .error (.isDirectory path.toText)
    | .blocked => .error (.notDirectory path.toText)
    | .absent => .error (.notFound path.toText)

/-- Makes the directory at a path and those above it that are missing; nothing if it exists.  The
parts are given last first. -/
def makeDirectories (tree : FileTree) (root : Root) : List Text → Except FileFault FileTree
  | [] => .ok tree
  | part :: above =>
    let path : Path := { root, parts := (part :: above).reverse }
    let make (tree : FileTree) : Located → Except FileFault FileTree
      | .vacant parts => .ok { tree with directories := parts :: tree.directories }
      | .directory _ => .ok tree
      | .file .. => .error (.alreadyExists path.toText)
      | .blocked => .error (.notDirectory path.toText)
      | .absent => .error (.notFound path.toText)
    match tree.locate path with
    | .absent => do
      let tree ← tree.makeDirectories root above
      make tree (tree.locate path)
    | located => make tree located

/-- Makes the directory at a path and those above it that are missing. -/
def makeDirectory (tree : FileTree) (path : Path) : Except FileFault FileTree :=
  if !isValid path then .error .nullCharacter
  else tree.makeDirectories path.root path.parts.reverse

/-- The files of `tree` that `before` does not have, or has with another content. -/
def changedSince (before tree : FileTree) : List (List Text × Content) :=
  tree.files.filter fun (parts, content) =>
    match before.files.lookup parts with
    | some old => !content.same old
    | none => true

end FileTree

end ExportDocs
