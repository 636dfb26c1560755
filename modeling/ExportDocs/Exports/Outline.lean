/-
# ExportDocs.Exports.Outline -- what the statements of a module say

Each statement is read on its own, together with the doc comment directly above it, into a record:
the statement for the debug dump, the bindings it declares, and the symbols it exports where it
stands.  The outline of a module is the list of these records; what a name means in the module is
looked up in it, the last declaration or import of a name counting.
-/
import ExportDocs.DocComment
import ExportDocs.Exports.Clause
import ExportDocs.Token.Lexer

namespace ExportDocs

set_option autoImplicit false

/-- What one statement contributes. -/
structure Record where
  /-- The statement, unless it has no known form. -/
  statement : Option Statement := none
  /-- The symbols it declares. -/
  declared : List Symbol := []
  /-- The symbols it exports where it stands. -/
  exported : List Symbol := []
  /-- Its tokens, if it imports or exports. -/
  dump : List Token := []
  deriving DecidableEq, Repr, Inhabited

/-- The records of a module. -/
structure Outline where
  path : Text
  /-- The description of a symbol without a doc comment. -/
  undocumented : Text
  records : List Record
  deriving DecidableEq, Repr, Inhabited

namespace Record

/-- A symbol declared by a statement with the given tokens. -/
def symbol (path undocumented : Text) (doc : Option Token) (first : Token) (more : List Token)
    (name : Text) (kind : Kind) (isDefault : Bool) : Symbol :=
  let comment : DocComment := match doc with
    | some comment => DocComment.parse comment.value
    | none => ⟨undocumented, []⟩
  { path, name, kind, isDefault
    description := comment.description
    tags := comment.tags
    firstLine := first.line
    lastLine := ((first :: more).getLast?.getD first).lastLine }

/-- Words after `export default` that begin a declaration. -/
def defaultKeywords : List Text := ["function".toList, "class".toList, "async".toList]

/-- The form, the declared symbols and the exported symbols of an export statement from the token
after the keyword on.  `make name kind isDefault` documents a name. -/
def readExport (make : Text → Kind → Bool → Symbol) :
    List Token → Except ExtractFault (Option (Form × List Symbol × List Symbol))
  | [] => .ok none
  | second :: rest =>
    if second.spells "*" then
      let (newName, after) := match rest with
        | word :: name :: after =>
          if word.spells "as" then (Clause.bindingName name, after) else ([], rest)
        | _ => ([], rest)
      let source := Clause.sourceAfter after
      if newName.isEmpty then .ok (some (.exportsAll none source, [], []))
      else .ok (some (.exportsAll (some newName) source, [], [make newName .moduleNamespace false]))
    else if second.isMark '{' then
      let (pairs, after) := Clause.specifiers rest
      .ok (some (.exportsNamed pairs (Clause.sourceAfter after), [], []))
    else if second.spells "default" then
      if rest.head?.any fun third => defaultKeywords.contains third.value then do
        let (kind, names) ← Declaration.read rest
        match names with
        | name :: _ =>
          let symbol := make name kind true
          return some (.exportsDefault (some kind) name, [symbol], [symbol])
        | [] =>
          let symbol := make "default".toList kind true
          return some (.exportsDefault (some kind) "default".toList, [], [symbol])
      else
        match rest with
        | third :: after =>
          if third.isBindingName &&
              (after.isEmpty || (after.length == 1 && after.all (·.isMark ';'))) then
            .ok (some (.exportsDefault none third.value, [], []))
          else .ok (some (.exportsDefault (some .expression) "default".toList, [],
            [make "default".toList .expression true]))
        | [] => .ok (some (.exportsDefault (some .expression) "default".toList, [],
            [make "default".toList .expression true]))
    else if Segment.declarationKeywords.contains second.value || second.spells "async" then do
      let (kind, names) ← Declaration.read (second :: rest)
      let symbols := names.map fun name => make name kind false
      return some (.exportsDeclaration kind names, symbols, symbols)
    else .ok none

/-- The record of a statement; `doc` stands directly above it, `following` directly after its
first token. -/
def read (path undocumented : Text) (doc : Option Token) (first : Token) (more : List Token)
    (following : Option Token) : Except ExtractFault Record :=
  let make := symbol path undocumented doc first more
  if !Segment.isStarter first following then .ok {}
  else if first.spells "import" then
    .ok { statement := some ⟨first.line, Clause.readImport more⟩, dump := first :: more }
  else if first.spells "export" then do
    match ← readExport make more with
    | some (form, declared, exported) =>
      return { statement := some ⟨first.line, form⟩, declared, exported, dump := first :: more }
    | none => return { dump := first :: more }
  else do
    let (kind, names) ← Declaration.read (first :: more)
    return { statement := some ⟨first.line, .declares kind names⟩
             declared := names.map fun name => make name kind false }

end Record

namespace Outline

/-- The first token of the segments. -/
def firstToken : List Segment → Option Token
  | [] => none
  | .doc comment :: _ => some comment
  | .statement first _ :: _ => some first

/-- The records of segments, `doc` being the doc comment directly above them. -/
def readSegments (path undocumented : Text) (doc : Option Token) :
    List Segment → Except ExtractFault (List Record)
  | [] => .ok []
  | .doc comment :: rest => readSegments path undocumented (some comment) rest
  | .statement first more :: rest => do
    let record ← Record.read path undocumented doc first more (more.head?.or (firstToken rest))
    let records ← readSegments path undocumented none rest
    return record :: records

/-- The outline of a module given by its tokens. -/
def ofTokens (path undocumented : Text) (tokens : List Token) : Except ExtractFault Outline := do
  let records ← readSegments path undocumented none (Segment.split tokens)
  return { path, undocumented, records }

/-- The outline of a module given by its source. -/
def ofSource (path undocumented source : Text) : Except ExtractFault Outline :=
  ofTokens path undocumented (Lexer.tokens source)

/-- All recorded statements. -/
def statements (outline : Outline) : List Statement := outline.records.filterMap (·.statement)

/-- The tokens of the import and export statements. -/
def dump (outline : Outline) : List Token := outline.records.flatMap (·.dump)

/-- The symbol that a local name was last declared as. -/
def declaration? (outline : Outline) (name : Text) : Option Symbol :=
  (outline.records.flatMap (·.declared)).reverse.find? (·.name == name)

/-- The bindings `(local, source, imported)` of all imports. -/
def importBindings (outline : Outline) : List (Text × Text × Text) :=
  outline.statements.flatMap fun statement =>
    match statement.form with
    | .imports bindings (some source) =>
      bindings.map fun (imported, newName) => (newName, source, imported)
    | _ => []

/-- The source and the imported name that a local name was last imported from. -/
def import? (outline : Outline) (name : Text) : Option (Text × Text) :=
  outline.importBindings.reverse.lookup name

end Outline

end ExportDocs
