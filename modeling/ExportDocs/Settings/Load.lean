/-
# ExportDocs.Settings.Load -- settings from arguments, the environment and a file

A setting is looked up among the arguments first, then in the environment, then in a file of named
values; what is found nowhere keeps its default.  Environment names are the setting's name after
`DOCGEN_`, whatever their case.  All faults are collected, except that a list which is not written
as a structured value stops the loading at once.
-/
import ExportDocs.Settings
import ExportDocs.Settings.Dotenv
import ExportDocs.Settings.Value
import ExportDocs.Text.Lines

namespace ExportDocs

set_option autoImplicit false

/-- Why settings cannot be loaded. -/
inductive SettingsFault where
  /-- A list that cannot be read. -/
  | unreadableList
  | invalid (faults : List (Location × ValueFault))
  deriving DecidableEq, Repr, Inhabited

namespace Settings

/-- The names of the settings. -/
def names : List Text :=
  ["source_extension", "index_basename", "local_prefixes", "marker_start", "marker_end",
    "default_heading", "undocumented_text", "memoize_imports", "debug_indent"].map String.toList

/-- The setting that is a list. -/
def listName : Text := "local_prefixes".toList

/-- What environment names begin with, in lower case. -/
def environmentHead : Text := "docgen_".toList

/-- Values by the names of the settings. -/
abbrev Given := List (Text × Json)

/-- The value that a text from the environment is; a list is written as a structured value, and
null counts as not given. -/
def environmentValue (name text : Text) : Except SettingsFault (Option Json) :=
  if name = listName then
    match Json.read? text with
    | none => .error .unreadableList
    | some .null => .ok none
    | some value => .ok (some value)
  else .ok (some (.str text))

/-- Named texts under their names in lower case.  Of two with the same name the last one counts. -/
def byName (texts : List (Text × Option Text)) : List (Text × Option Text) :=
  (texts.map fun (name, text) => (Text.lower name, text)).foldl
    (fun known (name, text) => known.filter (·.1 != name) ++ [(name, text)]) []

/-- The values that named texts give to settings. -/
def givenBy (texts : List (Text × Option Text)) : Except SettingsFault Given := do
  let found ← names.mapM fun name => do
    match texts.lookup (environmentHead ++ name) with
    | some (some text) => return (← environmentValue name text).map fun value => (name, value)
    | _ => return none
  return found.filterMap id

/-- Names in a file that belong to no setting.  An empty value is let pass, and so is a name that
begins like that of the list. -/
def strayNames (texts : List (Text × Option Text)) : List Text :=
  (texts.filter fun (key, value) =>
    value.any (!·.isEmpty) && !names.contains key &&
      !(names.map (environmentHead ++ ·)).contains key &&
      !key.startsWith (environmentHead ++ listName)).map (·.1)

/-- A value that was given, or the default. -/
def valueOr {α : Type} (given : Given) (name : String) (default : α)
    (read : Json → Except ValueFault α) : α × List (Location × ValueFault) :=
  match given.lookup name.toList with
  | none => (default, [])
  | some value =>
    match read value with
    | .ok a => (a, [])
    | .error fault => (default, [([name.toList], fault)])

/-- The list of local beginnings that was given, or the default. -/
def localHeadsOr (given : Given) (default : List Text) :
    List Text × List (Location × ValueFault) :=
  match given.lookup listName with
  | none => (default, [])
  | some value =>
    match value.asTexts with
    | .ok texts => (texts, [])
    | .error faults => (default, faults.map fun (position, fault) =>
        (listName :: (position.map Text.ofNat).toList, fault))

/-- The settings with the values that were given, and the faults of these. -/
def ofGiven (given : Given) : Settings × List (Location × ValueFault) :=
  let base : Settings := {}
  let (sourceExtension, f₁) := valueOr given "source_extension" base.sourceExtension Json.asText
  let (indexName, f₂) := valueOr given "index_basename" base.indexName Json.asText
  let (localHeads, f₃) := localHeadsOr given base.localHeads
  let (startMarker, f₄) := valueOr given "marker_start" base.startMarker Json.asText
  let (endMarker, f₅) := valueOr given "marker_end" base.endMarker Json.asText
  let (defaultHeading, f₆) := valueOr given "default_heading" base.defaultHeading Json.asText
  let (undocumented, f₇) := valueOr given "undocumented_text" base.undocumented Json.asText
  let (reuseImports, f₈) := valueOr given "memoize_imports" base.reuseImports Json.asBool
  let (dumpIndent, f₉) := valueOr given "debug_indent" base.dumpIndent Json.asInt
  ({ sourceExtension, indexName, localHeads, startMarker, endMarker, defaultHeading, undocumented
     reuseImports, dumpIndent },
    f₁ ++ f₂ ++ f₃ ++ f₄ ++ f₅ ++ f₆ ++ f₇ ++ f₈ ++ f₉)

/-- Loads the settings from arguments, the environment and the text of a file. -/
def load (arguments : Given) (environment : List (Text × Text)) (file : Option Text) :
    Except SettingsFault Settings := do
  let bindings := byName ((file.map fun text => Dotenv.read (Text.foldNewlines text)).getD [])
  let fromEnvironment ← givenBy (byName (environment.map fun (key, text) => (key, some text)))
  let fromFile ← givenBy bindings
  let strays := (arguments.map (·.1)).filter (!names.contains ·) ++ strayNames bindings
  let (settings, faults) := ofGiven (arguments ++ fromEnvironment ++ fromFile)
  let faults := faults ++ strays.eraseDups.map fun name => ([name], .unknownName)
  if faults.isEmpty then return settings else throw (.invalid faults)

end Settings

end ExportDocs
