/-
# ExportDocs.Settings -- what can be configured

The settings govern how imports are resolved and reused, the markers of document regions, the
report and the debug dumps.
-/
import ExportDocs.Template

namespace ExportDocs

set_option autoImplicit false

/-- The settings of a run. -/
structure Settings where
  /-- The extension that is tried when a local import is resolved. -/
  sourceExtension : Text := ".js".toList
  /-- The name, without extension, of the file that stands for its directory. -/
  indexName : Text := "index".toList
  /-- Beginnings of the specifiers that name a file of the project. -/
  localHeads : List Text := ["./".toList, "../".toList]
  /-- The template of the marker that opens a region. -/
  startMarker : Text := "<!-- START TOKEN(\x7btoken\x7d) -->".toList
  /-- The template of the marker that closes a region. -/
  endMarker : Text := "<!-- END TOKEN(\x7btoken\x7d) -->".toList
  /-- The title of a new report. -/
  defaultHeading : Text := "API".toList
  /-- The description of an export without a doc comment. -/
  undocumented : Text := "Undocumented declaration.".toList
  /-- Whether a file is processed once in a run instead of once for each reference. -/
  reuseImports : Bool := false
  /-- The indentation of the debug dumps. -/
  dumpIndent : Int := 2
  deriving DecidableEq, Repr, Inhabited

namespace Settings

/-- Whether a specifier names a file of the project. -/
def isLocal (settings : Settings) (specifier : Text) : Bool :=
  settings.localHeads.any specifier.startsWith

/-- The marker that opens the region of a token. -/
def startMarkerOf (settings : Settings) (token : Text) : Except TemplateFault Text :=
  Template.fill token settings.startMarker

/-- The marker that closes the region of a token. -/
def endMarkerOf (settings : Settings) (token : Text) : Except TemplateFault Text :=
  Template.fill token settings.endMarker

end Settings

end ExportDocs
