/-
# ExportDocs.Report.Custom -- reports by a formatter from a file

A file that cannot be loaded, a formatter that fails and a result that is no string are all failures
of that formatter.  A string that is no text is none of them: it fails where it is written.
-/
import ExportDocs.Host
import ExportDocs.Report

namespace ExportDocs.Report

set_option autoImplicit false

/-- The report that the formatter in a file makes. -/
def renderCustom (host : Host) (path : Path) (place : Place)
    (symbols : Option (List Symbol)) (heading : Option Text) : Action HostString := do
  let formatter ← host.load path
  Action.log .debug ("Using custom formatter ".toList ++ path.toText)
  match ← HostM.act path (formatter place.root place.document symbols heading) with
  | .string codes => return .ofCodes codes
  | .other type => throw (.failedFormatter path (.formatter (.notText type)))

end ExportDocs.Report
