/-
# ExportDocs.Error -- how a run can fail

An `Error` is one of the failures that a run reports, or a cause that nothing turned into one
(`uncaught`).  Every text of a failure is made here and in the messages of the causes.
-/
import ExportDocs.Exports.Declaration
import ExportDocs.FileTree
import ExportDocs.Template.Fault

namespace ExportDocs

set_option autoImplicit false

/-- What is wrong with a custom formatter, if its own code does not fail. -/
inductive FormatterFault where
  /-- The file has no name of a formatter. -/
  | notLoadable (path : Text)
  | unreadable (fault : FileFault)
  | undefined
  /-- The result is no string but of the named type. -/
  | notText (type : Text)
  deriving DecidableEq, Repr, Inhabited

/-- The message of a fault. -/
def FormatterFault.message : FormatterFault → Text
  | .notLoadable path => "cannot import ".toList ++ path
  | .unreadable fault => fault.message
  | .undefined => "no format() function defined".toList
  | .notText type => "format() returned ".toList ++ type ++ ", not str".toList

/-- The message about code points that cannot be encoded. -/
def encodeMessage (fault : Text.EncodeFault) : Text :=
  let place :=
    if fault.length = 1 then
      "character '\\u".toList ++ Text.hexDigits 4 fault.code ++ "' in position ".toList ++
        Text.ofNat fault.position
    else
      "characters in position ".toList ++ Text.ofNat fault.position ++
        '-' :: Text.ofNat (fault.position + fault.length - 1)
  "'utf-8' codec can't encode ".toList ++ place ++ ": surrogates not allowed".toList

/-- The cause of a failure. -/
inductive Cause where
  | file (fault : FileFault)
  | unencodable (fault : Text.EncodeFault)
  | extraction (fault : ExtractFault)
  /-- An error of code that is not part of the program, with its own message. -/
  | raised (message : Text)
  /-- No file is being processed. -/
  | emptyStack
  /-- Too many files are being processed inside one another. -/
  | tooDeep
  | template (fault : TemplateFault)
  | formatter (fault : FormatterFault)
  /-- A stage of a run that needs the result of another. -/
  | noResult
  | noSymbols
  deriving DecidableEq, Repr, Inhabited

/-- The message of a cause. -/
def Cause.message : Cause → Text
  | .file fault => fault.message
  | .unencodable fault => encodeMessage fault
  | .extraction fault => fault.message
  | .raised message => message
  | .emptyStack => "processing stack is empty".toList
  | .tooDeep => "maximum recursion depth exceeded".toList
  | .template fault => fault.message
  | .formatter fault => fault.message
  | .noResult => "'NoneType' object has no attribute 'ir'".toList
  | .noSymbols => "'NoneType' object is not iterable".toList

/-- A failure. -/
inductive Error where
  | unresolvedImport (base : Path) (specifier : Text)
  | unreadableFile (path : Path) (cause : Cause)
  | failedExtraction (path : Path) (cause : Cause)
  /-- A file that was reached again, and the files being processed, outermost first. -/
  | importCycle (path : Path) (stack : List Path)
  | missingRegion (token : Text) (document : Option Path)
  | failedFormatter (path : Path) (cause : Cause)
  | uncaught (cause : Cause)
  deriving DecidableEq, Repr, Inhabited

namespace Error

/-- The message of a failure. -/
def message : Error → Text
  | unresolvedImport base specifier =>
    "Relative path does not exists.\nBase: ".toList ++ base.toText ++ "\nRelative: ".toList ++
      specifier
  | unreadableFile path cause =>
    "Cannot read ".toList ++ path.toText ++ ": ".toList ++ cause.message
  | failedExtraction path cause =>
    "Extraction failed for ".toList ++ path.toText ++ ": ".toList ++ cause.message
  | importCycle path stack =>
    "Import cycle detected: ".toList ++
      Text.joinWith " -> ".toList ((stack ++ [path]).map Path.toText)
  | missingRegion token document =>
    "Heading ".toList ++ token ++ " not found".toList ++
      (document.map fun path => " in ".toList ++ path.toText).getD [] ++ ['.']
  | failedFormatter path cause =>
    "Custom formatter ".toList ++ path.toText ++ " failed: ".toList ++ cause.message
  | uncaught cause => cause.message

/-- A failure to find a region, with the document in which it was looked for. -/
def inDocument (path : Path) : Error → Error
  | missingRegion token _ => missingRegion token (some path)
  | error => error

/-- Whether the failure is reported as one of the run's own. -/
def isReported : Error → Bool
  | uncaught _ => false
  | _ => true

end Error

end ExportDocs
