/-
# ExportDocs.DocComment.Tag -- reading the text of one tag

The label decides how the text after it is read: a parameter has a type, a name and a
description, a result or a thrown error has a type and a description, an example is kept as it
is, and any other tag has a type and a description too.  Synonyms become one label.
-/
import ExportDocs.DocComment.TypeExpression
import ExportDocs.Symbol

namespace ExportDocs.Tag

set_option autoImplicit false

/-- Labels of parameters. -/
def paramLabels : List Text := ["param".toList, "arg".toList, "argument".toList]

/-- Labels of results. -/
def returnLabels : List Text := ["return".toList, "returns".toList]

/-- Labels of thrown errors. -/
def throwsLabels : List Text := ["throws".toList, "exception".toList]

/-- The label of examples. -/
def exampleLabel : Text := "example".toList

/-- A parameter name as written: in square brackets it is optional, and a default after an equals
sign is left out. -/
def readName (written : Text) : Text × Bool :=
  match written with
  | '[' :: inner =>
    if inner.getLast? == some ']' then (inner.dropLast.takeWhile (· != '='), true)
    else (written, false)
  | _ => (written, false)

/-- A description without the dash that may set it off. -/
def dropDash (description : Text) : Text :=
  (Text.dropHead? "- ".toList description).getD description

/-- The text of a parameter tag: type, name, description. -/
def readParam (text : Text) : Tag :=
  let (type, rest) := TypeExpression.split text
  let (written, description) := Text.firstWord rest
  let (name, optional) := readName written
  { label := "param".toList, name, type, optional, description := Text.strip (dropDash description) }

/-- A tag with a type and a description. -/
def readTyped (label text : Text) : Tag :=
  let (type, description) := TypeExpression.split text
  { label, type, description }

/-- The tag that a label and the text after it denote. -/
def read (label text : Text) : Tag :=
  if paramLabels.contains label then readParam text
  else if returnLabels.contains label then readTyped "return".toList text
  else if throwsLabels.contains label then readTyped "throws".toList text
  else if label == exampleLabel then { label, description := text }
  else readTyped label text

end ExportDocs.Tag
