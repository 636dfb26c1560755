/-
# ExportDocs.Template.Fault -- what can be wrong with a marker template
-/
import ExportDocs.Text.Quoted

namespace ExportDocs

set_option autoImplicit false

/-- A fault of a template. -/
inductive TemplateFault where
  /-- A brace that opens no field. -/
  | loneOpening
  /-- A brace that closes no field. -/
  | loneClosing
  | unclosedField
  | openingInName
  | conversionMissing
  | colonExpected
  | unclosedLayout
  | nestedTooDeep
  | numberTooLong
  /-- A field that asks for a value by its position. -/
  | noPosition (index : Nat)
  /-- A field that asks for a value by another name. -/
  | noName (name : Text)
  /-- A field that asks for a part of the value. -/
  | noPart (name : Text)
  | badConversion (c : Char)
  | precisionMissing
  | twoGroupings
  | grouping (mark code : Char)
  | badLayout (layout : Text)
  | badCode (code : Char)
  | sign
  | space
  | negativeZero
  | alternate
  | padding
  deriving DecidableEq, Repr, Inhabited

namespace TemplateFault

/-- A character in a message: as it is if it is visible, else by its number. -/
def shown (c : Char) : Text :=
  if 0x20 < c.toNat && c.toNat < 0x80 then [c] else '\\' :: 'x' :: Text.hexDigits 1 c.toNat

/-- The message of a fault. -/
def message : TemplateFault → Text
  | loneOpening => "Single '\x7b' encountered in format string".toList
  | loneClosing => "Single '\x7d' encountered in format string".toList
  | unclosedField => "expected '\x7d' before end of string".toList
  | openingInName => "unexpected '\x7b' in field name".toList
  | conversionMissing => "end of string while looking for conversion specifier".toList
  | colonExpected => "expected ':' after conversion specifier".toList
  | unclosedLayout => "unmatched '\x7b' in format spec".toList
  | nestedTooDeep => "Max string recursion exceeded".toList
  | numberTooLong => "Too many decimal digits in format string".toList
  | noPosition index =>
    "Replacement index ".toList ++ Text.ofNat index ++
      " out of range for positional args tuple".toList
  | noName name => Text.quoted name
  | noPart name => "'str' object has no attribute ".toList ++ Text.quoted name
  | badConversion c => "Unknown conversion specifier ".toList ++ shown c
  | precisionMissing => "Format specifier missing precision".toList
  | twoGroupings => "Cannot specify both ',' and '_'.".toList
  | grouping mark code =>
    "Cannot specify '".toList ++ mark :: "' with '".toList ++ shown code ++ "'.".toList
  | badLayout layout =>
    "Invalid format specifier '".toList ++ layout ++ "' for object of type 'str'".toList
  | badCode code =>
    "Unknown format code '".toList ++ shown code ++ "' for object of type 'str'".toList
  | sign => "Sign not allowed in string format specifier".toList
  | space => "Space not allowed in string format specifier".toList
  | negativeZero =>
    "Negative zero coercion (z) not allowed in string format specifier".toList
  | alternate => "Alternate form (#) not allowed in string format specifier".toList
  | padding => "'=' alignment not allowed in string format specifier".toList

end TemplateFault

end ExportDocs
