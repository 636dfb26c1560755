/-
# ExportDocs.Token.Vocabulary -- the words of the language

A run of word characters that is one of these words has the class of its list; of two lists with
one word, the earlier counts.
-/
import ExportDocs.Token

namespace ExportDocs.Vocabulary

set_option autoImplicit false

/-- The words of a list separated by spaces. -/
def ofString (words : String) : List Text := Text.splitAtChar ' ' words.toList

/-- Operators that are words. -/
def operatorWords : List Text := ofString "typeof instanceof in void delete new"

/-- Words that are reserved only where no word character stands before them. -/
def contextualWords : List Text := ofString "constructor from as"

/-- Keywords. -/
def keywords : List Text :=
  ofString "for in while do break return continue switch case default if else throw try catch" ++
    ofString "finally yield await async this of static export import debugger extends super"

/-- Keywords that begin a declaration. -/
def declarationWords : List Text := ofString "var let const with function class"

/-- Reserved words. -/
def reservedWords : List Text :=
  ofString "abstract boolean byte char double enum final float goto implements int interface" ++
    ofString "long native package private protected public short synchronized throws transient" ++
    ofString "volatile"

/-- Names of constants. -/
def constantWords : List Text := ofString "true false null NaN Infinity undefined"

/-- Names of built-in objects and functions. -/
def builtinWords : List Text :=
  ofString "Array Boolean Date BigInt Function Math ArrayBuffer Number Object RegExp String" ++
    ofString "Promise Proxy decodeURI decodeURIComponent encodeURI encodeURIComponent eval" ++
    ofString "isFinite isNaN parseFloat parseInt DataView document window globalThis global" ++
    ofString "arguments Symbol Intl WeakSet WeakMap Set Map Reflect JSON Atomics Int8Array" ++
    ofString "Int16Array Int32Array BigInt64Array Float32Array Float64Array Uint8ClampedArray" ++
    ofString "Uint8Array Uint16Array Uint32Array BigUint64Array"

/-- Names of error classes. -/
def exceptionWords : List Text :=
  ofString "EvalError InternalError RangeError ReferenceError SyntaxError TypeError URIError Error"

/-- The class of a word and whether an operand may follow it, so that a slash after it starts a
regular expression.  `joined` says that a word character stands directly before. -/
def classify (joined : Bool) (word : Text) : Option (TokenClass × Bool) :=
  if operatorWords.contains word then some (.operatorWord, true)
  else if !joined && contextualWords.contains word then some (.reserved, false)
  else if keywords.contains word then some (.keyword, true)
  else if declarationWords.contains word then some (.declarationWord, true)
  else if reservedWords.contains word then some (.reserved, false)
  else if constantWords.contains word then some (.constant, false)
  else if builtinWords.contains word then some (.builtin, false)
  else if exceptionWords.contains word then some (.exception, false)
  else none

end ExportDocs.Vocabulary
