/-
# ExportDocs.Exports.Declaration -- what a declaration declares

Reads kind and bound names off the tokens of a declaration.  A function or a class has at most one
name; a variable declaration has the names of its first declarator, an identifier or a pattern in
brackets, and counts as a function when it is initialised with one.
-/
import ExportDocs.Exports.Segment
import ExportDocs.Exports.Statement
import ExportDocs.Text.Word

namespace ExportDocs

set_option autoImplicit false

/-- Why the statements of a module cannot be read. -/
inductive ExtractFault where
  /-- A declaration ends before its keyword. -/
  | missingKeyword
  deriving DecidableEq, Repr, Inhabited

/-- The wording of a fault. -/
def ExtractFault.message : ExtractFault → Text
  | .missingKeyword => "list index out of range".toList

/-- A word that can name a binding: it starts with an ASCII letter, an underscore or a dollar sign.
One line end after it is let pass. -/
def isBindingWord : Text → Bool
  | [] => false
  | c :: t =>
    let rest := t.dropWhile fun d => Text.isWord d || d == '$'
    (c.isAlpha || c == '_' || c == '$') && (rest.isEmpty || rest == ['\n'])

/-- Whether a token can name a binding. -/
def Token.isBindingName (token : Token) : Bool :=
  !token.isString && !token.isPunctuation && isBindingWord token.value

namespace Declaration

/-- Whether an arrow stands at the start, in one token or as two signs. -/
def startsWithArrow : List Token → Bool
  | [] => false
  | token :: rest =>
    token.spells "=>" || (token.spells "=" && rest.head?.any fun other => other.value.head? == some '>')

/-- Whether the bracket that is `depth` levels up closes and an arrow follows it. -/
def arrowAfterBrackets (depth : Nat) : List Token → Bool
  | [] => false
  | token :: rest =>
    if token.isOpener then arrowAfterBrackets (depth + 1) rest
    else if token.isCloser then
      match depth with
      | 0 => startsWithArrow rest
      | depth + 1 => arrowAfterBrackets depth rest
    else arrowAfterBrackets depth rest

/-- Whether an initialiser is a function. -/
def isFunction : List Token → Bool
  | [] => false
  | first :: rest =>
    first.spells "function" || first.spells "async" ||
      (first.isBindingName && startsWithArrow rest) ||
      (first.isMark '(' && arrowAfterBrackets 0 rest)

/-- The tokens after the first equals sign. -/
def initialiser (tokens : List Token) : List Token :=
  (tokens.dropWhile fun token => !token.spells "=").drop 1

/-- The kind of a variable declaration. -/
def variableKind (tokens : List Token) : Kind :=
  if isFunction (initialiser tokens) then .function else .binding

/-- Whether a name before this token is bound by a pattern. -/
def endsElement (token : Token) : Bool :=
  token.isMark ',' || token.isMark '}' || token.isMark ']' || token.spells "="

/-- The names that a pattern binds on its outermost level; `depth` levels are open inside it. -/
def patternNames (depth : Nat) : List Token → List Text
  | [] => []
  | token :: rest =>
    if token.isOpener then patternNames (depth + 1) rest
    else if token.isCloser then
      match depth with
      | 0 => []
      | depth + 1 => patternNames depth rest
    else if depth == 0 && token.isBindingName && rest.head?.any endsElement then
      token.value :: patternNames depth rest
    else patternNames depth rest

/-- The names that the first declarator binds. -/
def boundNames : List Token → List Text
  | [] => []
  | first :: rest =>
    if first.isBindingName then [first.value]
    else if first.isMark '{' || first.isMark '[' then patternNames 0 rest
    else []

/-- The name after the keyword of a function or a class, a generator's asterisk left out. -/
def ownName (tokens : List Token) : List Text :=
  let tokens := match tokens with
    | first :: rest => if first.spells "*" then rest else first :: rest
    | [] => []
  match tokens with
  | name :: _ => if name.isBindingName && !name.spells "extends" then [name.value] else []
  | [] => []

/-- Kind and bound names of a declaration from its keyword on. -/
def readKeyword : List Token → Except ExtractFault (Kind × List Text)
  | [] => .error .missingKeyword
  | keyword :: rest =>
    if keyword.spells "function" then .ok (.function, ownName rest)
    else if keyword.spells "class" then .ok (.classDecl, ownName rest)
    else .ok (variableKind rest, boundNames rest)

/-- Kind and bound names of a declaration, which may begin with `async`. -/
def read : List Token → Except ExtractFault (Kind × List Text)
  | first :: rest => if first.spells "async" then readKeyword rest else readKeyword (first :: rest)
  | [] => .error .missingKeyword

end Declaration

end ExportDocs
