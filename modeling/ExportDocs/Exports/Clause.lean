/-
# ExportDocs.Exports.Clause -- import and export clauses

A clause in braces lists names, each with an alias or without; names may be quoted.  An import
clause may also bind the default export and the whole module.
-/
import ExportDocs.Exports.Declaration

namespace ExportDocs.Clause

set_option autoImplicit false

/-- The name that a token of a clause spells, quoted or not. -/
def bindingName (token : Token) : Text :=
  if token.isString then token.stringValue else token.value

/-- The pairs of name and alias after an opening brace, and the tokens after the closing one. -/
def specifiers : List Token → List (Text × Text) × List Token
  | [] => ([], [])
  | token :: rest =>
    if token.isMark '}' then ([], rest)
    else if token.isMark ',' then specifiers rest
    else match rest with
      | word :: newName :: after =>
        if word.spells "as" then
          let (pairs, outside) := specifiers after
          ((bindingName token, bindingName newName) :: pairs, outside)
        else
          let (pairs, outside) := specifiers (word :: newName :: after)
          ((bindingName token, bindingName token) :: pairs, outside)
      | rest =>
        let (pairs, outside) := specifiers rest
        ((bindingName token, bindingName token) :: pairs, outside)
termination_by tokens => tokens.length

theorem specifiers_length (tokens : List Token) : (specifiers tokens).2.length ≤ tokens.length := by
  fun_induction specifiers tokens <;> simp_all <;> omega

/-- The specifier of a clause `from '...'` at the start of the tokens. -/
def sourceAfter : List Token → Option Text
  | word :: string :: _ =>
    if word.spells "from" && string.isString then some string.stringValue else none
  | _ => none

/-- The tokens before the first clause `from '...'` and its specifier. -/
def splitAtSource : List Token → Option (List Token × Text)
  | [] => none
  | token :: rest =>
    match sourceAfter (token :: rest) with
    | some source => some ([], source)
    | none => (splitAtSource rest).map fun (before, source) => (token :: before, source)

/-- The bindings `(imported, local)` of an import clause. -/
def bindings : List Token → List (Text × Text)
  | [] => []
  | token :: rest =>
    if token.isMark '{' then
      (specifiers rest).1 ++ bindings (specifiers rest).2
    else match rest with
      | word :: newName :: after =>
        if token.spells "*" && word.spells "as" then
          (['*'], newName.value) :: bindings after
        else if token.isBindingName && !token.spells "type" then
          ("default".toList, token.value) :: bindings (word :: newName :: after)
        else bindings (word :: newName :: after)
      | rest =>
        if token.isBindingName && !token.spells "type" then
          ("default".toList, token.value) :: bindings rest
        else bindings rest
termination_by tokens => tokens.length
decreasing_by
  · have := specifiers_length rest
    simp only [List.length_cons]
    omega
  all_goals simp <;> omega

/-- The form of an import statement, from the token after the keyword on. -/
def readImport (tokens : List Token) : Form :=
  match tokens.head? with
  | some first =>
    if first.isString then .imports [] (some first.stringValue)
    else match splitAtSource tokens with
      | some (clause, source) => .imports (bindings clause) (some source)
      | none => .imports [] none
  | none => .imports [] none

end ExportDocs.Clause
