/-
# ExportDocs.Proofs.DocComment.Parameter -- what is read of a parameter as it is written

A parameter is written as its type in braces, its name, and a description that a dash may set off;
the name of an optional parameter stands in square brackets, with a default after an equals sign or
without one.  The reader cuts the type off by counting braces, the name at the first white space,
and only then looks for square brackets around the name.

So everything is read back but a default with white space in it: there the name is cut off inside
its brackets, the parameter is not optional, and the rest of the default goes to the description.
`parameter_reads_back` says what is read in all cases.
-/
import ExportDocs.DocComment.Tag
import ExportDocs.Proofs.DocComment.TypeExpression

namespace ExportDocs.Tag

set_option autoImplicit false

/-- What is written of a parameter, apart from a default. -/
structure Parameter where
  type : Text
  name : Text
  description : Text
  balanced : type.Balanced
  named : name ≠ []
  plain : ∀ c ∈ name, Text.isBlank c = false ∧ c ∉ ['[', ']', '{', '}', '=']
  solid : Text.Solid description
  undashed : Text.startsWith description "- ".toList = false

/-- The text of a default value. -/
abbrev DefaultText := {default : Text // ∀ c ∈ default, c ∉ ['[', ']']}

namespace Parameter

/-- The description, set off with a dash or not. -/
def described (parameter : Parameter) (dash : Bool) : Text :=
  if dash then "- ".toList ++ parameter.description else parameter.description

/-- The text of the tag, with the name as it is written there. -/
def layout (parameter : Parameter) (written : Text) (dash : Bool) : Text :=
  '{' :: (parameter.type ++ '}' :: ' ' :: (written ++ ' ' :: parameter.described dash))

/-- The name in square brackets. -/
def bracketed (parameter : Parameter) : Text := '[' :: (parameter.name ++ [']'])

/-- The name with a default in square brackets. -/
def defaulted (parameter : Parameter) (default : DefaultText) : Text :=
  '[' :: (parameter.name ++ '=' :: (default.1 ++ [']']))

/-- The tag that is meant. -/
def tag (parameter : Parameter) (optional : Bool) : Tag :=
  { label := "param".toList
    name := parameter.name
    type := Text.strip parameter.type
    description := parameter.description
    optional }

end Parameter

/-! ## Words and descriptions -/

/-- The first word of a text that begins with it, whatever white space follows. -/
theorem firstWord_append {word : Text} (filled : word ≠ [])
    (solid : ∀ c ∈ word, Text.isBlank c = false) {blank : Char} (ends : Text.isBlank blank = true)
    (rest : Text) :
    Text.firstWord (word ++ blank :: rest) = (word, rest.dropWhile Text.isBlank) := by
  have start : (word ++ blank :: rest).dropWhile Text.isBlank = word ++ blank :: rest := by
    obtain ⟨c, others, rfl⟩ := List.exists_cons_of_ne_nil filled
    exact List.dropWhile_cons_of_neg (by simp [solid c])
  have stop : (blank :: rest).takeWhile (!Text.isBlank ·) = [] ∧
      (blank :: rest).dropWhile (!Text.isBlank ·) = blank :: rest := by
    simp [ends]
  have whole : ∀ c ∈ word, (!Text.isBlank c) = true := by simpa using solid
  simp only [Text.firstWord, start, List.takeWhile_append_of_pos whole,
    List.dropWhile_append_of_pos whole, stop, List.append_nil,
    List.dropWhile_cons_of_pos ends]

theorem readName_plain {name : Text} (plain : '[' ∉ name) : readName name = (name, false) := by
  cases name with
  | nil => rfl
  | cons c rest =>
      have other : c ≠ '[' := fun same => plain (by simp [same])
      unfold readName
      split
      · rename_i inner same
        exact absurd (List.cons.inj same).1 other
      · rfl

/-- In brackets, the name ends at the first equals sign. -/
theorem readName_bracketed (inner : Text) :
    readName ('[' :: (inner ++ [']'])) = (inner.takeWhile (· != '='), true) := by
  simp [readName]

theorem readName_unclosed {inner : Text} (free : ']' ∉ inner) :
    readName ('[' :: inner) = ('[' :: inner, false) := by
  have last : (inner.getLast? == some ']') = false := by
    refine beq_eq_false_iff_ne.2 fun same => ?_
    exact free (List.mem_of_getLast? same)
  simp only [readName, last]
  rfl

namespace Parameter

variable (parameter : Parameter)

theorem solid_name : ∀ c ∈ parameter.name, Text.isBlank c = false :=
  fun c member => (parameter.plain c member).1

theorem name_free {mark : Char} (isMark : mark ∈ ['[', ']', '{', '}', '=']) :
    mark ∉ parameter.name :=
  fun member => (parameter.plain mark member).2 isMark

/-- The dash is taken off the description, and nothing else. -/
theorem strip_described (dash : Bool) :
    Text.strip (dropDash (parameter.described dash)) = parameter.description := by
  have undashed : dropDash (parameter.described dash) = parameter.description := by
    cases dash with
    | true => exact congrArg (Option.getD · _) (Text.dropHead?_eq_some.2 rfl)
    | false =>
        have none : Text.dropHead? "- ".toList parameter.description = none := by
          refine Option.eq_none_iff_forall_ne_some.2 fun rest found => ?_
          have begins : Text.startsWith parameter.description "- ".toList = true :=
            List.isPrefixOf_iff_prefix.2 ⟨rest, (Text.dropHead?_eq_some.1 found).symm⟩
          rw [parameter.undashed] at begins
          cases begins
        exact congrArg (Option.getD · _) none
  rw [undashed]
  exact parameter.solid.strip

theorem solid_described (dash : Bool) : Text.Solid (parameter.described dash) := by
  cases dash with
  | false => exact parameter.solid
  | true =>
      obtain ⟨front, c, last, solid⟩ := parameter.solid.last
      exact ⟨⟨'-', _, rfl, by decide⟩, ⟨"- ".toList ++ front, c, by simp [described, last], solid⟩⟩

/-! ## The parts of the text -/

/-- After the type, the text is cut at the first white space in it. -/
theorem readParam_layout {word rest : Text} {blank : Char} {written : Text} {dash : Bool}
    (filled : word ≠ []) (solid : ∀ c ∈ word, Text.isBlank c = false)
    (ends : Text.isBlank blank = true)
    (cut : written ++ ' ' :: parameter.described dash = word ++ blank :: rest) :
    readParam (parameter.layout written dash) =
      { label := "param".toList
        name := (readName word).1
        type := Text.strip parameter.type
        description := Text.strip (dropDash (rest.dropWhile Text.isBlank))
        optional := (readName word).2 } := by
  have body : Text.Solid (word ++ blank :: rest) := by
    obtain ⟨c, others, head⟩ := List.exists_cons_of_ne_nil filled
    obtain ⟨front, last, tail, solidLast⟩ := (parameter.solid_described dash).last
    refine ⟨⟨c, others ++ blank :: rest, by simp [head], solid c (by simp [head])⟩, ?_⟩
    exact ⟨written ++ ' ' :: front, last, by rw [← cut, tail]; simp, solidLast⟩
  have stripped : Text.strip (' ' :: (word ++ blank :: rest)) = word ++ blank :: rest := by
    have trimmed : Text.trimBoth Text.isBlank ([' '] ++ (word ++ blank :: rest) ++ []) = _ :=
      body.trimBoth (fun _ blank => blank) (List.all_eq_true.1 rfl) (by simp)
    rwa [List.append_nil] at trimmed
  unfold readParam layout
  rw [TypeExpression.split_braces parameter.balanced, cut, stripped]
  simp only [firstWord_append filled solid ends]

/-- What is written without white space is read as the name. -/
theorem readParam_word {written : Text} (filled : written ≠ [])
    (solid : ∀ c ∈ written, Text.isBlank c = false) (dash : Bool) :
    readParam (parameter.layout written dash) =
      { label := "param".toList
        name := (readName written).1
        type := Text.strip parameter.type
        description := parameter.description
        optional := (readName written).2 } := by
  have start : (parameter.described dash).dropWhile Text.isBlank = parameter.described dash := by
    obtain ⟨c, rest, head, solid⟩ := (parameter.solid_described dash).first
    rw [head]
    exact List.dropWhile_cons_of_neg (by simp [solid])
  rw [parameter.readParam_layout filled solid (by decide) rfl, start, parameter.strip_described]

theorem readParam_plain (dash : Bool) :
    readParam (parameter.layout parameter.name dash) = parameter.tag false := by
  rw [parameter.readParam_word parameter.named parameter.solid_name,
    readName_plain (parameter.name_free (by decide)), tag]

theorem takeWhile_name (rest : Text) :
    (parameter.name ++ '=' :: rest).takeWhile (· != '=') = parameter.name := by
  have whole : ∀ c ∈ parameter.name, (c != '=') = true := by
    intro c member
    rw [bne_iff_ne]
    rintro rfl
    exact parameter.name_free (by decide) member
  rw [List.takeWhile_append_of_pos whole]
  simp

theorem readParam_bracketed (dash : Bool) :
    readParam (parameter.layout parameter.bracketed dash) = parameter.tag true := by
  have solid : ∀ c ∈ parameter.bracketed, Text.isBlank c = false := by
    intro c member
    simp only [bracketed, List.mem_cons, List.mem_append, List.not_mem_nil, or_false] at member
    rcases member with rfl | member | rfl
    · decide
    · exact parameter.solid_name c member
    · decide
  have whole : parameter.name.takeWhile (· != '=') = parameter.name := by
    refine List.takeWhile_eq_self_iff.2 fun c member => ?_
    rw [bne_iff_ne]
    rintro rfl
    exact parameter.name_free (by decide) member
  rw [parameter.readParam_word (by simp [bracketed]) solid, bracketed, readName_bracketed, whole, tag]

/-- A default without white space stays in its brackets. -/
theorem readParam_defaulted {default : DefaultText}
    (solid : ∀ c ∈ default.1, Text.isBlank c = false) (dash : Bool) :
    readParam (parameter.layout (parameter.defaulted default) dash) = parameter.tag true := by
  have word : ∀ c ∈ parameter.defaulted default, Text.isBlank c = false := by
    intro c member
    simp only [defaulted, List.mem_cons, List.mem_append, List.not_mem_nil, or_false] at member
    rcases member with rfl | member | rfl | member | rfl
    · decide
    · exact parameter.solid_name c member
    · decide
    · exact solid c member
    · decide
  have inner : parameter.defaulted default =
      '[' :: ((parameter.name ++ '=' :: default.1) ++ [']']) := by simp [defaulted]
  rw [parameter.readParam_word (by simp [defaulted]) word, inner, readName_bracketed,
    parameter.takeWhile_name, tag]

/-- A default with white space is cut there, and its brackets are not seen. -/
theorem readParam_cut {default : DefaultText} {before after : Text} {blank : Char}
    (split : default.1 = before ++ blank :: after)
    (solid : ∀ c ∈ before, Text.isBlank c = false) (ends : Text.isBlank blank = true)
    (dash : Bool) :
    readParam (parameter.layout (parameter.defaulted default) dash) =
      { label := "param".toList
        name := '[' :: (parameter.name ++ '=' :: before)
        type := Text.strip parameter.type
        description := Text.strip (dropDash
          ((after ++ ']' :: ' ' :: parameter.described dash).dropWhile Text.isBlank))
        optional := false } := by
  have word : ∀ c ∈ '[' :: (parameter.name ++ '=' :: before), Text.isBlank c = false := by
    intro c member
    simp only [List.mem_cons, List.mem_append] at member
    rcases member with rfl | member | rfl | member
    · decide
    · exact parameter.solid_name c member
    · decide
    · exact solid c member
  have unclosed : ']' ∉ parameter.name ++ '=' :: before := by
    simp only [List.mem_append, List.mem_cons, not_or]
    refine ⟨parameter.name_free (by decide), by decide, fun member => ?_⟩
    exact default.2 ']' (by simp [split, member]) (by decide)
  have cut : parameter.defaulted default ++ ' ' :: parameter.described dash =
      '[' :: (parameter.name ++ '=' :: before) ++
        blank :: (after ++ ']' :: ' ' :: parameter.described dash) := by
    simp [defaulted, split]
  rw [parameter.readParam_layout (by simp) word ends cut, readName_unclosed unclosed]

end Parameter

theorem read_param {label : Text} (known : label ∈ paramLabels) (text : Text) :
    read label text = readParam text := by
  rw [read, if_pos (List.contains_iff_mem.2 known)]

/-- **A parameter is read as it is written, unless its default has white space.**  The name alone
and the name in brackets are read back with every type and description, with a dash or without one.
A name with a default is read back just if there is no white space in the default; else the first
white space ends the name, with the bracket before it, and the parameter is not optional. -/
theorem parameter_reads_back {label : Text} (known : label ∈ paramLabels) (parameter : Parameter)
    (default : DefaultText) (dash : Bool) :
    read label (parameter.layout parameter.name dash) = parameter.tag false ∧
    read label (parameter.layout parameter.bracketed dash) = parameter.tag true ∧
    (read label (parameter.layout (parameter.defaulted default) dash) = parameter.tag true ↔
      ∀ c ∈ default.1, Text.isBlank c = false) ∧
    ∀ before blank after, default.1 = before ++ blank :: after →
      (∀ c ∈ before, Text.isBlank c = false) → Text.isBlank blank = true →
      read label (parameter.layout (parameter.defaulted default) dash) =
        { label := "param".toList
          name := '[' :: (parameter.name ++ '=' :: before)
          type := Text.strip parameter.type
          description := Text.strip (dropDash
            ((after ++ ']' :: ' ' :: parameter.described dash).dropWhile Text.isBlank))
          optional := false } := by
  simp only [read_param known]
  refine ⟨parameter.readParam_plain dash, parameter.readParam_bracketed dash,
    ⟨fun reads => ?_, fun solid => parameter.readParam_defaulted solid dash⟩,
    fun before blank after split solid ends => parameter.readParam_cut split solid ends dash⟩
  by_contra spaced
  -- The first white space of the default ends the name, and then the parameter is not optional.
  have some : (default.1.find? Text.isBlank).isSome = true := by
    rw [List.find?_isSome]
    simpa using spaced
  obtain ⟨blank, found⟩ := Option.isSome_iff_exists.1 some
  obtain ⟨ends, before, after, split, solid⟩ := List.find?_eq_some_iff_append.1 found
  have cut := parameter.readParam_cut split (by simpa using solid) ends dash
  rw [cut] at reads
  exact absurd (congrArg Tag.optional reads) (by simp [Parameter.tag])

/-- The parameter `depth` with a type that has braces of its own. -/
def depthParameter : Parameter where
  type := " Map<string, \x7ba: \x7b\x7d\x7d> ".toList
  name := "depth".toList
  description := "Heading depth.".toList
  balanced := by decide
  named := by decide
  plain := List.forall_iff_forall_mem.1 (by simp [Text.isBlank, Text.inRanges, Text.blankRanges])
  solid := ⟨⟨'H', _, rfl, by decide⟩, ⟨"Heading depth".toList, '.', rfl, by decide⟩⟩
  undashed := by decide

/-- The default `a={`. -/
def bracedDefault : DefaultText := ⟨"a=\x7b".toList, List.forall_iff_forall_mem.1 (by simp)⟩

/-- Braces in the type and in the default, and an equals sign in the default, are no trouble. -/
theorem parameter_reads_back_of_depth :
    "arg".toList ∈ paramLabels ∧
    read "arg".toList
        "\x7b Map<string, \x7ba: \x7b\x7d\x7d> \x7d [depth=a=\x7b] - Heading depth.".toList =
      { label := "param".toList
        name := "depth".toList
        type := "Map<string, \x7ba: \x7b\x7d\x7d>".toList
        description := "Heading depth.".toList
        optional := true } := by
  have known : "arg".toList ∈ paramLabels := by decide
  obtain ⟨-, -, reads, -⟩ := parameter_reads_back known depthParameter bracedDefault true
  exact ⟨known, reads.2 (List.forall_iff_forall_mem.1 (by decide))⟩

/-- **A default with white space is not read back.**  The bracket goes to the name, and the rest of
the default to the description. -/
theorem spaced_default_is_cut :
    read "param".toList "\x7bstring\x7d [n=a b] s".toList =
      { label := "param".toList
        name := "[n=a".toList
        type := "string".toList
        description := "b] s".toList
        optional := false } := by
  decide

end ExportDocs.Tag
