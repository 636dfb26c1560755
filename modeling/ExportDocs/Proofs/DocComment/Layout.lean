/-
# ExportDocs.Proofs.DocComment.Layout -- a doc comment in its usual layout

The usual layout of a doc comment has a line for each line of the description and of the tags, after
an asterisk in a column of its own, and the two delimiters on lines by themselves (`layout`).  The
reader cleans every line for itself, so what stands after the column is kept as it is, but for white
space at its end (`cleanLine_column`).  Blank lines at either end of a comment make no difference to
what is read (`parse_eq_ofLines`), and a tag's lines come back as its label and its text
(`readSection_entry`).

So the layout is undone (`parse_layout`).  Only a closing delimiter at the end of a line is lost,
also where white space follows it; a tag whose label ends in one and that has no text on its line is
therefore not read back (`delimiter_after_label_is_cut`).
-/
import ExportDocs.DocComment
import ExportDocs.Proofs.DocComment.TypeExpression

namespace ExportDocs

set_option autoImplicit false

/-! ## Ends of texts -/

namespace Text

theorem trimBoth_cons {drop : Char → Bool} {c : Char} (dropped : drop c = true) (t : Text) :
    trimBoth drop (c :: t) = trimBoth drop t := by
  rw [trimBoth, List.dropWhile_cons_of_pos dropped, trimBoth]

theorem trimBoth_concat {drop : Char → Bool} {c : Char} (dropped : drop c = true) (t : Text) :
    trimBoth drop (t ++ [c]) = trimBoth drop t := by
  rw [trimBoth, trimBoth, List.dropWhile_append]
  split
  · rename_i none
    simp [List.isEmpty_iff.1 none, dropped]
  · simp [dropped]

/-- A space before a line is seen just if the line is not blank. -/
theorem stripEnd_space (line : Text) :
    stripEnd (' ' :: line) = if stripEnd line = [] then [] else ' ' :: stripEnd line := by
  have blank : isBlank ' ' = true := by decide
  simp only [stripEnd, trimEnd, List.reverse_cons, List.dropWhile_append]
  by_cases none : line.reverse.dropWhile isBlank = []
  · simp [none, blank]
  · simp [none]

theorem stripEnd_of_allBlank {t : Text} (blank : allBlank t = true) : stripEnd t = [] := by
  rw [stripEnd, trimEnd, List.reverse_eq_nil_iff, List.dropWhile_eq_nil_iff]
  intro c member
  exact List.all_eq_true.1 blank c (List.mem_reverse.1 member)

theorem strip_eq_nil_iff {t : Text} : strip t = [] ↔ allBlank t = true := by
  rw [allBlank, List.all_eq_true, strip, trimBoth, List.reverse_eq_nil_iff,
    List.dropWhile_eq_nil_iff]
  simp only [List.mem_reverse]
  constructor
  · intro blank c member
    by_contra solid
    have kept : c ∈ t.dropWhile isBlank := by
      obtain ⟨before, after, rfl⟩ := List.append_of_mem member
      rw [dropWhile_append_cons isBlank (by simpa using solid)]
      simp
    exact solid (blank c kept)
  · intro blank c member
    exact blank c ((List.dropWhile_sublist _).subset member)

/-- A text that stripping leaves as it is has no white space at its ends. -/
theorem Solid.of_strip {t : Text} (filled : t ≠ []) (trimmed : Text.strip t = t) : Solid t := by
  have shorter : ∀ u : Text, (Text.strip u).length ≤ u.length := by
    intro u
    rw [Text.strip, Text.trimBoth, List.length_reverse]
    have last := List.length_dropWhile_le isBlank (u.dropWhile isBlank).reverse
    have first := List.length_dropWhile_le isBlank u
    rw [List.length_reverse] at last
    omega
  constructor
  · obtain ⟨c, rest, rfl⟩ := List.exists_cons_of_ne_nil filled
    refine ⟨c, rest, rfl, Bool.eq_false_iff.2 fun blank => ?_⟩
    have bound := shorter rest
    rw [Text.strip, trimBoth_cons blank] at trimmed
    rw [Text.strip, trimmed, List.length_cons] at bound
    omega
  · obtain ⟨front, c, rfl⟩ := (List.eq_nil_or_concat t).resolve_left filled
    rw [List.concat_eq_append] at trimmed ⊢
    refine ⟨front, c, rfl, Bool.eq_false_iff.2 fun blank => ?_⟩
    have bound := shorter front
    rw [Text.strip, trimBoth_concat blank] at trimmed
    rw [Text.strip, trimmed, List.length_append, List.length_singleton] at bound
    omega

theorem Solid.stripEnd {t : Text} (solid : Solid t) : Text.stripEnd t = t := by
  obtain ⟨front, c, rfl, last⟩ := solid.last
  exact trimEnd_append_cons isBlank last front []

theorem stripEnd_of_strip {t : Text} (trimmed : strip t = t) : stripEnd t = t := by
  by_cases none : t = []
  · subst none
    rfl
  · exact (Solid.of_strip none trimmed).stripEnd

/-! ## Lines -/

theorem linesWithEnds_cons {c : Char} (unbroken : isLineBreak c = false) (t : Text) :
    linesWithEnds (c :: t) =
      (c :: (linesWithEnds t).headD []) :: (linesWithEnds t).tail := by
  have other : c ≠ '\r' := by
    rintro rfl
    exact absurd unbroken (by decide)
  rw [linesWithEnds.eq_def]
  split
  · rename_i none
    cases none
  · rename_i same
    exact absurd (List.cons.inj same).1 other
  · rename_i same
    obtain ⟨rfl, rfl⟩ := List.cons.inj same
    rw [if_neg (by simp [unbroken])]
    cases linesWithEnds t <;> rfl

theorem linesWithEnds_append {line : Text} (unbroken : ∀ c ∈ line, isLineBreak c = false)
    (rest : Text) :
    linesWithEnds (line ++ '\n' :: rest) = (line ++ ['\n']) :: linesWithEnds rest := by
  induction line with
  | nil => rfl
  | cons c line ih =>
      obtain ⟨here, later⟩ := List.forall_mem_cons.1 unbroken
      rw [List.cons_append, linesWithEnds_cons here, ih later]
      rfl

theorem linesWithEnds_line {line : Text} (unbroken : ∀ c ∈ line, isLineBreak c = false)
    (filled : line ≠ []) : linesWithEnds line = [line] := by
  induction line with
  | nil => exact absurd rfl filled
  | cons c line ih =>
      obtain ⟨here, later⟩ := List.forall_mem_cons.1 unbroken
      rw [linesWithEnds_cons here]
      by_cases last : line = []
      · subst last
        rfl
      · rw [ih later last]
        rfl

/-- **Lines that are joined with line feeds are cut again where they were joined.** -/
theorem lines_joinWith {front : List Text} {last : Text}
    (unbroken : ∀ line ∈ front ++ [last], ∀ c ∈ line, isLineBreak c = false) (filled : last ≠ []) :
    lines (joinWith ['\n'] (front ++ [last])) = front ++ [last] := by
  have whole : ∀ line ∈ front ++ [last], line.filter (!isLineBreak ·) = line := by
    intro line member
    exact List.filter_eq_self.2 fun c inLine => by simp [unbroken line member c inLine]
  have ended : ∀ line ∈ front ++ [last], (line ++ ['\n']).filter (!isLineBreak ·) = line := by
    intro line member
    rw [List.filter_append, whole line member]
    exact List.append_nil line
  rw [joinWith_concat]
  induction front with
  | nil =>
      have single : lines last = [last.filter (!isLineBreak ·)] := by
        rw [lines, linesWithEnds_line (unbroken last (by simp)) filled, List.map_singleton]
      rw [List.flatMap_nil, List.nil_append, single, whole last (by simp), List.nil_append]
  | cons line front ih =>
      have later : ∀ other ∈ front ++ [last], other ∈ line :: front ++ [last] :=
        fun other member => List.mem_cons_of_mem line member
      have cut : lines (line ++ '\n' :: (front.flatMap (· ++ ['\n']) ++ last)) =
          (line ++ ['\n']).filter (!isLineBreak ·) ::
            lines (front.flatMap (· ++ ['\n']) ++ last) := by
        rw [lines, linesWithEnds_append (unbroken line (by simp)), List.map_cons, lines]
      have joined : (line :: front).flatMap (· ++ ['\n']) ++ last =
          line ++ '\n' :: (front.flatMap (· ++ ['\n']) ++ last) := by simp
      rw [joined, cut, ended line (by simp),
        ih (fun other member => unbroken other (later other member))
          (fun other member => whole other (later other member))
          (fun other member => ended other (later other member))]
      rfl

theorem map_eq_self {f : Text → Text} {lines : List Text} (same : ∀ line ∈ lines, f line = line) :
    lines.map f = lines := by
  conv => rhs; rw [← List.map_id lines]
  exact List.map_congr_left same

/-- An empty part at the end adds a separator. -/
theorem joinWith_concat_nil (separator : Text) {parts : List Text} (filled : parts ≠ []) :
    joinWith separator (parts ++ [[]]) = joinWith separator parts ++ separator := by
  obtain ⟨front, last, rfl⟩ := (List.eq_nil_or_concat parts).resolve_left filled
  rw [List.concat_eq_append, joinWith_concat, joinWith_concat]
  simp

end Text

namespace DocComment

/-! ## Blank lines at the ends -/

/-- What is read from cleaned lines, whether the outer ones are blank or not. -/
def ofLines (lines : List Text) : DocComment :=
  { description := Text.strip (Text.joinWith ['\n'] ((sections lines).1.map Text.strip))
    tags := (sections lines).2.map fun part => readSection part.1 part.2 }

theorem sections_untagged {line : Text} (untagged : startsTag line = false) (rest : List Text) :
    sections (line :: rest) = (line :: (sections rest).1, (sections rest).2) := by
  simp [sections, untagged]

theorem sections_tagged {line : Text} (tagged : startsTag line = true) (rest : List Text) :
    sections (line :: rest) = ([], (line, (sections rest).1) :: (sections rest).2) := by
  simp [sections, tagged]

theorem ofLines_cons_nil (rest : List Text) : ofLines ([] :: rest) = ofLines rest := by
  have description : Text.strip (Text.joinWith ['\n'] (([] :: (sections rest).1).map Text.strip)) =
      Text.strip (Text.joinWith ['\n'] ((sections rest).1.map Text.strip)) := by
    cases (sections rest).1 with
    | nil => rfl
    | cons line lines => exact Text.trimBoth_cons (by decide) _
  rw [ofLines, sections_untagged rfl, description, ofLines]

/-- A blank line at the end goes to the last tag, or to the description if there are no tags. -/
theorem sections_concat_nil (lines : List Text) :
    ((sections lines).2 = [] ∧ sections (lines ++ [[]]) = ((sections lines).1 ++ [[]], [])) ∨
    ∃ front tagLine more, (sections lines).2 = front ++ [(tagLine, more)] ∧
      sections (lines ++ [[]]) = ((sections lines).1, front ++ [(tagLine, more ++ [[]])]) := by
  induction lines with
  | nil => exact .inl ⟨rfl, rfl⟩
  | cons line rest ih =>
      rw [List.cons_append]
      cases tagged : startsTag line with
      | true =>
          rw [sections_tagged tagged, sections_tagged tagged]
          rcases ih with ⟨none, longer⟩ | ⟨front, tagLine, more, last, longer⟩
          · exact .inr ⟨[], line, (sections rest).1, by simp [none], by simp [longer]⟩
          · exact .inr ⟨(line, (sections rest).1) :: front, tagLine, more, by simp [last],
              by simp [longer]⟩
      | false =>
          rw [sections_untagged tagged, sections_untagged tagged]
          rcases ih with ⟨none, longer⟩ | ⟨front, tagLine, more, last, longer⟩
          · exact .inl ⟨none, by simp [longer]⟩
          · exact .inr ⟨front, tagLine, more, last, by simp [longer]⟩

theorem sectionText_concat_nil (label first : Text) (more : List Text) :
    sectionText label first (more ++ [[]]) = sectionText label first more := by
  unfold sectionText
  split
  · rw [← List.cons_append, Text.joinWith_concat_nil _ (by simp)]
    exact Text.trimBoth_concat (by decide) _
  · rw [← List.cons_append, List.map_append, List.filter_append]
    exact congrArg _ (List.append_nil _)

theorem ofLines_concat_nil (lines : List Text) : ofLines (lines ++ [[]]) = ofLines lines := by
  rcases sections_concat_nil lines with ⟨none, longer⟩ | ⟨front, tagLine, more, last, longer⟩
  · have description :
        Text.strip (Text.joinWith ['\n'] (((sections lines).1 ++ [[]]).map Text.strip)) =
          Text.strip (Text.joinWith ['\n'] ((sections lines).1.map Text.strip)) := by
      by_cases empty : (sections lines).1 = []
      · rw [empty]
        rfl
      · rw [List.map_append, List.map_singleton]
        show Text.strip (Text.joinWith ['\n'] (_ ++ [[]])) = _
        rw [Text.joinWith_concat_nil _ (by simpa using empty)]
        exact Text.trimBoth_concat (by decide) _
    rw [ofLines, longer, description, ofLines, none]
  · have same : readSection tagLine (more ++ [[]]) = readSection tagLine more := by
      simp only [readSection, sectionText_concat_nil]
    rw [ofLines, longer, ofLines, last]
    simp only [List.map_append, List.map_singleton, same]

/-- Blank lines at the ends make no difference where every blank line is empty. -/
theorem ofLines_trimmed {lines : List Text}
    (empty : ∀ line ∈ lines, Text.allBlank line = true → line = []) :
    ofLines ((lines.dropWhile Text.allBlank).reverse.dropWhile Text.allBlank).reverse =
      ofLines lines := by
  have front : ∀ lines : List Text, (∀ line ∈ lines, Text.allBlank line = true → line = []) →
      ofLines (lines.dropWhile Text.allBlank) = ofLines lines := by
    intro lines empty
    induction lines with
    | nil => rfl
    | cons line rest ih =>
        obtain ⟨here, later⟩ := List.forall_mem_cons.1 empty
        by_cases blank : Text.allBlank line = true
        · rw [List.dropWhile_cons_of_pos blank, ih later, here blank, ofLines_cons_nil]
        · rw [List.dropWhile_cons_of_neg blank]
  have back : ∀ reversed : List Text,
      (∀ line ∈ reversed, Text.allBlank line = true → line = []) →
      ofLines (reversed.dropWhile Text.allBlank).reverse = ofLines reversed.reverse := by
    intro reversed empty
    induction reversed with
    | nil => rfl
    | cons line rest ih =>
        obtain ⟨here, later⟩ := List.forall_mem_cons.1 empty
        by_cases blank : Text.allBlank line = true
        · rw [List.dropWhile_cons_of_pos blank, ih later, here blank, List.reverse_cons,
            ofLines_concat_nil]
        · rw [List.dropWhile_cons_of_neg blank]
  rw [back _ fun line member => empty line
    ((List.dropWhile_sublist _).subset (List.mem_reverse.1 member)), List.reverse_reverse,
    front lines empty]

/-- **What is read of a comment is read from its cleaned lines.**  Blank ones at the ends need not
be dropped first. -/
theorem parse_eq_ofLines (comment : Text) :
    parse comment = ofLines ((Text.lines comment).map cleanLine) := by
  have empty : ∀ line ∈ (Text.lines comment).map cleanLine,
      Text.allBlank line = true → line = [] := by
    intro line member blank
    obtain ⟨raw, -, rfl⟩ := List.mem_map.1 member
    rw [← Text.stripEnd_of_allBlank blank]
    exact (Text.stripEnd_stripEnd _).symm
  exact ofLines_trimmed empty

/-! ## The layout -/

/-- A tag as it is laid out: its label, the text on the line of the label, and further lines. -/
structure Entry where
  label : Text
  first : Text
  more : List Text
  deriving DecidableEq, Repr

namespace Entry

/-- The line of the label. -/
def tagLine (entry : Entry) : Text := '@' :: entry.label ++ ' ' :: entry.first

/-- The text that is meant: the lines of an example, without line feeds at its ends, and the words
of the lines of any other tag. -/
def body (entry : Entry) : Text :=
  if entry.label = "example".toList then
    Text.trimBoth (· == '\n') (Text.joinWith ['\n'] (entry.first :: entry.more))
  else
    Text.joinWith [' ']
      (((entry.first :: entry.more).filter (!Text.allBlank ·)).map Text.strip)

/-- A tag that can be laid out.  The label is a word in lower case, and further lines begin no tag
of their own. -/
structure IsProper (entry : Entry) : Prop where
  labelled : entry.label ≠ []
  word : ∀ c ∈ entry.label, Text.isBlank c = false
  lower : Text.lower entry.label = entry.label
  trimmed : Text.strip entry.first = entry.first
  ended : ∀ line ∈ entry.more, Text.stripEnd line = line
  untagged : ∀ line ∈ entry.more, (Text.strip line).head? ≠ some '@'

instance : DecidablePred IsProper := fun entry =>
  decidable_of_iff
    (entry.label ≠ [] ∧ entry.label.all (!Text.isBlank ·) = true ∧
      Text.lower entry.label = entry.label ∧ Text.strip entry.first = entry.first ∧
      (∀ line ∈ entry.more, Text.stripEnd line = line) ∧
      ∀ line ∈ entry.more, (Text.strip line).head? ≠ some '@') <| by
    simp only [List.all_eq_true, Bool.not_eq_true']
    constructor
    · rintro ⟨labelled, word, lower, trimmed, ended, untagged⟩
      exact ⟨labelled, word, lower, trimmed, ended, untagged⟩
    · rintro ⟨labelled, word, lower, trimmed, ended, untagged⟩
      exact ⟨labelled, word, lower, trimmed, ended, untagged⟩

end Entry

/-- A description that can be laid out: no line has white space at its ends or begins a tag, and the
outer lines are not empty. -/
structure IsDescription (lines : List Text) : Prop where
  trimmed : ∀ line ∈ lines, Text.strip line = line
  untagged : ∀ line ∈ lines, line.head? ≠ some '@'
  opens : lines.head? ≠ some []
  closes : lines.getLast? ≠ some []

/-- No line break stands in the line. -/
def IsUnbroken (line : Text) : Prop := ∀ c ∈ line, Text.isLineBreak c = false

instance : DecidablePred IsUnbroken := fun line =>
  decidable_of_iff (line.all (!Text.isLineBreak ·) = true) (by simp [IsUnbroken])

/-- The lines of a comment between its delimiters. -/
def innerLines (description : List Text) (entries : List Entry) : List Text :=
  description ++ entries.flatMap fun entry => entry.tagLine :: entry.more

/-- The usual layout of a doc comment. -/
def layout (description : List Text) (entries : List Entry) : Text :=
  Text.joinWith ['\n'] ("/**".toList ::
    (innerLines description entries).map (" * ".toList ++ ·) ++ [" */".toList])

/-- The comment that is meant. -/
def meant (description : List Text) (entries : List Entry) : DocComment :=
  { description := Text.joinWith ['\n'] description
    tags := entries.map fun entry => Tag.read entry.label entry.body }

/-- What stands after the column of asterisks is kept, but for white space at its end. -/
theorem cleanLine_column {line : Text}
    (unclosed : Text.endsWith (Text.stripEnd line) "*/".toList = false) :
    cleanLine (" * ".toList ++ line) = Text.stripEnd line := by
  have stripped : Text.strip (" * ".toList ++ line) = '*' :: Text.stripEnd (' ' :: line) :=
    Text.strip_append_cons (c := '*') (by decide) [' '] (' ' :: line)
  have opening : without "/**".toList ('*' :: Text.stripEnd (' ' :: line)) =
      '*' :: Text.stripEnd (' ' :: line) := rfl
  have column : ∀ t : Text, without ['*'] ('*' :: t) = t := fun t => rfl
  simp only [cleanLine, stripped, opening]
  rw [Text.stripEnd_space]
  by_cases blank : Text.stripEnd line = []
  · rw [if_pos blank, blank]
    rfl
  · rw [if_neg blank]
    have closing : Text.endsWith ('*' :: ' ' :: Text.stripEnd line) "*/".toList = false := by
      rw [← unclosed]
      exact Text.endsWith_append_cons (by decide) ['*'] (Text.stripEnd line)
    have space : without [' '] (' ' :: Text.stripEnd line) = Text.stripEnd line := rfl
    rw [withoutEnd, closing, if_neg (by simp), column, space, Text.stripEnd_stripEnd]

theorem clean_layout {description : List Text} {entries : List Entry}
    (unbroken : ∀ line ∈ innerLines description entries, IsUnbroken line)
    (unclosed : ∀ line ∈ innerLines description entries,
      Text.endsWith (Text.stripEnd line) "*/".toList = false) :
    (Text.lines (layout description entries)).map cleanLine =
      [] :: (innerLines description entries).map Text.stripEnd ++ [[]] := by
  have fixed : IsUnbroken "/**".toList ∧ IsUnbroken " * ".toList ∧ IsUnbroken " */".toList := by
    decide
  have cut : Text.lines (layout description entries) =
      "/**".toList :: (innerLines description entries).map (" * ".toList ++ ·) ++
        [" */".toList] := by
    refine Text.lines_joinWith ?_ (by decide)
    intro line member c inLine
    simp only [List.mem_append, List.mem_cons, List.mem_map, List.not_mem_nil, or_false] at member
    rcases member with (rfl | ⟨inner, isInner, rfl⟩) | rfl
    · exact fixed.1 c inLine
    · rcases List.mem_append.1 inLine with inColumn | inInner
      · exact fixed.2.1 c inColumn
      · exact unbroken inner isInner c inInner
    · exact fixed.2.2 c inLine
  have inside : ((innerLines description entries).map (" * ".toList ++ ·)).map cleanLine =
      (innerLines description entries).map Text.stripEnd := by
    rw [List.map_map]
    refine List.map_congr_left fun line isInner => ?_
    rw [Function.comp_apply, cleanLine_column (unclosed line isInner)]
  have opening : cleanLine "/**".toList = [] := by decide
  have closing : cleanLine " */".toList = [] := by decide
  rw [cut, List.map_append, List.map_cons, inside, opening, List.map_singleton, closing]

/-! ## The parts of a layout -/

theorem sections_append {front : List Text} (untagged : ∀ line ∈ front, startsTag line = false)
    (rest : List Text) :
    sections (front ++ rest) = (front ++ (sections rest).1, (sections rest).2) := by
  induction front with
  | nil => rfl
  | cons line front ih =>
      obtain ⟨here, later⟩ := List.forall_mem_cons.1 untagged
      rw [List.cons_append, sections_untagged here, ih later, List.cons_append]

namespace Entry.IsProper

variable {entry : Entry}

/-- The line of a label, as it is read: white space at its end is gone. -/
theorem strip_tagLine (proper : entry.IsProper) :
    Text.strip (Text.stripEnd entry.tagLine) =
      '@' :: (entry.label ++ if entry.first = [] then [] else ' ' :: entry.first) := by
  obtain ⟨front, last, label⟩ := (List.eq_nil_or_concat entry.label).resolve_left proper.labelled
  rw [List.concat_eq_append] at label
  have solid : Text.isBlank last = false := proper.word last (by simp [label])
  have whole : Text.strip entry.tagLine =
      '@' :: Text.stripEnd (entry.label ++ ' ' :: entry.first) :=
    Text.strip_append_cons (c := '@') (by decide) [] _
  have ends : Text.stripEnd (entry.label ++ ' ' :: entry.first) =
      entry.label ++ Text.stripEnd (' ' :: entry.first) := by
    rw [label, List.append_assoc, List.append_assoc]
    exact Text.trimEnd_append_cons Text.isBlank solid front (' ' :: entry.first)
  rw [Text.strip_stripEnd, whole, ends, Text.stripEnd_space, Text.stripEnd_of_strip proper.trimmed]

theorem startsTag_tagLine (proper : entry.IsProper) :
    startsTag (Text.stripEnd entry.tagLine) = true := by
  rw [startsTag, proper.strip_tagLine]
  rfl

theorem startsTag_more (proper : entry.IsProper) : ∀ line ∈ entry.more, startsTag line = false := by
  intro line member
  rw [startsTag, beq_eq_false_iff_ne]
  exact proper.untagged line member

/-- The label ends at the first space of its line. -/
theorem readTagLine_tagLine (proper : entry.IsProper) :
    readTagLine (Text.stripEnd entry.tagLine) = (entry.label, entry.first) := by
  have spaceless : ∀ c ∈ entry.label, (c != ' ') = true := by
    intro c member
    rw [bne_iff_ne]
    rintro rfl
    exact absurd (proper.word ' ' member) (by decide)
  simp only [readTagLine, proper.strip_tagLine, List.drop_succ_cons, List.drop_zero,
    List.takeWhile_append_of_pos spaceless, List.dropWhile_append_of_pos spaceless]
  by_cases bare : entry.first = []
  · simp [bare, proper.lower]
  · simp [bare, proper.lower]

theorem sectionText_eq_body (entry : Entry) :
    sectionText entry.label entry.first entry.more = entry.body := by
  have words : ((entry.first :: entry.more).map Text.strip).filter (!·.isEmpty) =
      ((entry.first :: entry.more).filter (!Text.allBlank ·)).map Text.strip := by
    rw [List.filter_map]
    congr 1
    refine List.filter_congr fun line _ => ?_
    have same : (Text.strip line).isEmpty = Text.allBlank line := by
      rw [Bool.eq_iff_iff, List.isEmpty_iff, Text.strip_eq_nil_iff]
    simp [same]
  rw [sectionText, body, words]
  simp only [beq_iff_eq]
  rfl

/-- **The lines of a tag are read as its label and its text.** -/
theorem readSection_entry (proper : entry.IsProper) :
    readSection (Text.stripEnd entry.tagLine) entry.more = Tag.read entry.label entry.body := by
  simp only [readSection, proper.readTagLine_tagLine, sectionText_eq_body]

end Entry.IsProper

theorem sections_entries {entries : List Entry} (proper : ∀ entry ∈ entries, entry.IsProper) :
    sections (entries.flatMap fun entry => Text.stripEnd entry.tagLine :: entry.more) =
      ([], entries.map fun entry => (Text.stripEnd entry.tagLine, entry.more)) := by
  induction entries with
  | nil => rfl
  | cons entry entries ih =>
      obtain ⟨here, later⟩ := List.forall_mem_cons.1 proper
      rw [List.flatMap_cons, List.cons_append, sections_tagged here.startsTag_tagLine,
        sections_append here.startsTag_more, ih later, List.append_nil, List.map_cons]

theorem IsDescription.startsTag {lines : List Text} (isDescription : IsDescription lines) :
    ∀ line ∈ lines, DocComment.startsTag line = false := by
  intro line member
  rw [DocComment.startsTag, isDescription.trimmed line member, beq_eq_false_iff_ne]
  exact isDescription.untagged line member

/-- Nothing is cut off the ends of a description. -/
theorem IsDescription.strip_joinWith {lines : List Text} (isDescription : IsDescription lines) :
    Text.strip (Text.joinWith ['\n'] (lines.map Text.strip)) = Text.joinWith ['\n'] lines := by
  rw [Text.map_eq_self isDescription.trimmed]
  by_cases none : lines = []
  · subst none
    rfl
  · obtain ⟨front, last, rfl⟩ := (List.eq_nil_or_concat lines).resolve_left none
    rw [List.concat_eq_append] at isDescription ⊢
    have solid : ∀ line ∈ front ++ [last], line ≠ [] → Text.Solid line :=
      fun line member filled => .of_strip filled (isDescription.trimmed line member)
    have solidLast : Text.Solid last := by
      refine solid last (by simp) ?_
      rintro rfl
      exact isDescription.closes (by simp)
    refine Text.Solid.strip ⟨?_, ?_⟩
    · cases front with
      | nil => exact solidLast.first
      | cons head front =>
          have solidHead : Text.Solid head := by
            refine solid head (by simp) ?_
            rintro rfl
            exact isDescription.opens (by simp)
          obtain ⟨c, rest, rfl, first⟩ := solidHead.first
          rw [Text.joinWith_concat]
          exact ⟨c, _, by rw [List.flatMap_cons]; rfl, first⟩
    · obtain ⟨before, c, rfl, ends⟩ := solidLast.last
      rw [Text.joinWith_concat, ← List.append_assoc]
      exact ⟨_, c, rfl, ends⟩

theorem map_stripEnd_innerLines {description : List Text} {entries : List Entry}
    (isDescription : IsDescription description) (proper : ∀ entry ∈ entries, entry.IsProper) :
    (innerLines description entries).map Text.stripEnd =
      description ++ entries.flatMap fun entry => Text.stripEnd entry.tagLine :: entry.more := by
  have kept : description.map Text.stripEnd = description :=
    Text.map_eq_self fun line member => Text.stripEnd_of_strip (isDescription.trimmed line member)
  rw [innerLines, List.map_append, List.map_flatMap, kept]
  congr 1
  refine List.flatMap_congr fun entry member => ?_
  rw [List.map_cons, Text.map_eq_self (proper entry member).ended]

/-- **The usual layout of a doc comment is undone by the reader.**  The description and every tag
come back as they were laid out, as long as no line has a line break in it or, white space at its
end aside, a closing delimiter at its end. -/
theorem parse_layout {description : List Text} {entries : List Entry}
    (isDescription : IsDescription description) (proper : ∀ entry ∈ entries, entry.IsProper)
    (unbroken : ∀ line ∈ innerLines description entries, IsUnbroken line)
    (unclosed : ∀ line ∈ innerLines description entries,
      Text.endsWith (Text.stripEnd line) "*/".toList = false) :
    parse (layout description entries) = meant description entries := by
  have parts : sections ((innerLines description entries).map Text.stripEnd) =
      (description, entries.map fun entry => (Text.stripEnd entry.tagLine, entry.more)) := by
    rw [map_stripEnd_innerLines isDescription proper, sections_append isDescription.startsTag,
      sections_entries proper, List.append_nil]
  have tags : (entries.map fun entry => (Text.stripEnd entry.tagLine, entry.more)).map
      (fun part => readSection part.1 part.2) =
        entries.map fun entry => Tag.read entry.label entry.body := by
    rw [List.map_map]
    refine List.map_congr_left fun entry member => ?_
    rw [Function.comp_apply, (proper entry member).readSection_entry]
  rw [parse_eq_ofLines, clean_layout unbroken unclosed, ofLines_concat_nil, ofLines_cons_nil,
    ofLines, parts, isDescription.strip_joinWith, tags, meant]

/-- A description of two paragraphs, a parameter over two lines and an example with indentation and
blank lines. -/
theorem parse_layout_of_example :
    let description := ["* Adds /two/ numbers.".toList, [], "Twice.".toList]
    let entries : List Entry :=
      [{ label := "param".toList, first := "\x7b\x7ba: \x7b\x7d\x7d\x7d sum".toList
         more := ["  - The".toList, [], " sum.".toList] },
        { label := "example".toList, first := []
          more := ["if (a) \x7b".toList, [], "    add(a);".toList, "\x7d".toList, []] },
        { label := "internal".toList, first := [], more := [] }]
    IsDescription description ∧ (∀ entry ∈ entries, entry.IsProper) ∧
    parse (layout description entries) =
      { description := "* Adds /two/ numbers.\n\nTwice.".toList
        tags :=
          [{ label := "param".toList, name := "sum".toList, type := "\x7ba: \x7b\x7d\x7d".toList
             description := "The sum.".toList },
            { label := "example".toList
              description := "if (a) \x7b\n\n    add(a);\n\x7d".toList },
            { label := "internal".toList }] } := by
  intro description entries
  have isDescription : IsDescription description :=
    ⟨by decide, by decide, by decide, by decide⟩
  have proper : ∀ entry ∈ entries, entry.IsProper := by decide
  have read := parse_layout isDescription proper (by decide) (by decide)
  exact ⟨isDescription, proper, read.trans (by decide)⟩

/-- **A closing delimiter is also cut off where white space follows it.**  A label that ends in one,
with no text on its line, is laid out with a space behind it and read without the delimiter. -/
theorem delimiter_after_label_is_cut :
    ¬ ∀ (description : List Text) (entries : List Entry), IsDescription description →
      (∀ entry ∈ entries, entry.IsProper) →
      (∀ line ∈ innerLines description entries, IsUnbroken line) →
      (∀ line ∈ innerLines description entries, Text.endsWith line "*/".toList = false) →
      parse (layout description entries) = meant description entries := by
  intro undone
  have read := undone [] [{ label := "a*/".toList, first := [], more := [] }]
    ⟨by decide, by decide, by decide, by decide⟩ (by decide) (by decide) (by decide)
  exact absurd read (by decide)

end DocComment

end ExportDocs
