/-
# ExportDocs.Proofs.Report.Lines -- the lines of a report

The texts that a report is made of take one line each, but for examples.  Read again, a report has
the lines of these texts (`sourceLines_render`): what is cut off at its end does not reach back over
a text that ends with something else than a line feed.
-/
import ExportDocs.Markdown
import ExportDocs.Proofs.Report.Order
import ExportDocs.Proofs.Report.SourceLinks

namespace ExportDocs

set_option autoImplicit false

/-! ## Texts without some characters -/

namespace Text

/-- None of the characters occurs. -/
def Without (special : List Char) (t : Text) : Prop := ∀ c ∈ t, c ∉ special

variable {special : List Char}

theorem without_nil : Without special [] := fun _ member => absurd member List.not_mem_nil

theorem without_of_all {t : Text} (all : t.all (!special.contains ·) = true) :
    Without special t := by
  intro c member
  simpa using List.all_eq_true.1 all c member

theorem without_append {t u : Text} :
    Without special (t ++ u) ↔ Without special t ∧ Without special u :=
  List.forall_mem_append

theorem without_cons {c : Char} {t : Text} :
    Without special (c :: t) ↔ c ∉ special ∧ Without special t :=
  List.forall_mem_cons

theorem Without.joinWith {separator : Text} {parts : List Text}
    (between : Without special separator) (each : ∀ part ∈ parts, Without special part) :
    Without special (joinWith separator parts) := by
  rcases List.eq_nil_or_concat parts with rfl | ⟨front, last, rfl⟩
  · exact without_nil
  · rw [List.concat_eq_append] at each ⊢
    obtain ⟨inFront, inLast⟩ := List.forall_mem_append.1 each
    rw [joinWith_concat]
    refine without_append.2 ⟨fun c member => ?_, inLast last (by simp)⟩
    obtain ⟨part, among, here⟩ := List.mem_flatMap.1 member
    exact without_append.2 ⟨inFront part among, between⟩ c here

theorem mem_joinWith {c : Char} {separator part : Text} {parts : List Text} (member : part ∈ parts)
    (inside : c ∈ part) : c ∈ joinWith separator parts := by
  rcases List.eq_nil_or_concat parts with rfl | ⟨front, last, rfl⟩
  · cases member
  · rw [List.concat_eq_append] at member ⊢
    rw [joinWith_concat]
    rcases List.mem_append.1 member with early | late
    · exact List.mem_append_left _
        (List.mem_flatMap.2 ⟨part, early, List.mem_append_left _ inside⟩)
    · rw [List.mem_singleton.1 late] at inside
      exact List.mem_append_right _ inside

theorem mem_of_mem_splitAtChar {c d : Char} {t piece : Text} (member : piece ∈ splitAtChar d t)
    (inside : c ∈ piece) : c ∈ t := by
  induction t generalizing piece with
  | nil => simp_all [splitAtChar]
  | cons e t ih =>
      obtain ⟨first, rest, pieces⟩ := List.exists_cons_of_ne_nil (splitAtChar_ne_nil d t)
      rw [pieces] at ih
      rw [splitAtChar, pieces] at member
      split at member
      · rcases List.mem_cons.1 member with rfl | later
        · cases inside
        · exact List.mem_cons_of_mem _ (ih later inside)
      · rcases List.mem_cons.1 member with rfl | later
        · rcases List.mem_cons.1 inside with rfl | inFirst
          · exact List.mem_cons_self
          · exact List.mem_cons_of_mem _ (ih List.mem_cons_self inFirst)
        · exact List.mem_cons_of_mem _ (ih (List.mem_cons_of_mem _ later) inside)

end Text

namespace Path

variable {special : List Char}

theorem without_partsOf {t : Text} (free : Text.Without special t) :
    ∀ part ∈ (ofText t).parts, Text.Without special part := by
  intro part member c inside
  exact free c (Text.mem_of_mem_splitAtChar (List.mem_filter.1 member).1 inside)

variable (slash : '/' ∉ special) (dot : '.' ∉ special)

include slash dot

theorem without_toText {path : Path} (each : ∀ part ∈ path.parts, Text.Without special part) :
    Text.Without special path.toText := by
  have between : Text.Without special ['/'] := Text.without_cons.2 ⟨slash, Text.without_nil⟩
  have roots : Text.Without special (rootText path.root) := by
    cases path.root with
    | current => exact Text.without_nil
    | absolute => exact between
    | network => exact Text.without_cons.2 ⟨slash, between⟩
  unfold toText
  split
  · exact Text.without_cons.2 ⟨dot, Text.without_nil⟩
  · exact Text.without_append.2 ⟨roots, .joinWith between each⟩

/-- The parts of the way between two places are those of its end, or double dots. -/
theorem without_relativeTo {current : List Text} {path : Path} (start : Path)
    (here : ∀ part ∈ current, Text.Without special part)
    (each : ∀ part ∈ path.parts, Text.Without special part) :
    Text.Without special (relativeTo current path start) := by
  have ups : Text.Without special up :=
    Text.without_cons.2 ⟨dot, Text.without_cons.2 ⟨dot, Text.without_nil⟩⟩
  have absolute : ∀ part ∈ absoluteParts current path, Text.Without special part := by
    intro part member
    rcases mem_foldl_take _ _ _ part (List.mem_reverse.1 member) with rfl | none | given
    · exact ups
    · cases none
    · cases root : path.root with
      | current =>
          rw [root] at given
          exact (List.mem_append.1 given).elim (here part) (each part)
      | absolute =>
          rw [root] at given
          exact each part given
      | network =>
          rw [root] at given
          exact each part given
  obtain ⟨common, -, rest⟩ := dropCommon_spec (absoluteParts current start)
    (absoluteParts current path)
  refine without_toText slash dot fun part member => ?_
  rcases List.mem_append.1 member with above | below
  · rw [List.eq_of_mem_replicate above]
    exact ups
  · refine absolute part ?_
    rw [rest]
    exact List.mem_append_right _ below

end Path

namespace Report

/-- A text that stands on one line. -/
abbrev IsLine (t : Text) : Prop := Text.Without ['\n', '\r'] t

/-- A text that can be the label of a link on one line. -/
abbrev IsLabel (t : Text) : Prop := Text.Without ['\n', '\r', '[', ']', '\\'] t

theorem IsLabel.isLine {t : Text} (label : IsLabel t) : IsLine t := by
  intro c member special
  have more : ['\n', '\r'] ⊆ ['\n', '\r', '[', ']', '\\'] := by decide
  exact label c member (more special)

theorem isLabel_lineSpan (symbol : Symbol) : IsLabel (lineSpan symbol) := by
  intro c member special
  have marks : ['\n', '\r', '[', ']', '\\'].all
      (fun c => !(c.isDigit || c == '-' || c == 'L')) = true := by decide
  have other := List.all_eq_true.1 marks c special
  rcases mem_lineSpan member with digit | rfl | rfl
  · simp [digit] at other
  · cases other
  · cases other

/-- The label of the link to a symbol. -/
def linkLabel (symbol : Symbol) : Text :=
  (Path.ofText symbol.path).toText ++ '#' :: lineSpan symbol

theorem sourceLink_eq (place : Place) (symbol : Symbol) :
    sourceLink place symbol = '[' :: (linkLabel symbol ++
      ']' :: '(' :: (sourceTarget place symbol ++ '#' :: lineSpan symbol ++ [')'])) := by
  simp [sourceLink, linkLabel]

theorem isLabel_linkLabel {symbol : Symbol} (path : IsLabel symbol.path) :
    IsLabel (linkLabel symbol) := by
  have text := Path.without_toText (by decide) (by decide) (Path.without_partsOf path)
  exact Text.without_append.2 ⟨text, Text.without_cons.2 ⟨by decide, isLabel_lineSpan symbol⟩⟩

/-- A place whose paths have parts on one line. -/
def Place.IsOnLine (place : Place) : Prop :=
  ∀ part ∈ place.root.parts ++ place.current, IsLine part

theorem isLine_sourceTarget {place : Place} (onLine : place.IsOnLine) {symbol : Symbol}
    (path : IsLabel symbol.path) : IsLine (sourceTarget place symbol) := by
  obtain ⟨roots, here⟩ := List.forall_mem_append.1 onLine
  refine Path.without_relativeTo (by decide) (by decide) _ here ?_
  unfold Path.join
  split
  · exact List.forall_mem_append.2 ⟨roots, Path.without_partsOf path.isLine⟩
  · exact Path.without_partsOf path.isLine

/-! ## Lines of texts -/

/-- The lines of texts. -/
def linesOf (texts : List Text) : List Markdown.Line :=
  (texts.flatMap (Text.splitAtChar '\n')).map fun text => { text }

theorem linesOf_append (texts others : List Text) :
    linesOf (texts ++ others) = linesOf texts ++ linesOf others := by
  simp [linesOf]

theorem linesOf_cons {t : Text} (line : IsLine t) (texts : List Text) :
    linesOf (t :: texts) = { text := t } :: linesOf texts := by
  have alone : Text.splitAtChar '\n' t = [t] :=
    Text.splitAtChar_eq_singleton fun member => line _ member (by decide)
  simp [linesOf, alone]

/-- Texts that are written with their ends are divided there. -/
theorem splitAtChar_written (texts : List Text) (rest : Text) :
    Text.splitAtChar '\n' (written texts ++ rest) =
      texts.flatMap (Text.splitAtChar '\n') ++ Text.splitAtChar '\n' rest := by
  induction texts with
  | nil => rfl
  | cons t texts ih =>
      have first : written (t :: texts) ++ rest = t ++ '\n' :: (written texts ++ rest) := by
        simp [written]
      rw [first, Text.splitAtChar_append_cons, ih, List.flatMap_cons, List.append_assoc]

theorem written_splitAtChar (t : Text) : written (Text.splitAtChar '\n' t) = t ++ ['\n'] := by
  induction t with
  | nil => rfl
  | cons c t ih =>
      obtain ⟨first, rest, pieces⟩ := List.exists_cons_of_ne_nil (Text.splitAtChar_ne_nil '\n' t)
      rw [pieces] at ih
      rw [Text.splitAtChar, pieces]
      split
      · rename_i eq
        rw [eq]
        exact congrArg (List.cons '\n') ih
      · exact congrArg (List.cons c) ih

/-- The lines of texts, put together again. -/
theorem join_linesOf (texts : List Text) : Markdown.Line.join (linesOf texts) = written texts := by
  have joined : Markdown.Line.join (linesOf texts) =
      texts.flatMap fun t => written (Text.splitAtChar '\n' t) := by
    simp [Markdown.Line.join, linesOf, written, List.flatMap_map, List.flatMap_assoc]
  rw [joined, written]
  simp only [written_splitAtChar]

theorem foldNewlines_append {t : Text} (free : '\r' ∉ t) (rest : Text) :
    Text.foldNewlines (t ++ rest) = t ++ Text.foldNewlines rest := by
  induction t with
  | nil => rfl
  | cons c t ih =>
      obtain ⟨here, later⟩ := not_or.1 (mt List.mem_cons.2 free)
      have step : ∀ u, Text.foldNewlines (c :: u) = c :: Text.foldNewlines u := by
        intro u
        rw [Text.foldNewlines]
        · rintro w rfl
          exact absurd rfl here
        · rintro rfl
          exact absurd rfl here
      rw [List.cons_append, step, ih later, List.cons_append]

theorem sourceLines_written {texts : List Text} (free : ∀ t ∈ texts, '\r' ∉ t) (rest : Text) :
    ∃ more, Markdown.sourceLines (written texts ++ rest) = linesOf texts ++ more := by
  have clean : '\r' ∉ written texts := by
    intro member
    obtain ⟨t, among, here⟩ := List.mem_flatMap.1 member
    rcases List.mem_append.1 here with inside | ending
    · exact free t among inside
    · exact absurd ending (by decide)
  have ended : ∀ tail, Markdown.Line.ofText (written texts ++ tail) =
      linesOf texts ++ Markdown.Line.ofText tail := by
    intro tail
    rw [Markdown.Line.ofText, splitAtChar_written,
      List.dropLast_append_of_ne_nil (Text.splitAtChar_ne_nil '\n' tail), List.map_append]
    rfl
  rw [Markdown.sourceLines, foldNewlines_append clean]
  split
  · exact ⟨_, ended _⟩
  · rw [List.append_assoc]
    exact ⟨_, ended _⟩

/-- A report that is read again has the lines of its texts up to one that ends visibly. -/
theorem sourceLines_render {place : Place} {symbols : List Symbol} {heading : Option Text}
    {front back : List Text} {t : Text} {c : Char}
    (whole : lines place symbols heading = front ++ (t ++ [c]) :: back) (visible : c ≠ '\n')
    (free : ∀ u ∈ front ++ [t ++ [c]], '\r' ∉ u) :
    ∃ more, Markdown.sourceLines (render place symbols heading) =
      linesOf (front ++ [t ++ [c]]) ++ more := by
  have parted : written (lines place symbols heading) =
      (written front ++ t) ++ c :: ('\n' :: written back) := by
    simp [whole, written]
  obtain ⟨tail, ended⟩ : ∃ tail, Text.trimEnd (· == '\n') ('\n' :: written back) ++ ['\n'] =
      '\n' :: tail := by
    have start : Text.trimEnd (· == '\n') ('\n' :: written back) <+: '\n' :: written back := by
      have cut := List.reverse_prefix.2
        (List.dropWhile_suffix (l := ('\n' :: written back).reverse) (· == '\n'))
      rwa [List.reverse_reverse] at cut
    rcases List.prefix_cons_iff.1 start with none | ⟨tail, some, -⟩
    · exact ⟨[], by rw [none]; rfl⟩
    · exact ⟨tail ++ ['\n'], by rw [some]; rfl⟩
  have text : render place symbols heading = written (front ++ [t ++ [c]]) ++ tail := by
    rw [render, trimEnd_joinWith, parted, Text.trimEnd_append_cons _ (by simpa using visible)]
    simpa [written] using ended
  rw [text]
  exact sourceLines_written free tail

end Report

end ExportDocs
