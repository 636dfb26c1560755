/-
# ExportDocs.Proofs.Report.Examples -- examples in the report that is read again

An example is written between two fences of three backticks, whatever stands in it.  Read again, the
code ends at the first line of the example that closes such a fence (`shown`); so an example is shown
as it is just if it has no such line (`shown_eq_iff`).  The other texts of a report are set off by
blank lines and are passed on the way (`passes_symbolLines`).
-/
import ExportDocs.Document
import ExportDocs.Proofs.Markdown.Passage
import ExportDocs.Proofs.Report.Lines

namespace ExportDocs

set_option autoImplicit false

open Markdown (Block Fence Line RawBlock Shows EndsList itemLine Unbroken isPlain)

namespace Report

/-! ## Examples -/

/-- The fence of an example. -/
def exampleFence : Fence := ⟨0, "```".toList, "js".toList⟩

/-- No line of the text closes the fence of an example. -/
def Fits (e : Text) : Prop := ∀ line ∈ linesOf [e], exampleFence.isClosedBy line.text = false

instance (e : Text) : Decidable (Fits e) :=
  inferInstanceAs (Decidable (∀ line ∈ linesOf [e], exampleFence.isClosedBy line.text = false))

/-- What is read of an example. -/
def shown (e : Text) : Text := Line.join (exampleFence.content (linesOf [e]))

/-- The examples of a symbol. -/
def examplesOf (symbol : Symbol) : List Text :=
  (tagsLabelled "example" symbol).map (·.description)

/-- The examples of a report, in their order. -/
def examples (symbols : List Symbol) : List Text := (sorted symbols).flatMap examplesOf

/-- Code as an example shows it. -/
def codeNode (raw : Text) : Node := .block (.code raw (some exampleFence.marker) exampleFence.info)

theorem block_exampleFence (e : Text) :
    exampleFence.block (linesOf [e]) =
      .code (shown e) (some exampleFence.marker) exampleFence.info := by
  have info : Text.strip (Markdown.unescape exampleFence.info) = exampleFence.info := by decide
  have code : ∀ lines : List Line, Line.join (lines.map fun line =>
      { text := Text.dropUpTo (· == ' ') exampleFence.indent line.text }) = Line.join lines := by
    intro lines
    rw [Line.join, List.flatMap_map]
    rfl
  rw [Fence.block, info, code, shown]

/-- **An example is shown as it is just if it fits.** -/
theorem shown_eq_iff {e : Text} : shown e = e ++ ['\n'] ↔ Fits e := by
  let stays := fun line : Line => !exampleFence.isClosedBy line.text
  have whole : Line.join (linesOf [e]) = e ++ ['\n'] := by
    simp [join_linesOf, written]
  rw [← whole]
  constructor
  · intro same
    have parts : Line.join (linesOf [e]) = shown e ++ Line.join ((linesOf [e]).dropWhile stays) := by
      rw [shown, Fence.content, Line.join, Line.join, Line.join, ← List.flatMap_append,
        List.takeWhile_append_dropWhile]
    have rest : Line.join ((linesOf [e]).dropWhile stays) = [] := by
      rw [← same] at parts
      exact List.self_eq_append_right.1 parts
    have none : (linesOf [e]).dropWhile stays = [] := by
      cases cut : (linesOf [e]).dropWhile stays with
      | nil => rfl
      | cons line more =>
          rw [cut] at rest
          simp [Line.join] at rest
    intro line member
    simpa [stays] using List.dropWhile_eq_nil_iff.1 none line member
  · intro fits
    have all : exampleFence.content (linesOf [e]) = linesOf [e] := by
      refine List.takeWhile_eq_self_iff.2 fun line member => ?_
      simp [fits line member]
    rw [shown, all]

/-! ## Texts on the way -/

/-- Texts that a reader passes, if what follows them is of a kind. -/
structure Passes (Next : List Line → Prop) (texts : List Text) : Prop where
  free : ∀ t ∈ texts, '\r' ∉ t
  shows : ∀ {block : RawBlock} {rest : List Line}, Next rest → Shows block rest →
    Shows block (linesOf texts ++ rest)

/-- Any lines. -/
def Any : List Line → Prop := fun _ => True

theorem IsLine.free {t : Text} (line : IsLine t) : '\r' ∉ t :=
  fun member => line _ member (by decide)

namespace Passes

variable {Mid Next : List Line → Prop} {texts others : List Text}

theorem nil : Passes Next [] := ⟨by simp, fun _ shows => shows⟩

theorem append (first : Passes Mid texts) (second : Passes Next others)
    (seam : ∀ rest, Next rest → Mid (linesOf others ++ rest)) : Passes Next (texts ++ others) := by
  refine ⟨List.forall_mem_append.2 ⟨first.free, second.free⟩, fun next shows => ?_⟩
  rw [linesOf_append, List.append_assoc]
  exact first.shows (seam _ next) (second.shows next shows)

theorem followed (first : Passes Any texts) (second : Passes Next others) :
    Passes Next (texts ++ others) :=
  first.append second fun _ _ => trivial

theorem flatMap {α : Type} {f : α → List Text} {list : List α}
    (each : ∀ a ∈ list, Passes Any (f a)) : Passes Any (list.flatMap f) := by
  induction list with
  | nil => exact .nil
  | cons a list ih =>
      obtain ⟨here, later⟩ := List.forall_mem_cons.1 each
      exact here.followed (ih later)

/-- One line and a blank one. -/
theorem of_line {t : Text} (line : IsLine t)
    (shows : ∀ {block : RawBlock} {rest : List Line}, Shows block rest →
      Shows block ({ text := t } :: { text := [] } :: rest)) : Passes Any [t, []] := by
  refine ⟨?_, fun _ rest => ?_⟩
  · exact List.forall_mem_cons.2 ⟨line.free, by simp⟩
  · rw [linesOf_cons line, linesOf_cons Text.without_nil]
    exact shows rest

end Passes

theorem isLine_heading (level : Fin 6) {title : Text} (line : IsLine title) :
    IsLine (List.replicate (level + 1) '#' ++ ' ' :: title) := by
  refine Text.without_append.2 ⟨fun c member => ?_, Text.without_cons.2 ⟨by decide, line⟩⟩
  rw [List.eq_of_mem_replicate member]
  decide

theorem passes_heading (level : Fin 6) {title : Text} (line : IsLine title) :
    Passes Any [List.replicate (level + 1) '#' ++ ' ' :: title, []] :=
  .of_line (isLine_heading level line) fun shows => shows.heading level title

/-- A line that begins with a star before a letter. -/
theorem passes_starred {c : Char} (other : c ∉ "* \t".toList) {t : Text}
    (line : IsLine ('*' :: c :: t)) : Passes Any [('*' :: c :: t), []] := by
  refine .of_line line fun shows => shows.text (Markdown.isEmpty_cons (by decide) _) ?_
    (Markdown.find?_starred other t _)
  exact Markdown.isCodeLine_cons (by decide) (by decide) _

theorem linesOf_example (e : Text) (texts : List Text) :
    linesOf ("```js".toList :: e :: "```".toList :: texts) =
      { text := "```js".toList } :: (linesOf [e] ++ { text := "```".toList } :: linesOf texts) := by
  have opening : IsLine "```js".toList := Text.without_of_all rfl
  have closing : IsLine "```".toList := Text.without_of_all rfl
  have parted : e :: "```".toList :: texts = [e] ++ "```".toList :: texts := rfl
  rw [linesOf_cons opening, parted, linesOf_append, linesOf_cons closing]

/-- An example that fits. -/
theorem passes_example {e : Text} (fits : Fits e) (free : '\r' ∉ e) :
    Passes Any ["```js".toList, e, "```".toList, []] := by
  refine ⟨?_, fun {block rest} _ shows => ?_⟩
  · simp [free]
  · have read : Fence.read? 3 "```js".toList = some exampleFence := rfl
    have closed : Shows block ({ text := "```js".toList } ::
        (linesOf [e] ++ { text := "```".toList } :: { text := [] } :: rest)) :=
      Shows.fenced read rfl rfl rfl rfl shows fits
    rw [linesOf_example, linesOf_cons Text.without_nil, List.cons_append, List.append_assoc]
    exact closed

/-! ## Symbols of plain words -/

/-- A text that is read as it is written, or nothing. -/
def IsPhrase (t : Text) : Prop := t = [] ∨ isPlain t = true

theorem IsPhrase.isLine {t : Text} (phrase : IsPhrase t) : IsLine t := by
  rcases phrase with rfl | plain
  · exact Text.without_nil
  · intro c member special
    obtain ⟨feed, carriage⟩ := Markdown.PlainText.free ⟨t, plain⟩
    simp only [List.mem_cons, List.not_mem_nil, or_false] at special
    rcases special with rfl | rfl
    · exact feed member
    · exact carriage member

/-- A tag of plain words. -/
def IsPlainTag (tag : Tag) : Prop := IsLine tag.name ∧ IsLine tag.type ∧ IsPhrase tag.description

/-- Plain words in all fields of a symbol but its examples. -/
structure IsPlainSymbol (symbol : Symbol) : Prop where
  name : IsLine symbol.name
  path : IsLabel symbol.path
  description : IsPhrase symbol.description
  tags : ∀ tag ∈ symbol.tags, tag.label ≠ "example".toList → IsPlainTag tag

theorem passes_link {place : Place} (onLine : place.IsOnLine) {symbol : Symbol}
    (path : IsLabel symbol.path) : Passes Any [sourceLink place symbol, []] := by
  have label := isLabel_linkLabel path
  have target := isLine_sourceTarget onLine path
  have free : ∀ c ∈ linkLabel symbol, c ∉ ['[', ']', '\\'] := by
    intro c member special
    have more : ['[', ']', '\\'] ⊆ ['\n', '\r', '[', ']', '\\'] := by decide
    exact label c member (more special)
  rw [sourceLink_eq]
  refine .of_line ?_ fun shows => shows.text (Markdown.isEmpty_cons (by decide) _)
    (Markdown.isCodeLine_cons (by decide) (by decide) _) (Markdown.find?_link free _ _)
  simp only [IsLine, Text.without_cons, Text.without_append]
  exact ⟨by decide, label.isLine, by decide, by decide,
    ⟨target, by decide, (isLabel_lineSpan symbol).isLine⟩, by decide, Text.without_nil⟩

theorem passes_deprecated {t : Text} (phrase : IsPhrase t) :
    Passes Any ["> **Deprecated**".toList ++ (if t.isEmpty then [] else ' ' :: t), []] := by
  have tail : IsLine (if t.isEmpty then [] else ' ' :: t) := by
    split
    · exact Text.without_nil
    · exact Text.without_cons.2 ⟨by decide, phrase.isLine⟩
  refine .of_line (Text.without_append.2 ⟨Text.without_of_all rfl, tail⟩) fun shows => ?_
  exact Shows.quote (show '*' ∉ _ by decide) shows ("*Deprecated**".toList ++ _)

theorem passes_description {t : Text} (plain : isPlain t = true) : Passes Any [t, []] := by
  obtain ⟨c, tail, eq, start⟩ := Markdown.PlainText.eq_cons ⟨t, plain⟩
  have eq : t = c :: tail := eq
  have solid : c ∉ " \t\x0b\x0c".toList := by
    intro member
    have blanks : " \t\x0b\x0c".toList.all Text.isBlank = true := by decide
    have blank := List.all_eq_true.1 blanks c member
    rw [Markdown.isBlank_of_isPlainStart start] at blank
    cases blank
  have ne := Markdown.isPlainStart_ne start
  refine .of_line (IsPhrase.isLine (.inr plain)) fun shows => shows.text ?_ ?_
    (Markdown.find?_plain ⟨t, plain⟩ true _)
  · rw [eq]
    exact Markdown.isEmpty_cons solid tail
  · rw [eq]
    exact Markdown.isCodeLine_cons (ne ' ' (by decide)) (ne '\t' (by decide)) tail

/-! ## Lists of tags -/

/-- The text of an item after its mark. -/
def tagBody (tag : Tag) : Text :=
  let head := tagHead tag
  if head.isEmpty then tag.description
  else if tag.description.isEmpty then head
  else head ++ ": ".toList ++ tag.description

/-- A mark stands in the head of an entry if there is one. -/
theorem visible_tagHead {tag : Tag} (some : tagHead tag ≠ []) :
    ∃ c ∈ tagHead tag, c ∉ "- \t".toList := by
  by_cases name : tag.name.isEmpty = true
  · by_cases type : tag.type.isEmpty = true
    · by_cases optional : tag.optional = true
      · refine ⟨'(', List.mem_append_right _ ?_, by decide⟩
        rw [if_pos optional]
        decide
      · have none : tagHead tag = [] := by
          rw [tagHead, if_pos name, if_pos type, if_neg optional]
          rfl
        exact absurd none some
    · have part : '`' :: tag.type ++ ['`'] ∈
          (if tag.type.isEmpty then [] else ['`' :: tag.type ++ ['`']]) := by
        rw [if_neg type]
        exact List.mem_singleton_self _
      exact ⟨'`', List.mem_append_left _ (Text.mem_joinWith (List.mem_append_right _ part)
        List.mem_cons_self), by decide⟩
  · have part : '*' :: tag.name ++ ['*'] ∈
        (if tag.name.isEmpty then [] else ['*' :: tag.name ++ ['*']]) := by
      rw [if_neg name]
      exact List.mem_singleton_self _
    exact ⟨'*', List.mem_append_left _ (Text.mem_joinWith (List.mem_append_left _ part)
      List.mem_cons_self), by decide⟩

section Tags

variable {tag : Tag} (plain : IsPlainTag tag)

include plain

theorem isLine_tagHead : IsLine (tagHead tag) := by
  have quoted : ∀ (c : Char) (t : Text), c ∉ ['\n', '\r'] → IsLine t →
      ∀ part ∈ (if t.isEmpty then [] else [c :: t ++ [c]]), IsLine part := by
    intro c t mark line part member
    split at member
    · cases member
    · rw [List.mem_singleton.1 member]
      exact Text.without_cons.2 ⟨mark, Text.without_append.2
        ⟨line, Text.without_cons.2 ⟨mark, Text.without_nil⟩⟩⟩
  refine Text.without_append.2 ⟨.joinWith (Text.without_of_all rfl) ?_, ?_⟩
  · exact List.forall_mem_append.2
      ⟨quoted '*' tag.name (by decide) plain.1, quoted '`' tag.type (by decide) plain.2.1⟩
  · split
    · exact Text.without_of_all rfl
    · exact Text.without_nil

theorem isLine_tagBody : IsLine (tagBody tag) := by
  have head := isLine_tagHead plain
  have description := plain.2.2.isLine
  unfold tagBody
  dsimp only
  split
  · exact description
  · split
    · exact head
    · exact Text.without_append.2
        ⟨Text.without_append.2 ⟨head, Text.without_of_all rfl⟩, description⟩

theorem isLine_tagLine : IsLine (tagLine tag) :=
  Text.without_append.2 ⟨Text.without_of_all rfl, isLine_tagBody plain⟩

theorem unbroken_tagBody : Unbroken (tagBody tag) := by
  unfold tagBody
  dsimp only
  split
  · rcases plain.2.2 with nothing | phrase
    · exact .inl nothing
    · obtain ⟨c, tail, eq, start⟩ := Markdown.PlainText.eq_cons ⟨tag.description, phrase⟩
      have eq : tag.description = c :: tail := eq
      refine .inr ⟨c, by simp [eq], fun member => ?_⟩
      have marks : "- \t".toList.all (!Markdown.isPlainStart ·) = true := by decide
      have mark := List.all_eq_true.1 marks c member
      rw [start] at mark
      cases mark
  · rename_i some
    obtain ⟨c, member, visible⟩ := visible_tagHead (mt List.isEmpty_iff.2 some)
    split
    · exact .inr ⟨c, member, visible⟩
    · exact .inr ⟨c, by simp [member], visible⟩

end Tags

theorem linesOf_tagLines {tags : List Tag} (plain : ∀ tag ∈ tags, IsPlainTag tag)
    (texts : List Text) :
    linesOf (tags.map tagLine ++ texts) = (tags.map tagBody).map itemLine ++ linesOf texts := by
  induction tags with
  | nil => rfl
  | cons tag tags ih =>
      obtain ⟨here, later⟩ := List.forall_mem_cons.1 plain
      rw [List.map_cons, List.cons_append, linesOf_cons (isLine_tagLine here), ih later]
      rfl

/-- A title that stands on one line and begins with a letter. -/
structure IsTitle (title : String) : Prop where
  line : IsLine title.toList
  letter : ∃ c t, title.toList = c :: t ∧ c ∉ "* \t".toList

section Lists

variable {title : String} (isTitle : IsTitle title)

include isTitle

theorem IsTitle.starred : IsLine ('*' :: title.toList ++ ['*']) :=
  Text.without_append.2 ⟨Text.without_cons.2 ⟨by decide, isTitle.line⟩, Text.without_of_all rfl⟩

theorem endsList_tagLines (tags : List Tag) {rest : List Line} (ends : EndsList rest) :
    EndsList (linesOf (tagLines title tags) ++ rest) := by
  unfold tagLines
  split
  · exact ends
  · obtain ⟨c, t, eq, other⟩ := isTitle.letter
    rw [List.cons_append, linesOf_cons isTitle.starred, eq]
    exact .starred other _ _

theorem passes_tagLines {tags : List Tag} (plain : ∀ tag ∈ tags, IsPlainTag tag) :
    Passes EndsList (tagLines title tags) := by
  have line := isTitle.starred
  obtain ⟨c, t, eq, other⟩ := isTitle.letter
  cases tags with
  | nil => exact .nil
  | cons tag tags =>
      have items : Passes EndsList ((tag :: tags).map tagLine ++ [[]]) := by
        refine ⟨?_, fun {block rest} ends shows => ?_⟩
        · intro u member
          rcases List.mem_append.1 member with entry | blank
          · obtain ⟨tag', among, rfl⟩ := List.mem_map.1 entry
            exact (isLine_tagLine (plain tag' among)).free
          · rw [List.mem_singleton.1 blank]
            exact List.not_mem_nil
        · rw [linesOf_tagLines plain, linesOf_cons Text.without_nil, List.append_assoc]
          refine shows.items ends fun body member => ?_
          rw [← List.map_cons] at member
          obtain ⟨tag', among, rfl⟩ := List.mem_map.1 member
          exact unbroken_tagBody (plain tag' among)
      rw [eq] at line
      have whole : tagLines title (tag :: tags) =
          [('*' :: c :: (t ++ ['*'])), []] ++ ((tag :: tags).map tagLine ++ [[]]) := by
        simp [tagLines, eq]
      rw [whole]
      exact (passes_starred other line).followed items

end Lists

/-! ## Sections -/

/-- The lines of a symbol before its examples. -/
def symbolHead (place : Place) (symbol : Symbol) : List Text :=
  ["## ".toList ++ symbol.name, []] ++
  (if symbol.firstLine ≠ 0 then [sourceLink place symbol, []] else []) ++
  ((tagsLabelled "deprecated" symbol).flatMap fun tag =>
    ["> **Deprecated**".toList ++
      (if tag.description.isEmpty then [] else ' ' :: tag.description), []]) ++
  (if symbol.description.isEmpty then [] else [symbol.description, []])

/-- The lines of examples, one after another. -/
def exampleLines (texts : List Text) : List Text :=
  texts.flatMap fun e => ["```js".toList, e, "```".toList, []]

/-- The lines of a symbol after its examples. -/
def symbolLists (symbol : Symbol) : List Text :=
  tagLines "Parameters" (tagsLabelled "param" symbol) ++
    (tagLines "Returns" (tagsLabelled "return" symbol) ++
      tagLines "Throws" (tagsLabelled "throws" symbol))

theorem symbolLines_eq (place : Place) (symbol : Symbol) :
    symbolLines place symbol = symbolHead place symbol ++
      ((if (examplesOf symbol).isEmpty then []
        else ["*Usage*".toList, []] ++ exampleLines (examplesOf symbol)) ++
        symbolLists symbol) := by
  simp only [symbolLines, symbolHead, symbolLists, examplesOf, exampleLines, List.flatMap_map,
    List.isEmpty_map, List.append_assoc]

theorem exampleLines_append (earlier more : List Text) (e : Text) :
    exampleLines (earlier ++ e :: more) =
      exampleLines earlier ++ "```js".toList :: e :: "```".toList :: [] :: exampleLines more := by
  rw [exampleLines, List.flatMap_append, List.flatMap_cons]
  rfl

theorem passes_usage : Passes Any ["*Usage*".toList, []] :=
  passes_starred (show 'U' ∉ _ by decide) (Text.without_of_all rfl)

theorem passes_exampleLines {texts : List Text} (fit : ∀ e ∈ texts, Fits e ∧ '\r' ∉ e) :
    Passes Any (exampleLines texts) :=
  .flatMap fun e member => passes_example (fit e member).1 (fit e member).2

section Symbols

variable {place : Place} (onLine : place.IsOnLine) {symbol : Symbol} (plain : IsPlainSymbol symbol)

include plain

theorem IsPlainSymbol.labelled {label : String} (other : label.toList ≠ "example".toList) :
    ∀ tag ∈ tagsLabelled label symbol, IsPlainTag tag := by
  intro tag member
  obtain ⟨among, same⟩ := List.mem_filter.1 member
  refine plain.tags tag among ?_
  rw [beq_iff_eq.1 same]
  exact other

theorem passes_symbolLists : Passes EndsList (symbolLists symbol) := by
  have param : IsTitle "Parameters" := ⟨Text.without_of_all rfl, 'P', _, rfl, by decide⟩
  have return' : IsTitle "Returns" := ⟨Text.without_of_all rfl, 'R', _, rfl, by decide⟩
  have throws : IsTitle "Throws" := ⟨Text.without_of_all rfl, 'T', _, rfl, by decide⟩
  refine (passes_tagLines param (plain.labelled (by decide))).append
    ((passes_tagLines return' (plain.labelled (by decide))).append
      (passes_tagLines throws (plain.labelled (by decide))) fun _ ends => ?_) fun _ ends => ?_
  · exact endsList_tagLines throws _ ends
  · rw [linesOf_append, List.append_assoc]
    exact endsList_tagLines return' _ (endsList_tagLines throws _ ends)

include onLine

theorem passes_symbolHead : Passes Any (symbolHead place symbol) := by
  have heading : Passes Any ["## ".toList ++ symbol.name, []] := passes_heading 1 plain.name
  refine ((heading.followed ?_).followed (.flatMap fun tag member => ?_)).followed ?_
  · split
    · exact passes_link onLine plain.path
    · exact .nil
  · exact passes_deprecated (plain.labelled (by decide) tag member).2.2
  · rcases plain.description with nothing | phrase
    · rw [nothing]
      exact .nil
    · split
      · exact .nil
      · exact passes_description phrase

/-- A whole section, if its examples fit. -/
theorem passes_symbolLines (fit : ∀ e ∈ examplesOf symbol, Fits e ∧ '\r' ∉ e) :
    Passes EndsList (symbolLines place symbol) := by
  rw [symbolLines_eq]
  refine (passes_symbolHead onLine plain).followed (.followed ?_ (passes_symbolLists plain))
  split
  · exact .nil
  · exact passes_usage.followed (passes_exampleLines fit)

end Symbols

/-! ## The way to an example -/

theorem endsList_heading (level : Fin 6) {title : Text} (line : IsLine title) (texts : List Text)
    (rest : List Line) :
    EndsList (linesOf ((List.replicate (level + 1) '#' ++ ' ' :: title) :: texts) ++ rest) := by
  rw [linesOf_cons (isLine_heading level line), List.cons_append]
  exact .heading level title _

/-- An example is one of the first symbol, or all those of the first symbol are before it. -/
theorem stands_here_or_later {own others earlier later : List Text} {e : Text}
    (stands : own ++ others = earlier ++ e :: later) :
    (∃ more, own = earlier ++ e :: more) ∨
      ∃ middle, earlier = own ++ middle ∧ others = middle ++ e :: later := by
  rcases List.append_eq_append_iff.1 stands with ⟨middle, before, after⟩ | ⟨rest, before, after⟩
  · exact .inr ⟨middle, before, after⟩
  · cases rest with
    | nil => exact .inr ⟨[], by rw [before]; simp, by simpa using after.symm⟩
    | cons first more =>
        obtain ⟨rfl, -⟩ := List.cons.inj after
        exact .inl ⟨more, before⟩

/-- A reader comes to an example if those before it fit. -/
theorem exists_front {place : Place} (onLine : place.IsOnLine) {order : List Symbol}
    (plain : ∀ symbol ∈ order, IsPlainSymbol symbol) {earlier later : List Text} {e : Text}
    (stands : order.flatMap examplesOf = earlier ++ e :: later)
    (fit : ∀ other ∈ earlier, Fits other ∧ '\r' ∉ other) :
    ∃ front back, order.flatMap (symbolLines place) =
        front ++ "```js".toList :: e :: "```".toList :: back ∧
      Passes Any front ∧ ∀ rest, EndsList (linesOf front ++ rest) := by
  induction order generalizing earlier with
  | nil => simp at stands
  | cons symbol order ih =>
      obtain ⟨here, others⟩ := List.forall_mem_cons.1 plain
      have starts : ∀ texts rest,
          EndsList (linesOf (symbolHead place symbol ++ texts) ++ rest) :=
        fun texts => endsList_heading 1 here.name _
      rw [List.flatMap_cons] at stands
      rcases stands_here_or_later stands with ⟨more, inside⟩ | ⟨middle, rfl, onward⟩
      · refine ⟨symbolHead place symbol ++ (["*Usage*".toList, []] ++ exampleLines earlier),
          [] :: (exampleLines more ++ (symbolLists symbol ++ order.flatMap (symbolLines place))),
          ?_, ?_, starts _⟩
        · have nonempty : (earlier ++ e :: more).isEmpty = false := by cases earlier <;> rfl
          rw [List.flatMap_cons, symbolLines_eq, inside, nonempty, exampleLines_append]
          simp only [Bool.false_eq_true, if_false, List.append_assoc, List.cons_append,
            List.nil_append]
        · exact (passes_symbolHead onLine here).followed
            (passes_usage.followed (passes_exampleLines fit))
      · obtain ⟨own, rest⟩ := List.forall_mem_append.1 fit
        obtain ⟨front, back, whole, passes, ends⟩ := ih others onward rest
        refine ⟨symbolLines place symbol ++ front, back, ?_, ?_, ?_⟩
        · rw [List.flatMap_cons, whole, List.append_assoc]
        · exact (passes_symbolLines onLine here own).append passes fun rest _ => ends rest
        · rw [symbolLines_eq, List.append_assoc]
          exact starts _

/-- The lines of a report before its sections. -/
def openingLines (heading : Option Text) : List Text :=
  match heading with
  | some title => if title.isEmpty then [] else ["# ".toList ++ title, []]
  | none => []

theorem passes_openingLines {heading : Option Text} (line : ∀ title ∈ heading, IsLine title) :
    Passes Any (openingLines heading) := by
  unfold openingLines
  split
  · split
    · exact .nil
    · exact passes_heading 0 (line _ rfl)
  · exact .nil

theorem endsList_openingLines {heading : Option Text} (line : ∀ title ∈ heading, IsLine title)
    {texts : List Text} (ends : ∀ rest, EndsList (linesOf texts ++ rest)) (rest : List Line) :
    EndsList (linesOf (openingLines heading ++ texts) ++ rest) := by
  unfold openingLines
  split
  · split
    · exact ends rest
    · exact endsList_heading 0 (line _ rfl) _ _
  · exact ends rest

theorem lines_eq (place : Place) {symbols : List Symbol} (nonempty : symbols.isEmpty = false)
    (heading : Option Text) :
    lines place symbols heading =
      openingLines heading ++ (sorted symbols).flatMap (symbolLines place) := by
  unfold lines
  rw [nonempty, if_neg Bool.false_ne_true, List.append_nil]
  rfl

/-- A reader of a whole report comes to an example if those before it fit. -/
theorem exists_lines_eq {place : Place} (onLine : place.IsOnLine) {symbols : List Symbol}
    (plain : ∀ symbol ∈ symbols, IsPlainSymbol symbol) {heading : Option Text}
    (titled : ∀ title ∈ heading, IsLine title) {earlier later : List Text} {e : Text}
    (stands : examples symbols = earlier ++ e :: later)
    (fit : ∀ other ∈ earlier, Fits other ∧ '\r' ∉ other) :
    ∃ front back, lines place symbols heading =
        front ++ "```js".toList :: e :: "```".toList :: back ∧
      Passes Any front ∧ ∀ rest, EndsList (linesOf front ++ rest) := by
  obtain ⟨front, back, sections, passes, ends⟩ := exists_front onLine
    (fun symbol member => plain symbol ((sorted_perm symbols).mem_iff.1 member)) stands fit
  have nonempty : symbols.isEmpty = false := by
    cases symbols with
    | nil => simp [examples, sorted] at stands
    | cons symbol symbols => rfl
  refine ⟨openingLines heading ++ front, back, ?_, ?_, endsList_openingLines titled ends⟩
  · rw [lines_eq place nonempty, sections, List.append_assoc]
  · exact (passes_openingLines titled).followed passes

/-- The lines of a report around one of its examples. -/
theorem sourceLines_example {place : Place} {symbols : List Symbol} {heading : Option Text}
    {front back : List Text} {e : Text}
    (whole : lines place symbols heading = front ++ "```js".toList :: e :: "```".toList :: back)
    (clean : ∀ t ∈ front, '\r' ∉ t) (free : '\r' ∉ e) :
    ∃ more, Markdown.sourceLines (render place symbols heading) =
      linesOf front ++ { text := "```js".toList } ::
        (linesOf [e] ++ { text := "```".toList } :: more) := by
  -- The closing fence ends with a character that no trimming takes away.
  have cut : lines place symbols heading =
      (front ++ ["```js".toList, e]) ++ ("``".toList ++ ['`']) :: back := by
    rw [whole, List.append_assoc]
    rfl
  have clean : ∀ t ∈ (front ++ ["```js".toList, e]) ++ ["``".toList ++ ['`']], '\r' ∉ t := by
    refine List.forall_mem_append.2 ⟨List.forall_mem_append.2 ⟨clean, ?_⟩, ?_⟩
    · exact List.forall_mem_cons.2 ⟨by decide, List.forall_mem_singleton.2 free⟩
    · exact List.forall_mem_singleton.2 (by decide)
  have inside : linesOf (["```js".toList, e] ++ ["``".toList ++ ['`']]) =
      { text := "```js".toList } :: (linesOf [e] ++ [{ text := "```".toList }]) :=
    linesOf_example e []
  obtain ⟨more, source⟩ := sourceLines_render cut (by decide) clean
  refine ⟨more, ?_⟩
  rw [source, List.append_assoc, linesOf_append, inside, List.append_assoc, List.cons_append,
    List.append_assoc]
  rfl

/-- **What a report shows of an example.**  In a report of any symbols that have plain words in their
other fields, take an example all of whose forerunners fit between their fences.  Read again, the
report has a code block for it with the lines before the first one that closes a fence; and this is
the whole example just if it has no such line. -/
theorem example_shown_up_to_fence (place : Place) (onLine : place.IsOnLine) (symbols : List Symbol)
    (plain : ∀ symbol ∈ symbols, IsPlainSymbol symbol) (heading : Option Text)
    (titled : ∀ title ∈ heading, IsLine title) (earlier later : List Text) (e : Text)
    (stands : examples symbols = earlier ++ e :: later)
    (fit : ∀ other ∈ earlier, Fits other ∧ '\r' ∉ other) (free : '\r' ∉ e) :
    codeNode (shown e) ∈ Document.ofMarkdown (render place symbols heading) ∧
      (shown e = e ++ ['\n'] ↔ Fits e) := by
  refine ⟨?_, shown_eq_iff⟩
  obtain ⟨front, back, whole, passes, ends⟩ := exists_lines_eq onLine plain titled stands fit
  obtain ⟨more, source⟩ := sourceLines_example whole passes.free free
  have read : Fence.read? 3 "```js".toList = some exampleFence := rfl
  have fenced : Markdown.Shows (exampleFence.block (linesOf [e]))
      ({ text := "```js".toList } :: (linesOf [e] ++ { text := "```".toList } :: more)) :=
    Markdown.shows_fence read rfl rfl rfl rfl
  have shows := passes.shows trivial fenced
  rw [block_exampleFence, ← source] at shows
  refine shows.mem_ofMarkdown ?_
  rw [source]
  exact (ends _).dropWhile_eq_self

/-- A function with a parameter and two examples: the first has a heading and an indented fence in
it, the second a fence that is not indented. -/
def sampleSymbol : Symbol where
  path := "index.js".toList
  name := "sum".toList
  description := "Sum of numbers".toList
  firstLine := 3
  lastLine := 5
  tags := [{ label := "param".toList, name := "a".toList, description := "first number".toList },
    { label := "example".toList, description := "sum(1)\n\n# twice\n    ```".toList },
    { label := "example".toList, description := "sum(2)\n```\n# b".toList }]

/-- The document of the sample lies beside its sources. -/
def samplePlace : Place := ⟨Path.ofText "/p".toList, Path.ofText "/p/API.md".toList, []⟩

theorem isPlainSymbol_sample : IsPlainSymbol sampleSymbol where
  name := Text.without_of_all rfl
  path := Text.without_of_all rfl
  description := .inr (by decide)
  tags := by
    refine List.forall_mem_cons.2 ⟨fun _ => ?_, List.forall_mem_cons.2 ⟨?_, ?_⟩⟩
    · exact ⟨Text.without_of_all rfl, Text.without_of_all rfl, .inr (by decide)⟩
    · exact fun other => absurd rfl other
    · exact List.forall_mem_singleton.2 fun other => absurd rfl other

theorem example_shown_up_to_fence_of_sample :
    samplePlace.IsOnLine ∧ IsPlainSymbol sampleSymbol ∧
      examples [sampleSymbol] = ["sum(1)\n\n# twice\n    ```".toList, "sum(2)\n```\n# b".toList] ∧
      codeNode "sum(2)\n".toList ∈ Document.ofMarkdown (render samplePlace [sampleSymbol] none) := by
  have onLine : samplePlace.IsOnLine := by
    refine List.forall_mem_cons.2 ⟨Text.without_of_all rfl, ?_⟩
    exact List.forall_mem_nil _
  have stands : examples [sampleSymbol] =
      ["sum(1)\n\n# twice\n    ```".toList, "sum(2)\n```\n# b".toList] := by
    rw [examples, sorted, List.mergeSort_singleton]
    rfl
  have fits : Fits "sum(1)\n\n# twice\n    ```".toList := by decide
  have cut : shown "sum(2)\n```\n# b".toList = "sum(2)\n".toList := by decide
  refine ⟨onLine, isPlainSymbol_sample, stands, ?_⟩
  rw [← cut]
  exact (example_shown_up_to_fence samplePlace onLine [sampleSymbol]
    (List.forall_mem_singleton.2 isPlainSymbol_sample) none (fun _ none => nomatch none) [_] [] _
    stands (List.forall_mem_singleton.2 ⟨fits, by decide⟩) (by decide)).1

/-- The code of a node, with the text after its fence. -/
def codeOf? : Node → Option (Text × Text)
  | .block (.code raw _ info) => some (raw, info)
  | _ => none

/-- An example with a fence and a heading in it. -/
def fencedExample : Text := "a\n```\n# b".toList

/-- **A fence in an example cuts it**, and what follows is no code. -/
theorem fence_in_example_cuts_it :
    render samplePlace [{ path := "index.js".toList, name := "x".toList, tags :=
        [{ label := "example".toList, description := fencedExample }] }] none =
      "## x\n\n*Usage*\n\n```js\na\n```\n# b\n```\n".toList ∧
    codeNode (fencedExample ++ ['\n']) ∉
      Document.ofMarkdown "## x\n\n*Usage*\n\n```js\na\n```\n# b\n```\n".toList := by
  constructor
  · rw [render, lines, sorted, List.mergeSort_singleton]
    rfl
  · have codes : (Document.ofMarkdown
        "## x\n\n*Usage*\n\n```js\na\n```\n# b\n```\n".toList).filterMap codeOf? =
        [("a\n".toList, "js".toList), ([], [])] := by
      decide +kernel
    intro member
    have found : (fencedExample ++ ['\n'], "js".toList) ∈ [("a\n".toList, "js".toList), ([], [])] :=
      codes ▸ List.mem_filterMap.2 ⟨_, member, rfl⟩
    revert found
    decide

end Report

end ExportDocs
