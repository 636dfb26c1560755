/-
# ExportDocs.Proofs.Document.RoundTrip -- plain documents read back

A document of plain blocks is printed as their lines, with a blank line between neighbours.  Reading
goes through such lines block by block (`readAll_lines`), so it gives back the blocks with blank
lines between them (`ofMarkdown_lines`), and the document looks the same (`IsPlain.readsBack`).
-/
import ExportDocs.Proofs.Document.Frame
import ExportDocs.Proofs.Document.Look
import ExportDocs.Proofs.Markdown.Plain

namespace ExportDocs

set_option autoImplicit false

/-! ## Lines of a text -/

namespace Text

theorem foldNewlines_eq_self {t : Text} (free : '\r' ∉ t) : foldNewlines t = t := by
  fun_induction foldNewlines t with
  | case1 => rfl
  | case2 t ih => simp at free
  | case3 t other ih => simp at free
  | case4 c t other alone ih => rw [ih (List.not_mem_of_not_mem_cons free)]

theorem foldNewlines_free (t : Text) : '\r' ∉ foldNewlines t := by
  fun_induction foldNewlines t with
  | case1 => simp
  | case2 t ih => simpa using ih
  | case3 t other ih => simpa using ih
  | case4 c t other alone ih =>
      simp only [List.mem_cons, not_or]
      exact ⟨fun eq => alone eq.symm, ih⟩

end Text

namespace Markdown

/-- Lines are read back from their text. -/
theorem Line.ofText_join {lines : List Line}
    (whole : ∀ line ∈ lines, '\n' ∉ line.text ∧ line.lazy = false) :
    Line.ofText (Line.join lines) = lines := by
  have split : Text.splitAtChar '\n' (Line.join lines) = lines.map Line.text ++ [[]] := by
    induction lines with
    | nil => rfl
    | cons line rest ih =>
        obtain ⟨here, later⟩ := List.forall_mem_cons.1 whole
        have joined : Line.join (line :: rest) = line.text ++ '\n' :: Line.join rest := by
          simp [Line.join]
        rw [joined, Text.splitAtChar_append here.1, ih later]
        rfl
  rw [Line.ofText, split, List.dropLast_concat, List.map_map]
  refine (List.map_congr_left fun line member => ?_).trans (List.map_id lines)
  obtain ⟨text, lazy⟩ := line
  obtain rfl : lazy = false := (whole _ member).2
  rfl

theorem sourceLines_join {lines : List Line} (nonempty : lines ≠ [])
    (whole : ∀ line ∈ lines, '\n' ∉ line.text ∧ line.lazy = false)
    (folded : ∀ line ∈ lines, '\r' ∉ line.text) :
    sourceLines (Line.join lines) = lines := by
  have free : '\r' ∉ Line.join lines := by
    simp only [Line.join, List.mem_flatMap, List.mem_append, List.mem_singleton, not_exists,
      not_and, not_or]
    exact fun line member => ⟨folded line member, by decide⟩
  have last : (Line.join lines).getLast? = some '\n' := by
    obtain ⟨front, line, rfl⟩ := (List.eq_nil_or_concat lines).resolve_left nonempty
    simp [Line.join]
  rw [sourceLines, Text.foldNewlines_eq_self free]
  simp only [last, beq_self_eq_true, if_true]
  exact Line.ofText_join whole

namespace PlainBlock

/-! ## Reading blocks -/

/-- The lines of blocks, with a blank one between neighbours. -/
def lines (blocks : List PlainBlock) : List Line :=
  (blocks.map fun block => { text := block.line }).intersperse { text := [] }

theorem lines_cons_cons (block next : PlainBlock) (rest : List PlainBlock) :
    lines (block :: next :: rest) =
      { text := block.line } :: { text := [] } :: lines (next :: rest) := rfl

theorem isEmpty_line (block : PlainBlock) : Line.isEmpty { text := block.line } = false := by
  obtain ⟨c, rest, eq, solid⟩ := block.solid.first
  have blank : ∀ d, (d == ' ' || d == '\t' || d == '\x0b' || d == '\x0c') = true →
      Text.isBlank d = true := by
    intro d blank
    simp only [Bool.or_eq_true, beq_iff_eq] at blank
    rcases blank with ((rfl | rfl) | rfl) | rfl <;> decide
  rw [Line.isEmpty, eq, List.all_cons, Bool.and_eq_false_iff]
  refine .inl (Bool.eq_false_iff.2 fun empty => ?_)
  rw [blank c empty] at solid
  cases solid

/-- The blank line before a block is read as one. -/
theorem readAll_blank (block : PlainBlock) {depth fuel : Nat} {containers : Bool} {reader : Reader}
    {rest : List Line} (lines : reader.lines = { text := [] } :: { text := block.line } :: rest)
    (begun : reader.fresh = false) :
    Reader.readAll depth containers (fuel + 2) reader =
      Reader.readAll depth containers (fuel + 1)
        { reader with
          lines := { text := block.line } :: rest
          blocks := .blank none :: reader.blocks } := by
  have blank : Start.find? containers ({ text := [] } :: { text := block.line } :: rest) =
      some .blank := by
    cases containers <;> rfl
  have one : (({ text := [] } :: { text := block.line } :: rest : List Line).takeWhile
      (·.isEmpty)) = [{ text := [] }] := by
    rw [List.takeWhile_cons_of_pos (by rfl), List.takeWhile_cons_of_neg (by simp [isEmpty_line])]
  have code : isCodeLine [] = false := rfl
  rw [Reader.readAll, lines]
  dsimp only
  rw [code, blank]
  simp [Reader.readStart, Reader.readBlank, lines, one, begun, Reader.push, Reader.advance]

/-- Blocks with blank lines between them are read as these blocks. -/
theorem readAll_lines (blocks : List PlainBlock) {depth fuel : Nat} {containers : Bool}
    {reader : Reader} (lines : reader.lines = lines blocks)
    (closed : reader.inParagraph = false) (enough : reader.lines.length < fuel) :
    (Reader.readAll depth containers fuel reader).blocks =
        ((blocks.map raw).intersperse (.blank none)).reverse ++ reader.blocks ∧
      (Reader.readAll depth containers fuel reader).definitions = reader.definitions := by
  -- Every line takes one call, and the call that reads a line needs one unit more for its block.
  induction blocks generalizing fuel reader with
  | nil =>
      obtain ⟨fuel, rfl⟩ : ∃ less, fuel = less + 1 := ⟨fuel - 1, by omega⟩
      have none : reader.lines = [] := lines
      simp [Reader.readAll, none]
  | cons block rest ih =>
      cases rest with
      | nil =>
          have single : reader.lines = [{ text := block.line }] := lines
          rw [single] at enough
          obtain ⟨fuel, rfl⟩ : ∃ less, fuel = less + 2 := ⟨fuel - 2, by simp at enough; omega⟩
          rw [readAll_line block single (.inl rfl) closed]
          simp [Reader.readAll]
      | cons next rest =>
          have several : reader.lines = { text := block.line } :: { text := [] } ::
              PlainBlock.lines (next :: rest) := lines
          obtain ⟨more, more_eq⟩ : ∃ more, PlainBlock.lines (next :: rest) =
              { text := next.line } :: more := by
            cases rest <;> exact ⟨_, rfl⟩
          rw [several, more_eq] at enough
          obtain ⟨fuel, rfl⟩ : ∃ less, fuel = less + 3 := ⟨fuel - 3, by simp at enough; omega⟩
          have enough : (PlainBlock.lines (next :: rest)).length < fuel + 1 := by
            rw [more_eq]
            simp only [List.length_cons] at enough ⊢
            omega
          have later := @ih (fuel + 1)
            { reader with
              lines := PlainBlock.lines (next :: rest)
              blocks := .blank none :: block.raw :: reader.blocks
              fresh := false } rfl rfl enough
          rw [readAll_line block several (.inr ⟨_, rfl⟩) closed,
            readAll_blank next (by rw [more_eq]) rfl, ← more_eq, later.1, later.2]
          simp

theorem line_free (block : PlainBlock) : '\n' ∉ block.line ∧ '\r' ∉ block.line := by
  cases block with
  | heading level title => simpa [line] using title.free
  | paragraph text => exact text.free
  | comment body => simpa [line] using body.free

theorem sourceLines_lines {blocks : List PlainBlock} (nonempty : blocks ≠ []) :
    sourceLines (Line.join (lines blocks)) = lines blocks := by
  have member : ∀ l ∈ lines blocks, ('\n' ∉ l.text ∧ '\r' ∉ l.text) ∧ l.lazy = false := by
    clear nonempty
    induction blocks with
    | nil => simp [lines]
    | cons block rest ih =>
        cases rest with
        | nil => simpa [lines] using block.line_free
        | cons next rest =>
            rw [lines_cons_cons]
            exact List.forall_mem_cons.2 ⟨⟨block.line_free, rfl⟩,
              List.forall_mem_cons.2 ⟨by simp, ih⟩⟩
  refine sourceLines_join ?_ (fun l present => ⟨(member l present).1.1, (member l present).2⟩)
    fun l present => (member l present).1.2
  cases blocks with
  | nil => exact absurd rfl nonempty
  | cons block rest => cases rest <;> exact List.cons_ne_nil _ _

/-- Plain blocks are read from their lines. -/
theorem ofMarkdown_lines {blocks : List PlainBlock} (nonempty : blocks ≠ []) :
    Document.ofMarkdown (Line.join (lines blocks)) =
      (blocks.map node).intersperse (.block (.blank none)) := by
  have fuel : (lines blocks).length < Reader.fuelFor (lines blocks) := by
    rw [Reader.fuelFor]
    have grows := Nat.le_mul_of_pos_right (8 * ((lines blocks).length + 2))
      (show 0 < (Line.join (lines blocks)).length + 2 by omega)
    omega
  have read := @readAll_lines blocks 0 _ true { lines := lines blocks } rfl rfl fuel
  rw [Document.ofMarkdown, Markdown.read, sourceLines_lines nonempty, Reader.read]
  dsimp only
  rw [read.1, read.2, List.append_nil, List.reverse_reverse]
  clear read fuel nonempty
  induction blocks with
  | nil => rfl
  | cons block rest ih =>
      cases rest with
      | nil => simp [mapBlocks, ofBlock_map_raw]
      | cons next rest =>
          simp only [List.map_cons, List.intersperse_cons_cons, mapBlocks, ofBlock_map_raw] at ih ⊢
          rw [ih]
          rfl

/-! ## Printing blocks -/

theorem escapeMarks_plain {u : Text} (chars : ∀ d ∈ u, isPlainChar d = true) :
    escapeMarks 0 u = u := by
  induction u with
  | nil => rfl
  | cons d u ih =>
      obtain ⟨here, later⟩ := List.forall_mem_cons.1 chars
      have ne := isPlainChar_ne here
      simp [escapeMarks, ih later, ne '&' (by decide), ne '\\' (by decide), ne '`' (by decide),
        ne '<' (by decide), ne '!' (by decide)]

/-- A text without marks is printed as it is, also where it stands among others. -/
theorem printText_chars {u : Text} (chars : ∀ d ∈ u, isPlainChar d = true) : printText u = u := by
  cases u with
  | nil => rfl
  | cons c rest =>
      have ne := isPlainChar_ne (chars c List.mem_cons_self)
      have emphasis : ((c :: rest).all fun d => d == '*' || d == '_') = false := by
        simp [ne '*' (by decide), ne '_' (by decide)]
      rw [printText, emphasis]
      exact escapeMarks_plain chars

theorem printText_plain (t : PlainText) : printText t.1 = t.1 := printText_chars t.chars

theorem escapeLines_plain (t : PlainText) : escapeLines t.1 = t.1 := by
  obtain ⟨c, rest, eq, start⟩ := t.eq_cons
  have ne := isPlainStart_ne start
  have mark : blockMarkLength t.1 = none := by
    have hashes : (t.1.takeWhile (· == '#')).length = 0 := by
      simp [eq, ne '#' (by decide)]
    have point : ∀ d, (d == '.' || d == ')') = true →
        t.1[(t.1.takeWhile Text.isDecimal).length]? ≠ some d := by
      intro d isPoint head
      have unnumbered := t.unnumbered
      rw [List.head?_drop, head, Option.any_some, isPoint] at unnumbered
      cases unnumbered
    simp only [blockMarkLength, hashes]
    rw [eq] at point ⊢
    simp [ne '>' (by decide), ne '-' (by decide), ne '+' (by decide), ne '*' (by decide),
      point '.' rfl, point ')' rfl]
  have indent : t.1.takeWhile Text.isBlank = [] := by
    rw [eq, List.takeWhile_cons_of_neg (by simp [isBlank_of_isPlainStart start])]
  have escaped : escapeLine t.1 = t.1 := by
    simp only [escapeLine, indent, List.length_nil, List.drop_zero, mark]
  have single : Text.splitAtChar '\n' t.1 = [t.1] := Text.splitAtChar_eq_singleton t.free.1
  rw [escapeLines, single, List.map_singleton, escaped]
  rfl

theorem escapeHashes_plain (t : PlainText) : escapeHashes t.1 = t.1 := by
  obtain ⟨front, c, eq, solid⟩ := t.eq_concat
  have ne := isPlainChar_ne (t.chars c (by simp [eq]))
  have last : t.1.getLast? = some c := by rw [eq, List.getLast?_concat]
  have trimmed : Text.trimEnd (· == '#') t.1 = t.1 := by
    rw [eq, Text.trimEnd_append_cons (· == '#') (by simp [ne '#' (by decide)])]
    rfl
  simp [escapeHashes, last, ne '\n' (by decide), trimmed]

/-- A block is printed as its line. -/
theorem printBlocks_node (block : PlainBlock) :
    printBlocks none block.node.blocks = block.line ++ ['\n', '\n'] := by
  cases block with
  | heading level title =>
      simp [node, Node.blocks, printBlocks, printBlock, printHeading, printInlines, Inline.print,
        printText_plain, escapeHashes_plain, title.free.1, line]
  | paragraph t =>
      simp [node, Node.blocks, printBlocks, printBlock, printInlines, Inline.print, printText_plain,
        escapeLines_plain, line]
  | comment body => simp [node, Node.blocks, printBlocks, printBlock, line]

/-- What blocks are printed as is one text with white space at its end only. -/
theorem exists_solid {blocks : List PlainBlock} (nonempty : blocks ≠ []) :
    ∃ body, Text.Solid body ∧ Line.join (lines blocks) = body ++ ['\n'] ∧
      blocks.flatMap (fun block => block.line ++ ['\n', '\n']) = body ++ ['\n', '\n'] := by
  induction blocks with
  | nil => exact absurd rfl nonempty
  | cons block rest ih =>
      cases rest with
      | nil => exact ⟨block.line, block.solid, by simp [lines, Line.join], by simp⟩
      | cons next rest =>
          obtain ⟨body, solid, joined, printed⟩ := ih (List.cons_ne_nil _ _)
          refine ⟨block.line ++ '\n' :: '\n' :: body, ⟨?_, ?_⟩, ?_, ?_⟩
          · obtain ⟨c, tail, head, first⟩ := block.solid.first
            exact ⟨c, tail ++ '\n' :: '\n' :: body, by rw [head, List.cons_append], first⟩
          · obtain ⟨front, c, tail, last⟩ := solid.last
            exact ⟨block.line ++ '\n' :: '\n' :: front, c, by simp [tail], last⟩
          · rw [lines_cons_cons]
            simp only [Line.join, List.flatMap_cons] at joined ⊢
            rw [joined]
            simp
          · rw [List.flatMap_cons, printed]
            simp

end PlainBlock

/-- Blank lines around a document are cut. -/
theorem print_solid {blocks : List (Block (List Inline))} {body : Text} (solid : Text.Solid body)
    (printed : printBlocks none blocks = body ++ ['\n', '\n']) : print blocks = body ++ ['\n'] := by
  obtain ⟨n, leading⟩ := leadingLines_newlines blocks
  obtain ⟨front, c, tail, last⟩ := solid.last
  have cut : cutEnd (List.replicate n '\n' ++ (body ++ ['\n', '\n']) ++ ['\n']) =
      List.replicate n '\n' ++ body ++ ['\n'] := by
    have short : cutEnd ['\n', '\n', '\n'] = ['\n'] := by decide
    have split : List.replicate n '\n' ++ (body ++ ['\n', '\n']) ++ ['\n'] =
        (List.replicate n '\n' ++ front) ++ c :: ['\n', '\n', '\n'] := by
      simp [tail]
    rw [split, cutEnd_append_cons last, short, tail]
    simp
  unfold print
  rw [leading, printed]
  dsimp only
  rw [cut, solid.trimBoth (by simp; decide) (by simp) (by simp)]

/-- A document that prints nothing is one line end. -/
theorem print_empty {blocks : List (Block (List Inline))} (printed : printBlocks none blocks = []) :
    print blocks = ['\n'] := by
  obtain ⟨n, leading⟩ := leadingLines_newlines blocks
  have cut : cutEnd (List.replicate (n + 1) '\n') = ['\n'] := by
    have body : Text.stripEnd (List.replicate (n + 1) '\n') = [] := by
      have blank : Text.isBlank '\n' = true := by decide
      simp [Text.stripEnd, Text.trimEnd, blank]
    unfold cutEnd
    dsimp only
    rw [body]
    simp [List.replicate_succ]
  unfold print
  rw [leading, printed, List.append_nil, ← List.replicate_succ', cut]
  rfl

/-! ## Plain documents -/

/-- A text as a plain one. -/
def PlainText.of? (t : Text) : Option PlainText :=
  if plain : isPlain t = true then some ⟨t, plain⟩ else none

theorem PlainText.of?_eq_some {t : Text} {text : PlainText} (found : of? t = some text) :
    text.1 = t := by
  unfold of? at found
  split at found
  · cases found
    rfl
  · cases found

/-- The body of a comment that takes one line. -/
def CommentBody.of? (value : Text) : Option CommentBody := do
  let rest ← Text.dropHead? "<!--".toList value
  let (body, after) ← Text.breakOn "-->".toList rest
  if plain : after = [] ∧ isCommentBody body = true then some ⟨body, plain.2⟩ else none

theorem CommentBody.of?_eq_some {value : Text} {body : CommentBody}
    (found : of? value = some body) : "<!--".toList ++ body.1 ++ "-->".toList = value := by
  simp only [of?, Option.bind_eq_bind, Option.bind_eq_some_iff, Prod.exists] at found
  obtain ⟨rest, head, text, after, cut, found⟩ := found
  split at found
  · rename_i plain
    obtain ⟨rfl, plain⟩ := plain
    cases found
    rw [Text.dropHead?_eq_some.1 head, Text.eq_of_breakOn cut, List.append_nil, List.append_assoc]
  · cases found

namespace PlainBlock

/-- The plain block that a node is. -/
def ofNode? : Node → Option PlainBlock
  | .heading (.ofNat (n + 1)) [.text t] =>
    if bound : n < 6 then (PlainText.of? t).map (heading ⟨n, bound⟩) else none
  | .block (.paragraph [.text t]) => (PlainText.of? t).map paragraph
  | .markup value => (CommentBody.of? value).map comment
  | _ => none

theorem ofNode?_node (block : PlainBlock) : ofNode? block.node = some block := by
  have text : ∀ t : PlainText, PlainText.of? t.1 = some t := fun t => dif_pos t.2
  cases block with
  | heading level title =>
      change (if bound : level.val < 6 then
        (PlainText.of? title.1).map (heading ⟨level.val, bound⟩) else none) = _
      rw [dif_pos level.isLt, text, Option.map_some]
  | paragraph t =>
      change (PlainText.of? t.1).map paragraph = _
      rw [text, Option.map_some]
  | comment body =>
      have found : CommentBody.of? ("<!--".toList ++ body.1 ++ "-->".toList) = some body := by
        rw [CommentBody.of?, List.append_assoc, Text.dropHead?_eq_some.2 rfl]
        simp only [Option.bind_eq_bind, Option.bind_some, body.ends]
        exact dif_pos ⟨trivial, body.2⟩
      change (CommentBody.of? ("<!--".toList ++ body.1 ++ "-->".toList)).map comment = _
      rw [found, Option.map_some]

theorem node_of_ofNode? {node : Node} {block : PlainBlock} (plain : ofNode? node = some block) :
    block.node = node := by
  unfold ofNode? at plain
  split at plain
  · split at plain
    · obtain ⟨title, found, rfl⟩ := Option.map_eq_some_iff.1 plain
      rw [← PlainText.of?_eq_some found]
      rfl
    · cases plain
  · obtain ⟨text, found, rfl⟩ := Option.map_eq_some_iff.1 plain
    rw [← PlainText.of?_eq_some found]
    rfl
  · obtain ⟨body, found, rfl⟩ := Option.map_eq_some_iff.1 plain
    rw [← CommentBody.of?_eq_some found]
    rfl
  · cases plain

end PlainBlock

end Markdown

open Markdown

/-- Whether a node is a plain block or a blank line. -/
def Node.isPlain : Node → Bool
  | .block (.blank _) => true
  | node => (PlainBlock.ofNode? node).isSome

theorem Node.isPlain_cases {node : Node} (plain : node.isPlain = true) :
    (∃ leading, node = .block (.blank leading)) ∨
      ∃ block, PlainBlock.ofNode? node = some block ∧ node = block.node := by
  unfold isPlain at plain
  split at plain
  · exact .inl ⟨_, rfl⟩
  · obtain ⟨block, found⟩ := Option.isSome_iff_exists.1 plain
    exact .inr ⟨block, found, (PlainBlock.node_of_ofNode? found).symm⟩

theorem Node.isPlain_node (block : PlainBlock) : block.node.isPlain = true := by
  have shown : block.node.isPlain = (PlainBlock.ofNode? block.node).isSome := by
    cases block <;> rfl
  rw [shown, PlainBlock.ofNode?_node, Option.isSome_some]

namespace Document

/-- A document of plain blocks and blank lines. -/
def IsPlain (document : Document) : Prop := ∀ node ∈ document, node.isPlain = true

instance (document : Document) : Decidable document.IsPlain :=
  inferInstanceAs (Decidable (∀ node ∈ document, node.isPlain = true))

/-- The plain blocks of a document. -/
def plainBlocks (document : Document) : List PlainBlock := document.filterMap PlainBlock.ofNode?

variable {document : Document}

theorem look?_blank (leading : Option Nat) : Node.look? (.block (.blank leading)) = none := by
  simp [Node.look?, Node.depth?, Node.markup?, Node.blocks, printBlocks, printBlock]

/-- Only its plain blocks show of a plain document. -/
theorem IsPlain.filterMap_look? (plain : document.IsPlain) :
    document.filterMap Node.look? =
      (document.plainBlocks.map PlainBlock.node).filterMap Node.look? := by
  induction document with
  | nil => rfl
  | cons node rest ih =>
      obtain ⟨here, later⟩ := List.forall_mem_cons.1 plain
      rcases Node.isPlain_cases here with ⟨leading, rfl⟩ | ⟨block, found, rfl⟩
      · rw [List.filterMap_cons_none (look?_blank leading), ih later]
        rfl
      · have shown : plainBlocks (block.node :: rest) = block :: plainBlocks rest :=
          List.filterMap_cons_some found
        rw [shown, List.map_cons, List.filterMap_cons, List.filterMap_cons, ih later]

theorem looks_intersperse (nodes : Document) :
    (nodes.intersperse (.block (.blank none))).filterMap Node.look? =
      nodes.filterMap Node.look? := by
  induction nodes with
  | nil => rfl
  | cons node rest ih =>
      cases rest with
      | nil => rfl
      | cons next rest =>
          rw [List.intersperse_cons_cons, List.filterMap_cons,
            List.filterMap_cons_none (look?_blank none), ih, ← List.filterMap_cons]

theorem IsPlain.printBlocks (plain : document.IsPlain) :
    printBlocks none document.blocks =
      document.plainBlocks.flatMap fun block => block.line ++ ['\n', '\n'] := by
  rw [← printBlocks_looks, plain.filterMap_look?, printBlocks_looks]
  induction document.plainBlocks with
  | nil => simp [blocks, Markdown.printBlocks]
  | cons block rest ih =>
      rw [List.map_cons, blocks, printBlocks_append, PlainBlock.printBlocks_node, ih,
        List.flatMap_cons]

end Document

mutual

theorem Node.blocks_leaves (node : Node) : Document.blocks node.leaves = node.blocks := by
  cases node with
  | subtree nodes => rw [Node.leaves, Node.blocks, Document.blocks_leaves nodes]
  | _ => simp [Node.leaves, Node.blocks, Document.blocks]

theorem Document.blocks_leaves (document : Document) :
    Document.blocks document.leaves = document.blocks := by
  cases document with
  | nil => rw [Document.leaves]
  | cons node rest =>
      rw [Document.leaves, Document.blocks_append, Node.blocks_leaves node,
        Document.blocks_leaves rest, Document.blocks]

end

namespace Document

/-- A plain document looks the same once it has been written and read. -/
theorem IsPlain.readsBack {document : Document} (plain : document.leaves.IsPlain) :
    document.ReadsBack := by
  have looks : document.looks =
      (document.leaves.plainBlocks.map PlainBlock.node).filterMap Node.look? :=
    plain.filterMap_look?
  have printed := plain.printBlocks
  rw [blocks_leaves] at printed
  rw [ReadsBack, looks, Document.looks, (isFlat_ofMarkdown _).leaves, toMarkdown]
  by_cases none : document.leaves.plainBlocks = []
  · rw [none] at printed ⊢
    rw [print_empty printed]
    rfl
  · obtain ⟨body, solid, joined, text⟩ := PlainBlock.exists_solid none
    rw [print_solid solid (printed.trans text), ← joined, PlainBlock.ofMarkdown_lines none]
    exact looks_intersperse _

end Document

end ExportDocs
