/-
# ExportDocs.Proofs.Document.Words -- documents of words are read as they were meant

A document of words is built, to any length and depth, from headings and paragraphs of words,
markers for tokens of words, and documents of words put in as one node.  It is printed as the lines
of plain blocks (`Document.ShowsAs`), so reading what was written gives back its nodes with the
documents inside it in place: kinds, order, depths, texts and values.
-/
import ExportDocs.Proofs.Document.Region
import ExportDocs.Proofs.Document.RoundTrip

namespace ExportDocs

set_option autoImplicit false

open Markdown

/-! ## Words -/

/-- One or more words of ASCII letters and digits, with single spaces between them. -/
inductive IsWords : Text → Prop
  | word {word : Text} (nonempty : word ≠ []) (letters : ∀ c ∈ word, c.isAlphanum) : IsWords word
  | more {word rest : Text} (nonempty : word ≠ []) (letters : ∀ c ∈ word, c.isAlphanum)
      (later : IsWords rest) : IsWords (word ++ ' ' :: rest)

/-- An ASCII letter or digit means nothing to a reader. -/
theorem isPlainStart_of_isAlphanum {c : Char} (letter : c.isAlphanum) : isPlainStart c = true := by
  have ascii : ∀ n : Fin 128, (Char.ofNat n).isAlphanum = true →
      isPlainStart (Char.ofNat n) = true := by decide
  have small : c.toNat < 128 := by
    have ranges : (decide (c.val ≥ 'A'.val ∧ c.val ≤ 'Z'.val) ||
        (decide (c.val ≥ 'a'.val) && decide (c.val ≤ 'z'.val)) ||
        (decide (c.val ≥ '0'.val) && decide (c.val ≤ '9'.val))) = true := letter
    simp only [Bool.or_eq_true, Bool.and_eq_true, decide_eq_true_eq, UInt32.le_iff_toNat_le,
      ge_iff_le] at ranges
    change ((65 ≤ c.toNat ∧ c.toNat ≤ 90) ∨ (97 ≤ c.toNat ∧ c.toNat ≤ 122)) ∨
      (48 ≤ c.toNat ∧ c.toNat ≤ 57) at ranges
    omega
  simpa using ascii ⟨c.toNat, small⟩ (by simpa using letter)

namespace IsWords

variable {t : Text}

theorem chars (words : IsWords t) : ∀ c ∈ t, c.isAlphanum ∨ c = ' ' := by
  induction words with
  | word _ letters => exact fun c member => .inl (letters c member)
  | more _ letters _ ih =>
      intro c member
      rcases List.mem_append.1 member with here | later
      · exact .inl (letters c here)
      · exact (List.mem_cons.1 later).elim .inr (ih c)

theorem first (words : IsWords t) : ∃ c rest, t = c :: rest ∧ c.isAlphanum := by
  cases words with
  | word nonempty letters =>
      obtain ⟨c, rest, rfl⟩ := List.exists_cons_of_ne_nil nonempty
      exact ⟨c, rest, rfl, letters c List.mem_cons_self⟩
  | more nonempty letters later =>
      obtain ⟨c, rest, rfl⟩ := List.exists_cons_of_ne_nil nonempty
      exact ⟨c, _, rfl, letters c List.mem_cons_self⟩

theorem last (words : IsWords t) : ∃ front c, t = front ++ [c] ∧ c.isAlphanum := by
  induction words with
  | word nonempty letters =>
      obtain ⟨front, c, rfl⟩ := (List.eq_nil_or_concat _).resolve_left nonempty
      exact ⟨front, c, by simp, letters c (by simp)⟩
  | @more word _ _ _ _ ih =>
      obtain ⟨front, c, rfl, letter⟩ := ih
      exact ⟨word ++ ' ' :: front, c, by simp, letter⟩

/-- Words do not hold the characters that mean something. -/
theorem not_mem (words : IsWords t) {d : Char} (special : isPlainStart d = false)
    (solid : d ≠ ' ') : d ∉ t := by
  intro member
  rcases words.chars d member with letter | blank
  · rw [isPlainStart_of_isAlphanum letter] at special
    cases special
  · exact solid blank

theorem plainChars (words : IsWords t) : ∀ c ∈ t, isPlainChar c = true := by
  intro c member
  rcases words.chars c member with letter | rfl
  · have start := isPlainStart_of_isAlphanum letter
    rw [isPlainStart, Bool.and_eq_true] at start
    exact start.1
  · decide

theorem isPlain (words : IsWords t) : isPlain t = true := by
  obtain ⟨c, rest, eq, start⟩ := words.first
  obtain ⟨front, d, eq', final⟩ := words.last
  have head : t.head?.any isPlainStart = true := by
    simp [eq, isPlainStart_of_isAlphanum start]
  have tail : t.getLast?.any (· != ' ') = true := by
    have solid := isPlainStart_ne (isPlainStart_of_isAlphanum final) ' ' (by decide)
    simp [eq', solid]
  have unnumbered : ((t.drop (t.takeWhile Text.isDecimal).length).head?.any
      fun c => c == '.' || c == ')') = false := by
    rw [List.head?_drop]
    cases after : t[(t.takeWhile Text.isDecimal).length]? with
    | none => rfl
    | some e =>
        have member := List.mem_of_getElem? after
        rcases words.chars e member with letter | rfl
        · have point : e ≠ '.' := by rintro rfl; exact absurd letter (by decide)
          have paren : e ≠ ')' := by rintro rfl; exact absurd letter (by decide)
          simp [point, paren]
        · decide
  rw [Markdown.isPlain, List.all_eq_true.2 words.plainChars, head, tail, unnumbered]
  rfl

end IsWords

/-! ## Nodes of words -/

/-- Inline content that is nothing but texts, which together spell a text. -/
def Spells (content : List Inline) (t : Text) : Prop :=
  ∃ pieces : List Text, content = pieces.map .text ∧ pieces.flatten = t

/-- A node of a document of words: a heading, a paragraph, a marker of the default settings, or a
document of words. -/
inductive Node.OfWords : Node → Prop
  | heading {depth : Int} {title : List Inline} {t : Text} (low : 1 ≤ depth) (high : depth ≤ 6)
      (spells : Spells title t) (words : IsWords t) : OfWords (.heading depth title)
  | paragraph {content : List Inline} {t : Text} (spells : Spells content t) (words : IsWords t) :
      OfWords (.block (.paragraph content))
  | opening {token value : Text} (words : IsWords token)
      (marks : ({} : Settings).startMarkerOf token = .ok value) : OfWords (.markup value)
  | closing {token value : Text} (words : IsWords token)
      (marks : ({} : Settings).endMarkerOf token = .ok value) : OfWords (.markup value)
  | subtree {nodes : Document} (each : ∀ node ∈ nodes, OfWords node) : OfWords (.subtree nodes)

/-- Inline content with its texts put together. -/
def joinTexts (content : List Inline) : List Inline :=
  [.text (content.flatMap fun
    | .text t => t
    | _ => [])]

/-- A heading or a paragraph with its texts put together; one that has a single text stays as it
is. -/
def Node.joined : Node → Node
  | .heading depth title => .heading depth (joinTexts title)
  | .block (.paragraph content) => .block (.paragraph (joinTexts content))
  | node => node

/-- Whether a node is a blank line. -/
def Node.isBlankLine : Node → Bool
  | .block (.blank _) => true
  | _ => false

theorem Spells.joinTexts {content : List Inline} {t : Text} (spells : Spells content t) :
    joinTexts content = [.text t] := by
  obtain ⟨pieces, rfl, rfl⟩ := spells
  simp [ExportDocs.joinTexts, List.flatMap_map, List.flatMap_id']

/-- Texts that spell words are printed as these words. -/
theorem Spells.printInlines {content : List Inline} {t : Text} (spells : Spells content t)
    (words : IsWords t) : printInlines content = t := by
  obtain ⟨pieces, rfl, rfl⟩ := spells
  have chars := words.plainChars
  clear words
  induction pieces with
  | nil => rfl
  | cons piece rest ih =>
      rw [List.flatten_cons] at chars
      have here : printText piece = piece :=
        PlainBlock.printText_chars fun c member => chars c (List.mem_append_left _ member)
      rw [List.map_cons, Markdown.printInlines, Inline.print, here,
        ih fun c member => chars c (List.mem_append_right _ member), List.flatten_cons]

/-! ## Markers -/

/-- A text is cut at a mark if the first character of the mark does not stand before it. -/
theorem Text.breakOn_of_not_mem {c : Char} (rest : Text) {body : Text} (free : c ∉ body) :
    breakOn (c :: rest) (body ++ c :: rest) = some (body, []) := by
  induction body with
  | nil => simp [breakOn, dropHead?_eq_some.2 (List.append_nil (c :: rest)).symm]
  | cons d body ih =>
      obtain ⟨apart, later⟩ := not_or.1 (mt List.mem_cons.2 free)
      rw [List.cons_append, breakOn]
      simp [dropHead?, apart, ih later]

/-- What stands around a token in a comment, and the token. -/
theorem isCommentBody_marker {token : Text} (words : IsWords token) (head : Text)
    (plain : (head.all fun c => c != '-' && c != '\n' && c != '\r') = true) :
    isCommentBody (head ++ token ++ ") ".toList) = true := by
  have free : ∀ d, (d = '-' ∨ d = '\n' ∨ d = '\r') → d ∉ head ++ token ++ ") ".toList := by
    intro d special member
    simp only [List.mem_append] at member
    rcases member with (here | here) | here
    · have plain := List.all_eq_true.1 plain d here
      rcases special with rfl | rfl | rfl <;> simp at plain
    · rcases special with rfl | rfl | rfl <;>
        exact words.not_mem (by decide) (by decide) here
    · rcases special with rfl | rfl | rfl <;> simp at here
  have cut := Text.breakOn_of_not_mem "->".toList (free '-' (.inl rfl))
  simp only [isCommentBody, Bool.and_eq_true, beq_iff_eq, Bool.not_eq_true',
    List.contains_eq_mem, decide_eq_false_iff_not]
  exact ⟨⟨cut, free _ (.inr (.inl rfl))⟩, free _ (.inr (.inr rfl))⟩

/-! ## Printing and reading -/

/-- A document shows as plain blocks: these are its nodes, and it is printed as their lines. -/
def Document.ShowsAs (document : Document) (blocks : List PlainBlock) : Prop :=
  document.leaves.map Node.joined = blocks.map PlainBlock.node ∧
    printBlocks none document.blocks = blocks.flatMap fun block => block.line ++ ['\n', '\n']

theorem Document.ShowsAs.cons {node : Node} {rest : Document} {first later : List PlainBlock}
    (here : ShowsAs [node] first) (there : ShowsAs rest later) :
    ShowsAs (node :: rest) (first ++ later) := by
  constructor
  · rw [← List.singleton_append, leaves_append, List.map_append, here.1, there.1, List.map_append]
  · rw [← List.singleton_append, blocks_append, printBlocks_append, here.2, there.2,
      List.flatMap_append]

theorem Document.exists_showsAs {document : Document}
    (each : ∀ node ∈ document, ∃ blocks, ShowsAs [node] blocks) :
    ∃ blocks, document.ShowsAs blocks := by
  induction document with
  | nil => exact ⟨[], by simp [leaves], by simp [Document.blocks, printBlocks]⟩
  | cons node rest ih =>
      obtain ⟨⟨first, here⟩, later⟩ := List.forall_mem_cons.1 each
      obtain ⟨blocks, there⟩ := ih later
      exact ⟨first ++ blocks, here.cons there⟩

/-- A node without documents inside shows as the block that it is printed as. -/
theorem Document.showsAs_block {node : Node} (block : PlainBlock) (leaf : node.leaves = [node])
    (same : node.joined = block.node)
    (printed : printBlocks none node.blocks = printBlocks none block.node.blocks) :
    ShowsAs [node] [block] := by
  constructor
  · simp [leaves, leaf, same]
  · simp [Document.blocks, printed, PlainBlock.printBlocks_node]

/-- A comment around a token of words shows as a comment of one line. -/
theorem Document.showsAs_marker {token front : Text} (words : IsWords token) (head : Text)
    (opens : front = "<!--".toList ++ head)
    (plain : (head.all fun c => c != '-' && c != '\n' && c != '\r') = true) :
    ∃ blocks, ShowsAs [.markup (front ++ token ++ ") -->".toList)] blocks := by
  have closes : ") -->".toList = ") ".toList ++ "-->".toList := by decide
  have body : front ++ token ++ ") -->".toList =
      "<!--".toList ++ (head ++ token ++ ") ".toList) ++ "-->".toList := by
    rw [opens, closes]
    simp only [List.append_assoc]
  rw [body]
  exact ⟨[.comment ⟨_, isCommentBody_marker words head plain⟩],
    showsAs_block _ (by rw [Node.leaves]) rfl rfl⟩

/-- A node of words shows as plain blocks. -/
theorem Node.OfWords.exists_showsAs {node : Node} (ofWords : node.OfWords) :
    ∃ blocks, Document.ShowsAs [node] blocks := by
  induction ofWords with
  | @heading depth title t low high spells words =>
      obtain ⟨level, rfl⟩ : ∃ level : Fin 6, depth = (level + 1 : Nat) :=
        ⟨⟨(depth - 1).toNat, by omega⟩, by simp; omega⟩
      refine ⟨[.heading level ⟨t, words.isPlain⟩], Document.showsAs_block _ ?_ ?_ ?_⟩
      · simp [Node.leaves]
      · simp [Node.joined, spells.joinTexts, PlainBlock.node]
      · simp [Node.blocks, PlainBlock.node, printBlocks, printBlock, spells.printInlines words,
          printInlines, Inline.print, PlainBlock.printText_chars words.plainChars]
  | @paragraph content t spells words =>
      refine ⟨[.paragraph ⟨t, words.isPlain⟩], Document.showsAs_block _ ?_ ?_ ?_⟩
      · simp [Node.leaves]
      · simp [Node.joined, spells.joinTexts, PlainBlock.node]
      · simp [Node.blocks, PlainBlock.node, printBlocks, printBlock, spells.printInlines words,
          printInlines, Inline.print, PlainBlock.printText_chars words.plainChars]
  | @opening token _ words marks =>
      rw [Region.startMarkerOf_default] at marks
      obtain rfl := Except.ok.inj marks
      exact Document.showsAs_marker words " START TOKEN(".toList (by decide) (by decide)
  | @closing token _ words marks =>
      rw [Region.endMarkerOf_default] at marks
      obtain rfl := Except.ok.inj marks
      exact Document.showsAs_marker words " END TOKEN(".toList (by decide) (by decide)
  | @subtree nodes _ each =>
      obtain ⟨blocks, nodes, printed⟩ := Document.exists_showsAs each
      refine ⟨blocks, ?_, ?_⟩
      · simpa [Document.leaves, Node.leaves] using nodes
      · simpa [Document.blocks, Node.blocks] using printed

/-- Blank lines are left out again where they were put between blocks. -/
theorem filter_isBlankLine_intersperse (blocks : List PlainBlock) :
    ((blocks.map PlainBlock.node).intersperse (.block (.blank none))).filter (!·.isBlankLine) =
      blocks.map PlainBlock.node := by
  have solid : ∀ block : PlainBlock, (!block.node.isBlankLine) = true := by
    intro block
    cases block <;> rfl
  induction blocks with
  | nil => rfl
  | cons block rest ih =>
      cases rest with
      | nil => simp [solid]
      | cons next rest =>
          rw [List.map_cons, List.map_cons, List.intersperse_cons_cons, ← List.map_cons,
            List.filter_cons, if_pos (solid block), List.filter_cons,
            if_neg (by simp [Node.isBlankLine]), ih]

/-- **A document of words is read as it was meant.**  Written and read again, without the blank
lines, it is the sequence of its nodes with the documents inside it in place: same kinds in the same
order, same depths, same texts, same markers. -/
theorem words_read_as_meant (document : Document) (ofWords : ∀ node ∈ document, node.OfWords) :
    (Document.ofMarkdown document.toMarkdown).filter (!·.isBlankLine) =
      document.leaves.map Node.joined := by
  obtain ⟨blocks, nodes, printed⟩ := Document.exists_showsAs fun node member =>
    (ofWords node member).exists_showsAs
  rw [nodes, Document.toMarkdown]
  by_cases none : blocks = []
  · subst none
    rw [print_empty printed]
    rfl
  · obtain ⟨body, solid, joined, text⟩ := PlainBlock.exists_solid none
    rw [print_solid solid (printed.trans text), ← joined, PlainBlock.ofMarkdown_lines none]
    exact filter_isBlankLine_intersperse blocks

/-- A heading of two texts, two paragraphs in a row, and a region that holds a document in a
document. -/
theorem words_read_as_meant_with_region :
    let words := fun t : String => [Inline.text t.toList]
    let inner : Document := [.heading 6 (words "Deep 1"), .block (.paragraph (words "one"))]
    let document : Document :=
      [.heading 1 [.text "The ".toList, .text "API".toList], .block (.paragraph (words "a")),
        .block (.paragraph (words "b c")), .markup "<!-- START TOKEN(x 1) -->".toList,
        .subtree [.subtree inner, .block (.paragraph (words "two"))],
        .markup "<!-- END TOKEN(x 1) -->".toList]
    (∀ node ∈ document, node.OfWords) ∧
    (Document.ofMarkdown document.toMarkdown).filter (!·.isBlankLine) =
      [.heading 1 (words "The API"), .block (.paragraph (words "a")),
        .block (.paragraph (words "b c")), .markup "<!-- START TOKEN(x 1) -->".toList,
        .heading 6 (words "Deep 1"), .block (.paragraph (words "one")),
        .block (.paragraph (words "two")), .markup "<!-- END TOKEN(x 1) -->".toList] := by
  intro words inner document
  have word : ∀ t : Text, t ≠ [] → t.all Char.isAlphanum = true → IsWords t :=
    fun t nonempty letters => .word nonempty (List.all_eq_true.1 letters)
  have pair : ∀ t u : Text, t ≠ [] → t.all Char.isAlphanum = true → IsWords u →
      IsWords (t ++ ' ' :: u) :=
    fun t u nonempty letters later => .more nonempty (List.all_eq_true.1 letters) later
  have spells : ∀ t : String, Spells (words t) t.toList := fun t => ⟨[t.toList], rfl, by simp⟩
  have token : IsWords "x 1".toList :=
    pair ['x'] ['1'] (by decide) (by decide) (word _ (by decide) (by decide))
  have ofWords : ∀ node ∈ document, node.OfWords := by
    simp only [document, List.forall_mem_cons]
    refine ⟨.heading (by decide) (by decide) ⟨["The ".toList, "API".toList], rfl, rfl⟩ ?_,
      .paragraph (spells _) ?_, .paragraph (spells _) ?_,
      .opening token (Region.startMarkerOf_default _), .subtree ?_,
      .closing token (Region.endMarkerOf_default _), by simp⟩
    · exact pair "The".toList "API".toList (by decide) (by decide) (word _ (by decide) (by decide))
    · exact word _ (by decide) (by decide)
    · exact pair ['b'] ['c'] (by decide) (by decide) (word _ (by decide) (by decide))
    · simp only [List.forall_mem_cons, inner]
      refine ⟨.subtree ?_, .paragraph (spells _) (word _ (by decide) (by decide)), by simp⟩
      simp only [List.forall_mem_cons]
      refine ⟨.heading (by decide) (by decide) (spells _) ?_,
        .paragraph (spells _) (word _ (by decide) (by decide)), by simp⟩
      exact pair "Deep".toList ['1'] (by decide) (by decide) (word _ (by decide) (by decide))
  exact ⟨ofWords, (words_read_as_meant document ofWords).trans rfl⟩

end ExportDocs
