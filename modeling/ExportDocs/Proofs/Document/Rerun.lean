/-
# ExportDocs.Proofs.Document.Rerun -- putting a content where another one stands

A second run reads what the first one wrote.  If that reads back, the second run finds the same
frame and replaces the first content, unless that content itself has an end marker of the token:
then the region ends there, and the rest of the first content stays (`append_replaces_iff`).  Plain
contents in plain documents do read back (`IsPlain.splice_readsBack`).
-/
import ExportDocs.Proofs.Document.Frame
import ExportDocs.Proofs.Document.Look
import ExportDocs.Proofs.Document.RoundTrip
import ExportDocs.Proofs.FileTree

namespace ExportDocs

set_option autoImplicit false

open Markdown (printBlocks)

/-- A frame shows only what shows of the documents around it. -/
theorem Frame.around_congr {token : Text} {before after before' after' : Document}
    (same : before.filterMap Node.look? = before'.filterMap Node.look?)
    (same' : after.filterMap Node.look? = after'.filterMap Node.look?) :
    around token before after = around token before' after' := by
  simp only [around, Markdown.opening, Markdown.closing, ← Document.printBlocks_looks, same, same',
    Document.lastDepth_congr same]

namespace Region

variable {token : Text} {document before inside after other : Document}

theorem isMarkup_of_looks {marker : Text} {first second : Document}
    (same : first.filterMap Node.look? = second.filterMap Node.look?)
    (absent : ∀ node ∈ first, node.isMarkup marker = false) :
    ∀ node ∈ second, node.isMarkup marker = false := by
  intro node member
  refine Bool.eq_false_iff.2 fun isMarker => ?_
  obtain rfl := Node.isMarkup_iff.1 isMarker
  have shown : Look.ofMarkup marker ∈ first.filterMap Node.look? := by
    rw [same]
    exact List.mem_filterMap.2 ⟨_, member, Node.look?_markup marker⟩
  obtain ⟨source, present, eq⟩ := List.mem_filterMap.1 shown
  have absent := absent source present
  rw [Node.eq_markup_of_look? eq] at absent
  simp [Node.isMarkup] at absent

/-- A document that looks like one with a region has that region, and looks the same around it. -/
theorem Cuts.of_looks (cuts : Cuts token document before inside after)
    (same : document.filterMap Node.look? = other.filterMap Node.look?) :
    ∃ before' inside' after', Cuts token other before' inside' after' ∧
      before.filterMap Node.look? = before'.filterMap Node.look? ∧
      after.filterMap Node.look? = after'.filterMap Node.look? := by
  have parts : other.filterMap Node.look? = before.filterMap Node.look? ++
      Look.ofMarkup (startMarker token) :: (inside.filterMap Node.look? ++
        Look.ofMarkup (stopMarker token) :: after.filterMap Node.look?) := by
    rw [← same, cuts.whole, List.filterMap_append,
      List.filterMap_cons_some (Node.look?_markup _), List.filterMap_append,
      List.filterMap_cons_some (Node.look?_markup _)]
  obtain ⟨front, back, rfl, frontLooks, backLooks⟩ := List.filterMap_eq_append_iff.1 parts
  obtain ⟨void, start, rest, rfl, voidLooks, startLook, restLooks⟩ :=
    List.filterMap_eq_cons_iff.1 backLooks
  obtain ⟨middle, tail, rfl, middleLooks, tailLooks⟩ := List.filterMap_eq_append_iff.1 restLooks
  obtain ⟨void', stop, after', rfl, voidLooks', stopLook, afterLooks⟩ :=
    List.filterMap_eq_cons_iff.1 tailLooks
  obtain rfl := Node.eq_markup_of_look? startLook
  obtain rfl := Node.eq_markup_of_look? stopLook
  have beforeLooks : before.filterMap Node.look? = (front ++ void).filterMap Node.look? := by
    rw [List.filterMap_append, List.filterMap_eq_nil_iff.2 voidLooks, List.append_nil, frontLooks]
  have insideLooks : inside.filterMap Node.look? = (middle ++ void').filterMap Node.look? := by
    rw [List.filterMap_append, List.filterMap_eq_nil_iff.2 voidLooks', List.append_nil, middleLooks]
  refine ⟨front ++ void, middle ++ void', after', ⟨?_, ?_, ?_⟩, beforeLooks, afterLooks.symm⟩
  · simp only [List.append_assoc]
  · exact isMarkup_of_looks beforeLooks cuts.first_start
  · refine isMarkup_of_looks ?_ cuts.first_stop
    rw [List.filterMap_append, beforeLooks, insideLooks, ← List.filterMap_append]

end Region

/-! ## The region of a second run -/

namespace Document

variable {token : Text} {document before inside after content : Document}

/-- A document with markers around a content. -/
def splice (token : Text) (before content after : Document) : Document :=
  before ++ .markup (Region.startMarker token) :: .subtree content ::
    .markup (Region.stopMarker token) :: after

/-- A document without an end marker of a token. -/
def EndFree (token : Text) (document : Document) : Prop :=
  ∀ node ∈ document, node.isMarkup (Region.stopMarker token) = false

instance (token : Text) (document : Document) : Decidable (EndFree token document) :=
  inferInstanceAs (Decidable (∀ node ∈ document, node.isMarkup (Region.stopMarker token) = false))

theorem leaves_splice (flat : before.IsFlat) (flat' : content.IsFlat) (flat'' : after.IsFlat) :
    (splice token before content after).leaves =
      before ++ .markup (Region.startMarker token) ::
        (content ++ .markup (Region.stopMarker token) :: after) := by
  rw [splice, leaves_append, flat.leaves]
  simp only [leaves, Node.leaves, flat'.leaves, flat''.leaves, List.singleton_append]

theorem isMarkup_relevel (depth : Int) (marker : Text) (node : Node) :
    (node.relevel depth).isMarkup marker = node.isMarkup marker := by
  cases node <;> rfl

theorem endFree_relevel (depth : Int) :
    EndFree token (content.relevel depth) ↔ EndFree token content := by
  simp only [EndFree, relevel, List.forall_mem_map, isMarkup_relevel]

/-- A content with an end marker, cut at the first one. -/
theorem exists_first_end (ends : ¬EndFree token content) :
    ∃ first rest, content = first ++ .markup (Region.stopMarker token) :: rest ∧
      EndFree token first := by
  obtain ⟨position, found⟩ : ∃ position,
      findMarker? (Region.stopMarker token) content = some position := by
    refine Option.ne_none_iff_exists'.1 fun none => ends ?_
    exact List.findIdx?_eq_none_iff.1 none
  obtain ⟨first, rest, whole, -, none⟩ := findMarker?_eq_some found
  exact ⟨first, rest, whole, none⟩

end Document

/-- Markup in the last part of a document is printed as it is. -/
theorem Markdown.closing_append_html (between after : List (Markdown.Block (List Markdown.Inline)))
    {last : Char} (stop : Text) (solid : Text.isBlank last = false) :
    closing (between ++ .html (stop ++ [last]) :: after) =
      '\n' :: '\n' :: printBlocks none between ++ stop ++ last :: closing after := by
  have text :
      '\n' :: '\n' :: printBlocks none (between ++ .html (stop ++ [last]) :: after) ++ ['\n'] =
      ('\n' :: '\n' :: printBlocks none between ++ stop) ++
        last :: ('\n' :: '\n' :: printBlocks none after ++ ['\n']) := by
    simp only [printBlocks_append, printBlocks_html, List.append_assoc, List.cons_append,
      List.nil_append]
  have newline : (last == '\n') = false := Text.ne_newline_of_solid solid
  rw [closing, text, cutEnd_append_cons solid, Text.trimEnd_append_cons (· == '\n') newline]
  simp [closing]

/-- More is printed around a region that ends early. -/
theorem Frame.fill_length_lt (token : Text) (before rest after content : Document) :
    ((around token before after).fill content).length <
      ((around token before (rest ++ .markup (Region.stopMarker token) :: after)).fill
        content).length := by
  obtain ⟨stop, last⟩ := Region.stopMarker_eq_concat token
  simp only [fill, body, around, Document.blocks_append, Document.blocks, Node.blocks,
    List.singleton_append, List.length_append]
  rw [last, Markdown.closing_append_html _ _ _ (by decide)]
  simp only [List.length_append, List.length_cons]
  omega

namespace Document

variable {token : Text} {document before inside after content : Document}

/-- The region that a second run finds, if the first one reads back: one in the same frame, or one
that ends with the first end marker of the first content. -/
theorem frame_of_readsBack (cuts : Region.Cuts token document before inside after)
    (flat : document.IsFlat) (flat' : content.IsFlat)
    (back : (splice token before content after).ReadsBack) :
    ∃ before' inside' after', Region.Cuts token
        (ofMarkdown (splice token before content after).toMarkdown) before' inside' after' ∧
      (EndFree token content →
        Frame.around token before' after' = Frame.around token before after) ∧
      (¬EndFree token content → ∀ second, ((Frame.around token before after).fill second).length <
        ((Frame.around token before' after').fill second).length) := by
  rw [cuts.whole] at flat
  have looked : (before ++ .markup (Region.startMarker token) ::
        (content ++ .markup (Region.stopMarker token) :: after)).filterMap Node.look? =
      (ofMarkdown (splice token before content after).toMarkdown).filterMap Node.look? := by
    rw [← leaves_splice (fun node member => flat node (by simp [member])) flat'
      (fun node member => flat node (by simp [member])), ← (isFlat_ofMarkdown _).leaves]
    exact back.symm
  have early : EndFree token before :=
    fun node member => cuts.first_stop node (List.mem_append_left _ member)
  have cutAt : ∀ {inside after}, EndFree token inside → Region.Cuts token
      (before ++ .markup (Region.startMarker token) ::
        (inside ++ .markup (Region.stopMarker token) :: after)) before inside after :=
    fun free => ⟨rfl, cuts.first_start, fun node member =>
      (List.mem_append.1 member).elim (early node) (free node)⟩
  by_cases free : EndFree token content
  · obtain ⟨before', inside', after', cuts', same, same'⟩ := (cutAt free).of_looks looked
    exact ⟨before', inside', after', cuts', fun _ => (Frame.around_congr same same').symm,
      fun ends => absurd free ends⟩
  · -- The first end marker is now one of the content, and the rest of the content follows it.
    obtain ⟨first, rest, rfl, free'⟩ := exists_first_end free
    rw [List.append_assoc first, List.cons_append] at looked
    obtain ⟨before', inside', after', cuts', same, same'⟩ := (cutAt free').of_looks looked
    refine ⟨before', inside', after', cuts', fun none => absurd none free, fun _ second => ?_⟩
    rw [← Frame.around_congr same same']
    exact Frame.fill_length_lt token before rest after second

/-! ## Plain documents -/

theorem IsPlain.relevel (plain : content.IsPlain) {depth : Int} (low : 1 ≤ depth)
    (high : depth ≤ 6) : (content.relevel depth).IsPlain := by
  intro node member
  obtain ⟨original, present, rfl⟩ := List.mem_map.1 member
  rcases Node.isPlain_cases (plain original present) with ⟨leading, rfl⟩ | ⟨block, found, rfl⟩
  · rfl
  · cases block with
    | heading level title =>
        obtain ⟨n, rfl⟩ : ∃ n : Nat, depth = ((n + 1 : Nat) : Int) := ⟨depth.toNat - 1, by omega⟩
        exact Node.isPlain_node (.heading ⟨n, by omega⟩ title)
    | paragraph text => exact plain _ present
    | comment body => exact plain _ present

theorem IsPlain.lastDepth (plain : document.IsPlain) : 1 ≤ document.lastDepth := by
  rw [Document.lastDepth]
  cases found : document.reverse.findSome? Node.depth? with
  | none => exact Int.le_refl 1
  | some depth =>
      obtain ⟨node, member, isHeading⟩ := List.exists_of_findSome?_eq_some found
      rcases Node.isPlain_cases (plain node (List.mem_reverse.1 member)) with
        ⟨leading, rfl⟩ | ⟨block, -, rfl⟩
      · cases isHeading
      · cases block with
        | heading level title =>
            cases isHeading
            have depth : (1 : Int) ≤ (level.val + 1 : Nat) := by omega
            exact depth
        | paragraph text => cases isHeading
        | comment body => cases isHeading

/-- A plain content in a region of a plain document reads back. -/
theorem IsPlain.splice_readsBack (cuts : Region.Cuts token document before inside after)
    (plain : document.IsPlain) (plain' : content.IsPlain) (flat : document.IsFlat)
    (flat' : content.IsFlat) :
    (splice token before (content.relevel (Frame.around token before after).depth)
      after).ReadsBack := by
  rw [cuts.whole] at plain flat
  have depth : 1 ≤ (Frame.around token before after).depth ∧
      (Frame.around token before after).depth ≤ 6 := by
    have last := IsPlain.lastDepth fun node member => plain node (List.mem_append_left _ member)
    simp only [Frame.around, maxHeadingDepth]
    omega
  apply IsPlain.readsBack
  rw [leaves_splice (fun node member => flat node (by simp [member])) (flat'.relevel _)
    (fun node member => flat node (by simp [member]))]
  intro node member
  simp only [List.mem_append, List.mem_cons] at member
  rcases member with early | rfl | present | rfl | late
  · exact plain node (by simp [early])
  · exact plain _ (by simp)
  · exact plain'.relevel depth.1 depth.2 node present
  · exact plain _ (by simp)
  · exact plain node (by simp [late])

/-! ## A second run -/

theorem exists_eq_ok {ε α σ : Type} {outcome : Except ε α × σ}
    (succeeds : outcome.1.toOption.isSome = true) :
    ∃ value left, outcome = (.ok value, left) := by
  obtain ⟨result, left⟩ := outcome
  cases result with
  | error fault => cases succeeds
  | ok value => exact ⟨value, left, rfl⟩

theorem ofMarkdown_foldNewlines (text : Text) :
    ofMarkdown (Text.foldNewlines text) = ofMarkdown text := by
  rw [ofMarkdown, ofMarkdown, Markdown.read, Markdown.read, Markdown.sourceLines,
    Markdown.sourceLines, Text.foldNewlines_eq_self (Text.foldNewlines_free text)]

variable {text first merged : Text} {path : Path} {world left : World}

/-- A run that succeeds finds a region, and leaves the file with a content in it. -/
theorem append_eq_ok (opened : world.files.read path = .ok text)
    (ran : (append {} path token first path).run.run world = (.ok merged, left)) :
    ∃ before inside after, Region.Cuts token (ofMarkdown text) before inside after ∧
      merged = (Frame.around token before after).fill (ofMarkdown first) ∧
      world.files.write path merged = .ok left.files := by
  obtain ⟨found, eq⟩ : ∃ found, Region.find? {} token (ofMarkdown text) = .ok found :=
    ⟨_, Region.find?_default token _⟩
  cases found with
  | none =>
      rw [append_missing opened eq] at ran
      cases ran
  | some region =>
      obtain ⟨before, inside, after, cuts, -, -⟩ := Region.find?_eq_some eq
      have filled := @append_fill token first text path path world before inside after opened cuts
      rw [ran] at filled
      refine ⟨before, inside, after, cuts, ?_⟩
      dsimp only at filled
      split at filled
      · rename_i files written
        obtain ⟨same, rfl⟩ := filled
        cases same
        exact ⟨rfl, written⟩
      · cases filled.1

/-- A run on a file that can be written succeeds where there is a region. -/
theorem append_eq_fill (opened : world.files.read path = .ok text)
    (cuts : Region.Cuts token (ofMarkdown text) before inside after)
    (writable : ∀ other, ∃ files, world.files.write path other = .ok files) :
    ((append {} path token first path).run.run world).1 =
      .ok ((Frame.around token before after).fill (ofMarkdown first)) := by
  have filled := @append_fill token first text path path world before inside after opened cuts
  obtain ⟨files, written⟩ := writable ((Frame.around token before after).fill (ofMarkdown first))
  dsimp only at filled
  rw [written] at filled
  exact filled.1

/-- A second run gives what it would give without the first one if and only if the content of the
first one has no end marker of the token; else the document grows.  This holds whenever what the
first run wrote reads back, in particular for plain contents in plain documents. -/
theorem append_replaces_iff (opened : world.files.read path = .ok text)
    (ran : (append {} path token first path).run.run world = (.ok merged, left)) :
    ∃ region, Region.find? {} token (ofMarkdown text) = .ok (some region) ∧
      let written := region.embed (ofMarkdown first) (ofMarkdown text)
      merged = written.toMarkdown ∧
      ((ofMarkdown text).IsPlain → (ofMarkdown first).IsPlain → written.ReadsBack) ∧
      (written.ReadsBack → ∀ second, ∃ again instead,
        ((append {} path token second path).run.run left).1 = .ok again ∧
        ((append {} path token second path).run.run world).1 = .ok instead ∧
        (EndFree token (ofMarkdown first) → again = instead) ∧
        (¬EndFree token (ofMarkdown first) → instead.length < again.length)) := by
  obtain ⟨before, inside, after, cuts, filled, written⟩ := append_eq_ok opened ran
  have embedded : Region.embed
        { start := before.length, stop := before.length + (inside.length + 1) }
        (ofMarkdown first) (ofMarkdown text) =
      splice token before ((ofMarkdown first).relevel (Frame.around token before after).depth)
        after := by
    rw [Region.embed, cuts.headingDepth, cuts.replace, splice]
  refine ⟨_, cuts.find?, ?_, ?_, ?_⟩
  · rw [filled, cuts.embed_toMarkdown]
  · intro plain plain'
    rw [embedded]
    exact plain.splice_readsBack cuts plain' (isFlat_ofMarkdown text) (isFlat_ofMarkdown first)
  · intro back second
    have reopened := FileTree.read_of_write written
    have merged_eq := filled.trans (cuts.embed_toMarkdown (ofMarkdown first)).symm
    rw [embedded] at back merged_eq
    obtain ⟨before', inside', after', cuts', same, grows⟩ := frame_of_readsBack cuts
      (isFlat_ofMarkdown text) ((isFlat_ofMarkdown first).relevel _) back
    -- What the second run opens is the text that was written, with its line ends folded.
    rw [← merged_eq, ← ofMarkdown_foldNewlines] at cuts'
    rw [endFree_relevel] at same grows
    refine ⟨_, _, append_eq_fill reopened cuts' fun other => (FileTree.write_again written other).2,
      append_eq_fill opened cuts fun other => (FileTree.write_again written other).1,
      fun free => ?_, fun ends => grows ends _⟩
    rw [same free]

theorem append_replaces_iff_of_sample :
    let path := Path.ofText "/a.md".toList
    let first := "# New\n\ntext\n".toList
    ∃ merged left, (append {} path "API".toList first path).run.run sampleWorld =
        (.ok merged, left) ∧
      ∀ second, ((append {} path "API".toList second path).run.run left).1 =
        ((append {} path "API".toList second path).run.run sampleWorld).1 := by
  intro path first
  have opened : sampleWorld.files.read path = .ok sampleText := rfl
  have plain : (ofMarkdown sampleText).IsPlain ∧ (ofMarkdown first).IsPlain := by decide +kernel
  have free : EndFree "API".toList (ofMarkdown first) := by decide +kernel
  obtain ⟨merged, left, ran⟩ := exists_eq_ok (show ((append {} path "API".toList first path).run.run
    sampleWorld).1.toOption.isSome = true by decide +kernel)
  refine ⟨merged, left, ran, fun second => ?_⟩
  obtain ⟨region, -, -, back, replaced⟩ := append_replaces_iff opened ran
  obtain ⟨again, instead, eq, eq', same, -⟩ := replaced (back plain.1 plain.2) second
  rw [eq, eq', same free]

/-- A file with an empty region. -/
def emptyWorld : World where
  files := { files := [(["d.md".toList], .text
    "<!-- START TOKEN(API) -->\n\n<!-- END TOKEN(API) -->\n".toList)] }

/-- A second run does not always replace what the first one wrote. -/
theorem append_grows_at_end_marker :
    ¬ ∀ (text token first second merged : Text) (path : Path) (world left : World),
      world.files.read path = .ok text →
      (append {} path token first path).run.run world = (.ok merged, left) →
      ∃ again, ((append {} path token second path).run.run left).1 = .ok again ∧
        ((append {} path token second path).run.run world).1 = .ok again := by
  intro law
  let path := Path.ofText "/d.md".toList
  let first := "<!-- END TOKEN(API) -->\n".toList
  obtain ⟨merged, left, ran⟩ := exists_eq_ok (show ((append {} path "API".toList first path).run.run
    emptyWorld).1.toOption.isSome = true by decide +kernel)
  obtain ⟨again, rerun, direct⟩ := law _ _ first "x\n".toList merged path emptyWorld left rfl ran
  have state : left = ((append {} path "API".toList first path).run.run emptyWorld).2 := by
    rw [ran]
  have same := congrArg Except.toOption (rerun.trans direct.symm)
  rw [state] at same
  exact absurd same (by decide +kernel)

end Document

end ExportDocs
