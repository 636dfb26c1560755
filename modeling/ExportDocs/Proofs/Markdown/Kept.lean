/-
# ExportDocs.Proofs.Markdown.Kept -- blocks that stay once they are read

A reader adds text to its last paragraph and may turn it into a heading; every other block that it
has read stays.  Quotations and lists that another block interrupts are put in before that block, so
the order of the blocks is not the order in which they are read, but none is lost (`keepsAt`).
-/
import ExportDocs.Markdown.Block.Reader

namespace ExportDocs.Markdown

set_option autoImplicit false

/-- Every block but a paragraph is still there. -/
def Kept (blocks later : List RawBlock) : Prop :=
  ∀ block ∈ blocks, block.isParagraph = false → block ∈ later

namespace Kept

variable {blocks later last : List RawBlock} {block : RawBlock}

theorem refl (blocks : List RawBlock) : Kept blocks blocks := fun _ member _ => member

theorem trans (first : Kept blocks later) (second : Kept later last) : Kept blocks last :=
  fun block member other => second block (first block member other) other

theorem cons (kept : Kept blocks later) (block : RawBlock) : Kept blocks (block :: later) :=
  fun other member notParagraph => List.mem_cons_of_mem _ (kept other member notParagraph)

/-- The last block may change if it is a paragraph. -/
theorem paragraph (content : Text) (block : RawBlock) :
    Kept (.paragraph content :: blocks) (block :: blocks) := by
  intro other member notParagraph
  rcases List.mem_cons.1 member with rfl | earlier
  · cases notParagraph
  · exact List.mem_cons_of_mem _ earlier

end Kept

namespace Reader

/-! ## Blocks without blocks inside -/

section Simple

variable {reader next : Reader}

theorem kept_addText (reader : Reader) (t : Text) :
    Kept reader.blocks (reader.addText t).blocks := by
  unfold addText
  split
  · rename_i content rest blocks
    rw [blocks]
    exact .paragraph content _
  · exact (Kept.refl _).cons _

theorem kept_takeText (reader : Reader) (count : Nat) :
    Kept reader.blocks (reader.takeText count).blocks :=
  kept_addText reader _

theorem kept_continueParagraph? (continues : reader.continueParagraph? = some next) :
    Kept reader.blocks next.blocks := by
  unfold continueParagraph? at continues
  split at continues
  · cases continues
    exact kept_takeText reader 1
  · cases continues

theorem kept_readHtml? {ending : HtmlEnd} {rest : Text}
    (read : reader.readHtml? ending rest = some next) : Kept reader.blocks next.blocks := by
  unfold readHtml? at read
  split at read
  · cases read
  · exact kept_continueParagraph? read
  · cases read
    exact (Kept.refl _).cons _

theorem kept_readDefinition? {label rest : Text}
    (read : reader.readDefinition? label rest = some next) : Kept reader.blocks next.blocks := by
  unfold readDefinition? at read
  split at read
  · rename_i continued continues
    cases read
    exact kept_continueParagraph? continues
  · cases found : readDefinition label rest with
    | none =>
        rw [found] at read
        cases read
    | some parts =>
        rw [found] at read
        cases read
        exact (Kept.refl _).cons _

theorem kept_underline? {level : Nat} (read : reader.underline? level = some next) :
    Kept reader.blocks next.blocks := by
  unfold underline? at read
  split at read
  · rename_i content rest blocks
    cases read
    rw [blocks]
    exact .paragraph content _
  · cases read

theorem kept_insertAfter {blocks : List RawBlock} (base : List RawBlock) (block : RawBlock)
    {later : List RawBlock} (kept : Kept blocks later) :
    Kept blocks (insertAfter base block later) := by
  intro other member notParagraph
  have present := kept other member notParagraph
  rw [← List.take_append_drop (later.length - base.length) later] at present
  rcases List.mem_append.1 present with front | back
  · exact List.mem_append_left _ front
  · exact List.mem_append_right _ (List.mem_cons_of_mem _ back)

end Simple

/-! ## Calls of the reader -/

/-- With the given fuel every call of the reader keeps the blocks. -/
structure KeepsAt (blocks : List RawBlock) (fuel : Nat) : Prop where
  all : ∀ depth containers (reader : Reader), Kept blocks reader.blocks →
    Kept blocks (readAll depth containers fuel reader).blocks
  start : ∀ depth (reader : Reader) start next, Kept blocks reader.blocks →
    readStart depth fuel reader start = some next → Kept blocks next.blocks
  quote : ∀ depth (reader : Reader), Kept blocks reader.blocks →
    Kept blocks (readQuote depth fuel reader).blocks
  list : ∀ depth (reader : Reader) marker, Kept blocks reader.blocks →
    Kept blocks (readList depth fuel reader marker).blocks
  items : ∀ depth (reader : Reader) first tight items marker, Kept blocks reader.blocks →
    Kept blocks (readItems depth fuel reader first tight items marker).blocks

namespace KeepsAt

variable {blocks : List RawBlock} {fuel : Nat} (keeps : KeepsAt blocks fuel)

include keeps

theorem getD (depth : Nat) (reader : Reader) (start : Start) (default : Reader)
    (kept : Kept blocks reader.blocks) (otherwise : Kept blocks default.blocks) :
    Kept blocks ((Reader.readStart depth fuel reader start).getD default).blocks := by
  cases read : Reader.readStart depth fuel reader start with
  | none => exact otherwise
  | some next => exact keeps.start depth reader start next kept read

theorem readAll (depth : Nat) (containers : Bool) (reader : Reader)
    (kept : Kept blocks reader.blocks) :
    Kept blocks (Reader.readAll depth containers (fuel + 1) reader).blocks := by
  rw [Reader.readAll]
  split
  · exact kept
  · apply keeps.all
    split
    · cases continues : reader.continueParagraph? with
      | none => exact kept.cons _
      | some next => exact kept.trans (kept_continueParagraph? continues)
    · split
      · exact keeps.getD depth reader _ _ kept (kept.trans (kept_takeText reader 1))
      · exact kept.trans (kept_takeText reader _)

theorem readStart (depth : Nat) (reader : Reader) (start : Start) (next : Reader)
    (kept : Kept blocks reader.blocks)
    (read : Reader.readStart depth (fuel + 1) reader start = some next) :
    Kept blocks next.blocks := by
  cases start with
  | fence opening =>
      rw [Reader.readStart] at read
      split at read
      · cases read
        exact kept.cons _
      · cases read
  | atx level text =>
      cases read
      exact kept.cons _
  | underline level =>
      rw [Reader.readStart] at read
      split at read
      · cases read
      · split at read
        · cases read
        · rcases Option.or_eq_some_iff.1 read with under | ⟨-, other⟩
          · exact kept.trans (kept_underline? under)
          · split at other
            · cases other
              exact kept.cons _
            · obtain ⟨marker, -, rfl⟩ := Option.map_eq_some_iff.1 other
              exact keeps.list depth reader marker kept
  | thematicBreak =>
      cases read
      exact kept.cons _
  | quote =>
      cases read
      exact keeps.quote depth reader kept
  | list marker =>
      cases read
      exact keeps.list depth reader marker kept
  | definition label rest => exact kept.trans (kept_readDefinition? read)
  | html ending rest => exact kept.trans (kept_readHtml? read)
  | blank =>
      cases read
      exact kept.cons _

theorem readQuote (depth : Nat) (reader : Reader) (kept : Kept blocks reader.blocks) :
    Kept blocks (Reader.readQuote depth (fuel + 1) reader).blocks := by
  rw [Reader.readQuote]
  dsimp only
  split
  · exact kept.cons _
  · rename_i start _
    let after : Reader :=
      { reader with
        lines := (QuoteExtent.read reader.inParagraph reader.lines).after
        fresh := false }
    have kept := keeps.getD depth after start after kept kept
    -- The quotation goes in before the last of the blocks that are kept.
    split
    · rename_i none
      rw [none] at kept
      exact kept.cons _
    · rename_i last earlier some
      rw [some] at kept
      intro block member notParagraph
      rcases List.mem_cons.1 (kept block member notParagraph) with rfl | before
      · exact List.mem_cons_self
      · exact List.mem_cons_of_mem _ (List.mem_cons_of_mem _ before)

theorem readList (depth : Nat) (reader : Reader) (marker : ListMarker)
    (kept : Kept blocks reader.blocks) :
    Kept blocks (Reader.readList depth (fuel + 1) reader marker).blocks := by
  rw [Reader.readList]
  split
  · rename_i continued continues
    split at continues
    · exact kept.trans (kept_continueParagraph? continues)
    · cases continues
  · exact keeps.items depth (reader.advance 1) marker true [] marker kept

theorem readItems (depth : Nat) (reader : Reader) (first : ListMarker) (tight : Bool)
    (items : List (List RawBlock)) (marker : ListMarker) (kept : Kept blocks reader.blocks) :
    Kept blocks (Reader.readItems depth (fuel + 1) reader first tight items marker).blocks := by
  rw [Reader.readItems]
  dsimp only
  split
  · exact keeps.items _ _ _ _ _ _ kept
  · exact kept.cons _
  · exact kept_insertAfter _ _ (keeps.getD _ _ _ _ kept kept)

end KeepsAt

/-- **Blocks stay.** -/
theorem keepsAt (blocks : List RawBlock) (fuel : Nat) : KeepsAt blocks fuel := by
  induction fuel with
  | zero =>
      refine ⟨fun _ _ _ kept => ?_, fun _ _ _ _ kept read => ?_, fun _ _ kept => ?_,
        fun _ _ _ kept => ?_, fun _ _ _ _ _ _ kept => ?_⟩
      · exact kept
      · cases read
      · exact kept
      · exact kept
      · exact kept
  | succ fuel keeps =>
      exact ⟨keeps.readAll, keeps.readStart, keeps.readQuote, keeps.readList, keeps.readItems⟩

end Reader

end ExportDocs.Markdown
