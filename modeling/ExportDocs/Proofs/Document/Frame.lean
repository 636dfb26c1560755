/-
# ExportDocs.Proofs.Document.Frame -- the text around a region

Putting a content into a region leaves a frame around it: the text before it, which ends with the
start marker, the text after it, which begins with the end marker, and the depth that its headings
get.  The frame depends on the document and the token only (`append_changes_region_only`).
-/
import ExportDocs.Document.Append
import ExportDocs.Proofs.Document.Region
import ExportDocs.Proofs.Markdown.Printing
import ExportDocs.Proofs.Run.Guarantee

namespace ExportDocs

set_option autoImplicit false

open Markdown (printBlocks)

namespace Document

theorem blocks_append (first second : Document) :
    blocks (first ++ second) = first.blocks ++ second.blocks := by
  induction first with
  | nil => simp [blocks]
  | cons node first ih => simp [blocks, ih]

end Document

/-- What surrounds a region in a document: the text before its content and after it, and the depth
that headings have in it. -/
structure Frame where
  before : Text
  depth : Int
  after : Text
  deriving DecidableEq, Repr, Inhabited

namespace Frame

/-- The frame of a region between two parts of a document. -/
def around (token : Text) (before after : Document) : Frame where
  before := Markdown.opening before.blocks ++ Region.startMarker token ++ ['\n', '\n']
  depth := min (before.lastDepth + 1) maxHeadingDepth
  after := Region.stopMarker token ++ Markdown.closing after.blocks

/-- A content as it is printed in a region. -/
def body (frame : Frame) (content : Document) : Text :=
  printBlocks none (content.relevel frame.depth).blocks

/-- The text of a document with a content in the region. -/
def fill (frame : Frame) (content : Document) : Text :=
  frame.before ++ frame.body content ++ frame.after

end Frame

namespace Region

variable {token : Text} {document before inside after : Document}

theorem Cuts.headingDepth (cuts : Cuts token document before inside after) (stop : Nat) :
    Region.headingDepth { start := before.length, stop } document =
      (Frame.around token before after).depth := by
  change min (Document.lastDepth (document.take before.length) + 1) maxHeadingDepth = _
  rw [cuts.whole, List.take_left]
  rfl

/-- A document with a content in its region is printed as its frame, filled with that content. -/
theorem Cuts.embed_toMarkdown (cuts : Cuts token document before inside after)
    (content : Document) :
    (Region.embed { start := before.length, stop := before.length + (inside.length + 1) }
        content document).toMarkdown =
      (Frame.around token before after).fill content := by
  obtain ⟨start, first⟩ : ∃ start, startMarker token = '<' :: start := ⟨_, rfl⟩
  obtain ⟨stop, last⟩ := stopMarker_eq_concat token
  rw [Region.embed, cuts.headingDepth, cuts.replace, Document.toMarkdown]
  simp only [Document.blocks_append, Document.blocks, Node.blocks, List.singleton_append]
  rw [first, last, Markdown.print_between _ _ _ (by decide) (by decide)]
  simp only [Frame.fill, Frame.around, Frame.body, first, last, List.append_assoc, List.cons_append,
    List.nil_append]

end Region

namespace Document

variable {token content text : Text} {path output : Path} {world : World}

theorem run_read (opened : world.files.read path = .ok text) :
    (Action.read path).run.run world = (.ok text, world) := by
  change (Action.ofExcept .file (world.files.read path)).run.run world = _
  rw [opened]
  rfl

/-- A document without a region is left as it is. -/
theorem append_missing (opened : world.files.read path = .ok text)
    (missing : Region.find? {} token (ofMarkdown text) = .ok none) :
    (append {} path token content output).run.run world =
      (.error (.missingRegion token (some path)), world) := by
  rw [append, Guarantees.run_bind, run_read opened]
  dsimp only
  rw [Region.require, missing]
  rfl

/-- Writing a text with messages around it. -/
theorem run_write (message done merged : Text) :
    let (result, left) := (do
      Action.log .debug message
      Action.write output merged
      Action.log .debug done
      return merged : Action Text).run.run world
    match world.files.write output merged with
    | .ok files => result = .ok merged ∧ left.files = files
    | .error fault => result = .error (.uncaught (.file fault)) ∧ left.files = world.files := by
  have logged : ∀ (message : Text) (world : World), (Action.log .debug message).run.run world =
      (.ok (), world.logged .debug message) := fun _ _ => rfl
  rw [Guarantees.run_bind, logged]
  dsimp only
  rw [Guarantees.run_bind, Action.write, Action.run_update fun files => files.write output merged,
    World.logged_files]
  cases world.files.write output merged with
  | error fault => exact ⟨rfl, World.logged_files _ _ _⟩
  | ok files =>
      dsimp only
      rw [Guarantees.run_bind, logged]
      exact ⟨rfl, World.logged_files _ _ _⟩

/-- A document with a region is written with the content in it. -/
theorem append_fill {before inside after : Document} (opened : world.files.read path = .ok text)
    (cuts : Region.Cuts token (ofMarkdown text) before inside after) :
    let merged := (Frame.around token before after).fill (ofMarkdown content)
    let (result, left) := (append {} path token content output).run.run world
    match world.files.write output merged with
    | .ok files => result = .ok merged ∧ left.files = files
    | .error fault => result = .error (.uncaught (.file fault)) ∧ left.files = world.files := by
  intro merged
  rw [append, Guarantees.run_bind, run_read opened]
  dsimp only
  rw [Region.require, cuts.find?]
  dsimp only
  rw [cuts.embed_toMarkdown]
  exact run_write _ _ merged

/-- A document with a region. -/
def sampleText : Text := "# A\n\n<!-- START TOKEN(API) -->\nold\n\n<!-- END TOKEN(API) -->\n".toList

/-- A file with that document. -/
def sampleWorld : World where
  files := { files := [(["a.md".toList], .text sampleText)] }

end Document

end ExportDocs
