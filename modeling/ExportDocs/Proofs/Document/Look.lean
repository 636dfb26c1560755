/-
# ExportDocs.Proofs.Document.Look -- what shows of a document

Reading a printed document does not give back its nodes: blank lines come and go, and a document
inside it becomes part of it.  What shows of a node is all that another run can tell: the depth of
a heading, the value of markup, and the printed text (`Look`).  A document reads back if it looks
the same once it has been written and read (`ReadsBack`).
-/
import ExportDocs.Document
import ExportDocs.Proofs.Markdown.Printing

namespace ExportDocs

set_option autoImplicit false

open Markdown (printBlocks)

/-! ## What shows of a document -/

/-- What shows of a node: its depth if it is a heading, its value if it is markup, and how it is
printed. -/
structure Look where
  depth : Option Int := none
  markup : Option Text := none
  text : Text := []
  deriving DecidableEq, Repr, Inhabited

namespace Node

/-- The value of markup. -/
def markup? : Node → Option Text
  | markup value => some value
  | _ => none

/-- What shows of a node, unless nothing does. -/
def look? (node : Node) : Option Look :=
  let look : Look :=
    { depth := node.depth?, markup := node.markup?, text := printBlocks none node.blocks }
  if look = {} then none else some look

end Node

mutual

/-- The nodes of a node without the documents inside it. -/
def Node.leaves : Node → Document
  | .heading depth title => [.heading depth title]
  | .markup value => [.markup value]
  | .block block => [.block block]
  | .subtree nodes => Document.leaves nodes

/-- The nodes of a document, those of the documents inside it in their places. -/
def Document.leaves : Document → Document
  | [] => []
  | node :: rest => node.leaves ++ Document.leaves rest

end

namespace Document

/-- What shows of a document. -/
def looks (document : Document) : List Look := document.leaves.filterMap Node.look?

/-- A document that looks the same once it has been written and read. -/
def ReadsBack (document : Document) : Prop :=
  (ofMarkdown document.toMarkdown).looks = document.looks

instance (document : Document) : Decidable document.ReadsBack :=
  inferInstanceAs (Decidable (_ = _))

/-- A document without documents inside. -/
def IsFlat (document : Document) : Prop := ∀ node ∈ document, node.leaves = [node]

theorem IsFlat.leaves {document : Document} (flat : document.IsFlat) :
    document.leaves = document := by
  induction document with
  | nil => simp [Document.leaves]
  | cons node rest ih =>
      obtain ⟨here, later⟩ := List.forall_mem_cons.1 flat
      rw [Document.leaves, here, ih later, List.singleton_append]

theorem leaves_append (first second : Document) :
    leaves (first ++ second) = first.leaves ++ second.leaves := by
  induction first with
  | nil => simp [leaves]
  | cons node first ih => simp [leaves, ih]

theorem isFlat_ofMarkdown (text : Text) : (ofMarkdown text).IsFlat := by
  intro node member
  obtain ⟨block, -, rfl⟩ := List.mem_map.1 member
  cases block <;> simp [Node.ofBlock, Node.leaves]

theorem IsFlat.relevel {document : Document} (flat : document.IsFlat) (depth : Int) :
    (document.relevel depth).IsFlat := by
  intro node member
  obtain ⟨original, present, rfl⟩ := List.mem_map.1 member
  cases original with
  | heading old title => simp [Node.relevel, Node.leaves]
  | _ => exact flat _ present

end Document

/-! ## Looks of flat documents -/

/-- The look of markup. -/
def Look.ofMarkup (value : Text) : Look := { markup := some value, text := value ++ ['\n', '\n'] }

namespace Node

theorem look?_eq_none {node : Node} (hidden : node.look? = none) :
    node.depth? = none ∧ printBlocks none node.blocks = [] := by
  unfold look? at hidden
  dsimp only at hidden
  split at hidden
  · rename_i empty
    exact ⟨congrArg Look.depth empty, congrArg Look.text empty⟩
  · cases hidden

theorem look?_eq_some {node : Node} {look : Look} (shown : node.look? = some look) :
    look.depth = node.depth? ∧ look.markup = node.markup? ∧
      look.text = printBlocks none node.blocks := by
  unfold look? at shown
  dsimp only at shown
  split at shown
  · cases shown
  · obtain rfl := Option.some.inj shown
    exact ⟨rfl, rfl, rfl⟩

theorem look?_markup (value : Text) : (markup value).look? = some (.ofMarkup value) := by
  simp [look?, depth?, markup?, Look.ofMarkup, blocks, Markdown.printBlocks_html, printBlocks]

theorem eq_markup_of_look? {node : Node} {value : Text}
    (shown : node.look? = some (.ofMarkup value)) : node = .markup value := by
  have same : some value = node.markup? := (look?_eq_some shown).2.1
  cases node <;> simp_all [markup?]

end Node

namespace Document

theorem findSome?_looks (nodes : Document) :
    (nodes.filterMap Node.look?).findSome? Look.depth = nodes.findSome? Node.depth? := by
  induction nodes with
  | nil => rfl
  | cons node rest ih =>
      cases shown : node.look? with
      | none =>
          rw [List.filterMap_cons_none shown, ih, List.findSome?_cons, (Node.look?_eq_none shown).1]
      | some look =>
          rw [List.filterMap_cons_some shown, List.findSome?_cons, List.findSome?_cons, ih,
            (Node.look?_eq_some shown).1]

theorem printBlocks_looks (nodes : Document) :
    (nodes.filterMap Node.look?).flatMap Look.text = printBlocks none nodes.blocks := by
  induction nodes with
  | nil => simp [blocks, printBlocks]
  | cons node rest ih =>
      rw [blocks, Markdown.printBlocks_append, ← ih]
      cases shown : node.look? with
      | none => rw [List.filterMap_cons_none shown, (Node.look?_eq_none shown).2, List.nil_append]
      | some look =>
          rw [List.filterMap_cons_some shown, List.flatMap_cons, (Node.look?_eq_some shown).2.2]

variable {first second : Document}

theorem lastDepth_congr (same : first.filterMap Node.look? = second.filterMap Node.look?) :
    first.lastDepth = second.lastDepth := by
  rw [lastDepth, lastDepth, ← findSome?_looks, ← findSome?_looks, List.filterMap_reverse,
    List.filterMap_reverse, same]

end Document

end ExportDocs
