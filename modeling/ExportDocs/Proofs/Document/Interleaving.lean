/-
# ExportDocs.Proofs.Document.Interleaving -- contents embedded in any order

Calls embed contents one after another.  If the regions of their tokens lie apart, what they leave
is an overlay of the document by the last content of each token (`embedAll_last_wins`).  The
invariant is `Holds`: one call with a token of the document extends it, and so does a call that
finds no region.
-/
import ExportDocs.Proofs.Document.Frame
import ExportDocs.Proofs.Document.Overlay
import Mathlib.Data.List.Induction

namespace ExportDocs

set_option autoImplicit false

namespace Assembly

/-- Embeds contents one after another, each given by a token and a number; tells which of them found
their region. -/
def embedAll (settings : Settings) :
    List (Text × Nat) → Assembly → Except TemplateFault (List Bool × Assembly)
  | [], assembly => .ok ([], assembly)
  | (token, number) :: calls, assembly => do
    let found ← assembly.embed? settings token number
    let rest ← embedAll settings calls (found.getD assembly)
    return (found.isSome :: rest.1, rest.2)

theorem embedAll_concat (settings : Settings) (token : Text) (number : Nat)
    (calls : List (Text × Nat)) : ∀ assembly : Assembly,
    embedAll settings (calls ++ [(token, number)]) assembly = do
      let now ← embedAll settings calls assembly
      let found ← now.2.embed? settings token number
      return (now.1 ++ [found.isSome], found.getD now.2) := by
  induction calls with
  | nil =>
      intro assembly
      simp only [List.nil_append, embedAll]
      rfl
  | cons call calls ih =>
      intro assembly
      simp only [List.cons_append, embedAll, ih, bind_assoc, pure_bind]

theorem embedAll_concat_of_ok {settings : Settings} {token : Text} {number : Nat}
    {calls : List (Text × Nat)} {start now : Assembly} {answers : List Bool}
    {found : Option Assembly} (ran : embedAll settings calls start = .ok (answers, now))
    (embedded : now.embed? settings token number = .ok found) :
    embedAll settings (calls ++ [(token, number)]) start =
      .ok (answers ++ [found.isSome], found.getD now) := by
  rw [embedAll_concat, ran]
  change (now.embed? settings token number >>= fun _ => _) = _
  rw [embedded]
  rfl

/-- What an assembly holds after calls: in the region of each token the content of the last call
with that token, its headings at the depth of the region. -/
structure Holds (tokens : List Text) (regions : Text → Region) (document : Document)
    (contents : List Document) (calls : List (Text × Nat)) (assembly : Assembly) : Prop where
  entries : assembly.entries = Region.overlay tokens regions
    (fun token => (calls.reverse.lookup token).map .content) (document.map .node)
  used : ∀ token ∈ tokens, ∀ number, (token, number) ∈ calls → assembly.contents[number]? =
    (contents[number]?).map (Document.relevel ((regions token).headingDepth document))
  unused : ∀ number, (∀ token ∈ tokens, (token, number) ∉ calls) →
    assembly.contents[number]? = contents[number]?

variable {tokens : List Text} {regions : Text → Region} {document : Document}
  {contents : List Document} {calls : List (Text × Nat)} {assembly : Assembly}

theorem Holds.start : Holds tokens regions document contents []
    { entries := document.map .node, contents } := by
  refine ⟨?_, by simp, fun _ _ => rfl⟩
  have nothing : ∀ (entries : List Entry) position,
      Region.overlayFrom tokens regions (fun _ => none) position entries = entries := by
    intro entries
    induction entries with
    | nil => exact fun _ => rfl
    | cons entry rest ih =>
        intro position
        rw [Region.overlayFrom_cons, ih]
        simp [Region.overlayAt]
  exact (nothing _ 0).symm

theorem lookup_concat (calls : List (Text × Nat)) (token other : Text) (number : Nat) :
    (calls ++ [(token, number)]).reverse.lookup other =
      if other = token then some number else calls.reverse.lookup other := by
  rw [List.reverse_append, List.reverse_singleton, List.singleton_append, List.lookup_cons]
  split <;> simp_all

/-- A call whose token has no region changes nothing. -/
theorem Holds.foreign (apart : Region.Apart tokens regions document)
    (holds : Holds tokens regions document contents calls assembly) {token : Text}
    (foreign : token ∉ tokens) (number : Nat) :
    Holds tokens regions document contents (calls ++ [(token, number)]) assembly := by
  refine ⟨?_, fun other member its called => ?_, fun its uncalled => ?_⟩
  · rw [holds.entries, Region.overlay, Region.overlay]
    refine apart.overlayFrom_congr _ 0 fun other member => .inl ?_
    rw [lookup_concat, if_neg (by rintro rfl; exact foreign member)]
  · rcases List.mem_append.1 called with earlier | last
    · exact holds.used other member its earlier
    · simp only [List.mem_singleton, Prod.mk.injEq] at last
      exact absurd (last.1 ▸ member) foreign
  · exact holds.unused its fun other member called =>
      uncalled other member (List.mem_append_left _ called)

/-- An assembly cut at the region of a token. -/
structure Cut (tokens : List Text) (regions : Text → Region) (document : Document)
    (assembly : Assembly) (placed : Text → Option Entry) (token : Text)
    (first inside last : List Entry) : Prop where
  entries : assembly.entries = first ++ .node (.markup (Region.startMarker token)) ::
    (inside ++ .node (.markup (Region.stopMarker token)) :: last)
  cuts : Region.Cuts token assembly.document (first.map (nodeOf assembly.contents))
    (inside.map (nodeOf assembly.contents)) (last.map (nodeOf assembly.contents))
  depth : Document.lastDepth (first.map (nodeOf assembly.contents)) =
    Document.lastDepth (document.take (regions token).start)
  replaced : ∀ others entry, others token = some entry →
    (∀ other ∈ tokens, other ≠ token → placed other = others other) →
    Region.overlay tokens regions others (document.map .node) =
      first ++ .node (.markup (Region.startMarker token)) :: entry ::
        .node (.markup (Region.stopMarker token)) :: last

theorem map_nodeOf_map_node (contents : List Document) (nodes : Document) :
    (nodes.map Entry.node).map (nodeOf contents) = nodes := by
  simp [nodeOf, Function.comp_def]

/-- Contents show as documents inside the document. -/
theorem subtree_of_placed {placed : Text → Option Entry}
    (contentsOnly : ∀ token entry, placed token = some entry → ∃ number, entry = .content number)
    (token : Text) (node : Node)
    (eq : (placed token).map (nodeOf assembly.contents) = some node) :
    ∃ document, node = .subtree document := by
  obtain ⟨entry, here, rfl⟩ := Option.map_eq_some_iff.1 eq
  obtain ⟨number, rfl⟩ := contentsOnly token entry here
  exact ⟨_, rfl⟩

/-- Contents bring no markers of their own. -/
theorem isMarkup_overlayFrom {placed : Text → Option Entry}
    (contentsOnly : ∀ token entry, placed token = some entry → ∃ number, entry = .content number)
    {marker : Text} {part : Document} (position : Nat)
    (none : ∀ node ∈ part, node.isMarkup marker = false) :
    ∀ node ∈ (Region.overlayFrom tokens regions placed position (part.map .node)).map
      (nodeOf assembly.contents), node.isMarkup marker = false := by
  intro node found
  rw [Region.overlayFrom_map, map_nodeOf_map_node] at found
  rcases Region.mem_overlayFrom part position found with present | ⟨other, eq⟩
  · exact none node present
  · obtain ⟨document, rfl⟩ := subtree_of_placed contentsOnly other node eq
    rfl

theorem cut_of_overlay (apart : Region.Apart tokens regions document)
    {placed : Text → Option Entry}
    (contentsOnly : ∀ token entry, placed token = some entry → ∃ number, entry = .content number)
    (shown : assembly.entries = Region.overlay tokens regions placed (document.map .node))
    {token : Text} (member : token ∈ tokens) :
    ∃ first inside last, Cut tokens regions document assembly placed token first inside last := by
  obtain ⟨before, inside, after, cuts, start_eq, stop_eq⟩ :=
    Region.find?_eq_some (apart.located token member)
  have whole : ∀ others : Text → Option Entry,
      Region.overlay tokens regions others (document.map .node) =
        Region.overlayFrom tokens regions others 0 (before.map .node) ++
          .node (.markup (Region.startMarker token)) ::
          ((others token).elim (inside.map .node) (fun entry => [entry]) ++
            .node (.markup (Region.stopMarker token)) ::
            Region.overlayFrom tokens regions others ((regions token).stop + 1)
              (after.map .node)) := by
    intro others
    rw [cuts.whole, List.map_append, List.map_cons, List.map_append, List.map_cons]
    exact apart.overlay_cut member (by simpa using start_eq) (by simpa using stop_eq)
  have early : ∀ node ∈ before, node.isMarkup (Region.stopMarker token) = false :=
    fun node present => cuts.first_stop node (List.mem_append_left _ present)
  refine ⟨_, _, _, shown.trans (whole placed), ⟨?_, ?_, fun node found => ?_⟩, ?_, ?_⟩
  · rw [Assembly.document, shown.trans (whole placed)]
    simp [nodeOf]
  · exact isMarkup_overlayFrom contentsOnly 0 cuts.first_start
  · rcases List.mem_append.1 found with outside | within
    · exact isMarkup_overlayFrom contentsOnly 0 early node outside
    · cases here : placed token with
      | none =>
          rw [here, Option.elim_none, map_nodeOf_map_node] at within
          exact cuts.first_stop node (List.mem_append_right _ within)
      | some entry =>
          rw [here, Option.elim_some, List.map_singleton, List.mem_singleton] at within
          obtain ⟨document, rfl⟩ :=
            subtree_of_placed contentsOnly token node (by rw [here, within]; rfl)
          rfl
  · have front : document.take (regions token).start = before := by
      rw [start_eq, cuts.whole, List.take_left]
    rw [Region.overlayFrom_map, map_nodeOf_map_node, ← front]
    refine apart.lastDepth_overlay member fun other node eq => ?_
    obtain ⟨document, rfl⟩ := subtree_of_placed contentsOnly other node eq
    rfl
  · intro others entry here same
    rw [whole others, here, apart.overlayFrom_beside same _ (.inl (by simp [start_eq])),
      apart.overlayFrom_beside same _ (.inr (by omega))]
    rfl

/-- A call with one of the tokens puts its content into the region of that token. -/
theorem Holds.embed (apart : Region.Apart tokens regions document)
    (holds : Holds tokens regions document contents calls assembly) {token : Text}
    (member : token ∈ tokens) {number : Nat} (fresh : ∀ other ∈ tokens, (other, number) ∉ calls) :
    ∃ next, assembly.embed? {} token number = .ok (some next) ∧
      Holds tokens regions document contents (calls ++ [(token, number)]) next := by
  obtain ⟨first, inside, last, cut⟩ := cut_of_overlay apart (fun token entry eq => by
    obtain ⟨number, -, rfl⟩ := Option.map_eq_some_iff.1 eq
    exact ⟨number, rfl⟩) holds.entries member
  have depth : ∀ stop, Region.headingDepth { start := first.length, stop } assembly.document =
      (regions token).headingDepth document := by
    intro stop
    have now := cut.cuts.headingDepth stop
    rw [List.length_map] at now
    rw [now, Frame.around, cut.depth]
    rfl
  have embedded : assembly.embed? {} token number = .ok (some
      { entries := first ++ .node (.markup (Region.startMarker token)) :: .content number ::
          .node (.markup (Region.stopMarker token)) :: last
        contents := assembly.contents.modify number
          (Document.relevel ((regions token).headingDepth document)) }) := by
    have found := cut.cuts.find?
    rw [List.length_map, List.length_map] at found
    rw [embed?, found, ← Region.replace_cut first inside last, ← cut.entries,
      ← depth (first.length + (inside.length + 1))]
    rfl
  refine ⟨_, embedded, ?_, fun other present its called => ?_, fun its uncalled => ?_⟩
  · refine (cut.replaced _ _ ?_ fun other present differs => ?_).symm
    · rw [lookup_concat, if_pos rfl]
      rfl
    · rw [lookup_concat, if_neg differs]
  · rcases List.mem_append.1 called with earlier | now
    · have differs : number ≠ its := by
        rintro rfl
        exact fresh other present earlier
      rw [List.getElem?_modify_ne _ _ differs, holds.used other present its earlier]
    · obtain ⟨rfl, rfl⟩ := Prod.mk.inj (List.mem_singleton.1 now)
      rw [List.getElem?_modify_eq, holds.unused its fresh]
      rfl
  · have differs : number ≠ its := by
      rintro rfl
      exact uncalled token member (by simp)
    rw [List.getElem?_modify_ne _ _ differs]
    exact holds.unused its fun other present called =>
      uncalled other present (List.mem_append_left _ called)

/-- Calls whose contents are separate documents, and which lack a region if their tokens are not
among those given. -/
structure Orderly (tokens : List Text) (start : Assembly) (calls : List (Text × Nat)) : Prop where
  separate : ((calls.filter fun call => decide (call.1 ∈ tokens)).map Prod.snd).Nodup
  foreign : ∀ before token number after answers now, calls = before ++ (token, number) :: after →
    token ∉ tokens → embedAll {} before start = .ok (answers, now) →
    Region.Lacks token now.document

theorem Orderly.before {start : Assembly} {after : List (Text × Nat)}
    (orderly : Orderly tokens start (calls ++ after)) : Orderly tokens start calls := by
  refine ⟨?_, fun before token number later answers now whole => ?_⟩
  · have separate := orderly.separate
    rw [List.filter_append, List.map_append] at separate
    exact (List.nodup_append.1 separate).1
  · refine orderly.foreign before token number (later ++ after) answers now ?_
    rw [whole, List.append_assoc]
    rfl

theorem Orderly.fresh {start : Assembly} {token : Text} {number : Nat}
    (orderly : Orderly tokens start (calls ++ [(token, number)])) (member : token ∈ tokens) :
    ∀ other ∈ tokens, (other, number) ∉ calls := by
  intro other present called
  have separate := orderly.separate
  rw [List.filter_append, List.map_append] at separate
  have apart := (List.nodup_append.1 separate).2.2
  refine apart number ?_ number ?_ rfl
  · exact List.mem_map.2 ⟨(other, number), List.mem_filter.2 ⟨called, by simpa using present⟩, rfl⟩
  · simp [member]

theorem Orderly.missing {start now : Assembly} {token : Text} {number : Nat}
    {after : List (Text × Nat)} {answers : List Bool}
    (orderly : Orderly tokens start (calls ++ (token, number) :: after)) (foreign : token ∉ tokens)
    (ran : embedAll {} calls start = .ok (answers, now)) :
    now.embed? {} token number = .ok none := by
  rw [embed?, (orderly.foreign calls token number after answers now rfl foreign ran).find?]
  rfl

/-- After calls, every token that was called holds its last content. -/
theorem embedAll_holds (apart : Region.Apart tokens regions document)
    (orderly : Orderly tokens { entries := document.map .node, contents } calls) :
    ∃ last, embedAll {} calls { entries := document.map .node, contents } =
        .ok (calls.map fun call => decide (call.1 ∈ tokens), last) ∧
      Holds tokens regions document contents calls last := by
  induction calls using List.reverseRecOn with
  | nil => exact ⟨_, rfl, .start⟩
  | append_singleton before call ih =>
      obtain ⟨token, number⟩ := call
      obtain ⟨now, ran, holds⟩ := ih orderly.before
      by_cases member : token ∈ tokens
      · obtain ⟨next, embedded, after⟩ := holds.embed apart member (orderly.fresh member)
        refine ⟨next, ?_, after⟩
        rw [embedAll_concat_of_ok ran embedded]
        simp [member]
      · refine ⟨now, ?_, holds.foreign apart member number⟩
        rw [embedAll_concat_of_ok ran (orderly.missing member ran)]
        simp [member]

/-- The document that is shown after calls. -/
theorem Holds.shows (apart : Region.Apart tokens regions document)
    (holds : Holds tokens regions document contents calls assembly) :
    assembly.document = Region.overlay tokens regions
      (fun token => (calls.reverse.lookup token).map fun number =>
        .subtree ((contents[number]?.getD []).relevel ((regions token).headingDepth document)))
      document := by
  have nodes : (document.map Entry.node).map (nodeOf assembly.contents) = document := by
    simp [nodeOf, Function.comp_def]
  rw [Assembly.document, holds.entries, Region.overlay, Region.overlayFrom_map, nodes]
  refine apart.overlayFrom_congr document 0 fun token member => .inl ?_
  cases last : calls.reverse.lookup token with
  | none => rfl
  | some number =>
      obtain ⟨later, earlier, whole, -⟩ := List.lookup_eq_some_iff.1 last
      have called : (token, number) ∈ calls := by
        rw [← List.mem_reverse, whole]
        simp
      simp only [Option.map_some, nodeOf, holds.used token member number called]
      cases contents[number]? <;> rfl

/-- The last content of each token wins.  Calls whose tokens have regions apart from each other find
these whatever has been embedded before; they leave in each region that was called the last content,
its headings below the section around the region, and every other node in its place.  A call without
a region changes nothing, wherever it stands among the others. -/
theorem embedAll_last_wins (apart : Region.Apart tokens regions document)
    (orderly : Orderly tokens { entries := document.map .node, contents } calls) :
    ∃ last, embedAll {} calls { entries := document.map .node, contents } =
        .ok (calls.map fun call => decide (call.1 ∈ tokens), last) ∧
      last.document = Region.overlay tokens regions
        (fun token => (calls.reverse.lookup token).map fun number =>
          .subtree ((contents[number]?.getD []).relevel ((regions token).headingDepth document)))
        document ∧
      (∀ number, (∀ token ∈ tokens, (token, number) ∉ calls) →
        last.contents[number]? = contents[number]?) ∧
      ∀ before token number after, calls = before ++ (token, number) :: after → token ∉ tokens →
        ∃ answers now, embedAll {} before { entries := document.map .node, contents } =
            .ok (answers, now) ∧
          embedAll {} (before ++ [(token, number)]) { entries := document.map .node, contents } =
            .ok (answers ++ [false], now) := by
  obtain ⟨last, ran, holds⟩ := embedAll_holds apart orderly
  refine ⟨last, ran, holds.shows apart, holds.unused, ?_⟩
  intro before token number after whole foreign
  subst whole
  obtain ⟨now, reached, -⟩ := embedAll_holds apart orderly.before
  exact ⟨_, now, reached, embedAll_concat_of_ok reached (orderly.missing foreign reached)⟩

/-- Two regions, with a heading between them. -/
def twoRegions : Document :=
  [.markup (Region.startMarker ['a']), .markup (Region.stopMarker ['a']), .heading 2 [],
    .markup (Region.startMarker ['b']), .block .thematicBreak, .markup (Region.stopMarker ['b'])]

/-- Contents to put into them. -/
def someContents : List Document := [[.heading 1 []], [.block (.html ['x']), .heading 5 []], []]

theorem embedAll_last_wins_in_two_regions :
    ∃ last, embedAll {} [(['c'], 0), (['b'], 0), (['a'], 2), (['b'], 1)]
        { entries := twoRegions.map .node, contents := someContents } =
        .ok ([false, true, true, true], last) ∧
      last.document =
        [.markup (Region.startMarker ['a']), .subtree [], .markup (Region.stopMarker ['a']),
          .heading 2 [], .markup (Region.startMarker ['b']),
          .subtree [.block (.html ['x']), .heading 3 []], .markup (Region.stopMarker ['b'])] := by
  have apart : Region.Apart [['a'], ['b']]
      (fun token => if token = ['a'] then { start := 0, stop := 1 } else { start := 3, stop := 5 })
      twoRegions := by
    refine ⟨fun token member => ?_, by simp, fun token member => ?_⟩
    · rw [Region.find?_default]
      rcases List.mem_pair.1 member with rfl | rfl <;> rfl
    · rcases List.mem_pair.1 member with rfl | rfl
      · intro before heading after whole
        exact absurd whole.symm (by simp)
      · intro before heading after whole
        match before, whole with
        | [], whole => simp [twoRegions] at whole; simp [← whole.1, Node.depth?]
        | [_], whole => simp [twoRegions] at whole; simp [← whole.2.1, Node.depth?]
        | [_, _], _ => simp
        | _ :: _ :: _ :: _, whole => simp [twoRegions] at whole
  have orderly : Orderly [['a'], ['b']] { entries := twoRegions.map .node, contents := someContents }
      [(['c'], 0), (['b'], 0), (['a'], 2), (['b'], 1)] := by
    refine ⟨by decide, fun before token number after answers now whole foreign ran => ?_⟩
    cases before with
    | nil =>
        cases ran
        cases whole
        intro start stop found
        have none : twoRegions.findMarker? (Region.startMarker ['c']) = none := by decide
        exact absurd (none.symm.trans found) (by simp)
    | cons call before =>
        have later : (token, number) ∈ [(['b'], 0), (['a'], 2), (['b'], 1)] := by
          rw [(List.cons.inj whole).2]
          simp
        simp only [List.mem_cons, Prod.mk.injEq, List.not_mem_nil, or_false] at later
        rcases later with ⟨rfl, -⟩ | ⟨rfl, -⟩ | ⟨rfl, -⟩ <;> simp at foreign
  obtain ⟨last, ran, shown, -⟩ := embedAll_last_wins apart orderly
  exact ⟨last, ran, shown⟩

end Assembly

end ExportDocs
