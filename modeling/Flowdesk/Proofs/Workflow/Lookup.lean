import Flowdesk.Drawing
import Flowdesk.Proofs.Workflow.Editing
import Flowdesk.Workflow.Index
import Mathlib.Data.Finset.Card

/-!
# All look-ups agree

An id is looked up in an index that was filled in one pass, in the lists of a workflow, by the
edits that rename or delete an element, and in a drawing. Ids may repeat, within a kind of
elements and across kinds. All look-ups nevertheless come to the same element: the first node
of the id, or else the first edge, or else the first lane. The index tells its place, and
that is where a label is changed and what is taken away.
-/

namespace Flowdesk.Workflow

open Data

/-- The ids of the workflow of a document. -/
def Document.ids (document : Document) : List String := (document.flow.map Flow.ids).getD []

namespace Flow

/-- The workflow with another label on the element at a place. -/
def relabelledAt (flow : Flow) (label : String) : Element → Flow
  | .node place => { flow with nodes := flow.nodes.modify place (Node.relabelled label) }
  | .edge place => { flow with edges := flow.edges.modify place (Edge.relabelled label) }
  | .lane place => { flow with lanes := flow.lanes.modify place (Lane.renamed label) }

/-- The workflow without the element of an id that is at a place. What refers to a node goes
with it. -/
def withoutAt (flow : Flow) (id : String) : Element → Flow
  | .node place =>
      { flow with
        nodes := flow.nodes.eraseIdx place
        edges := flow.edges.filter fun edge => ¬edge.Touches id
        lanes := flow.lanes.map (Lane.leaving [id]) }
  | .edge place => { flow with edges := flow.edges.eraseIdx place }
  | .lane place => { flow with lanes := flow.lanes.eraseIdx place }

end Flow

section Places

variable {α : Type} {condition : α → Bool} {elements : List α} {place : Nat}

/-- The first element that satisfies a condition has a place, or there is none. -/
theorem first_cases (condition : α → Bool) (elements : List α) :
    (elements.findIdx? condition = none ∧ elements.find? condition = none) ∨
      ∃ place element, elements.findIdx? condition = some place ∧
        elements[place]? = some element ∧ elements.find? condition = some element := by
  have found : elements.find? condition =
      (elements.findIdx? condition).bind fun place => elements[place]? :=
    List.find?_eq_bind_findIdx?_getElem?
  cases first : elements.findIdx? condition with
  | none =>
    rw [first] at found
    exact .inl ⟨rfl, found⟩
  | some place =>
    obtain ⟨bound, _⟩ := List.findIdx?_eq_some_iff_getElem.mp first
    rw [first, Option.bind_some, List.getElem?_eq_getElem bound] at found
    exact .inr ⟨place, elements[place], rfl, List.getElem?_eq_getElem bound, found⟩

/-- The first element that satisfies a condition is changed at its place. -/
theorem changeFirst_eq_modify {change : α → α} (first : elements.findIdx? condition = some place) :
    changeFirst condition change elements = elements.modify place change := by
  induction elements generalizing place with
  | nil => exact nomatch first
  | cons element rest inductionHypothesis =>
    rw [List.findIdx?_cons] at first
    rw [changeFirst]
    split at first
    · next found =>
      obtain rfl := Option.some.inj first
      rw [if_pos found, List.modify_zero_cons]
    · next other =>
      obtain ⟨later, among, rfl⟩ := Option.map_eq_some_iff.mp first
      rw [if_neg other, inductionHypothesis among, List.modify_succ_cons]

/-- The first element that satisfies a condition is removed at its place. -/
theorem eraseP_eq_eraseIdx_of_first (first : elements.findIdx? condition = some place) :
    elements.eraseP condition = elements.eraseIdx place := by
  rw [List.eraseP_eq_eraseIdx, first]

end Places

namespace Index

/-- An id that is entered names its element unless it named one before. -/
theorem get?_enter (elements : Table String Element) (entered id : String) (element : Element) :
    (enter elements entered element).get? id =
      (elements.get? id).or (if entered = id then some element else none) := by
  unfold enter
  split
  · next taken =>
    split
    · next same =>
      subst same
      rw [Option.or_of_isSome taken]
    · rw [Option.or_none]
  · next free =>
    rw [Table.get?_put]
    split
    · next same =>
      subst same
      rw [Option.not_isSome_iff_eq_none.mp free, Option.none_or]
    · rw [Option.or_none]

/-- Of ids that are entered in order, each names its first place, unless it named an element
before. -/
theorem get?_enterAll (kind : Nat → Element) (place : Nat) (elements : Table String Element)
    (ids : List String) (id : String) :
    (enterAll kind place elements ids).get? id =
      (elements.get? id).or ((ids.findIdx? (· = id)).map fun later => kind (place + later)) := by
  induction ids generalizing place elements with
  | nil => rw [enterAll, List.findIdx?_nil, Option.map_none, Option.or_none]
  | cons first rest inductionHypothesis =>
    rw [enterAll, inductionHypothesis, get?_enter, Option.or_assoc, List.findIdx?_cons]
    by_cases same : first = id
    · simp [same]
    · simp [same, Function.comp_def, Nat.add_assoc, Nat.add_comm 1]

/-- The ids of a workflow name what comes first: a node, or else an edge, or else a lane. -/
theorem get?_elementsOf (flow : Flow) (id : String) :
    (elementsOf flow).get? id =
      ((flow.nodes.findIdx? (·.id = id)).map .node).or
        (((flow.edges.findIdx? (·.id = id)).map .edge).or
          ((flow.lanes.findIdx? (·.id = id)).map .lane)) := by
  simp only [elementsOf, get?_enterAll, Table.get?_empty, Option.none_or, Option.or_assoc,
    List.findIdx?_map, Function.comp_def, Nat.zero_add]

/-- Nothing is entered twice. -/
theorem keys_nodup_enterAll {elements : Table String Element} (distinct : elements.keys.Nodup)
    (kind : Nat → Element) (place : Nat) (ids : List String) :
    (enterAll kind place elements ids).keys.Nodup := by
  induction ids generalizing place elements with
  | nil => exact distinct
  | cons id rest inductionHypothesis =>
    refine inductionHypothesis ?_ (place + 1)
    unfold enter
    split
    · exact distinct
    · exact Table.keys_nodup_put distinct id (kind place)

theorem keys_nodup_elementsOf (flow : Flow) : (elementsOf flow).keys.Nodup := by
  have none : (Table.empty : Table String Element).keys.Nodup := List.nodup_nil
  have nodes := keys_nodup_enterAll none .node 0 (flow.nodes.map (·.id))
  have edges := keys_nodup_enterAll nodes .edge 0 (flow.edges.map (·.id))
  exact keys_nodup_enterAll edges .lane 0 (flow.lanes.map (·.id))

end Index

/-- What an id comes to in a workflow, if anything, and that no kind of elements which goes
before has the id. -/
inductive Flow.Resolves (flow : Flow) (id : String) : Option Element → Prop
  | node {place : Nat} {node : Node} (first : flow.nodes.findIdx? (·.id = id) = some place)
      (here : flow.nodes[place]? = some node) (found : flow.node? id = some node) :
      Resolves flow id (some (.node place))
  | edge {place : Nat} {edge : Edge} (noNode : flow.node? id = none)
      (first : flow.edges.findIdx? (·.id = id) = some place)
      (here : flow.edges[place]? = some edge) (found : flow.edge? id = some edge) :
      Resolves flow id (some (.edge place))
  | lane {place : Nat} {lane : Lane} (noNode : flow.node? id = none) (noEdge : flow.edge? id = none)
      (first : flow.lanes.findIdx? (·.id = id) = some place)
      (here : flow.lanes[place]? = some lane) (found : flow.lane? id = some lane) :
      Resolves flow id (some (.lane place))
  | nothing (noNode : flow.node? id = none) (noEdge : flow.edge? id = none)
      (noLane : flow.lane? id = none) : Resolves flow id none

namespace Flow

/-- The elements of a workflow by id are what the ids come to. -/
theorem resolves (flow : Flow) (id : String) :
    flow.Resolves id ((Index.elementsOf flow).get? id) := by
  rw [Index.get?_elementsOf]
  obtain ⟨noPlace, noNode⟩ | ⟨place, node, first, here, found⟩ :=
    first_cases (·.id = id) flow.nodes
  · rw [noPlace]
    obtain ⟨noPlace, noEdge⟩ | ⟨place, edge, first, here, found⟩ :=
      first_cases (·.id = id) flow.edges
    · rw [noPlace]
      obtain ⟨noPlace, noLane⟩ | ⟨place, lane, first, here, found⟩ :=
        first_cases (·.id = id) flow.lanes
      · rw [noPlace]
        exact .nothing noNode noEdge noLane
      · rw [first]
        exact .lane noNode noEdge first here found
    · rw [first]
      exact .edge noNode first here found
  · rw [first]
    exact .node first here found

variable {flow : Flow} {id : String} {named : Option Element}

theorem Resolves.hasId (resolves : flow.Resolves id named) : flow.hasId id = named.isSome := by
  cases resolves with
  | node _ _ found => simp [Flow.hasId, found]
  | edge _ _ _ found => simp [Flow.hasId, found]
  | lane _ _ _ _ found => simp [Flow.hasId, found]
  | nothing noNode noEdge noLane => simp [Flow.hasId, noNode, noEdge, noLane]

/-- What is renamed is what the id comes to. -/
theorem Resolves.rename (resolves : flow.Resolves id named) (label : String) :
    flow.rename id label =
      named.elim (.error (.unknownElement id)) fun place =>
        .ok (flow.relabelledAt label place) := by
  unfold Flow.rename
  cases resolves with
  | node first _ found =>
    rw [found, if_pos Option.isSome_some, changeFirst_eq_modify first]
    rfl
  | edge noNode first _ found =>
    rw [noNode, found, if_neg nofun, if_pos Option.isSome_some, changeFirst_eq_modify first]
    rfl
  | lane noNode noEdge first _ found =>
    rw [noNode, noEdge, found, if_neg nofun, if_neg nofun, if_pos Option.isSome_some,
      changeFirst_eq_modify first]
    rfl
  | nothing noNode noEdge noLane =>
    rw [noNode, noEdge, noLane, if_neg nofun, if_neg nofun, if_neg nofun]
    rfl

/-- What is deleted is what the id comes to. -/
theorem Resolves.delete (resolves : flow.Resolves id named) :
    flow.delete id =
      named.elim (.error (.unknownElement id)) fun place => .ok (flow.withoutAt id place) := by
  cases resolves with
  | node first _ found =>
    have known : id ∈ flow.nodeIds := (isSome_node?_iff flow id).mp (Option.isSome_of_eq_some found)
    rw [delete_eq_ok_iff.mpr (.deleteNode known), eraseP_eq_eraseIdx_of_first first]
    rfl
  | edge noNode first _ found =>
    rw [Flow.delete, noNode, found, if_neg nofun, if_pos Option.isSome_some,
      eraseP_eq_eraseIdx_of_first first]
    rfl
  | lane noNode noEdge first _ found =>
    rw [Flow.delete, noNode, noEdge, found, if_neg nofun, if_neg nofun, if_pos Option.isSome_some,
      eraseP_eq_eraseIdx_of_first first]
    rfl
  | nothing noNode noEdge noLane =>
    rw [Flow.delete, noNode, noEdge, noLane, if_neg nofun, if_neg nofun, if_neg nofun]
    rfl

end Flow

/-- The first figure of an id is that of the first node of the id. -/
theorem find?_figures (nodes : List Node) (id : String) :
    (nodes.mapIdx Drawing.figureOf).find? (·.id = id) =
      (nodes.findIdx? (·.id = id)).bind fun place =>
        nodes[place]?.map (Drawing.figureOf place) := by
  have ids : (nodes.mapIdx Drawing.figureOf).map (·.id) = nodes.map (·.id) := by
    refine List.ext_getElem? fun place => ?_
    simp only [List.getElem?_map, List.getElem?_mapIdx, Option.map_map]
    rfl
  have places : (nodes.mapIdx Drawing.figureOf).findIdx? (·.id = id) =
      nodes.findIdx? (·.id = id) := by
    have both := congrArg (List.findIdx? (· = id)) ids
    simpa only [List.findIdx?_map, Function.comp_def] using both
  rw [List.find?_eq_bind_findIdx?_getElem?, places]
  simp only [List.getElem?_mapIdx]

/-- The figure of the node that an id names. -/
def Index.figure? (index : Index) (id : String) : Option Drawing.Figure :=
  match index.get? id with
  | some (.node place) => (index.node? id).map (Drawing.figureOf place)
  | _ => none

/-- As many ids are in the index as are in use. -/
theorem Index.size_of (document : Document) :
    (Index.of document).size = document.ids.toFinset.card := by
  obtain ⟨_ | flow⟩ := document
  · rfl
  · have listed : (elementsOf flow).keys.toFinset = flow.ids.toFinset := by
      ext id
      rw [List.mem_toFinset, List.mem_toFinset, Table.mem_keys_iff, ← Flow.hasId_iff,
        (flow.resolves id).hasId]
    change (elementsOf flow).entries.length = flow.ids.toFinset.card
    rw [← listed, List.toFinset_card_of_nodup (keys_nodup_elementsOf flow), Table.keys,
      List.length_map]

namespace Document

/-- The first node of an id, or else the first edge, or else the first lane. -/
def first (document : Document) (id : String) : Option Node × Option Edge × Option Lane :=
  match document.flow.bind (·.node? id), document.flow.bind (·.edge? id) with
  | some node, _ => (some node, none, none)
  | none, some edge => (none, some edge, none)
  | none, none => (none, none, document.flow.bind (·.lane? id))

/-- The document with a change where the index has an id. -/
def changedAt (document : Document) (id : String) (change : Flow → Element → Flow) :
    Except PatchFailure Document :=
  match document.flow, (Index.of document).get? id with
  | none, _ => .error .noWorkflow
  | some _, none => .error (.unknownElement id)
  | some flow, some element => .ok ⟨some (change flow element)⟩

/-- An edit that goes by what an id names changes the document there. -/
theorem edit_eq_changedAt {flow : Flow} {id : String} {patch : Patch}
    {change : Flow → Element → Flow}
    (applied : patch.apply flow =
      ((Index.of ⟨some flow⟩).get? id).elim (.error (.unknownElement id)) fun element =>
        .ok (change flow element)) :
    edit ⟨some flow⟩ patch = changedAt ⟨some flow⟩ id change := by
  have edited : edit ⟨some flow⟩ patch =
      (patch.apply flow >>= fun after => .ok ⟨some after⟩) := rfl
  rw [edited, applied, changedAt]
  cases (Index.of ⟨some flow⟩).get? id <;> rfl

/-- All look-ups of an id come to the same element. -/
structure Agrees (document : Document) (id : String) : Prop where
  node : (Index.of document).node? id = document.flow.bind (·.node? id)
  contains : (Index.of document).contains id = document.flow.any (·.hasId id)
  /-- Of the three kinds one answers at most. -/
  answers :
    ((Index.of document).node? id, (Index.of document).edge? id, (Index.of document).lane? id) =
      document.first id
  renamed : ∀ label,
    document.edit (.rename id label) = document.changedAt id fun flow => flow.relabelledAt label
  deleted : document.edit (.delete id) = document.changedAt id fun flow => flow.withoutAt id
  drawn : ∀ revision, (Drawing.of document revision).figure? id = (Index.of document).figure? id

end Document

namespace Flow.Resolves

variable {flow : Flow} {id : String} {named : Option Element}

/-- Of node, edge and lane the index answers with what the id comes to. -/
theorem answers (resolves : flow.Resolves id named)
    (indexed : (Index.of ⟨some flow⟩).get? id = named) :
    ((Index.of ⟨some flow⟩).node? id, (Index.of ⟨some flow⟩).edge? id,
      (Index.of ⟨some flow⟩).lane? id) = (Document.mk (some flow)).first id := by
  have root : (Index.of ⟨some flow⟩).root.flow = some flow := rfl
  simp only [Index.node?, Index.edge?, Index.lane?, indexed, root, Document.first,
    Option.bind_some]
  cases resolves with
  | node _ here found => simp only [here, found]
  | edge noNode _ here found => simp only [here, noNode, found]
  | lane noNode noEdge _ here found => simp only [here, noNode, noEdge, found]
  | nothing noNode noEdge noLane => simp only [noNode, noEdge, noLane]

/-- The figure of an id is that of the node the id comes to. -/
theorem figure (resolves : flow.Resolves id named)
    (indexed : (Index.of ⟨some flow⟩).get? id = named) (revision : UInt64) :
    (Drawing.of ⟨some flow⟩ revision).figure? id =
      (Index.of ⟨some flow⟩).figure? id := by
  have root : (Index.of ⟨some flow⟩).root.flow = some flow := rfl
  have figures : (Drawing.of ⟨some flow⟩ revision).figures = flow.nodes.mapIdx Drawing.figureOf :=
    rfl
  have nowhere (noNode : flow.node? id = none) : flow.nodes.findIdx? (·.id = id) = none := by
    obtain ⟨noPlace, _⟩ | ⟨_, _, _, _, found⟩ := first_cases (·.id = id) flow.nodes
    · exact noPlace
    · exact nomatch noNode.symm.trans found
  rw [Drawing.figure?, figures, find?_figures, Index.figure?, Index.node?, indexed, root]
  cases resolves with
  | node first _ _ => rw [first, Option.bind_some]
  | edge noNode _ _ _ => rw [nowhere noNode, Option.bind_none]
  | lane noNode _ _ _ _ => rw [nowhere noNode, Option.bind_none]
  | nothing noNode _ _ => rw [nowhere noNode, Option.bind_none]

/-- In a workflow all look-ups agree on what an id comes to. -/
theorem agrees (resolves : flow.Resolves id named)
    (indexed : (Index.of ⟨some flow⟩).get? id = named) :
    (Document.mk (some flow)).Agrees id where
  node := by
    have first := congrArg Prod.fst (resolves.answers indexed)
    cases resolves with
    | node _ _ found => simpa [Document.first, found] using first
    | edge noNode _ _ found => simpa [Document.first, noNode, found] using first
    | lane noNode noEdge _ _ _ => simpa [Document.first, noNode, noEdge] using first
    | nothing noNode noEdge _ => simpa [Document.first, noNode, noEdge] using first
  contains := by
    rw [Option.any_some, resolves.hasId, ← indexed]
    rfl
  answers := resolves.answers indexed
  renamed label := Document.edit_eq_changedAt (indexed ▸ resolves.rename label)
  deleted := Document.edit_eq_changedAt (indexed ▸ resolves.delete)
  drawn revision := resolves.figure indexed revision

end Flow.Resolves

/-- Whichever ids there are, the index of a document, the workflow itself, the edits that rename
or delete an element and the drawing come to the same element for an id: the first node of
the id, or else the first edge, or else the first lane.

Proof: what an id stands for is told by one relation, which is a function of the id. Every lookup
computes it: the searches by their order, and the index because an id that was entered is not
entered again. -/
theorem lookups_agree (document : Document) :
    (∀ id, document.Agrees id) ∧ (Index.of document).size = document.ids.toFinset.card := by
  refine ⟨fun id => ?_, Index.size_of document⟩
  obtain ⟨_ | flow⟩ := document
  · exact ⟨rfl, rfl, rfl, fun _ => rfl, rfl, fun _ => rfl⟩
  · exact (flow.resolves id).agrees rfl

end Flowdesk.Workflow
