import Flowdesk.Proofs.Yaml.Reading
import Flowdesk.Workflow.Text

/-!
# A document that was written is read again

Each element of a workflow is written as a record of its fields and read as one. Fields
that are left out, because there is no label, no property or no lane, are read as what they
stood for. Of the coordinates it is only asked that the text of each names it; every text,
whatever its characters, is read as it was.
-/

namespace Flowdesk.Workflow

open Data Yaml

/-- The coordinates of a node: where it is drawn, and how large. -/
def Node.coordinates (node : Node) : List Float :=
  (node.position.toList.flatMap fun position => [position.x, position.y]) ++
    node.size.toList.flatMap fun size => [size.width, size.height]

/-- The coordinates of a document. -/
def Document.coordinates (document : Document) : List Float :=
  document.flow.toList.flatMap fun flow => flow.nodes.flatMap Node.coordinates

/-- Whether the texts of numbers name them. -/
def Named (numbers : List Float) : Prop := ∀ x ∈ numbers, floatOf? (writeNumber x) = some x

/-- The entries of a dictionary are written in the order in which it keeps them. -/
theorem readDictionary_of_shape {ν : Type} [Source ν] {written : ν} {dictionary : Dictionary}
    {cell : String → ν} (texts : ∀ text, Source.text (cell text) = pure text)
    (parts : Source.shape written = pure (.keyed (dictionary.entries.map fun entry =>
      (pure entry.1, cell entry.2)))) : readDictionary written = pure dictionary := by
  have filled : ∀ (entries : List (String × String)) (start : Dictionary),
      (entries.map fun entry => ((pure entry.1 : Reading String), cell entry.2)).foldlM
        (fun dictionary (entry : Reading String × ν) => do
          return dictionary.insert (← entry.1) (← Source.text entry.2)) start =
        (pure (entries.foldl (fun dictionary entry => dictionary.insert entry.1 entry.2) start) :
          Reading Dictionary) := by
    intro entries
    induction entries with
    | nil => exact fun _ => rfl
    | cons entry rest inductionHypothesis =>
      intro start
      simp only [List.map_cons, List.foldlM_cons, List.foldl_cons, pure_bind, texts]
      exact inductionHypothesis _
  have whole := filled dictionary.entries Dictionary.empty
  rw [show dictionary.entries.foldl _ Dictionary.empty = dictionary from
    Dictionary.ofList_entries dictionary] at whole
  simp only [readDictionary, parts, pure_bind]
  exact whole

section Fields

variable {tree : Tree} {α : Type} (name : String) {write : α → Value} {read : Cell → Reading α}

/-- A field that is written. -/
theorem reads_written (missing : Missing α) {written : Value} {value : α}
    (here : read (written.cell tree) = pure value) :
    (Rec.field name read missing).Reads [name] ([(name, written)].map (entryCell tree)) value :=
  Rec.reads_field missing here

/-- A field that is left out when there is nothing to write. -/
theorem reads_maybe {value? : Option α}
    (here : ∀ value, value? = some value →
      Source.present ((write value).cell tree) = pure (some ((write value).cell tree)) ∧
        read ((write value).cell tree) = pure value) :
    (Rec.maybe name read).Reads [name] ((entryOf name write value?).map (entryCell tree))
      value? := by
  cases value? with
  | none => exact Rec.reads_missing none
  | some value =>
    obtain ⟨present, reads⟩ := here value rfl
    refine Rec.reads_field (.assumed none) ?_
    simp only [Data.optional, present, pure_bind, reads]

/-- A text that is left out when there is none. -/
theorem reads_maybe_text (tree : Tree) (name : String) (text? : Option String) :
    (Rec.maybe name Source.text).Reads [name]
      ((entryOf name Value.text text?).map (entryCell tree)) text? :=
  reads_maybe name fun text _ => ⟨present_text tree text, text_cell tree text⟩

/-- A field that is left out when it would stand for what it has. -/
theorem reads_assumed {written : Value} {value usual : α} {empty : Bool}
    (here : read (written.cell tree) = pure value) (left : empty = true → value = usual) :
    (Rec.assumed name read usual).Reads [name]
      ((if empty then [] else [(name, written)]).map (entryCell tree)) value := by
  cases empty with
  | true =>
    rw [left rfl]
    exact Rec.reads_missing usual
  | false => exact Rec.reads_field (.assumed usual) here

end Fields

section Elements

variable (tree : Tree)

theorem read_position {position : Position} (named : Named [position.x, position.y]) :
    Position.fields.read (position.toYaml.cell tree) = pure position := by
  have across := number_cell tree (named position.x (by simp))
  have down := number_cell tree (named position.y (by simp))
  have reads := (reads_written "x" .refused across).both
    (reads_written "y" .refused down) (by decide)
  exact record_cell tree (reads.map _) rfl

theorem read_size {size : Size} (named : Named [size.width, size.height]) :
    Size.fields.read (size.toYaml.cell tree) = pure size := by
  have width := number_cell tree (named size.width (by simp))
  have height := number_cell tree (named size.height (by simp))
  have reads := (reads_written "width" .refused width).both
    (reads_written "height" .refused height) (by decide)
  exact record_cell tree (reads.map _) rfl

/-- Properties are read in the order of their names, which is the one they are kept in. -/
theorem read_dictionary (dictionary : Dictionary) :
    readDictionary ((dictionaryYaml dictionary).cell tree) = pure dictionary := by
  refine readDictionary_of_shape (text_cell tree) ?_
  simp only [dictionaryYaml, shape_cell, List.map_map]
  rfl

/-- Properties that are left out are none. -/
theorem eq_empty_of_isEmpty {dictionary : Dictionary} (empty : dictionary.isEmpty = true) :
    dictionary = Dictionary.empty := by
  obtain ⟨entries, increasing⟩ := dictionary
  cases entries with
  | nil => rfl
  | cons => exact nomatch empty

/-- A node is read with its coordinates if their texts name them. -/
theorem read_node {node : Node} (named : Named node.coordinates) :
    Node.fields.read (node.toYaml.cell tree) = pure node := by
  have kind : oneOf NodeKind.ofName? ((Value.text node.kind.name).cell tree) = pure node.kind := by
    simp only [oneOf, choice_cell, pure_bind, NodeKind.ofName?_name]
  have position : ∀ position, node.position = some position →
      Source.present (position.toYaml.cell tree) = pure (some (position.toYaml.cell tree)) ∧
        Position.fields.read (position.toYaml.cell tree) = pure position := by
    intro position same
    refine ⟨present_record tree _, read_position tree fun x member => named x ?_⟩
    simp only [Node.coordinates, same]
    exact List.mem_append_left _ (by simpa using member)
  have size : ∀ size, node.size = some size →
      Source.present (size.toYaml.cell tree) = pure (some (size.toYaml.cell tree)) ∧
        Size.fields.read (size.toYaml.cell tree) = pure size := by
    intro size same
    refine ⟨present_record tree _, read_size tree fun x member => named x ?_⟩
    simp only [Node.coordinates, same]
    exact List.mem_append_right _ (by simpa using member)
  have properties := reads_assumed "properties" (read_dictionary tree node.properties)
    eq_empty_of_isEmpty
  have reads := (reads_written "id" .refused (text_cell tree node.id)).both
    ((reads_written "type" .refused kind).both
      ((reads_maybe_text tree "label" node.label).both
        ((reads_maybe "position" position).both
          ((reads_maybe "size" size).both properties (by decide))
          (by decide)) (by decide)) (by decide)) (by decide)
  refine record_cell tree (reads.map _) ?_
  simp only [List.map_append, List.append_assoc, List.map_cons, List.map_nil, List.cons_append,
    List.nil_append]
  rfl

/-- An edge has no numbers, so nothing is asked of it. -/
theorem read_edge (edge : Edge) : Edge.fields.read (edge.toYaml.cell tree) = pure edge := by
  have reads := (reads_written "id" .refused (text_cell tree edge.id)).both
    ((reads_written "source" .refused (text_cell tree edge.source)).both
      ((reads_written "target" .refused (text_cell tree edge.target)).both
        (reads_maybe_text tree "label" edge.label) (by decide))
      (by decide)) (by decide)
  exact record_cell tree (reads.map _) rfl

/-- Nor has a lane. -/
theorem read_lane (lane : Lane) : Lane.fields.read (lane.toYaml.cell tree) = pure lane := by
  have members : listOf Source.text ((Value.list (lane.nodes.map Value.text)).cell tree) =
      pure lane.nodes := listOf_cell tree fun name _ => text_cell tree name
  have reads := (reads_written "id" .refused (text_cell tree lane.id)).both
    ((reads_written "name" .refused (text_cell tree lane.name)).both
      (reads_written "nodes" (.assumed []) members) (by decide)) (by decide)
  exact record_cell tree (reads.map _) rfl

/-- A workflow is read element by element. -/
theorem read_flow {flow : Flow} (named : Named (flow.nodes.flatMap Node.coordinates)) :
    Flow.fields.read (flow.toYaml.cell tree) = pure flow := by
  have nodes : listOf Node.fields.read ((Value.list (flow.nodes.map Node.toYaml)).cell tree) =
      pure flow.nodes := listOf_cell tree fun node member => read_node tree fun x inNode =>
    named x (List.mem_flatMap.mpr ⟨node, member, inNode⟩)
  have edges : listOf Edge.fields.read ((Value.list (flow.edges.map Edge.toYaml)).cell tree) =
      pure flow.edges := listOf_cell tree fun edge _ => read_edge tree edge
  have lanes : listOf Lane.fields.read ((Value.list (flow.lanes.map Lane.toYaml)).cell tree) =
      pure flow.lanes := listOf_cell tree fun lane _ => read_lane tree lane
  have swimlanes := reads_assumed "swimlanes" lanes fun empty => List.isEmpty_iff.mp empty
  have reads := (reads_written "name" .refused (text_cell tree flow.name)).both
    ((reads_maybe_text tree "description" flow.description).both
      ((reads_written "nodes" (.assumed []) nodes).both
        ((reads_written "edges" (.assumed []) edges).both swimlanes (by decide))
        (by decide)) (by decide)) (by decide)
  refine record_cell tree (reads.map _) ?_
  simp only [List.map_append, List.append_assoc, List.map_cons, List.map_nil, List.cons_append,
    List.nil_append]
  rfl

/-- The value of a document. -/
def Document.toYaml (document : Document) : Value :=
  .record (entryOf "workflow" Flow.toYaml document.flow)

/-- A document may have no workflow. -/
theorem read_document {document : Document} (named : Named document.coordinates) :
    Document.fields.read (document.toYaml.cell tree) = pure document := by
  have flow : ∀ flow, document.flow = some flow →
      Source.present (flow.toYaml.cell tree) = pure (some (flow.toYaml.cell tree)) ∧
        Flow.fields.read (flow.toYaml.cell tree) = pure flow := by
    intro flow same
    refine ⟨present_record tree _, read_flow tree fun x member => named x ?_⟩
    simpa only [Document.coordinates, same, Option.toList_some, List.flatMap_singleton] using member
  exact record_cell tree ((reads_maybe "workflow" flow).map _) rfl

end Elements

section Numbers

theorem entriesNumbers_append (first second : List (String × Value)) :
    entriesNumbers (first ++ second) = entriesNumbers first ++ entriesNumbers second := by
  induction first with
  | nil => rfl
  | cons entry rest inductionHypothesis =>
    simp only [List.cons_append, entriesNumbers, inductionHypothesis, List.append_assoc]

/-- The numbers of a list are those of its items in turn. -/
theorem numbers_list {α : Type} {write : α → Value} {numbers : α → List Float}
    (each : ∀ value, (write value).numbers = numbers value) (values : List α) :
    (Value.list (values.map write)).numbers = values.flatMap numbers := by
  rw [Value.numbers]
  induction values with
  | nil => rfl
  | cons value rest inductionHypothesis =>
    rw [List.map_cons, itemsNumbers, each, inductionHypothesis, List.flatMap_cons]

/-- The numbers of an entry that may be left out. -/
theorem numbers_entryOf {α : Type} (name : String) {write : α → Value} {numbers : α → List Float}
    (each : ∀ value, (write value).numbers = numbers value) (value? : Option α) :
    entriesNumbers (entryOf name write value?) = value?.toList.flatMap numbers := by
  cases value? with
  | none => rfl
  | some value => simp only [entryOf, entriesNumbers, each, Option.toList_some,
      List.flatMap_singleton, List.append_nil]

/-- A text has no numbers, and neither has what is left out. -/
theorem numbers_text (name : String) (text? : Option String) :
    entriesNumbers (entryOf name Value.text text?) = [] :=
  (numbers_entryOf name (fun _ => rfl) text?).trans (List.flatMap_eq_nil_iff.mpr fun _ _ => rfl)

/-- Properties are texts, whatever they look like. -/
theorem numbers_dictionary (dictionary : Dictionary) :
    (dictionaryYaml dictionary).numbers = [] := by
  rw [dictionaryYaml, Value.numbers]
  induction dictionary.entries with
  | nil => rfl
  | cons entry rest inductionHypothesis =>
    rw [List.map_cons, entriesNumbers, inductionHypothesis]
    rfl

/-- The numbers of a node are its coordinates. -/
theorem numbers_node (node : Node) : node.toYaml.numbers = node.coordinates := by
  have parts : node.toYaml.numbers = entriesNumbers (entryOf "label" Value.text node.label) ++
      entriesNumbers (entryOf "position" Position.toYaml node.position) ++
      entriesNumbers (entryOf "size" Size.toYaml node.size) ++
      entriesNumbers (if node.properties.isEmpty then []
        else [("properties", dictionaryYaml node.properties)]) := by
    simp only [Node.toYaml, Value.numbers, entriesNumbers_append]
    rfl
  have properties : entriesNumbers (if node.properties.isEmpty then []
      else [("properties", dictionaryYaml node.properties)]) = [] := by
    split
    · rfl
    · rw [entriesNumbers, numbers_dictionary]
      rfl
  rw [parts, properties, numbers_text, List.append_nil, List.nil_append,
    numbers_entryOf "position" (fun _ => rfl), numbers_entryOf "size" (fun _ => rfl)]
  rfl

theorem numbers_edge (edge : Edge) : edge.toYaml.numbers = [] := numbers_text "label" edge.label

theorem numbers_lane (lane : Lane) : lane.toYaml.numbers = [] := by
  have members : (Value.list (lane.nodes.map Value.text)).numbers = [] :=
    (numbers_list (fun _ => rfl) lane.nodes).trans (List.flatMap_eq_nil_iff.mpr fun _ _ => rfl)
  exact (List.append_nil _).trans members

/-- The numbers of a workflow are the coordinates of its nodes. -/
theorem numbers_flow (flow : Flow) :
    flow.toYaml.numbers = flow.nodes.flatMap Node.coordinates := by
  have edges : (Value.list (flow.edges.map Edge.toYaml)).numbers = [] :=
    (numbers_list numbers_edge flow.edges).trans (List.flatMap_eq_nil_iff.mpr fun _ _ => rfl)
  have lanes : entriesNumbers (if flow.lanes.isEmpty then []
      else [("swimlanes", Value.list (flow.lanes.map Lane.toYaml))]) = [] := by
    split
    · rfl
    · rw [entriesNumbers, numbers_list numbers_lane flow.lanes]
      exact List.append_eq_nil_iff.mpr ⟨List.flatMap_eq_nil_iff.mpr fun _ _ => rfl, rfl⟩
  have parts : flow.toYaml.numbers =
      entriesNumbers (entryOf "description" Value.text flow.description) ++
        ((Value.list (flow.nodes.map Node.toYaml)).numbers ++
          ((Value.list (flow.edges.map Edge.toYaml)).numbers ++ [])) ++
        entriesNumbers (if flow.lanes.isEmpty then []
          else [("swimlanes", Value.list (flow.lanes.map Lane.toYaml))]) := by
    simp only [Flow.toYaml, Value.numbers, entriesNumbers_append]
    rfl
  rw [parts, numbers_text, edges, lanes, numbers_list numbers_node flow.nodes]
  simp only [List.nil_append, List.append_nil]

/-- The numbers of a document are the coordinates of its nodes. -/
theorem numbers_document (document : Document) :
    document.toYaml.numbers = document.coordinates :=
  numbers_entryOf "workflow" numbers_flow document.flow

end Numbers

/-- What is written is never taken for the document without a workflow. -/
theorem isBlankText_write (document : Document) : Text.isBlankText document.write = false := by
  rw [Document.write]
  cases document.flow with
  | none => decide
  | some flow =>
    have key : writeKey 0 "workflow" = "workflow:".toList := by decide +kernel
    change ((String.ofList (writeEntries 0 [("workflow", flow.toYaml)])).toList.all
      Text.isBlank) = false
    rw [String.toList_ofList, writeEntries, key]
    rfl

/-- The text of a document is decoded as that document, if the text of each coordinate
names it. The text of such a coordinate can stand in the document as it is; so the text of
the document is read to the node of its value, and that to the document. -/
theorem decode_of_write (document : Document)
    (printed : ∀ x ∈ document.coordinates, floatOf? (writeNumber x) = some x) :
    (Yaml.read document.write).decode Document.fields.read = .ok document := by
  have plain : Printed (entriesNumbers (entryOf "workflow" Flow.toYaml document.flow)) := by
    intro x member
    refine plainText_of_floatOf? (printed x ?_)
    rw [← numbers_document]
    exact member
  have reads := read_document ⟨some document.toYaml.node, [], true⟩ printed
  rw [Document.write, read_writeDocument plain, Tree.decode]
  change (do
    let (value, _) ← ((Document.fields.read (document.toYaml.cell
      ⟨some document.toYaml.node, [], true⟩)).run _ : Except Fault (Document × Nat))
    if true then return value else throw Fault.malformed) = _
  rw [reads]
  rfl

/-- A document that was written is read as itself, whatever its texts, if the text of each
coordinate names it. What is written is not blank, so it is decoded.

Proof: the printer and the reader meet in the tree: the tokens of what was printed are read as the
tree that was printed, and the fields of the document are read from that tree. -/
theorem parse_write (document : Document)
    (printed : ∀ x ∈ document.coordinates, floatOf? (writeNumber x) = some x) :
    Document.parse document.write = .ok document := by
  rw [Document.parse, isBlankText_write]
  exact decode_of_write document printed

/-- A document with texts that other texts could be taken for. -/
def deceptive : Document where
  flow := some {
    name := "null"
    description := some " first line\n\n  second line \n"
    nodes := [
      { id := "", kind := .start, label := some "true", position := some ⟨10.0, -2.5⟩, size := none,
        properties := Dictionary.ofList
          [("two\nlines", "\x07\t"), ("0x1F", "- dash: #"), ("", "~")] },
      { id := "1e3", kind := .decisionTable, label := some "it's \"so\"\r\n", position := none,
        size := some ⟨120.0, 0.125⟩, properties := Dictionary.empty }]
    edges := [{ id := "\u2028", source := "", target := "1e3", label := some "trailing " }]
    lanes := [{ id := "[]", name := "*anchor", nodes := ["", "1e3", "---"] }] }

/-- Texts that look like something else come back as texts. -/
theorem parse_write_deceptive :
    (∀ x ∈ deceptive.coordinates, floatOf? (writeNumber x) = some x) ∧
      Document.parse deceptive.write = .ok deceptive := by
  have printed : ∀ x ∈ deceptive.coordinates, floatOf? (writeNumber x) = some x := by
    decide +kernel
  exact ⟨printed, parse_write deceptive printed⟩

end Flowdesk.Workflow
