import Flowdesk.Proofs.Data.Record
import Flowdesk.Proofs.Yaml.Number
import Flowdesk.Proofs.Yaml.Tree
import Flowdesk.Yaml.Source

/-!
# What is read from the node of a value

A value that was written is read as what it is: a text as its characters in whatever form
they were written, a number as itself where its text names it, a list as its items and a
record as its entries. A text is never taken for absence, because one that says null, or
nothing, is not written plainly. None of this needs a reference to be followed, so it can
be said of a value in any document.
-/

namespace Flowdesk.Yaml

open Data

/-- A value where it stands in a document. -/
def Value.cell (tree : Tree) (value : Value) : Cell := ⟨tree, some value.node⟩

/-- An entry where it stands in a document. -/
def entryCell (tree : Tree) (entry : String × Value) : String × Cell :=
  (entry.1, entry.2.cell tree)

variable (tree : Tree)

/-- No value is a reference. -/
theorem target_cell (value : Value) : (value.cell tree).target = pure (some value.node) := by
  cases value with
  | text | number | list | record =>
    simp only [Cell.target, Value.cell, Value.node]
    rfl

@[simp] theorem text_cell (text : String) :
    Source.text ((Value.text text).cell tree) = pure text := by
  change Cell.asText _ = _
  simp only [Cell.asText, target_cell, pure_bind, Value.node, String.ofList_toList]

theorem number_cell {value : Float} (named : floatOf? (writeNumber value) = some value) :
    Source.number ((Value.number value).cell tree) = pure value := by
  change Cell.asNumber _ = _
  simp only [Cell.asNumber, target_cell, pure_bind, Value.node, true_or, if_true, named]

theorem itemsNodes_eq_map (items : List Value) : itemsNodes items = items.map Value.node := by
  induction items with
  | nil => rfl
  | cons item rest inductionHypothesis =>
    rw [itemsNodes, inductionHypothesis, List.map_cons]

theorem entriesNodes_eq_map (entries : List (String × Value)) :
    entriesNodes entries = entries.map fun entry => ((Value.text entry.1).node, entry.2.node) := by
  induction entries with
  | nil => rfl
  | cons entry rest inductionHypothesis =>
    rw [entriesNodes, inductionHypothesis, List.map_cons, Value.node]

@[simp] theorem items_cell (items : List Value) :
    Source.items ((Value.list items).cell tree) = pure (items.map (·.cell tree)) := by
  change Cell.asItems _ = _
  simp only [Cell.asItems, target_cell, pure_bind, Value.node, itemsNodes_eq_map, List.map_map]
  rfl

@[simp] theorem shape_cell (entries : List (String × Value)) :
    Source.shape ((Value.record entries).cell tree) =
      pure (.keyed ((entries.map (entryCell tree)).map fun entry => (pure entry.1, entry.2))) := by
  change Cell.asShape _ = _
  simp only [Cell.asShape, target_cell, pure_bind, Value.node, entriesNodes_eq_map, List.map_map]
  refine congrArg (fun entries => pure (Shape.keyed entries)) (List.map_congr_left ?_)
  intro entry _
  exact congrArg (·, entry.2.cell tree) (text_cell tree entry.1)

@[simp] theorem choice_cell (text : String) :
    Source.choice ((Value.text text).cell tree) = pure (text, pure ()) := by
  change Cell.asChoice _ = _
  simp only [Cell.asChoice, target_cell, pure_bind, Value.node, String.ofList_toList]
  rfl

/-- A text stands for itself. -/
@[simp] theorem present_text (text : String) :
    Source.present ((Value.text text).cell tree) = pure (some ((Value.text text).cell tree)) := by
  change Cell.asPresent _ = _
  simp only [Cell.asPresent, target_cell, pure_bind, Value.node, Cell.other]
  cases form : formOf text.toList with
  | plain =>
    have honest := (plainText_of_formOf form).2
    simp only [misleads, Bool.or_eq_false_iff] at honest
    obtain ⟨⟨⟨⟨⟨filled, present⟩, -⟩, -⟩, -⟩, -⟩ := honest
    simp only [Form.style, filled, present, Value.cell, Value.node, form]
    rfl
  | singleQuoted | doubleQuoted | literal =>
    simp only [Form.style, Value.cell, Value.node, form]

/-- A record stands for itself. -/
@[simp] theorem present_record (entries : List (String × Value)) :
    Source.present ((Value.record entries).cell tree) =
      pure (some ((Value.record entries).cell tree)) := by
  change Cell.asPresent _ = _
  simp only [Cell.asPresent, target_cell, pure_bind, Value.node]
  rfl

section Readers

variable {α : Type} {write : α → Value} {read : Cell → Reading α} {names : List String}

/-- A list of values is read item by item. -/
theorem listOf_cell {values : List α} (each : ∀ value ∈ values,
    read ((write value).cell tree) = pure value) :
    listOf read ((Value.list (values.map write)).cell tree) = pure values := by
  simp only [listOf, items_cell, pure_bind, List.map_map]
  induction values with
  | nil => rfl
  | cons value rest inductionHypothesis =>
    have first := each value List.mem_cons_self
    have others := inductionHypothesis fun other member =>
      each other (List.mem_cons_of_mem value member)
    rw [List.map_cons, List.mapM_cons, others]
    simp only [Function.comp_apply, first, pure_bind]

/-- A record is read where its entries are. -/
theorem record_cell {fields : Rec Cell α} {entries : List (String × Value)}
    {parts : List (String × Cell)} {value : α} (reads : fields.Reads names parts value)
    (same : entries.map (entryCell tree) = parts) :
    fields.read ((Value.record entries).cell tree) = pure value := by
  refine reads.read ?_
  rw [shape_cell, same]

end Readers

end Flowdesk.Yaml
