/-
# Round trips of snapshots

A snapshot is written with all its fields, absent texts as null and the status as its text, and is
read again field by field. Nothing is lost on the way but how the status was put together: what is
read has the status that its text stands for. A status that came from a text is that status, so a
snapshot with such a status is read as it was written, and so is every snapshot that was itself read
from some document. A known status is therefore never left as a text that nobody tells apart.
-/

import StackDeploy.Proofs.Json.Record
import StackDeploy.Stack.Snapshot

namespace StackDeploy

open Json FieldReader

namespace StackStatus

variable {status : StackStatus} {text : String}

/-- The texts of the known statuses are told apart. -/
theorem ofText_text_of_known : ∀ status ∈ known, ofText status.text = status := by
  decide +kernel

/-- A text gives the known status that has it. -/
theorem ofText_eq_of_known (mem : status ∈ known) (same : status.text = text) :
    ofText text = status := by
  rw [← same, ofText_text_of_known status mem]

end StackStatus

/-- A text that may be absent is read as it was written. -/
theorem toOption_optionalText (text : Option String) :
    (optionalText text).toTree.toOption Tree.toText = .ok text := by
  cases text <;> rfl

theorem numbers_optionalText (text : Option String) : (optionalText text).numbers = [] := by
  cases text <;> rfl

namespace StackOutput

/-- The parts that a written output is read into. -/
def parts (o : StackOutput) : List StackOutputPart :=
  [.key o.key, .value o.value, .description o.description, .exportName o.exportName]

theorem writes_fields (depth : Depth) (o : StackOutput) :
    ∃ members, o.toValue = .object members ∧ Writes (fields depth) members o.parts := by
  refine ⟨_, rfl, .states rfl (.states rfl (.states ?_ (.states ?_ .nil)))⟩
  · show (Tree.toOption _ _).map _ = _
    rw [toOption_optionalText]
    rfl
  · show (Tree.toOption _ _).map _ = _
    rw [toOption_optionalText]
    rfl

/-- An output is read as it was written. -/
theorem ofTree_toTree (depth : Depth) (o : StackOutput) :
    StackOutput.ofTree (depth + 1) o.toValue.toTree = .ok o := by
  obtain ⟨members, same, writes⟩ := writes_fields depth o
  have nodup : ((fields depth).map FieldReader.name).Nodup := by simp [fields]
  rw [same, StackOutput.ofTree, readRecord_of_writes nodup writes]
  rfl

end StackOutput

namespace Stack

/-- A snapshot as it is read after it was written: its status is the one that the text stands
for. -/
def asRead (s : Stack) : Stack :=
  { s with status := .ofText s.status.text }

theorem asRead_eq_self {s : Stack} {status : String} (told : s.status = .ofText status) :
    s.asRead = s := by
  rw [asRead, told, StackStatus.text_ofText, ← told]

/-- The parts that a written snapshot is read into. -/
def parts (s : Stack) : List StackPart :=
  [.name s.name, .stackId s.stackId, .status (.ofText s.status.text), .statusReason s.statusReason,
    .outputs s.outputs]

theorem writes_fields (depth : Depth) (s : Stack) :
    ∃ members, s.toValue = .object members ∧ Writes (fields (depth + 2)) members s.parts := by
  refine ⟨_, rfl, .states rfl (.states ?_ (.states rfl (.states ?_ (.states ?_ .nil))))⟩
  · show (Tree.toOption _ _).map _ = _
    rw [toOption_optionalText]
    rfl
  · show (Tree.toOption _ _).map _ = _
    rw [toOption_optionalText]
    rfl
  · have outputs := Tree.toList_toTree fun o (_ : o ∈ s.outputs) =>
      StackOutput.ofTree_toTree depth o
    show (Tree.toList _ _ _).map _ = _
    rw [outputs]
    rfl

theorem ofTree_toTree (s : Stack) : Stack.ofTree s.toValue.toTree = .ok s.asRead := by
  obtain ⟨members, same, writes⟩ := writes_fields (maxDepth - 3) s
  have nodup : ((fields (maxDepth - 1)).map FieldReader.name).Nodup := by simp [fields]
  have read : readRecord "Stack" maxDepth fields (Value.object members).toTree = .ok s.parts :=
    readRecord_of_writes nodup writes
  rw [same, Stack.ofTree, read]
  rfl

/-- No number is written. -/
theorem numbers_toValue (s : Stack) : s.toValue.numbers = [] := by
  have outputs : Value.numbersOfItems (s.outputs.map StackOutput.toValue) = [] := by
    rw [Value.numbersOfItems_eq_flatMap, List.flatMap_map, List.flatMap_eq_nil_iff]
    intro o _
    simp only [StackOutput.toValue, Value.numbers, Value.numbersOfMembers, numbers_optionalText,
      List.append_nil]
  simp only [toValue, Value.numbers, Value.numbersOfMembers, numbers_optionalText, outputs,
    List.append_nil]

/-- Whatever a snapshot holds, its text is read as that snapshot but for the status, which is read
off its text. -/
theorem ofText_text (s : Stack) : Stack.ofText s.text = .ok s.asRead := by
  have readsBack : ∀ n ∈ s.toValue.numbers, n.ReadsBack := by
    rw [numbers_toValue]
    exact List.forall_mem_nil _
  rw [Stack.ofText, text, Document.ofText_compact readsBack, Document.read, ofTree_toTree]
  rfl

private theorem told_of_field {field : FieldReader StackPart} {item : Tree} {status : StackStatus}
    {depth : Depth} (mem : field ∈ fields depth) (read : field.read item = .ok (.status status)) :
    ∃ text, status = .ofText text := by
  simp only [fields, List.mem_cons, List.not_mem_nil, or_false] at mem
  rcases mem with rfl | rfl | rfl | rfl | rfl <;>
    obtain ⟨found, readFound, same⟩ := ok_of_map read <;> cases same
  exact ⟨found, rfl⟩

/-- The status of a snapshot that was read came from a text. -/
theorem exists_status_eq_of_ofText {document : String} {s : Stack}
    (read : Stack.ofText document = .ok s) : ∃ text, s.status = .ofText text := by
  obtain ⟨parts, readParts, made⟩ := ok_of_exceptBind (Document.of_read read).2
  obtain ⟨_, -, origin⟩ := FieldReader.of_mem_readRecord readParts
  obtain ⟨name, -, made⟩ := ok_of_bind made
  obtain ⟨status, required, made⟩ := ok_of_bind made
  obtain ⟨outputs, -, made⟩ := ok_of_bind made
  cases made
  obtain ⟨part, mem, same⟩ :=
    List.exists_of_findSome?_eq_some (FieldReader.eq_some_of_require required)
  obtain ⟨field, field_mem, item, readItem⟩ := origin part mem
  cases part with
  | status found => cases same; exact told_of_field field_mem readItem
  | _ => cases same

theorem ofText_text_of_told {s : Stack} {status : String} (told : s.status = .ofText status) :
    Stack.ofText s.text = .ok s := by
  rw [ofText_text, asRead_eq_self told]

/-- An output is the first of a snapshot with its key. -/
def IsFirst (s : Stack) (o : StackOutput) : Prop :=
  ∃ earlier later, s.outputs = earlier ++ o :: later ∧ ∀ other ∈ earlier, other.key ≠ o.key

/-- A look-up gives the value of the first output with the key. -/
theorem output?_eq_some_iff {s : Stack} {key value : String} :
    s.output? key = some value ↔ ∃ o, s.IsFirst o ∧ o.key = key ∧ o.value = value := by
  rw [output?, Option.map_eq_some_iff]
  constructor
  · rintro ⟨o, found, rfl⟩
    obtain ⟨is, earlier, later, split, others⟩ := List.find?_eq_some_iff_append.1 found
    have same : o.key = key := beq_iff_eq.1 is
    refine ⟨o, ⟨earlier, later, split, fun other mem repeated => ?_⟩, same, rfl⟩
    rw [same] at repeated
    simpa [repeated] using others other mem
  · rintro ⟨o, ⟨earlier, later, split, others⟩, rfl, rfl⟩
    have found : s.outputs.find? (fun output => output.key == o.key) = some o :=
      List.find?_eq_some_iff_append.2 ⟨beq_iff_eq.2 rfl, earlier, later, split, fun other mem => by
        simpa using others other mem⟩
    exact ⟨o, found, rfl⟩

/-- A snapshot whose status came from a text, known or not, is read as it was written; the text
stands in what is written as it was, and if a known status has it, that is the status. A snapshot
that was read from any document is read again from its own text, and its status too is a known one
if a known one has its text. A look-up in what is read again gives what it gives in the written
snapshot, the value of its first output with that key. -/
theorem snapshots_survive_writing :
    (∀ (s : Stack) (status : String), s.status = .ofText status →
      Stack.ofText s.text = .ok s ∧ s.toValue.get? "status" = some (.string status) ∧
        s.status.text = status ∧ ∀ known ∈ StackStatus.known, known.text = status →
          s.status = known) ∧
      (∀ document s, Stack.ofText document = .ok s →
        Stack.ofText s.text = .ok s ∧ ∀ known ∈ StackStatus.known, known.text = s.status.text →
          s.status = known) ∧
        ∀ s : Stack, ∃ again, Stack.ofText s.text = .ok again ∧ ∀ key,
          again.output? key = s.output? key ∧ ∀ value,
            again.output? key = some value ↔ ∃ o, s.IsFirst o ∧ o.key = key ∧ o.value = value := by
  refine ⟨fun s status told => ?_, fun document s read => ?_, fun s => ?_⟩
  · have verbatim : s.status.text = status := by
      rw [told, StackStatus.text_ofText]
    refine ⟨ofText_text_of_told told, ?_, verbatim, fun known mem same => ?_⟩
    · rw [← verbatim]
      rfl
    · rw [told, StackStatus.ofText_eq_of_known mem same]
  · obtain ⟨status, told⟩ := exists_status_eq_of_ofText read
    refine ⟨ofText_text_of_told told, fun known mem same => ?_⟩
    rw [told, StackStatus.text_ofText] at same
    rw [told, StackStatus.ofText_eq_of_known mem same]
  · exact ⟨s.asRead, s.ofText_text, fun _ => ⟨rfl, fun _ => output?_eq_some_iff⟩⟩

/-- A stack with two outputs of one key, one of which holds marks that have to be escaped. -/
def frontend : Stack :=
  ⟨"web", some "stack/web", .ofText "UPDATE_ROLLBACK_COMPLETE", none,
    [⟨"Url", "a \"b\"\\\n", none, some "web-url"⟩, ⟨"Url", "c", some "", none⟩]⟩

/-- A stack in a status that nobody tells apart. -/
def backlog : Stack :=
  ⟨"jobs", none, .other "ON_HOLD", some "by hand", []⟩

/-- The same stack as the array of its fields. -/
def backlogFields : Value :=
  .array [.string "jobs", .null, .string "ON_HOLD", .string "by hand", .array []]

/-- What is read from an array is read again from the object that is written for it. -/
theorem frontend_and_backlog_survive_writing :
    let document := "[\"jobs\",null,\"ON_HOLD\",\"by hand\",[]]"
    frontend.status = .ofText "UPDATE_ROLLBACK_COMPLETE" ∧
      Stack.ofText frontend.text = .ok frontend ∧ frontend.status = .updateRollbackComplete ∧
        Stack.ofText document = .ok backlog ∧ Stack.ofText backlog.text = .ok backlog ∧
          ∃ again, Stack.ofText frontend.text = .ok again ∧
            again.output? "Url" = some "a \"b\"\\\n" := by
  intro document
  obtain ⟨told, read, lookups⟩ := snapshots_survive_writing
  have spelled : backlogFields.compact = document := by decide
  have hold : Stack.ofText document = .ok backlog := by
    rw [← spelled, Stack.ofText, Document.ofText_compact (List.forall_mem_nil _)]
    rfl
  obtain ⟨written, -, -, known⟩ := told frontend "UPDATE_ROLLBACK_COMPLETE" rfl
  obtain ⟨again, readAgain, first⟩ := lookups frontend
  refine ⟨rfl, written, known _ (by decide) rfl, hold, (read document backlog hold).1, again,
    readAgain, ((first _).2 _).2 ⟨⟨"Url", _, none, some "web-url"⟩, ⟨[], _, rfl, nofun⟩, rfl, rfl⟩⟩

end Stack

end StackDeploy
