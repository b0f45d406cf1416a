/-
# Texts with placeholders

A text with placeholders is a list of segments that are written one after the other: literal text,
escapes, which look like a placeholder but for an exclamation mark, and placeholders for a name or
for an attribute of what has the name. Reading the written text finds the names of the placeholders
and nothing else. The first closing brace ends a placeholder, so this holds as long as none opens in
the rest of an attribute that has a closing brace itself.
-/

import Mathlib.Data.List.Chain
import Mathlib.Data.List.TakeWhile
import StackDeploy.Proofs.Text.Splitting
import StackDeploy.Template.Reference

namespace StackDeploy.Reference

/-- The characters that open a placeholder. -/
def opening : List Char := ['$', '\x7b']

/-- A segment of a text with placeholders. -/
inductive Segment where
  | literal (text : String)
  | escape (text : String)
  | placeholder (name : String) (attr : Option String)

namespace Segment

/-- What stands inside a placeholder. -/
def content (name : String) : Option String → List Char
  | none => name.toList
  | some attr => name.toList ++ '.' :: attr.toList

/-- How a segment is written. -/
def chars : Segment → List Char
  | .literal text => text.toList
  | .escape text => opening ++ ('!' :: text.toList ++ ['\x7d'])
  | .placeholder name attr => opening ++ (content name attr ++ ['\x7d'])

/-- The name that a segment stands for, without the blanks around it. -/
def name? : Segment → Option String
  | .placeholder name _ => some (Text.trim name)
  | _ => none

def IsLiteral : Segment → Prop
  | .literal _ => True
  | _ => False

instance : DecidablePred IsLiteral
  | .literal _ => isTrue trivial
  | .escape _ => isFalse id
  | .placeholder _ _ => isFalse id

/-- What can be written as a segment: a literal opens no placeholder, an escape ends at its closing
brace, and so does the name of a placeholder, which ends at a point too, is not marked as an escape
and is not blank. -/
inductive IsWritable : Segment → Prop
  | literal {text : String} : ¬ opening <:+: text.toList → IsWritable (.literal text)
  | escape {text : String} : '\x7d' ∉ text.toList → IsWritable (.escape text)
  | placeholder {name : String} {attr : Option String} : '\x7d' ∉ name.toList →
      '.' ∉ name.toList → name.toList.head? ≠ some '!' → Text.isBlankText name = false →
        IsWritable (.placeholder name attr)

/-- No placeholder opens in an attribute after a closing brace. -/
def Closes : Segment → Prop
  | .placeholder _ (some attr) => ∀ before after, attr.toList = before ++ '\x7d' :: after →
      ¬ opening <:+: after
  | _ => True

theorem closes_of_notMem {name attr : String} (absent : '\x7d' ∉ attr.toList) :
    (placeholder name (some attr)).Closes := by
  intro before after written
  rw [written] at absent
  exact absurd (List.mem_append_right before List.mem_cons_self) absent

end Segment

/-- The text that segments are written as. -/
def spell (segments : List Segment) : String :=
  String.ofList (segments.flatMap Segment.chars)

/-- Segments that make a text: each can be written, and no two literals follow each other. -/
structure IsText (segments : List Segment) : Prop where
  writable : ∀ segment ∈ segments, segment.IsWritable
  apart : segments.IsChain fun first second => ¬ (first.IsLiteral ∧ second.IsLiteral)

/-- Segments that make a text in which every placeholder ends with its own segment, as far as other
placeholders are concerned. -/
structure IsClosedText (segments : List Segment) : Prop extends IsText segments where
  closes : ∀ segment ∈ segments, segment.Closes

/-! ## Reading what is written -/

variable {cs rest : List Char}

theorem placeholders_step {c : Char} (plain : c = '$' → rest.head? ≠ some '\x7b') :
    placeholders none (c :: rest) = placeholders none rest := by
  by_cases dollar : c = '$'
  · subst dollar
    cases rest with
    | nil => rfl
    | cons next later =>
        have other : next ≠ '\x7b' := fun same => plain rfl (same ▸ rfl)
        rw [placeholders]
        simpa using other
  · rw [placeholders]
    exact fun _ same => absurd same dollar

/-- Text that opens no placeholder is passed over, unless what follows makes it open one. -/
theorem placeholders_skip (quiet : ¬ opening <:+: cs) (next : rest.head? ≠ some '\x7b') :
    placeholders none (cs ++ rest) = placeholders none rest := by
  induction cs with
  | nil => rfl
  | cons c cs ih =>
      rw [List.cons_append, placeholders_step, ih fun inside => quiet (List.infix_cons inside)]
      rintro rfl
      cases cs with
      | nil => exact next
      | cons d ds =>
          rw [List.cons_append, List.head?_cons, ne_eq, Option.some.injEq]
          rintro rfl
          exact quiet ⟨[], ds, rfl⟩

/-- A placeholder ends at the first closing brace. -/
theorem placeholders_close {seen : List Char} (inside : '\x7d' ∉ cs) :
    placeholders (some seen) (cs ++ '\x7d' :: rest) =
      (seen.reverse ++ cs) :: placeholders none rest := by
  induction cs generalizing seen with
  | nil => rw [List.nil_append, placeholders, List.append_nil]
  | cons c cs ih =>
      obtain ⟨other, inside⟩ := not_or.1 (List.mem_cons.not.1 inside)
      rw [List.cons_append, placeholders, ih inside]
      · simp
      · exact Ne.symm other

/-- The names in the placeholders of a text that is given by its characters. -/
def namesInChars (cs : List Char) : List String :=
  (placeholders none cs).filterMap placeholderName

theorem namesInChars_opening (inside : '\x7d' ∉ cs) :
    namesInChars (opening ++ (cs ++ '\x7d' :: rest)) =
      (placeholderName cs).toList ++ namesInChars rest := by
  have closed : placeholders (some []) (cs ++ '\x7d' :: rest) = cs :: placeholders none rest :=
    placeholders_close inside
  show (placeholders (some []) (cs ++ '\x7d' :: rest)).filterMap placeholderName = _
  rw [closed, List.filterMap_cons]
  cases placeholderName cs <;> rfl

/-! ## The name in a placeholder -/

/-- Trimming leaves something of a text that is not blank. -/
theorem trimChars_ne_nil (visible : ∃ c ∈ cs, Text.isBlank c = false) : Text.trimChars cs ≠ [] := by
  intro nothing
  obtain ⟨c, mem, notBlank⟩ := visible
  have trimmed : ∀ d ∈ cs.dropWhile Text.isBlank, Text.isBlank d = true := by
    rw [Text.trimChars, Text.trimRight, List.reverse_eq_nil_iff,
      List.dropWhile_eq_nil_iff] at nothing
    exact fun d inside => nothing d (List.mem_reverse.2 inside)
  rw [← List.takeWhile_append_dropWhile (p := Text.isBlank) (l := cs), List.mem_append] at mem
  rcases mem with front | kept
  · exact Bool.false_ne_true (notBlank.symm.trans (List.mem_takeWhile_imp front))
  · exact Bool.false_ne_true (notBlank.symm.trans (trimmed c kept))

theorem placeholderName_eq_some {name : String} {content : List Char}
    (before : ((Text.cutFirst '.' content).map Prod.fst).getD content = name.toList)
    (unmarked : content.head? ≠ some '!') (visible : Text.isBlankText name = false) :
    placeholderName content = some (Text.trim name) := by
  have nonempty : Text.trimChars name.toList ≠ [] := trimChars_ne_nil (by
    rw [Text.isBlankText, List.all_eq_false] at visible
    simpa using visible)
  unfold placeholderName
  split
  · exact absurd rfl unmarked
  · rw [before]
    dsimp only
    rw [if_neg (by simpa using nonempty)]
    rfl

theorem Segment.placeholderName_content {name : String} {attr : Option String}
    (writable : (Segment.placeholder name attr).IsWritable) :
    placeholderName (content name attr) = some (Text.trim name) := by
  obtain _ | _ | ⟨-, noPoint, unmarked, visible⟩ := writable
  cases attr with
  | none =>
      refine placeholderName_eq_some ?_ unmarked visible
      rw [content, Text.cutFirst_eq_none noPoint]
      rfl
  | some attr =>
      refine placeholderName_eq_some ?_ ?_ visible
      · rw [content, Text.cutFirst_append noPoint]
        rfl
      · rw [content]
        cases named : name.toList with
        | nil => simp
        | cons c cs => rw [named] at unmarked; exact unmarked

/-! ## The names in a text -/

private theorem namesInChars_content {name : String} {attr : Option String}
    (writable : (Segment.placeholder name attr).IsWritable)
    (inside : ∀ text, attr = some text → '\x7d' ∉ text.toList) :
    namesInChars (opening ++ (Segment.content name attr ++ '\x7d' :: rest)) =
      Text.trim name :: namesInChars rest := by
  have named := Segment.placeholderName_content writable
  have noBrace : '\x7d' ∉ Segment.content name attr := by
    obtain _ | _ | ⟨noBrace, -, -, -⟩ := writable
    cases attr with
    | none => exact noBrace
    | some text => simpa [Segment.content, noBrace] using inside text rfl
  rw [namesInChars_opening noBrace, named]
  rfl

/-- A closing brace in an attribute ends the placeholder early. What is left of the attribute is
passed over, since no placeholder opens in it. -/
private theorem namesInChars_placeholder {name : String} {attr : Option String}
    (writable : (Segment.placeholder name attr).IsWritable)
    (closes : (Segment.placeholder name attr).Closes) :
    namesInChars ((Segment.placeholder name attr).chars ++ rest) =
      Text.trim name :: namesInChars rest := by
  rw [Segment.chars, List.append_assoc, List.append_assoc, List.singleton_append]
  by_cases brace : ∃ text, attr = some text ∧ '\x7d' ∈ text.toList
  · obtain ⟨text, rfl, brace⟩ := brace
    obtain ⟨before, after, written, absent⟩ := List.eq_append_cons_of_mem brace
    have early : Segment.content name (some text) ++ '\x7d' :: rest =
        Segment.content name (some (String.ofList before)) ++
          '\x7d' :: (after ++ '\x7d' :: rest) := by
      simp [Segment.content, written]
    have left : namesInChars (after ++ '\x7d' :: rest) = namesInChars rest := by
      rw [namesInChars, placeholders_skip (closes before after written) (by simp),
        placeholders_step (fun dollar => absurd dollar (by decide))]
      rfl
    have shorter : (Segment.placeholder name (some (String.ofList before))).IsWritable := by
      obtain _ | _ | ⟨noBrace, noPoint, unmarked, visible⟩ := writable
      exact .placeholder noBrace noPoint unmarked visible
    rw [early, namesInChars_content shorter, left]
    rintro _ ⟨⟩
    rwa [String.toList_ofList]
  · exact namesInChars_content writable fun text given inside => brace ⟨text, given, inside⟩

/-- Reading one segment adds its name. -/
private theorem namesInChars_append {segment : Segment} (writable : segment.IsWritable)
    (closes : segment.Closes) (next : segment.IsLiteral → rest.head? ≠ some '\x7b') :
    namesInChars (segment.chars ++ rest) = segment.name?.toList ++ namesInChars rest := by
  cases segment with
  | literal text =>
      cases writable with
      | literal quiet =>
          exact congrArg (List.filterMap placeholderName) (placeholders_skip quiet (next trivial))
  | escape text =>
      cases writable with
      | escape inside =>
          have marked : '\x7d' ∉ '!' :: text.toList := by simpa using inside
          rw [Segment.chars, List.append_assoc, List.append_assoc, List.singleton_append,
            namesInChars_opening marked]
          rfl
  | placeholder name attr => exact namesInChars_placeholder writable closes

private theorem head?_spelled_ne {segments : List Segment}
    (starts : ∀ segment ∈ segments.head?, ¬ segment.IsLiteral) :
    (segments.flatMap Segment.chars).head? ≠ some '\x7b' := by
  cases segments with
  | nil => nofun
  | cons segment rest =>
      cases segment with
      | literal text => exact absurd trivial (starts _ rfl)
      | escape text => simp [Segment.chars, opening]
      | placeholder name attr => simp [Segment.chars, opening]

/-- The names in a written text are those of its placeholders. -/
theorem namesInText_spell {segments : List Segment} (text : IsClosedText segments) :
    namesInText (spell segments) = segments.filterMap Segment.name? := by
  have read : namesInChars (segments.flatMap Segment.chars) = segments.filterMap Segment.name? := by
    obtain ⟨⟨writable, apart⟩, closes⟩ := text
    induction segments with
    | nil => rfl
    | cons segment rest ih =>
        rw [List.forall_mem_cons] at writable closes
        rw [List.isChain_cons] at apart
        have next : segment.IsLiteral → (rest.flatMap Segment.chars).head? ≠ some '\x7b' :=
          fun literal => head?_spelled_ne fun second follows both => apart.1 second follows
            ⟨literal, both⟩
        rw [List.flatMap_cons, namesInChars_append writable.1 closes.1 next,
          ih closes.2 writable.2 apart.2, List.filterMap_cons]
        cases segment.name? <;> rfl
  rw [namesInText, spell, String.toList_ofList]
  exact read

end StackDeploy.Reference
