/-
# Cutting documents

The parts of a document can be told apart in its text. Character data holds no beginning of markup;
it is trimmed before its references are replaced, and each reference gives the character that was
meant. The search for the end of a tag passes over its name, its attributes and its blanks, so a tag
is cut at its own bracket, and its name and its kind can be read from what was cut. A verbatim
section, a comment or an instruction ends where it was closed.
-/

import StackDeploy.Proofs.Text.Splitting
import StackDeploy.Proofs.Xml.Document
import StackDeploy.Proofs.Xml.Written

namespace StackDeploy.Xml

/-! ## Character data -/

section

variable {α β : Type} {p : α → Bool} {q : β → Bool} {f : α → List β}

/-- Items are dropped from a written list as a whole, if each of them is written with dropped
signs only or begins with a sign that is kept. -/
theorem dropWhile_flatMap (dropped : ∀ item, p item = true → ∀ sign ∈ f item, q sign = true)
    (kept : ∀ item, p item = false → ∃ sign rest, f item = sign :: rest ∧ q sign = false)
    (items : List α) : (items.flatMap f).dropWhile q = (items.dropWhile p).flatMap f := by
  induction items with
  | nil => rfl
  | cons item rest ih =>
      cases drops : p item with
      | true =>
          rw [List.flatMap_cons, List.dropWhile_append_of_pos (dropped item drops),
            List.dropWhile_cons_of_pos drops, ih]
      | false =>
          obtain ⟨sign, signs, shape, stays⟩ := kept item drops
          rw [List.dropWhile_cons_of_neg (Bool.not_eq_true _ ▸ drops), List.flatMap_cons, shape,
            List.cons_append, List.dropWhile_cons_of_neg (Bool.not_eq_true _ ▸ stays)]

end

namespace Base

variable {base : Base} {digits : List Char}

theorem numberOfDigits_eq (nonempty : digits ≠ [])
    (valid : ∀ digit ∈ digits, ∃ value < base.radix, Text.hexValue digit = some value) :
    numberOfDigits base.radix digits = some (base.number digits) := by
  have read (step : Option Nat → Char → Option Nat)
      (next : ∀ total digit, ∀ value < base.radix, Text.hexValue digit = some value →
        step (some total) digit = some (base.radix * total + value)) (total : Nat) :
      digits.foldl step (some total) = some (digits.foldl (fun total digit =>
        base.radix * total + (Text.hexValue digit).getD 0) total) := by
    clear nonempty
    induction digits generalizing total with
    | nil => rfl
    | cons digit rest ih =>
        obtain ⟨⟨value, below, found⟩, others⟩ := List.forall_mem_cons.1 valid
        rw [List.foldl_cons, List.foldl_cons, next total digit value below found, found]
        exact ih others _
  rw [numberOfDigits, List.isEmpty_eq_false_iff.2 nonempty, if_neg Bool.false_ne_true]
  refine read _ (fun total digit value below found => ?_) 0
  rw [Option.bind_some, found]
  exact if_pos below

end Base

/-- A digit is no other sign of a reference. -/
theorem ne_of_hexValue {digit mark : Char} {value : Nat} (found : Text.hexValue digit = some value)
    (noDigit : Text.hexValue mark = none) : digit ≠ mark := by
  rintro rfl
  rw [found] at noDigit
  cases noDigit

namespace CharNumber

variable (n : CharNumber)

theorem resolve_eq : resolve ('#' :: (n.base.sign ++ n.digits)) =
    some (Char.ofNat (n.base.number n.digits)) := by
  have number : (numberOfDigits n.base.radix n.digits).bind charOfNumber =
      some (Char.ofNat (n.base.number n.digits)) := by
    rw [Base.numberOfDigits_eq n.nonempty n.valid, Option.bind_some, charOfNumber,
      if_pos ⟨n.positive, n.isChar⟩]
  rw [← number]
  cases n.base with
  | hexadecimal => rfl
  | decimal =>
      obtain ⟨digit, rest, shape⟩ := List.exists_cons_of_ne_nil n.nonempty
      obtain ⟨value, -, found⟩ := n.valid digit (shape ▸ List.mem_cons_self)
      have other : digit ≠ 'x' := ne_of_hexValue found rfl
      rw [Base.sign, List.nil_append, shape, resolve.eq_def]
      split
      · next same => exact absurd (List.cons.inj (List.cons.inj same).2).1 other
      · next same =>
          cases same
          rfl
      · next _ notDecimal => exact absurd rfl (notDecimal _)

/-- The inside of the reference holds neither of its two ends. -/
theorem mem_inside {c : Char} (mem : c ∈ '#' :: (n.base.sign ++ n.digits)) : c ≠ '&' ∧ c ≠ ';' := by
  rcases List.mem_cons.1 mem with rfl | mem
  · decide
  · rcases List.mem_append.1 mem with sign | digit
    · revert sign
      cases n.base with
      | decimal => exact nofun
      | hexadecimal =>
          intro sign
          rw [List.mem_singleton.1 sign]
          decide
    · obtain ⟨value, -, found⟩ := n.valid c digit
      exact ⟨ne_of_hexValue found rfl, ne_of_hexValue found rfl⟩

end CharNumber

/-- A reference is read up to its end. -/
theorem unescapeFrom_reference {inside : List Char} (read rest : List Char)
    (plain : ∀ c ∈ inside, c ≠ '&' ∧ c ≠ ';') :
    unescapeFrom (some read) (inside ++ ';' :: rest) =
      (resolve (read.reverse ++ inside)).bind fun known =>
        (unescapeFrom none rest).map (known :: ·) := by
  induction inside generalizing read with
  | nil => rw [List.append_nil]; rfl
  | cons c inside ih =>
      obtain ⟨⟨noStart, noEnd⟩, others⟩ := List.forall_mem_cons.1 plain
      rw [List.cons_append, unescapeFrom, if_neg noStart, if_neg noEnd, ih (c :: read) others,
        List.reverse_cons, List.append_assoc]
      rfl

namespace DataChar

/-- A character is read as it was meant. -/
theorem unescapeFrom_markup (d : DataChar) (rest : List Char) :
    unescapeFrom none (d.markup ++ rest) = (unescapeFrom none rest).map (d.char :: ·) := by
  have reference (inside : List Char) (plain : ∀ c ∈ inside, c ≠ '&' ∧ c ≠ ';') :
      unescapeFrom none ('&' :: (inside ++ [';']) ++ rest) =
        (resolve inside).bind fun known => (unescapeFrom none rest).map (known :: ·) := by
    rw [List.cons_append, List.append_assoc]
    exact unescapeFrom_reference [] rest plain
  cases d with
  | plain c bare =>
      rw [markup, List.singleton_append, unescapeFrom, if_neg bare.2]
      rfl
  | named known mem =>
      have words : ∀ known ∈ namedCharacters, resolve known.1 = some known.2 ∧
          '&' ∉ known.1 ∧ ';' ∉ known.1 := by decide
      obtain ⟨resolved, opened, closed⟩ := words known mem
      have plain : ∀ c ∈ known.1, c ≠ '&' ∧ c ≠ ';' := fun c mem =>
        ⟨fun same => opened (same ▸ mem), fun same => closed (same ▸ mem)⟩
      rw [markup, reference known.1 plain, resolved]
      rfl
  | numbered n =>
      rw [markup, reference _ fun c => n.mem_inside, n.resolve_eq]
      rfl

theorem notMem_markup (d : DataChar) : '<' ∉ d.markup := by
  cases d with
  | plain c bare => exact fun mem => bare.1 (List.mem_singleton.1 mem).symm
  | named known mem =>
      have words : ∀ known ∈ namedCharacters, '<' ∉ '&' :: (known.1 ++ [';']) := by decide
      exact words known mem
  | numbered n =>
      rw [markup, List.mem_cons, List.mem_append, List.mem_cons, List.mem_append]
      rintro (same | (same | sign | digit) | last)
      · cases same
      · cases same
      · revert sign
        cases n.base <;> decide
      · obtain ⟨value, -, found⟩ := n.valid _ digit
        exact ne_of_hexValue found rfl rfl
      · cases List.mem_singleton.1 last

/-- A reference begins and ends with a mark. -/
theorem exists_markup_eq {d : DataChar} (solid : d.isBlank = false) :
    (∃ c rest, d.markup = c :: rest ∧ Xml.isBlank c = false) ∧
      ∃ c rest, d.markup.reverse = c :: rest ∧ Xml.isBlank c = false := by
  have reference (inside : List Char) :
      (∃ c rest, '&' :: (inside ++ [';']) = c :: rest ∧ Xml.isBlank c = false) ∧
        ∃ c rest, ('&' :: (inside ++ [';'])).reverse = c :: rest ∧ Xml.isBlank c = false := by
    rw [← List.cons_append, List.reverse_concat]
    exact ⟨⟨_, _, rfl, rfl⟩, ⟨_, _, rfl, rfl⟩⟩
  cases d with
  | plain c bare => exact ⟨⟨c, [], rfl, solid⟩, ⟨c, [], rfl, solid⟩⟩
  | named known mem => exact reference known.1
  | numbered n => exact reference _

theorem isBlank_of_mem_markup {d : DataChar} (blank : d.isBlank = true) :
    ∀ c ∈ d.markup, Xml.isBlank c = true := by
  cases d with
  | plain c bare => exact List.forall_mem_singleton.2 blank
  | named known mem => cases blank
  | numbered n => cases blank

end DataChar

namespace CharacterData

variable (data : CharacterData)

/-- Data is trimmed before its references are replaced. -/
theorem trim_markup : trim data.markup = data.trimmed.markup := by
  have front (data : CharacterData) :
      data.markup.dropWhile Xml.isBlank = markup (data.dropWhile DataChar.isBlank) :=
    dropWhile_flatMap (fun _ => DataChar.isBlank_of_mem_markup)
      (fun _ solid => (DataChar.exists_markup_eq solid).1) data
  have back (data : List DataChar) :
      (data.flatMap (List.reverse ∘ DataChar.markup)).dropWhile Xml.isBlank =
        (data.dropWhile DataChar.isBlank).flatMap (List.reverse ∘ DataChar.markup) :=
    dropWhile_flatMap
      (fun _ blank c mem => DataChar.isBlank_of_mem_markup blank c (List.mem_reverse.1 mem))
      (fun _ solid => (DataChar.exists_markup_eq solid).2) data
  rw [trim, front, trimRight, markup, List.reverse_flatMap, back, List.reverse_flatMap]
  simp only [Function.comp_def, List.reverse_reverse]
  rfl

theorem unescape_markup : unescape data.markup = some (data.map DataChar.char) := by
  induction data with
  | nil => rfl
  | cons d rest ih =>
      rw [unescape] at ih
      rw [unescape, markup, List.flatMap_cons, DataChar.unescapeFrom_markup, ← markup, ih]
      rfl

theorem notMem_markup : '<' ∉ data.markup := by
  intro mem
  obtain ⟨d, -, inside⟩ := List.mem_flatMap.1 mem
  exact d.notMem_markup inside

end CharacterData

/-! ## Tags -/

/-- The search for the end of a tag passes over some characters. -/
def Skips (cs : List Char) : Prop :=
  ∀ tail, cutTag none (cs ++ tail) =
    (cutTag none tail).map fun (inside, after) => (cs ++ inside, after)

namespace Skips

variable {cs ds : List Char}

theorem append (first : Skips cs) (second : Skips ds) : Skips (cs ++ ds) := by
  intro tail
  rw [List.append_assoc, first, second, Option.map_map]
  congr 1
  funext cut
  exact congrArg (·, cut.2) (List.append_assoc ..).symm

theorem of_plain (plain : ∀ c ∈ cs, c ≠ '>' ∧ c ≠ '"' ∧ c ≠ '\'') : Skips cs := by
  induction cs with
  | nil => exact fun _ => Option.map_id'.symm
  | cons c rest ih =>
      obtain ⟨⟨notEnd, notQuotes⟩, others⟩ := List.forall_mem_cons.1 plain
      intro tail
      rw [List.cons_append, cutTag]
      dsimp only
      rw [if_neg notEnd, if_neg (not_or.2 notQuotes), ih others, Option.map_map]
      rfl

theorem flatMap {α : Type} {f : α → List Char} (each : ∀ item, Skips (f item))
    (items : List α) : Skips (items.flatMap f) := by
  induction items with
  | nil => exact of_plain (List.forall_mem_nil _)
  | cons item rest ih => exact (each item).append ih

/-- Quoted text may hold any character but its quotes. -/
theorem quoted {quote : Char} (quotes : quote = '"' ∨ quote = '\'') (absent : quote ∉ cs) :
    Skips (quote :: (cs ++ [quote])) := by
  have closes (cs tail : List Char) (absent : quote ∉ cs) :
      cutTag (some quote) (cs ++ quote :: tail) =
        (cutTag none tail).map fun (inside, after) => (cs ++ quote :: inside, after) := by
    induction cs with
    | nil =>
        rw [List.nil_append, cutTag]
        dsimp only
        rw [if_pos rfl]
        rfl
    | cons c rest ih =>
        rw [List.mem_cons, not_or] at absent
        rw [List.cons_append, cutTag]
        dsimp only
        rw [if_neg (Ne.symm absent.1), ih absent.2, Option.map_map]
        rfl
  intro tail
  have notEnd : quote ≠ '>' := by
    rcases quotes with rfl | rfl <;> decide
  rw [List.cons_append, List.append_assoc, cutTag]
  dsimp only
  rw [if_neg notEnd, if_pos quotes, List.singleton_append, closes cs tail absent, Option.map_map]
  congr 1
  funext cut
  rw [Function.comp_apply, List.cons_append, List.append_assoc]
  rfl

/-- A tag is cut at the bracket behind what is passed over. -/
theorem cutTag_append (skips : Skips cs) (tail : List Char) :
    cutTag none (cs ++ '>' :: tail) = some (cs, tail) := by
  rw [skips, cutTag]
  dsimp only
  rw [if_pos rfl, Option.map_some, List.append_nil]

end Skips

namespace Name

variable {c : Char}

theorem mem_markup {name : Name} (mem : c ∈ name.markup) : isNameChar c = true ∨ c = ':' := by
  obtain ⟨space, base⟩ := name
  cases space with
  | none => exact .inl (base.valid c mem)
  | some space =>
      rcases List.mem_append.1 mem with inside | inside
      · exact .inl (space.valid c inside)
      · exact (List.mem_cons.1 inside).symm.imp_left (base.valid c)

theorem isBlank_of_mem {name : Name} (mem : c ∈ name.markup) : isBlank c = false := by
  rcases mem_markup mem with valid | rfl
  · rw [isNameChar, Bool.and_eq_true, Bool.not_eq_true'] at valid
    exact valid.1
  · rfl

/-- No mark of a tag stands in a name. -/
theorem ne_of_mem {name : Name} (mem : c ∈ name.markup) {mark : Char}
    (excluded : isNameChar mark = false ∧ mark ≠ ':') : c ≠ mark := by
  rintro rfl
  rcases mem_markup mem with valid | colon
  · exact Bool.false_ne_true (excluded.1.symm.trans valid)
  · exact excluded.2 colon

variable (name : Name)

theorem markup_ne_nil : name.markup ≠ [] := by
  obtain ⟨space, base⟩ := name
  cases space with
  | none => exact base.nonempty
  | some space => exact List.append_ne_nil_of_left_ne_nil space.nonempty _

theorem skips : Skips name.markup :=
  .of_plain fun _ mem =>
    ⟨ne_of_mem mem (by decide), ne_of_mem mem (by decide), ne_of_mem mem (by decide)⟩

/-- What stands before the colon is no part of the local name. -/
theorem localName_markup : localName name.markup = name.text := by
  have noColon (part : NamePart) : ':' ∉ part.chars := fun mem =>
    Bool.false_ne_true (part.valid ':' mem)
  obtain ⟨space, base⟩ := name
  cases space with
  | none => rw [localName, markup, Text.cutFirst_eq_none (noColon base)]; rfl
  | some space => rw [localName, markup, Text.cutFirst_append (noColon space)]; rfl

theorem trimmed_markup : Trimmed name.markup where
  head := fun _ first => isBlank_of_mem (List.mem_of_head? first)
  last := fun _ last => isBlank_of_mem (List.mem_of_getLast? last)

/-- Blanks behind the name of a closing tag are passed over. -/
theorem closingName_append (ending : Blanks) :
    closingName (name.markup ++ ending.chars) = name.markup := by
  have solid : (name.markup ++ ending.chars).all isBlank = false := by
    obtain ⟨c, rest, shape⟩ := List.exists_cons_of_ne_nil name.markup_ne_nil
    have first : isBlank c = false := isBlank_of_mem (shape ▸ List.mem_cons_self)
    rw [shape, List.cons_append, List.all_cons, first, Bool.false_and]
  have blank : ∀ c ∈ ending.chars.reverse, isBlank c = true := fun c mem =>
    ending.blank c (List.mem_reverse.1 mem)
  rw [closingName, solid, if_neg Bool.false_ne_true, trimRight, List.reverse_append,
    List.dropWhile_append_of_pos blank]
  exact trimRight_of_trimmed name.trimmed_markup

end Name

theorem Blanks.skips (blanks : Blanks) : Skips blanks.chars := by
  refine .of_plain fun c mem => ?_
  have blank := blanks.blank c mem
  refine ⟨?_, ?_, ?_⟩ <;> rintro rfl <;> cases blank

theorem Attribute.skips (a : Attribute) : Skips a.markup := by
  have sign : Skips ['='] := .of_plain (List.forall_mem_singleton.2 (by decide))
  exact a.gap.skips.append (a.name.skips.append (a.before.skips.append (sign.append
    (a.after.skips.append (.quoted a.quotes a.unquoted)))))

theorem Attribute.head?_markup {a : Attribute} {c : Char} (first : a.markup.head? = some c) :
    isBlank c = true := by
  obtain ⟨blank, rest, shape⟩ := List.exists_cons_of_ne_nil a.apart
  rw [markup, shape] at first
  cases first
  exact a.gap.blank c (shape ▸ List.mem_cons_self)

theorem Attribute.getLast?_markup (a : Attribute) : a.markup.getLast? = some a.quote := by
  simp [markup, List.getLast?_append, List.getLast?_cons]

namespace Tag

variable (tag : Tag)

theorem skips : Skips tag.markup :=
  tag.name.skips.append ((Skips.flatMap Attribute.skips tag.attributes).append tag.blanks.skips)

/-- A blank follows the name, if anything does. -/
theorem tagName_markup : tagName tag.markup = tag.name.markup := by
  obtain ⟨name, attributes, blanks⟩ := tag
  have solid : ∀ c ∈ name.markup, (!isBlank c) = true := fun c mem => by
    rw [Name.isBlank_of_mem mem]
    rfl
  have blank : ∀ c, (attributes.flatMap Attribute.markup ++ blanks.chars).head? = some c →
      isBlank c = true := by
    intro c first
    cases attributes with
    | nil => exact blanks.blank c (List.mem_of_head? first)
    | cons a rest =>
        have nonempty : a.markup ≠ [] := List.append_ne_nil_of_left_ne_nil a.apart _
        rw [List.flatMap_cons, List.append_assoc, List.head?_append_of_ne_nil _ nonempty] at first
        exact a.head?_markup first
  rw [tagName, markup, List.takeWhile_append_of_pos solid]
  cases more : attributes.flatMap Attribute.markup ++ blanks.chars with
  | nil => rw [List.takeWhile_nil, List.append_nil]
  | cons c rest =>
      rw [more] at blank
      rw [List.takeWhile_cons_of_neg (by rw [blank c rfl]; decide), List.append_nil]

/-- No slash ends the inside of an opening tag: a blank does, or a quote, or a character of the
name. -/
theorem getLast?_markup : tag.markup.getLast? ≠ some '/' := by
  obtain ⟨name, attributes, blanks⟩ := tag
  intro last
  rw [markup, List.getLast?_append, List.getLast?_append, Option.or_eq_some_iff,
    Option.or_eq_some_iff] at last
  rcases last with (blank | ⟨-, quote⟩) | ⟨-, inside⟩
  · cases blanks.blank _ (List.mem_of_getLast? blank)
  · rcases List.eq_nil_or_concat attributes with rfl | ⟨front, a, rfl⟩
    · cases quote
    · rw [List.concat_eq_append, List.flatMap_append, List.flatMap_singleton,
        List.getLast?_append, a.getLast?_markup, Option.some_or, Option.some_inj] at quote
      rcases a.quotes with double | single
      · cases double.symm.trans quote
      · cases single.symm.trans quote
  · exact Name.ne_of_mem (List.mem_of_getLast? inside) (by decide) rfl

/-! ## Cutting markup -/

/-- A tag is cut at its bracket, whatever kind its last character tells. -/
theorem cut_append {more : List Char} (skips : Skips (tag.markup ++ more)) (tail : List Char) :
    Piece.cut (tag.markup ++ (more ++ '>' :: tail)) = some (.ofTag (tag.markup ++ more), tail) := by
  obtain ⟨c, rest, shape⟩ := List.exists_cons_of_ne_nil tag.name.markup_ne_nil
  have mem : c ∈ tag.name.markup := shape ▸ List.mem_cons_self
  have cutOff := skips.cutTag_append tail
  rw [List.append_assoc] at cutOff
  rw [markup, shape, List.cons_append, List.cons_append, List.cons_append] at cutOff ⊢
  rw [cut_of_ne (Name.ne_of_mem mem (by decide)) (Name.ne_of_mem mem (by decide))
    (Name.ne_of_mem mem (by decide)), cutOff]
  rfl

theorem cut_opening (tail : List Char) :
    Piece.cut (tag.markup ++ '>' :: tail) = some (.opening tag.name.markup, tail) := by
  have skips : Skips (tag.markup ++ []) := (List.append_nil _).symm ▸ tag.skips
  have cutOff := tag.cut_append skips tail
  rwa [List.nil_append, List.append_nil, Piece.ofTag, if_neg tag.getLast?_markup,
    tag.tagName_markup] at cutOff

theorem cut_empty (tail : List Char) :
    Piece.cut (tag.markup ++ '/' :: '>' :: tail) = some (.empty tag.name.markup, tail) := by
  have slash : Skips ['/'] := .of_plain (List.forall_mem_singleton.2 (by decide))
  have cutOff := tag.cut_append (tag.skips.append slash) tail
  rwa [Piece.ofTag, if_pos List.getLast?_concat, List.dropLast_concat, tag.tagName_markup] at cutOff

end Tag

theorem Name.cut_closing (name : Name) (ending : Blanks) (tail : List Char) :
    Piece.cut ('/' :: (name.markup ++ (ending.chars ++ '>' :: tail))) =
      some (.closing name.markup, tail) := by
  rw [Piece.cut, ← List.append_assoc, (name.skips.append ending.skips).cutTag_append]
  exact congrArg (fun closed => some (Piece.closing closed, tail)) (name.closingName_append ending)

section

variable {text : List Char} (tail : List Char)

theorem cut_verbatim (unclosed : ¬ [']', ']', '>'] <:+: text) :
    Piece.cut ('!' :: ("[CDATA[".toList ++ (text ++ "]]>".toList)) ++ tail) =
      some (.verbatim text, tail) := by
  have whole : ¬ [']', ']', '>'] <:+: ['[', 'C', 'D', 'A', 'T', 'A', '['] ++ text := by
    simpa [List.infix_cons_iff] using unclosed
  have cutOff := Text.cutPhrase_append (by decide) whole tail
  have cut : Piece.cut ('!' :: ("[CDATA[".toList ++ (text ++ "]]>".toList)) ++ tail) =
      cutVerbatim (['[', 'C', 'D', 'A', 'T', 'A', '['] ++ text ++ ([']', ']', '>'] ++ tail)) := by
    rw [List.append_assoc, ← List.append_assoc text]
    rfl
  rw [cut, cutVerbatim]
  show (Text.cutPhrase [']', ']', '>'] _ >>= _) = _
  rw [cutOff]
  rfl

theorem cut_comment (unclosed : ¬ ['-', '-', '>'] <:+: text) :
    Piece.cut ('!' :: '-' :: '-' :: (text ++ "-->".toList) ++ tail) = some (.aside, tail) := by
  have cutOff := Text.cutPhrase_append (by decide) unclosed tail
  show (Text.cutPhrase ['-', '-', '>'] (text ++ ['-', '-', '>'] ++ tail)).map _ = _
  rw [List.append_assoc, cutOff]
  rfl

theorem cut_instruction (unclosed : ¬ ['?', '>'] <:+: text) (begins : text.head? ≠ some '>') :
    Piece.cut ('?' :: (text ++ "?>".toList) ++ tail) = some (.aside, tail) := by
  have cutOff := Text.cutPhrase_append (by decide) unclosed tail
  show cutInstruction (text ++ ['?', '>'] ++ tail) = _
  rw [List.append_assoc, cutInstruction.eq_def]
  split
  · next same =>
      cases text with
      | nil => cases same
      | cons c rest =>
          cases same
          exact absurd rfl begins
  · show (Text.cutPhrase ['?', '>'] _).map _ = _
    rw [cutOff]
    rfl

end

end StackDeploy.Xml
