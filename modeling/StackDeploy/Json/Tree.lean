/-
# Document trees

The tokens of a document are arranged into a tree that keeps everything a reader may want to know:
repeated keys, the members in order, and where and why the text broke off. A broken text still has
a tree, whose last branch ends in the problem. A reader that walks a tree from left to right
therefore meets a wrong shape before a later error in the text, and the other way round, exactly in
the order of the text.
-/

import StackDeploy.Json.Token

namespace StackDeploy.Json

/-- How the inside of an array or an object ends. -/
inductive Ending where
  /-- By its bracket. -/
  | closed
  /-- By a problem where the first key, a separator or the bracket had to stand. -/
  | stopped (reading skipping : Problem)
  /-- By a problem after a comma. -/
  | stoppedAfterComma (reading skipping : Problem)

/-- Reads the end of an array or an object. -/
def Ending.read : Ending → Except Problem Unit
  | .closed => .ok ()
  | .stopped reading _ => .error reading
  | .stoppedAfterComma reading _ => .error reading

/-- Passes over the end of an array or an object. -/
def Ending.skip : Ending → Except Problem Unit
  | .closed => .ok ()
  | .stopped _ skipping => .error skipping
  | .stoppedAfterComma _ skipping => .error skipping

/-- A document, possibly broken off. A key or a string that can only be skipped holds the problem of
reading it. -/
inductive Tree where
  | null
  | bool (value : Bool)
  | number (value : Except Problem Number)
  | string (value : Except Problem String)
  | array (items : List Tree) (ending : Ending)
  | object (members : List (Except Problem String × Tree)) (ending : Ending)
  /-- No value: the problem on reading it and the one on skipping it. -/
  | broken (fragment : Fragment) (reading skipping : Problem)

namespace Tree

/-- What is wrong with a token that cannot stand where it does. -/
def misplaced : List Token → Problem
  | [] => .ended
  | _ :: _ => .malformed

mutual

/-- The value at the start of a list of tokens, and the tokens after it unless the text broke off
inside. The first argument bounds the number of steps; two steps take at least one token. -/
def ofTokens : Nat → List Token → Tree × Option (List Token)
  | 0, _ => (.broken .nothing .malformed .malformed, none)
  | fuel + 1, tokens =>
    match tokens with
    | [] => (.broken .nothing .ended .ended, none)
    | .null :: rest => (.null, some rest)
    | .bool value :: rest => (.bool value, some rest)
    | .number value :: rest => (.number value, some rest)
    | .string value :: rest => (.string value, some rest)
    | .broken fragment reading skipping :: _ => (.broken fragment reading skipping, none)
    | .openBracket :: .closeBracket :: rest => (.array [] .closed, some rest)
    | .openBracket :: [] => (.array [] (.stopped .ended .ended), none)
    | .openBracket :: rest =>
      let (items, ending, after) := itemsOfTokens fuel rest
      (.array items ending, after)
    | .openBrace :: .closeBrace :: rest => (.object [] .closed, some rest)
    | .openBrace :: rest =>
      match rest with
      | .string _ :: _ =>
        let (members, ending, after) := membersOfTokens fuel rest
        (.object members ending, after)
      | .broken .string reading skipping :: _ => (.object [] (.stopped reading skipping), none)
      | _ :: _ => (.object [] (.stopped .malformed .malformed), none)
      | [] => (.object [] (.stopped .ended .ended), none)
    | _ :: _ => (.broken .nothing .malformed .malformed, none)

/-- The items of an array from an item on. -/
def itemsOfTokens : Nat → List Token → List Tree × Ending × Option (List Token)
  | 0, _ => ([], .stopped .malformed .malformed, none)
  | fuel + 1, tokens =>
    match ofTokens fuel tokens with
    | (item, none) => ([item], .closed, none)
    | (item, some (.comma :: rest)) =>
      let (items, ending, after) := itemsOfTokens fuel rest
      (item :: items, ending, after)
    | (item, some (.closeBracket :: rest)) => ([item], .closed, some rest)
    | (item, some rest) => ([item], .stopped (misplaced rest) (misplaced rest), none)

/-- The members of an object from a key on. -/
def membersOfTokens :
    Nat → List Token → List (Except Problem String × Tree) × Ending × Option (List Token)
  | 0, _ => ([], .stopped .malformed .malformed, none)
  | fuel + 1, tokens =>
    match tokens with
    | .string key :: .colon :: rest =>
      match ofTokens fuel rest with
      | (value, none) => ([(key, value)], .closed, none)
      | (value, some (.comma :: .string next :: rest)) =>
        let (members, ending, after) := membersOfTokens fuel (.string next :: rest)
        ((key, value) :: members, ending, after)
      | (value, some (.comma :: .broken .string reading skipping :: _)) =>
        ([(key, value)], .stoppedAfterComma reading skipping, none)
      | (value, some (.comma :: rest)) =>
        ([(key, value)], .stoppedAfterComma (misplaced rest) (misplaced rest), none)
      | (value, some (.closeBrace :: rest)) => ([(key, value)], .closed, some rest)
      | (value, some rest) => ([(key, value)], .stopped (misplaced rest) (misplaced rest), none)
    | .string key :: rest =>
      ([(key, .broken .nothing (misplaced rest) (misplaced rest))], .closed, none)
    | _ => ([], .stopped .malformed .malformed, none)

end

mutual

/-- Passes over a value whose content nobody wants: it has to be well-formed, nothing more. -/
def skip : Tree → Except Problem Unit
  | .null | .bool _ | .number _ | .string _ => .ok ()
  | .array items ending => do
    skipItems items
    ending.skip
  | .object members ending => do
    skipMembers members
    ending.skip
  | .broken _ _ skipping => .error skipping

/-- Passes over the items of an array. -/
def skipItems : List Tree → Except Problem Unit
  | [] => .ok ()
  | item :: rest => do
    skip item
    skipItems rest

/-- Passes over the members of an object. -/
def skipMembers : List (Except Problem String × Tree) → Except Problem Unit
  | [] => .ok ()
  | (_, value) :: rest => do
    skip value
    skipMembers rest

end

end Tree

/-- A whole text: the tree of its first value and whether more than blanks follows. -/
structure Document where
  root : Tree
  trailing : Bool

/-- The document of a text. -/
def Document.ofText (text : String) : Document :=
  let tokens := Token.ofText text
  match Tree.ofTokens (2 * tokens.length + 1) tokens with
  | (root, some []) => ⟨root, false⟩
  | (root, some (_ :: _)) => ⟨root, true⟩
  | (root, none) => ⟨root, false⟩

/-- Reads a document as one value with nothing after it. -/
def Document.read {α : Type} (reader : Tree → Except Problem α) (document : Document) :
    Except Problem α := do
  let value ← reader document.root
  if document.trailing then .error .malformed else .ok value

end StackDeploy.Json
