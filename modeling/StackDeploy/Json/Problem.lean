/-
# Why a document is refused

A document is read in one pass and the first problem in the text decides. There are three kinds:
the text ends before the document does, the text is not JSON, or it is JSON of another shape than
the reader wants. Only the last kind has a wording that shows in answers; it is made here, in one
place, from the typed cause.
-/

import StackDeploy.Json.Number
import StackDeploy.Text.Quoted

namespace StackDeploy.Json

/-- What stands in a document where something else was wanted. -/
inductive Found where
  | null
  | bool (value : Bool)
  | number (value : Number)
  | string (value : String)
  | sequence
  | map
deriving DecidableEq

/-- What a reader wants at a place. -/
inductive Expected where
  | string
  | boolean
  | map
  | sequence
  | record (name : String)
  | nothing
deriving DecidableEq

/-- A well-formed document of the wrong shape. -/
inductive Mismatch where
  | missingField (field : String)
  | duplicateField (field : String)
  | wrongType (found : Found) (expected : Expected)
  | wrongLength (length : Nat) (record : String) (fields : Nat)
  | unknownVariant (name : String) (variants : List String)
  | noVariant (choice : String)
deriving DecidableEq

/-- Why reading stopped: the text ended, it is not well-formed, or it has the wrong shape. -/
inductive Problem where
  | ended
  | malformed
  | mismatch (cause : Mismatch)
deriving DecidableEq

/-- The wording for what was found. -/
def Found.describe : Found → String
  | .null => "null"
  | .bool value => "boolean `" ++ (if value then "true" else "false") ++ "`"
  | .number (.int n) => "integer `" ++ Text.decimalInt n ++ "`"
  | .number (.double d) => "floating point `" ++ d.text ++ "`"
  | .string s => "string " ++ Text.quoted s
  | .sequence => "sequence"
  | .map => "map"

/-- The wording for what was wanted. -/
def Expected.describe : Expected → String
  | .string => "a string"
  | .boolean => "a boolean"
  | .map => "a map"
  | .sequence => "a sequence"
  | .record name => "struct " ++ name
  | .nothing => "unit"

/-- The wording of a mismatch. -/
def Mismatch.message : Mismatch → String
  | .missingField field => "missing field `" ++ field ++ "`"
  | .duplicateField field => "duplicate field `" ++ field ++ "`"
  | .wrongType found expected =>
    "invalid type: " ++ found.describe ++ ", expected " ++ expected.describe
  | .wrongLength length record fields =>
    "invalid length " ++ Text.decimal length ++ ", expected struct " ++ record ++ " with " ++
      Text.decimal fields ++ (if fields = 1 then " element" else " elements")
  | .unknownVariant name variants =>
    "unknown variant `" ++ name ++ "`, expected one of " ++
      String.intercalate ", " (variants.map fun v => "`" ++ v ++ "`")
  | .noVariant choice => "data did not match any variant of untagged enum " ++ choice

/-- The wording of a problem. -/
def Problem.message : Problem → String
  | .ended => "the text ends before the document does"
  | .malformed => "the text is not well-formed JSON"
  | .mismatch cause => cause.message

end StackDeploy.Json
