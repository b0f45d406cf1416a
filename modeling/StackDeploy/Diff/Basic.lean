/-
# Differences between two revisions

The resources of two revisions of a template fall into four sets: added, modified, deleted and
unchanged. From these and from the parameter and output sections follow the strategy of a deployment
and the risk of the change. A deletion always dominates: it destroys infrastructure.
-/

import StackDeploy.Decimal.Double
import StackDeploy.Diff.Equality

namespace StackDeploy

/-- What changed between two revisions. -/
structure TemplateDiff where
  added : NameSet
  modified : NameSet
  deleted : NameSet
  unchanged : NameSet
  parametersChanged : Bool
  outputsChanged : Bool
deriving DecidableEq

/-- How a change is applied. -/
inductive Strategy where
  | skip
  | replace
  | update
deriving DecidableEq

/-- The written name of a strategy. -/
def Strategy.name : Strategy → String
  | .skip => "skip"
  | .replace => "replace"
  | .update => "update"

/-- The risk of changing a resource. -/
inductive Risk where
  | safe
  | caution
  | dangerous
deriving DecidableEq

/-- The changed resources, by the risk of the change. -/
structure RiskReport where
  safe : NameSet
  caution : NameSet
  dangerous : NameSet
deriving DecidableEq

/-- The highest risk among the changes. -/
def RiskReport.highest (r : RiskReport) : Option Risk :=
  if !r.dangerous.isEmpty then some .dangerous
  else if !r.caution.isEmpty then some .caution
  else if !r.safe.isEmpty then some .safe
  else none

/-- Counts of a diff, with the share of resources that it touches, in percent. -/
structure DiffStatistics where
  total : Nat
  added : Nat
  modified : Nat
  deleted : Nat
  unchanged : Nat
  changePercentage : Double
deriving DecidableEq

namespace Template

/-- The ids of this revision whose counterpart in another one, or its absence, passes a test. -/
def idsWhere (t : Template) (test : Resource → Option Resource → Bool) (other : Template) :
    NameSet :=
  NameSet.ofList ((t.resources.entries.filter fun entry =>
    test entry.2 (other.resources.get? entry.1)).map Prod.fst)

/-- What changes from an old revision to a new one. -/
def diff (old new : Template) : TemplateDiff where
  added := new.idsWhere (fun _ before => before.isNone) old
  modified := new.idsWhere
    (fun after before => before.any fun before => !Resource.same before after) old
  deleted := old.idsWhere (fun _ after => after.isNone) new
  unchanged := new.idsWhere
    (fun after before => before.any fun before => Resource.same before after) old
  parametersChanged := !NameMap.sameBy Parameter.same old.parameters new.parameters
  outputsChanged := !NameMap.sameBy Output.same old.outputs new.outputs

end Template

namespace TemplateDiff

/-- Whether anything differs. -/
def hasChanges (d : TemplateDiff) : Bool :=
  !d.added.isEmpty || !d.modified.isEmpty || !d.deleted.isEmpty || d.parametersChanged ||
    d.outputsChanged

/-- How to apply the change. -/
def strategy (d : TemplateDiff) : Strategy :=
  if !d.hasChanges then .skip
  else if !d.deleted.isEmpty then .replace
  else .update

/-- The changed resources by risk. -/
def categorize (d : TemplateDiff) : RiskReport :=
  ⟨d.added, d.modified, d.deleted⟩

/-- The number of resources in either revision. -/
def total (d : TemplateDiff) : Nat :=
  d.added.size + d.modified.size + d.deleted.size + d.unchanged.size

/-- The share of touched resources in percent, as a double; zero where there are no resources. -/
def changePercentage (d : TemplateDiff) : Double :=
  let changed := d.added.size + d.modified.size + d.deleted.size
  if d.total = 0 then Double.zero false
  else (Double.ofQuotient false (100 * changed) d.total).getD default

/-- The counts of a diff. -/
def statistics (d : TemplateDiff) : DiffStatistics where
  total := d.total
  added := d.added.size
  modified := d.modified.size
  deleted := d.deleted.size
  unchanged := d.unchanged.size
  changePercentage := d.changePercentage

/-- The report of a diff: a line on the strategy, then a line for each change. -/
def report (d : TemplateDiff) : String :=
  let mark (sign : String) (ids : NameSet) : String :=
    String.join (ids.names.map fun id => "  " ++ sign ++ " " ++ id ++ "\n")
  "strategy: " ++ d.strategy.name ++ " (" ++ d.changePercentage.fixed 1 ++ "% of " ++
    Text.decimal d.total ++ " resources changed)\n" ++
    mark "+" d.added ++ mark "~" d.modified ++ mark "-" d.deleted ++
    (if d.parametersChanged then "  parameters changed\n" else "") ++
    (if d.outputsChanged then "  outputs changed\n" else "")

end TemplateDiff

end StackDeploy
