/-
# Assembling templates

A template is put together from declarations that are added one by one. A resource is checked when
it is added and recorded together with its explicit dependencies; an addition that fails changes
nothing. What a later addition declares under the same name replaces the earlier declaration. An
assembly is sound if its dependencies, explicit ones and references alike, form no cycle.
-/

import StackDeploy.Assembly.Graph
import StackDeploy.Template.Reference

namespace StackDeploy

open Json (Value Members)

/-- Why an assembly fails. -/
inductive AssemblyError where
  | circularDependency (cycle : DependencyCycle)
  | invalidLogicalId (id : String)
  | unknownNamespace (id type : String)
  | selfDependency (id : String)
  | invalidProperties (id : String)
  | step (name message : String)
deriving DecidableEq

/-- The wording of an assembly error. -/
def AssemblyError.message : AssemblyError → String
  | .circularDependency cycle =>
    "circular dependency detected at " ++ cycle.id ++ ": " ++ String.intercalate " -> " cycle.path
  | .invalidLogicalId id =>
    "invalid logical id '" ++ id ++ "': only ASCII letters and digits are allowed"
  | .unknownNamespace id type => "resource " ++ id ++ " has unrecognized type '" ++ type ++ "'"
  | .selfDependency id => "resource " ++ id ++ " depends on itself"
  | .invalidProperties id => "resource " ++ id ++ " properties must be an object"
  | .step name message => "contribution step '" ++ name ++ "' failed: " ++ message

/-- What may be stated about a resource besides its kind and properties. -/
structure ResourceOptions where
  dependsOn : NameSet
  condition : Option String
  deletionPolicy : DeletionPolicy
  updateReplacePolicy : Option DeletionPolicy
deriving DecidableEq

/-- The sections that are fixed before any resource is added. They are laid over what was added
directly when the assembly is finished. -/
structure TemplateSettings where
  description : Option String
  parameters : NameMap Parameter
  mappings : NameMap Value
  conditions : NameMap Value
deriving DecidableEq

/-- No settings. -/
def TemplateSettings.none : TemplateSettings :=
  ⟨Option.none, .empty, .empty, .empty⟩

/-- What has been declared so far, with the graph of the explicit dependencies. -/
structure Assembler where
  parameters : NameMap Parameter
  mappings : NameMap Value
  conditions : NameMap Value
  resources : NameMap Resource
  graph : DependencyGraph
deriving DecidableEq

/-- Whether a name may identify a resource: ASCII letters and digits, at least one. -/
def isLogicalId (id : String) : Bool :=
  id ≠ "" && id.toList.all Char.isAlphanum

namespace Assembler

/-- An assembly without declarations. -/
def empty : Assembler :=
  ⟨.empty, .empty, .empty, .empty, .empty⟩

/-- The resource that an addition describes, or the first reason to refuse it. -/
def checkedResource (id type : String) (properties : Value) (options : ResourceOptions) :
    Except AssemblyError Resource :=
  let resource (members : Members) : Resource :=
    ⟨type, members, options.dependsOn, options.condition, options.deletionPolicy,
      options.updateReplacePolicy⟩
  if !isLogicalId id then .error (.invalidLogicalId id)
  else if (namespaceOfType type).isNone then .error (.unknownNamespace id type)
  else if options.dependsOn.contains id then .error (.selfDependency id)
  else
    match properties with
    | .object members => .ok (resource members)
    | .null => .ok (resource [])
    | _ => .error (.invalidProperties id)

/-- Adds a resource, replacing any earlier definition under its id. -/
def addResource (id type : String) (properties : Value) (options : ResourceOptions)
    (a : Assembler) : Except AssemblyError Assembler :=
  (checkedResource id type properties options).map fun resource =>
    { a with
      resources := a.resources.insert id resource
      graph := a.graph.setEdges id options.dependsOn }

/-- Declares a parameter. -/
def addParameter (name : String) (parameter : Parameter) (a : Assembler) : Assembler :=
  { a with parameters := a.parameters.insert name parameter }

/-- Declares a mapping. -/
def addMapping (name : String) (table : Value) (a : Assembler) : Assembler :=
  { a with mappings := a.mappings.insert name table }

/-- Declares a condition. -/
def addCondition (name : String) (expression : Value) (a : Assembler) : Assembler :=
  { a with conditions := a.conditions.insert name expression }

/-- The explicit dependencies of a resource. -/
def explicitDependencies (a : Assembler) (id : String) : Option NameSet :=
  a.graph.edges.get? id

/-- The references of a resource that lead to declared resources. -/
def declaredReferences (a : Assembler) (r : Resource) : NameSet :=
  r.implicitReferences.filter a.resources.contains

/-- The graph of explicit dependencies and references. -/
def combinedGraph (a : Assembler) : DependencyGraph :=
  a.resources.entries.foldl
    (fun graph entry => graph.extendEdges entry.1 (a.declaredReferences entry.2)) a.graph

/-- Checks that the dependencies form no cycle. -/
def checkCycles (a : Assembler) : Except AssemblyError Unit :=
  match a.combinedGraph.findCycle with
  | none => .ok ()
  | some cycle => .error (.circularDependency cycle)

/-- Lays the settings over what was declared directly. -/
def withSettings (settings : TemplateSettings) (a : Assembler) : Assembler :=
  { a with
    parameters := a.parameters.override settings.parameters
    mappings := a.mappings.override settings.mappings
    conditions := a.conditions.override settings.conditions }

/-- The template of everything declared, if it has no cycle. -/
def finish (description : Option String) (outputs : NameMap Output) (a : Assembler) :
    Except AssemblyError Template :=
  a.checkCycles.map fun _ =>
    { formatVersion := Template.defaultFormatVersion
      description
      parameters := a.parameters
      mappings := a.mappings
      conditions := a.conditions
      resources := a.resources
      outputs }

end Assembler

end StackDeploy
