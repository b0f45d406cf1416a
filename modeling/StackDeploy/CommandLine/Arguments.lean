/-
# Arguments

The first argument names the command; the others are its positional arguments and options, in any
order. An option is written out, and its value is the next argument or stands behind an equals sign.
A value that looks like an option has to stand behind the sign; after two hyphens all is positional.
An option that may not be repeated is given once at most. Asking for help ends the reading.
-/

import StackDeploy.Text.Cut

namespace StackDeploy.CommandLine

/-- Why arguments are no command. -/
inductive Refusal where
  /-- Help was asked for. -/
  | help
  /-- The arguments do not fit. -/
  | misuse
deriving DecidableEq

/-- The ways an option is given. -/
inductive OptionKind where
  /-- Once, without a value. -/
  | flag
  /-- Once, with a value. -/
  | single
  /-- Any number of times, with a value each time. -/
  | repeated
deriving DecidableEq

/-- What the arguments of a command look like: the number of positional ones, and its options. -/
structure Usage where
  positionals : Nat
  options : List (String × OptionKind)
deriving DecidableEq

/-- The arguments of a command, in their order. A flag is an option with an empty value. -/
structure Given where
  positionals : List String
  options : List (String × String)
deriving DecidableEq

namespace Given

/-- Nothing. -/
def empty : Given := ⟨[], []⟩

/-- The values of an option. -/
def valuesOf (g : Given) (name : String) : List String :=
  (g.options.filter fun option => option.1 = name).map Prod.snd

/-- Whether an option is given. -/
def has (g : Given) (name : String) : Bool :=
  g.options.any fun option => option.1 = name

end Given

/-! ## Reading arguments one by one -/

/-- The arguments read so far: what they gave, the option that waits for its value, and whether two
hyphens have been seen. -/
structure Reading where
  given : Given
  pending : Option String
  onlyPositionals : Bool
deriving DecidableEq

namespace Reading

/-- Before the first argument. -/
def start : Reading := ⟨.empty, none, false⟩

/-- Takes a positional argument. -/
def addPositional (r : Reading) (u : Usage) (arg : String) : Except Refusal Reading :=
  if r.given.positionals.length < u.positionals then
    .ok { r with given := { r.given with positionals := r.given.positionals ++ [arg] } }
  else .error .misuse

/-- Takes an option with its value. -/
def addOption (r : Reading) (name value : String) : Reading :=
  ⟨{ r.given with options := r.given.options ++ [(name, value)] }, none, r.onlyPositionals⟩

/-- Takes an option by its name, with the value that stands behind the equals sign, if there is
one. -/
def startOption (r : Reading) (u : Usage) (name : String) (attached : Option String) :
    Except Refusal Reading :=
  if name = "help" then .error (if attached.isSome then .misuse else .help)
  else
    match (u.options.find? fun option => option.1 = name).map Prod.snd, attached with
    | none, _ => .error .misuse
    | some .flag, some _ => .error .misuse
    | some .flag, none => if r.given.has name then .error .misuse else .ok (r.addOption name "")
    | some kind, attached =>
      if kind = .single ∧ r.given.has name then .error .misuse
      else
        match attached with
        | some value => .ok (r.addOption name value)
        | none => .ok { r with pending := some name }

/-- Takes an argument that starts with a hyphen and is more than that. -/
def takeHyphenated (r : Reading) (u : Usage) (body : List Char) : Except Refusal Reading :=
  if r.pending.isSome then .error .misuse
  else
    match body with
    | ['-'] => .ok { r with onlyPositionals := true }
    | '-' :: option =>
      match Text.cutFirst '=' option with
      | some (name, value) => r.startOption u (String.ofList name) (some (String.ofList value))
      | none => r.startOption u (String.ofList option) none
    | 'h' :: _ => .error .help
    | _ => .error .misuse

/-- Takes the next argument. -/
def take (u : Usage) (r : Reading) (arg : String) : Except Refusal Reading :=
  if r.onlyPositionals then r.addPositional u arg
  else
    match arg.toList with
    | '-' :: c :: rest => r.takeHyphenated u (c :: rest)
    | _ =>
      match r.pending with
      | some name => .ok (r.addOption name arg)
      | none => r.addPositional u arg

/-- What was given, once the arguments have ended: no option waits and no positional argument is
missing. -/
def finish (r : Reading) (u : Usage) : Except Refusal Given :=
  if r.pending.isNone ∧ r.given.positionals.length = u.positionals then .ok r.given
  else .error .misuse

end Reading

/-- Reads the arguments of a command. -/
def Usage.read (u : Usage) (args : List String) : Except Refusal Given := do
  let r ← args.foldlM (Reading.take u) .start
  r.finish u

/-! ## Commands -/

/-- The arguments of a deployment. -/
structure DeployArguments where
  stack : String
  template : String
  /-- The file to compare with, instead of what is deployed. -/
  previous : Option String
  allowDestructive : Bool
  parameters : List String
  tags : List String
deriving DecidableEq

/-- A command. -/
inductive Command where
  | diff (old new : String)
  | deploy (arguments : DeployArguments)
  | destroy (stack : String) (retain : List String)
  | status (stack : String)
deriving DecidableEq

namespace Command

/-- The commands with the arguments that they take. -/
def usages : List (String × Usage) :=
  [("diff", ⟨2, []⟩),
    ("deploy", ⟨2, [("previous", .single), ("allow-destructive", .flag), ("parameter", .repeated),
      ("tag", .repeated)]⟩),
    ("destroy", ⟨1, [("retain", .repeated)]⟩),
    ("status", ⟨1, []⟩)]

/-- The command of a name with its arguments. -/
def ofGiven (name : String) (g : Given) : Option Command :=
  match name, g.positionals with
  | "diff", [old, new] => some (.diff old new)
  | "deploy", [stack, template] =>
    some (.deploy ⟨stack, template, (g.valuesOf "previous").head?, g.has "allow-destructive",
      g.valuesOf "parameter", g.valuesOf "tag"⟩)
  | "destroy", [stack] => some (.destroy stack (g.valuesOf "retain"))
  | "status", [stack] => some (.status stack)
  | _, _ => none

/-- Reads a request for help on a command, or on help itself. -/
def helpOn (topics : List String) : Refusal :=
  match topics with
  | [] => .help
  | [topic] =>
    if topic = "help" ∨ usages.any (fun usage => usage.1 = topic) then .help else .misuse
  | _ => .misuse

/-- Reads a command. -/
def ofArguments (args : List String) : Except Refusal Command :=
  match args with
  | [] => .error .misuse
  | name :: rest =>
    if name = "help" then .error (helpOn rest)
    else if name = "--help" ∨ (Text.startsWith name "-h") then .error .help
    else
      match usages.find? fun usage => usage.1 = name with
      | none => .error .misuse
      | some (_, usage) => do
        let given ← usage.read rest
        match ofGiven name given with
        | some command => .ok command
        | none => .error .misuse

end Command

end StackDeploy.CommandLine
