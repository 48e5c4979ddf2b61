import RecordSearch.Console.Arguments
import RecordSearch.Criterion
import RecordSearch.Calendar.Format
import RecordSearch.Number.Integer
import RecordSearch.Users.User

/-! The command line of the tool: common options, a command, and the options of the command.

    Common options may stand before and behind the command; those behind it count. Every option but
    `--filter` may be given once on each side. -/

namespace RecordSearch.Console

/-- How results are printed. -/
inductive OutputFormat where | table | json | compact
  deriving DecidableEq, Repr

/-- The options of `search`. -/
structure SearchOptions where
  shape : String
  data : Option String := none
  search : Option String := none
  filters : List Criterion := []
  sortBy : Option String := none
  sortOrder : Option String := none
  page : Option Int64 := none
  pageSize : Option Int64 := none
  gender : Option Gender := none
  emailVerified : Option Bool := none
  createdFrom : Option Instant := none
  createdTo : Option Instant := none
  deriving DecidableEq, Repr

/-- A command with its options. -/
inductive Command where
  | search (options : SearchOptions)
  | schema (shape : Option String)
  | demo
  deriving DecidableEq, Repr

/-- What a command line says. -/
structure CommandLine where
  config : Option String
  output : OutputFormat
  quiet : Bool
  verbose : Bool
  noColor : Bool
  command : Command
  deriving DecidableEq, Repr

/-! ### Options -/

/-- The common options. -/
def commonForms : List OptionForm :=
  [{ long := "config", valued := true }, { long := "output", valued := true },
   { long := "quiet", short := some 'q' }, { long := "verbose", short := some 'v' },
   { long := "no-color" }, { long := "help", short := some 'h' }]

/-- The options that stand before a command. -/
def leadingForms : List OptionForm := { long := "version", short := some 'V' } :: commonForms

/-- The options of `search`. -/
def searchForms : List OptionForm :=
  [{ long := "data", short := some 'd', valued := true },
   { long := "search", short := some 's', valued := true },
   { long := "filter", short := some 'f', valued := true, repeatable := true },
   { long := "sort-by", valued := true }, { long := "sort-order", valued := true },
   { long := "page", valued := true, number := true },
   { long := "page-size", valued := true, number := true },
   { long := "gender", valued := true }, { long := "email-verified", valued := true },
   { long := "created-from", valued := true }, { long := "created-to", valued := true }] ++
    commonForms

/-- Common options as they are given on one side of the command. -/
structure CommonOptions where
  config : Option String := none
  output : Option OutputFormat := none
  quiet : Bool := false
  verbose : Bool := false
  noColor : Bool := false
  deriving DecidableEq, Repr

/-- The common options of both sides. -/
def CommonOptions.merge (before behind : CommonOptions) : CommonOptions :=
  ⟨behind.config.or before.config, behind.output.or before.output, before.quiet || behind.quiet,
    before.verbose || behind.verbose, before.noColor || behind.noColor⟩

/-- A value that has to be there. -/
def need {α : Type} : Option α → Except Stop α
  | some a => .ok a
  | none => .error .usage

/-- The path of a file, which is not empty. -/
def readPath (s : String) : Option String := if s = "" then none else some s

/-- The word for a format. -/
def OutputFormat.read? : String → Option OutputFormat
  | "table" => some table
  | "json" => some json
  | "compact" => some compact
  | _ => none

/-- A whole number of 64 bits. -/
def readCount (s : String) : Option Int64 := (IntWidth.bits64.read? s.toList).map .ofInt

/-- The words `true` and `false`. -/
def readFlag : String → Option Bool
  | "true" => some true
  | "false" => some false
  | _ => none

/-- The name of a gender. -/
def readGender (s : String) : Option Gender := (tagIndex Gender.set.tags s).bind Gender.ofIndex?

/-- Takes a common option into account. -/
def CommonOptions.take (o : CommonOptions) (name value : String) : Except Stop CommonOptions :=
  match name with
  | "config" => do
    let path ← need (readPath value)
    pure { o with config := some path }
  | "output" => do
    let format ← need (OutputFormat.read? value)
    pure { o with output := some format }
  | "quiet" => pure { o with quiet := true }
  | "verbose" => pure { o with verbose := true }
  | "no-color" => pure { o with noColor := true }
  | "help" | "version" => .error .help
  | _ => .error .usage

/-- Takes an option of `search` into account; others are common ones. -/
def SearchOptions.take (o : SearchOptions) (name value : String) :
    Except Stop (Option SearchOptions) :=
  match name with
  | "data" => do
    let path ← need (readPath value)
    pure (some { o with data := some path })
  | "search" => pure (some { o with search := some value })
  | "filter" => do
    let c ← need (Criterion.read value).toOption
    pure (some { o with filters := o.filters ++ [c] })
  | "sort-by" => pure (some { o with sortBy := some value })
  | "sort-order" => pure (some { o with sortOrder := some value })
  | "page" => do
    let n ← need (readCount value)
    pure (some { o with page := some n })
  | "page-size" => do
    let n ← need (readCount value)
    pure (some { o with pageSize := some n })
  | "gender" => do
    let g ← need (readGender value)
    pure (some { o with gender := some g })
  | "email-verified" => do
    let b ← need (readFlag value)
    pure (some { o with emailVerified := some b })
  | "created-from" => do
    let t ← need (Calendar.readTimestamp value)
    pure (some { o with createdFrom := some t })
  | "created-to" => do
    let t ← need (Calendar.readTimestamp value)
    pure (some { o with createdTo := some t })
  | _ => pure none

/-! ### The walk -/

/-- One side of a command line while it is read. -/
structure Side where
  seen : List String := []
  common : CommonOptions := {}
  search : SearchOptions := { shape := "" }
  operands : List String := []

/-- Makes sure that an option may be given, and notes that it was. -/
def Side.note (s : Side) (form : OptionForm) : Except Stop Side :=
  if form.long ∈ s.seen ∧ ¬form.repeatable then .error .usage
  else .ok { s with seen := form.long :: s.seen }

/-- Takes an option into account. -/
def Side.option (s : Side) (form : OptionForm) (value : String) : Except Stop Side := do
  let s ← s.note form
  match ← s.search.take form.long value with
  | some search => pure { s with search := search }
  | none => do
    let common ← s.common.take form.long value
    pure { s with common := common }

/-- A step behind the command, which has room for so many operands. -/
def Side.stepBehind (room : Nat) (s : Side) : Token → Except Stop (Side × Bool)
  | .option form value => do pure (← s.option form (value.getD ""), false)
  | .operand a _ =>
    if s.operands.length < room then .ok ({ s with operands := s.operands ++ [a] }, false)
    else .error .usage

/-- A step before the command. The first operand is the command. -/
def Side.stepBefore (s : Side) : Token → Except Stop (Side × Bool)
  | .option form value => do pure (← s.option form (value.getD ""), false)
  | .operand a behind =>
    if behind then .error .usage else .ok ({ s with operands := [a] }, true)

/-- The commands by name: what options they have, and how many operands. -/
def commandForms : String → Option (List OptionForm × Nat)
  | "search" => some (searchForms, 1)
  | "schema" => some (commonForms, 1)
  | "demo" => some (commonForms, 0)
  | _ => none

/-- The command with a name, from what stands behind it. -/
def Command.of (name : String) (s : Side) : Except Stop Command :=
  match name, s.operands with
  | "search", shape :: _ => .ok (.search { s.search with shape := shape })
  | "schema", operands => .ok (.schema operands.head?)
  | "demo", _ => .ok .demo
  | _, _ => .error .usage

/-- Asking for help: on the tool, or on one command. -/
def helpTopic : List String → Stop
  | [] | ["help"] => .help
  | [topic] => if (commandForms topic).isSome then .help else .usage
  | _ => .usage

/-- What a command line says. `configVariable` is the path of the settings that the environment names,
    for the case that a side of the command does not name one. -/
def CommandLine.read (configVariable : Option String) (args : List String) :
    Except Stop CommandLine := do
  let (before, rest) ← scan leadingForms Side.stepBefore (args.length + 1) {} args
  match before.operands with
  | [] => .error .usage
  | name :: _ =>
    if name = "help" then .error (helpTopic rest)
    else do
      let (forms, room) ← need (commandForms name)
      let (behind, _) ← scan forms (Side.stepBehind room) (rest.length + 1) {} rest
      let command ← Command.of name behind
      let common := before.common.merge behind.common
      let everywhere := before.common.config.isSome && behind.common.config.isSome
      if configVariable = some "" ∧ ¬everywhere then .error .usage
      else
        pure ⟨common.config.or configVariable, common.output.getD .table, common.quiet,
          common.verbose, common.noColor, command⟩

end RecordSearch.Console
