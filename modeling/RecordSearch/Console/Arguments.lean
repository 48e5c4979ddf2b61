import RecordSearch.Text.Pieces

/-! Command line arguments as options and operands.

    An option has a long name behind two hyphens, and some have a letter behind one. Letters may be
    joined. The value of an option stands in the next argument, or behind an equals sign, or right
    behind the letter. An argument that begins with a hyphen is no value, unless it stands behind an
    equals sign, is the hyphen alone, or is a negative number where numbers are asked for. Behind two
    hyphens everything is an operand. -/

namespace RecordSearch.Console

/-- Why a command line is not run. -/
inductive Stop where
  /-- It makes no sense. -/
  | usage
  /-- It asks for help or for the version. -/
  | help
  deriving DecidableEq, Repr

/-- What an option looks like. -/
structure OptionForm where
  long : String
  short : Option Char := none
  /-- Whether it has a value. -/
  valued : Bool := false
  /-- Whether the value may be a negative number. -/
  number : Bool := false
  /-- Whether it may be given more than once. -/
  repeatable : Bool := false
  deriving DecidableEq, Repr

/-- A piece of a command line. -/
inductive Token where
  | option (form : OptionForm) (value : Option String)
  /-- An operand, and whether it stands behind two hyphens. -/
  | operand (s : String) (behind : Bool)
  deriving DecidableEq, Repr

/-- Whether a text is a hyphen with something behind it. -/
def hyphened (s : String) : Bool :=
  match s.toList with
  | '-' :: _ :: _ => true
  | _ => false

/-- Whether a text is a hyphen and digits. -/
def isNegative (s : String) : Bool :=
  match s.toList with
  | '-' :: ds => ds != [] && ds.all Char.isDigit
  | _ => false

/-- The value of an option from the arguments that follow it. -/
def takeValue (form : OptionForm) : List String → Except Stop (String × List String)
  | [] => .error .usage
  | v :: rest =>
    if hyphened v ∧ ¬(form.number ∧ isNegative v) then .error .usage else .ok (v, rest)

/-- Joined letters, without their hyphen. -/
def readLetters (forms : List OptionForm) : List Char → List String →
    Except Stop (List Token × List String)
  | [], rest => .ok ([], rest)
  | c :: cs, rest =>
    match forms.find? fun f => f.short = some c with
    | none => .error .usage
    | some form =>
      if form.valued then
        match cs with
        | [] => do
          let (v, rest) ← takeValue form rest
          pure ([.option form v], rest)
        | '=' :: v => .ok ([.option form (String.ofList v)], rest)
        | v => .ok ([.option form (String.ofList v)], rest)
      else do
        let (ts, rest) ← readLetters forms cs rest
        pure (.option form none :: ts, rest)

/-- An option by its long name, without the hyphens. -/
def readLong (forms : List OptionForm) (s : List Char) (rest : List String) :
    Except Stop (Token × List String) :=
  let (name, value) := match Text.cut '=' s with
    | some (name, value) => (name, some (String.ofList value))
    | none => (s, none)
  match forms.find? fun f => f.long.toList = name with
  | none => .error .usage
  | some form =>
    match form.valued, value with
    | false, none => .ok (.option form none, rest)
    | false, some _ => .error .usage
    | true, some v => .ok (.option form v, rest)
    | true, none => do
      let (v, rest) ← takeValue form rest
      pure (.option form v, rest)

/-- The tokens of the next argument, and the arguments that follow. -/
def readArgument (forms : List OptionForm) (arg : String) (rest : List String) :
    Except Stop (List Token × List String) :=
  match arg.toList with
  | '-' :: '-' :: s => do
    let (t, rest) ← readLong forms s rest
    pure ([t], rest)
  | '-' :: c :: s => readLetters forms (c :: s) rest
  | _ => .ok ([.operand arg false], rest)

/-- Goes through the tokens of a command line in order. `step` may end the walk, and then the
    arguments that follow are left over. -/
def scan {σ : Type} (forms : List OptionForm) (step : σ → Token → Except Stop (σ × Bool)) :
    Nat → σ → List String → Except Stop (σ × List String)
  | 0, s, args => .ok (s, args)
  | _ + 1, s, [] => .ok (s, [])
  | fuel + 1, s, arg :: rest =>
    if arg = "--" then do
      let s ← rest.foldlM (fun s a => do pure (← step s (.operand a true)).1) s
      pure (s, [])
    else do
      let (tokens, rest) ← readArgument forms arg rest
      let (s, ended) ← tokens.foldlM (fun (s, ended) t => do
        let (s, now) ← step s t
        pure (s, ended || now)) (s, false)
      if ended then pure (s, rest) else scan forms step fuel s rest

end RecordSearch.Console
