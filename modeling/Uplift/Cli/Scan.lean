set_option autoImplicit false

/-! # Scanning arguments

A command line is scanned level by level: a level knows some options, may take arguments without a
name, and ends at the name of a command, which starts the next level. The scan of a level goes from
left to right and ends at the first argument that does not fit or that asks for something else. -/

namespace Uplift.Cli

/-- Why a scan ended early. -/
inductive Stop where
  /-- The arguments are wrong. -/
  | usage
  /-- The version is asked for. -/
  | version
  /-- Help is asked for. -/
  | help
  deriving DecidableEq, Repr

/-- What an option does to what is known so far; nothing means that it does not fit. -/
inductive Meaning (σ : Type) where
  | flag (set : σ → Option σ)
  | value (set : σ → String → Option σ)
  | stop (s : Stop)

/-- The arguments that a level takes. -/
structure Level (σ : Type) where
  /-- The options by name. -/
  long : String → Option (Meaning σ)
  /-- The options by letter. -/
  short : Char → Option (Meaning σ)
  /-- An argument without a name. -/
  positional : σ → String → Option σ
  /-- The names of the commands. -/
  commands : List String

variable {σ : Type}

/-- What does not fit is wrong usage. -/
def fits (s : Option σ) : Except Stop σ :=
  match s with
  | some s => .ok s
  | none => .error .usage

/-- Whether an argument is an option, and so no value of one. -/
def isOption (arg : String) : Bool :=
  match arg.toList with
  | '-' :: _ :: _ => true
  | _ => false

/-- The name of an option that is given by name, and the value that is attached to it. -/
def longName? (arg : String) : Option (String × Option String) :=
  match arg.toList with
  | '-' :: '-' :: rest =>
    let name := rest.takeWhile (· != '=')
    match rest.dropWhile (· != '=') with
    | _ :: value => some (String.ofList name, some (String.ofList value))
    | [] => some (String.ofList name, none)
  | _ => none

/-- Options given by their letters. -/
def Level.letters (level : Level σ) : σ → List Char → Except Stop σ
  | s, [] => .ok s
  | s, c :: cs => do
    match level.short c with
    | some (.flag set) => level.letters (← fits (set s)) cs
    | some (.stop stop) => .error stop
    | _ => .error .usage

/-- Scan the arguments of a level: what is known then, and the command with its arguments. An option
    that waits for its value takes the next argument, unless that is an option too. -/
def Level.scanFrom (level : Level σ) :
    Option (σ → String → Option σ) → σ → List String → Except Stop (σ × Option (String × List String))
  | none, s, [] => .ok (s, none)
  | some _, _, [] => .error .usage
  | some set, s, arg :: args => do
    if isOption arg then .error .usage else level.scanFrom none (← fits (set s arg)) args
  | none, s, arg :: args => do
    if level.commands.contains arg then return (s, some (arg, args))
    else if arg = "--" then return (← fits (args.foldlM level.positional s), none)
    else match longName? arg with
      | some (name, attached) =>
        match level.long name, attached with
        | some (.flag set), none => level.scanFrom none (← fits (set s)) args
        | some (.stop stop), none => .error stop
        | some (.value set), some value => level.scanFrom none (← fits (set s value)) args
        | some (.value set), none => level.scanFrom (some set) s args
        | _, _ => .error .usage
      | none =>
        if isOption arg then level.scanFrom none (← level.letters s (arg.toList.drop 1)) args
        else level.scanFrom none (← fits (level.positional s arg)) args

/-- Scan the arguments of a level. -/
def Level.scan (level : Level σ) (s : σ) (args : List String) :
    Except Stop (σ × Option (String × List String)) :=
  level.scanFrom none s args

end Uplift.Cli
