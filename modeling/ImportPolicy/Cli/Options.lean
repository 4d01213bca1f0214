import ImportPolicy.Cli.Usage

/-! # Options on the command line

A long option has its value behind an equals sign or in the next argument. Short options stand
together behind one hyphen, and the last of them may have its value right behind it. Two hyphens
end the options.

* `Cli.OptionName`, `Cli.OptionForm` — the options, and how they are written.
* `Cli.Arguments` — the options that were given, in order, and all other arguments.
* `Cli.Arguments.read` — what a list of arguments holds. -/

namespace ImportPolicy.Cli

/-- The options of all commands. -/
inductive OptionName where
  | config
  | verbose
  | jsonLogs
  | version
  | help
  | reporter
  | output
  | failOnError
  | commonjs
  | force
  deriving DecidableEq

/-- How an option is written, and whether it has a value. -/
structure OptionForm where
  option : OptionName
  names : List Text
  hasValue : Bool

/-- An option that was given, with its value if it has one. -/
structure Given where
  option : OptionName
  value : Text

/-- The options that were given, in order, and all other arguments. -/
structure Arguments where
  given : List Given
  others : List Text

namespace Arguments

/-- The form that is written with a name. -/
def form? (forms : List OptionForm) (name : Text) : Option OptionForm :=
  forms.find? fun f => f.names.contains name

/-- The options in a row of letters behind one hyphen. An option whose value is not in the row
    stands for itself at the end. -/
def readLetters (forms : List OptionForm) :
    Text → Except UsageError (List Given × Option (OptionName × Text))
  | [] => .ok ([], none)
  | c :: rest =>
    let name : Text := [.scalar '-', c]
    match form? forms name with
    | none => .error (.noSuchOption name)
    | some f =>
      if f.hasValue then
        if rest.isEmpty then .ok ([], some (f.option, name))
        else .ok ([⟨f.option, rest⟩], none)
      else do
        let (given, needy) ← readLetters forms rest
        return (⟨f.option, []⟩ :: given, needy)

/-- What one argument says that starts with a hyphen: options, and an option that still needs a
    value. -/
def readOption (forms : List OptionForm) (argument : Text) :
    Except UsageError (List Given × Option (OptionName × Text)) :=
  let name := argument.takeWhile (· ≠ .scalar '=')
  let attached := argument.drop name.length
  match form? forms name with
  | some f =>
    -- Behind a short option, an equals sign belongs to the row of letters.
    if name.length = 2 ∧ attached ≠ [] then readLetters forms (argument.drop 1)
    else match f.hasValue, attached with
      | true, [] => .ok ([], some (f.option, name))
      | true, _ :: value => .ok ([⟨f.option, value⟩], none)
      | false, [] => .ok ([⟨f.option, []⟩], none)
      | false, _ => .error (.takesNoValue name)
  | none =>
    if Text.startsWith argument "--" then .error (.noSuchOption name)
    else readLetters forms (argument.drop 1)

/-- What a list of arguments holds. Where options may not stand behind other arguments, the first
    of these ends the options. -/
def read (forms : List OptionForm) (mixed : Bool) : List Text → Except UsageError Arguments
  | [] => .ok ⟨[], []⟩
  | argument :: rest =>
    if argument = "--" then .ok ⟨[], rest⟩
    else if Text.startsWith argument "-" ∧ 1 < argument.length then do
      let (given, needy) ← readOption forms argument
      match needy with
      | none =>
        let more ← read forms mixed rest
        return ⟨given ++ more.given, more.others⟩
      | some (option, name) =>
        match rest with
        | value :: rest =>
          let more ← read forms mixed rest
          return ⟨given ++ ⟨option, value⟩ :: more.given, more.others⟩
        | [] => throw (.needsValue name)
    else if mixed then do
      let more ← read forms mixed rest
      return ⟨more.given, argument :: more.others⟩
    else .ok ⟨[], argument :: rest⟩

/-- Whether an option was given. -/
def has (a : Arguments) (o : OptionName) : Bool := a.given.any (·.option = o)

/-- The value of an option; the last one counts. -/
def value? (a : Arguments) (o : OptionName) : Option Text :=
  (a.given.reverse.find? (·.option = o)).map (·.value)

/-- The first of some options that was given. -/
def firstOf? (a : Arguments) (options : List OptionName) : Option OptionName :=
  (a.given.find? fun g => options.contains g.option).map (·.option)

end Arguments

end ImportPolicy.Cli
