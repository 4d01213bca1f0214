import ImportPolicy.Value.Display

/-! # Use of the command line

* `Cli.UsageError`, `Cli.UsageError.message` — what can be wrong with arguments. -/

namespace ImportPolicy.Cli

/-- What can be wrong with the arguments of a command. -/
inductive UsageError where
  | noSuchOption (name : Text)
  | noSuchCommand (name : Text)
  | needsValue (option : Text)
  | takesNoValue (option : Text)
  | missingArgument (name : Text)
  | missingCommand
  | notAChoice (parameter value : Text) (choices : List Text)
  | absent (parameter kind value : Text)
  | isDirectory (parameter kind value : Text)
  | extraArguments (arguments : List Text)
  deriving DecidableEq

namespace UsageError

/-- The wording of a refused value. -/
def invalidValue (parameter reason : Text) : Text :=
  "Invalid value for " ++ parameter ++ ": " ++ reason

/-- The wording of what is wrong. -/
def message : UsageError → Text
  | .noSuchOption name => "No such option " ++ name.quoted ++ "."
  | .noSuchCommand name => "No such command " ++ name.quoted ++ "."
  | .needsValue option => "Option " ++ option.quoted ++ " requires an argument."
  | .takesNoValue option => "Option " ++ option.quoted ++ " does not take a value."
  | .missingArgument name => "Missing argument '" ++ name ++ "'."
  | .missingCommand => "Missing command."
  | .notAChoice parameter value choices =>
    invalidValue parameter
      (value.quoted ++ " is not one of " ++ Text.joinWith ", " (choices.map Text.quoted) ++ ".")
  | .absent parameter kind value =>
    invalidValue parameter (kind ++ " " ++ value.quoted ++ " does not exist.")
  | .isDirectory parameter kind value =>
    invalidValue parameter (kind ++ " " ++ value.quoted ++ " is a directory.")
  | .extraArguments arguments =>
    "Got unexpected extra argument" ++ (if arguments.length = 1 then ([] : Text) else "s") ++ " ("
      ++ Text.joinWith " " arguments ++ ")"

end UsageError

end ImportPolicy.Cli
