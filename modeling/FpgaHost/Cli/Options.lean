import FpgaHost.Text.Numeral

/-!
# Command lines

The words of a command line are positional words and options. An option is two hyphens, a name, and
a value, which is the rest of the word after an equals sign or else the next word. After a word of
two hyphens alone, all words are positional.
-/

namespace FpgaHost.Cli

/-- Why a command line is refused. -/
inductive UsageError where
  /-- There is no command. -/
  | missingCommand
  /-- The command has no meaning. -/
  | unknownCommand (word : String)
  /-- The option has no meaning for the command. -/
  | unknownOption (name : String)
  /-- The option has no value. -/
  | missingValue (name : String)
  /-- The option is given twice. -/
  | repeatedOption (name : String)
  /-- The value of the option is no number. -/
  | notANumber (name value : String)
  /-- A positional word is missing. -/
  | missingWord (what : String)
  /-- There is a positional word too many. -/
  | extraWord (word : String)
  deriving DecidableEq, Repr

/-- The wording of a usage error. -/
def UsageError.message : UsageError → String
  | .missingCommand => "a command is required"
  | .unknownCommand word => s!"unrecognized command '{word}'"
  | .unknownOption name => s!"unexpected option '--{name}'"
  | .missingValue name => s!"a value is required for '--{name}'"
  | .repeatedOption name => s!"the option '--{name}' cannot be used multiple times"
  | .notANumber name value => s!"invalid value '{value}' for '--{name}'"
  | .missingWord what => s!"the argument <{what}> is required"
  | .extraWord word => s!"unexpected argument '{word}'"

/-- The words of a command line, sorted out. -/
structure Words where
  /-- The positional words in order. -/
  positional : List String := []
  /-- The options with their values, in order. -/
  options : List (String × String) := []
  deriving DecidableEq, Repr

namespace Words

/-- Adds a positional word in front. -/
def withWord (word : String) (w : Words) : Words := { w with positional := word :: w.positional }

/-- Adds an option in front. -/
def withOption (name value : String) (w : Words) : Words :=
  { w with options := (name, value) :: w.options }

/-- Whether a word begins with a hyphen and is more than one. -/
def isDashed : List Char → Bool
  | '-' :: _ :: _ => true
  | _ => false

/-- What stands before an equals sign, and what stands after it if there is one. -/
def cutEquals (cs : List Char) : String × Option String :=
  (String.ofList (cs.takeWhile (· != '=')),
    match cs.dropWhile (· != '=') with
    | [] => none
    | _ :: value => some (String.ofList value))

/-- Sorts words out, given the names of the options there are. -/
def parse (known : List String) : List String → Except UsageError Words
  | [] => .ok {}
  | word :: rest =>
    match word.toList with
    | ['-', '-'] => .ok { positional := rest }
    | '-' :: '-' :: cs =>
      let (name, value) := cutEquals cs
      if known.contains name then
        match value with
        | some value => (parse known rest).map (withOption name value)
        | none =>
          match rest with
          | [] => .error (.missingValue name)
          | value :: rest =>
            if isDashed value.toList then .error (.missingValue name)
            else (parse known rest).map (withOption name value)
      else .error (.unknownOption name)
    | cs =>
      if isDashed cs then .error (.unknownOption (String.ofList (cs.drop 1)))
      else (parse known rest).map (withWord word)

/-! ### Reading what the words say -/

/-- The only positional word. -/
def single (what : String) (w : Words) : Except UsageError String :=
  match w.positional with
  | [] => .error (.missingWord what)
  | [word] => .ok word
  | _ :: extra :: _ => .error (.extraWord extra)

/-- The values of an option in order. -/
def values (w : Words) (name : String) : List String :=
  (w.options.filter (·.1 = name)).map (·.2)

/-- The value of an option that may be given once. -/
def value (w : Words) (name default : String) : Except UsageError String :=
  match w.values name with
  | [] => .ok default
  | [value] => .ok value
  | _ => .error (.repeatedOption name)

/-- The value of an option that is a number. -/
def number (w : Words) (name : String) (default : Nat) : Except UsageError Nat :=
  match w.values name with
  | [] => .ok default
  | [value] =>
    match Text.word64? value with
    | some n => .ok n
    | none => .error (.notANumber name value)
  | _ => .error (.repeatedOption name)

end Words

end FpgaHost.Cli
