import VirtualShell.Settings
import VirtualShell.Text.Split
/-!
The arguments of the program: at most one command line to run, and options that
go before the settings of a file. An option begins with two dashes; its value
follows it, either as the next word or behind an equals sign. Two dashes alone
end the options.
-/

namespace VirtualShell

structure Arguments where
  command : Option String := none
  user : Option String := none
  config : Option String := none
  seed : Option String := none
  logLevel : Option String := none
  noColor : Bool := false
deriving DecidableEq, Repr

namespace Arguments

/-- The options that take a value. -/
inductive ValueOption where
  | user
  | config
  | seed
  | logLevel
deriving DecidableEq, Repr

namespace ValueOption

def all : List ValueOption := [user, config, seed, logLevel]

def name : ValueOption → String
  | user => "--user"
  | config => "--config"
  | seed => "--seed"
  | logLevel => "--log-level"

/-- The option of a name. -/
def named (word : String) : Option ValueOption :=
  all.find? fun option => option.name = word

end ValueOption

def noColorFlag : String := "--no-color"

/-- Give an option its value. It takes only one, and a path may not be
empty. -/
def set (arguments : Arguments) (option : ValueOption) (value : String) : Option Arguments :=
  match option with
  | .user => if arguments.user.isSome then none else some { arguments with user := some value }
  | .config =>
    if arguments.config.isSome || value = "" then none
    else some { arguments with config := some value }
  | .seed =>
    if arguments.seed.isSome || value = "" then none
    else some { arguments with seed := some value }
  | .logLevel =>
    if arguments.logLevel.isSome then none else some { arguments with logLevel := some value }

/-- Give the one command line that there may be. -/
def setCommand (arguments : Arguments) (command : String) : Option Arguments :=
  if arguments.command.isSome then none else some { arguments with command := some command }

def setNoColor (arguments : Arguments) : Option Arguments :=
  if arguments.noColor then none else some { arguments with noColor := true }

/-- Whether a word is an option or is taken for one. A single dash is a word
like any other. -/
def looksLikeOption (word : String) : Bool :=
  word ≠ "-" && Text.startsWith word "-"

/-- Words behind the end of the options. -/
def readPlain (arguments : Arguments) : List String → Option Arguments
  | [] => some arguments
  | word :: rest =>
    match arguments.setCommand word with
    | some next => next.readPlain rest
    | none => none

def readWords (arguments : Arguments) : List String → Option Arguments
  | [] => some arguments
  | "--" :: rest => arguments.readPlain rest
  | word :: rest =>
    if looksLikeOption word then
      match Text.cut '=' word with
      | (name, some value) =>
        match ValueOption.named name with
        | some option =>
          match arguments.set option value with
          | some next => next.readWords rest
          | none => none
        | none => none
      | (name, none) =>
        if name = noColorFlag then
          match arguments.setNoColor with
          | some next => next.readWords rest
          | none => none
        else match ValueOption.named name, rest with
          | some option, value :: rest =>
            if looksLikeOption value then none
            else match arguments.set option value with
              | some next => next.readWords rest
              | none => none
          | _, _ => none
    else match arguments.setCommand word with
      | some next => next.readWords rest
      | none => none

/-- The arguments that words give; nothing if the program cannot be used like
that. -/
def parse? (words : List String) : Option Arguments :=
  readWords {} words

/-- The settings under these arguments. -/
def override (arguments : Arguments) (settings : Settings) : Settings :=
  { settings with
    user := arguments.user.getD settings.user
    seedPath := arguments.seed.or settings.seedPath
    logging := { settings.logging with level := arguments.logLevel.getD settings.logging.level }
    display := { settings.display with color := settings.display.color && !arguments.noColor } }

end Arguments

end VirtualShell
