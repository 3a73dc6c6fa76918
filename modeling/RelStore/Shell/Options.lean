/-!
# Options of the command line

| option | meaning |
| --- | --- |
| `--demo` | begin with the demonstration table |
| `-e SQL`, `--execute SQL` | carry out a statement and end; may be repeated |
| `--prompt TEXT` | the prompt of the shell |
| `-v`, `--verbose` | say more in the log, which is no part of what is printed here |
| `-V`, `--version` | print the version and end |

A long option takes its value after an equality sign or as the next argument.  Short options may
be written together behind one dash; the rest of such an argument is the value of one that takes a
value, an equality sign before it left out.  Arguments are read from the left, and the version is
printed as soon as it is asked for.
-/

namespace RelStore

/-- What the options of a run amount to. -/
structure Options where
  /-- Whether to begin with the demonstration table. -/
  demo : Bool := false
  statements : List String := []
  prompt : Option String := none
  /-- Whether to say more in the log. -/
  verbose : Bool := false
deriving DecidableEq, Repr

/-- Why arguments are refused. -/
inductive OptionError where
  | unexpected (argument : String)
  | missingValue (option : String)
  /-- An option that may be given once and was given before. -/
  | repeated (option : String)
deriving DecidableEq, Repr

/-- The message about refused arguments. -/
def OptionError.message : OptionError → String
  | unexpected argument => "error: unexpected argument '" ++ argument ++ "' found"
  | missingValue option =>
    "error: a value is required for '" ++ option ++ "' but none was supplied"
  | repeated option => "error: the argument '" ++ option ++ "' cannot be used multiple times"

/-- What the arguments ask for. -/
inductive Invocation where
  | version
  | run (options : Options)
deriving DecidableEq, Repr

namespace Options

/-- Asks for the demonstration table. -/
def setDemo (o : Options) : Except OptionError Options :=
  if o.demo then .error (.repeated "--demo") else .ok { o with demo := true }

/-- Asks for more in the log. -/
def setVerbose (o : Options) : Except OptionError Options :=
  if o.verbose then .error (.repeated "--verbose") else .ok { o with verbose := true }

/-- Whether an argument may be the value of the option before it. -/
def isValue (argument : String) : Bool :=
  match argument.toList with
  | ['-'] => true
  | '-' :: _ => false
  | _ => true

/-- The value after an equality sign that the characters may begin with. -/
def attachedValue (cs : List Char) : String :=
  match cs with
  | '=' :: value => String.ofList value
  | value => String.ofList value

/-- An option that takes a value. -/
inductive ValueOption where
  /-- A statement to carry out. -/
  | statement
  /-- The prompt. -/
  | prompt
deriving DecidableEq, Repr

/-- The option as messages name it. -/
def ValueOption.name : ValueOption → String
  | statement => "--execute <SQL>"
  | prompt => "--prompt <PROMPT>"

/-- The options with a value given for one of them. -/
def setValue (o : Options) (option : ValueOption) (value : String) : Except OptionError Options :=
  match option with
  | .statement => .ok { o with statements := o.statements ++ [value] }
  | .prompt =>
    if o.prompt.isSome then .error (.repeated option.name) else .ok { o with prompt := some value }

/-- What a single argument asks for. -/
inductive Request where
  /-- The version. -/
  | version
  /-- That the next argument is the value of an option. -/
  | value (options : Options) (option : ValueOption)
  /-- That no option follows. -/
  | endOfOptions
  /-- Nothing but the options. -/
  | options (options : Options)
deriving DecidableEq, Repr

/-- Reads the characters of a cluster of short options. -/
def readShort (argument : String) (o : Options) : List Char → Except OptionError Request
  | [] => .ok (.options o)
  | 'v' :: cs =>
    match o.setVerbose with
    | .ok o => readShort argument o cs
    | .error e => .error e
  | 'V' :: _ => .ok .version
  | ['e'] => .ok (.value o .statement)
  | 'e' :: cs => (o.setValue .statement (attachedValue cs)).map .options
  | _ => .error (.unexpected argument)

/-- The name of a long option and the value attached to it by an equality sign. -/
def splitLong (cs : List Char) : String × Option String :=
  match cs.dropWhile (· ≠ '=') with
  | _ :: value => (String.ofList (cs.takeWhile (· ≠ '=')), some (String.ofList value))
  | [] => (String.ofList cs, none)

/-- Reads the characters of a long option behind its dashes. -/
def readLong (argument : String) (o : Options) (cs : List Char) : Except OptionError Request :=
  match splitLong cs with
  | ("demo", none) => o.setDemo.map .options
  | ("verbose", none) => o.setVerbose.map .options
  | ("version", none) => .ok .version
  | ("execute", none) => .ok (.value o .statement)
  | ("prompt", none) => .ok (.value o .prompt)
  | ("execute", some value) => (o.setValue .statement value).map .options
  | ("prompt", some value) => (o.setValue .prompt value).map .options
  | _ => .error (.unexpected argument)

/-- Reads one argument. -/
def readArgument (o : Options) (argument : String) : Except OptionError Request :=
  match argument.toList with
  | ['-', '-'] => .ok .endOfOptions
  | '-' :: '-' :: cs => readLong argument o cs
  | '-' :: c :: cs => readShort argument o (c :: cs)
  | _ => .error (.unexpected argument)

/-- Reads the arguments from the left. -/
def readArguments (o : Options) : List String → Except OptionError Invocation
  | [] => .ok (.run o)
  | argument :: rest =>
    match readArgument o argument with
    | .error e => .error e
    | .ok .version => .ok .version
    | .ok (.options o) => readArguments o rest
    | .ok .endOfOptions =>
      match rest with
      | [] => .ok (.run o)
      | extra :: _ => .error (.unexpected extra)
    | .ok (.value o option) =>
      match rest with
      | [] => .error (.missingValue option.name)
      | value :: rest =>
        if isValue value then
          match o.setValue option value with
          | .ok o => readArguments o rest
          | .error e => .error e
        else .error (.missingValue option.name)

/-- What the arguments of a run ask for. -/
def ofArguments (arguments : List String) : Except OptionError Invocation :=
  readArguments {} arguments

end Options

end RelStore
