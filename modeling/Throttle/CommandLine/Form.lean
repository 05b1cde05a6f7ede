import Throttle.Decimal

/-!
# Forms of command lines

A `Form` says which options a command takes.  `Form.read` reads the options at the start of a
command line: it stops where a word is no option, where help or the version is asked for, and where
the options are misused, whichever comes first.  `Form.help` is the text that explains the form.

Every option takes a value: behind `=`, behind the letter of a short option, or as the next word,
which then must not look like an option.
-/

namespace Throttle.CommandLine

/-- An option, with a value. -/
structure Parameter where
  /-- Its letter behind one hyphen. -/
  short : Option Char := none
  /-- Its name behind two hyphens. -/
  long : String
  about : String := ""
  default : Option String := none
  required : Bool := false
  /-- Whether a text is a value of it. -/
  accepts : String → Bool := fun _ => true

/-- How a command line cannot be used. -/
inductive Misuse
  | unknownWord (word : String)
  | unknownCommand (name : String)
  | noCommand
  /-- The option, where its value is missing. -/
  | noValue (option : String)
  | badValue (option value : String)
  /-- A value is attached to a word that takes none. -/
  | needlessValue (word : String)
  | repeated (option : String)
  | missing (option : String)
  deriving DecidableEq, Repr

def Misuse.message : Misuse → String
  | unknownWord word => "unexpected argument '" ++ word ++ "' found"
  | unknownCommand name => "unrecognized subcommand '" ++ name ++ "'"
  | noCommand => "a subcommand is required but one was not provided"
  | noValue option => "a value is required for '" ++ option ++ "' but none was supplied"
  | badValue option value => "invalid value '" ++ value ++ "' for '" ++ option ++ "'"
  | needlessValue word => "unexpected value for '" ++ word ++ "' found; no more were expected"
  | repeated option => "the argument '" ++ option ++ "' cannot be used multiple times"
  | missing option => "the required argument '" ++ option ++ "' was not provided"

/-- Why a command line is not carried out. -/
inductive Stop
  /-- It only asks for a text. -/
  | shown (text : String)
  | misused (misuse : Misuse)
  deriving DecidableEq, Repr

namespace Parameter

/-- How the value of an option is written in explanations. -/
def placeholder (p : Parameter) : String := "<" ++ p.long.map Char.toUpper ++ ">"

/-- An option with its value, as explanations and messages write it. -/
def usage (p : Parameter) : String := "--" ++ p.long ++ " " ++ p.placeholder

/-- How an option starts a row of an explanation. -/
def heading (p : Parameter) : String :=
  (match p.short with
    | some c => "-" ++ String.singleton c ++ ", "
    | none => "    ") ++ p.usage

/-- What a row of an explanation says about an option. -/
def remark (p : Parameter) : String :=
  match p.default with
  | some value => p.about ++ " [default: " ++ value ++ "]"
  | none => p.about

end Parameter

/-- The options that were given, by their names, with their values. -/
abbrev Given : Type := List (String × String)

/-- The options of a command. -/
structure Form where
  /-- What is written before the options. -/
  name : String
  about : String
  parameters : List Parameter
  /-- The version that can be asked for. -/
  version : Option String := none
  /-- The commands that follow the options, and what they do. -/
  commands : List (String × String) := []

namespace Form

/-! ## Help -/

def padded (width : Nat) (text : String) : String :=
  text ++ "".pushn ' ' (width - text.length)

/-- Rows with a heading and a remark each, in two columns. -/
def rows (entries : List (String × String)) : String :=
  let width := (entries.map fun entry => entry.1.length).foldl max 0
  String.join (entries.map fun (heading, remark) =>
    "  " ++ padded (width + 2) heading ++ remark ++ "\n")

def optionRows (form : Form) : List (String × String) :=
  form.parameters.map (fun p => (p.heading, p.remark)) ++ [("-h, --help", "Print help")] ++
    (form.version.map fun _ => ("-V, --version", "Print version")).toList

def usage (form : Form) : String :=
  let required := (form.parameters.filter (·.required)).map fun p => " " ++ p.usage
  let command := if form.commands.isEmpty then "" else " <COMMAND>"
  "Usage: " ++ form.name ++ " [OPTIONS]" ++ String.join required ++ command

def help (form : Form) : String :=
  let commands := if form.commands.isEmpty then "" else "Commands:\n" ++ rows form.commands ++ "\n"
  form.about ++ "\n\n" ++ form.usage ++ "\n\n" ++ commands ++ "Options:\n" ++ rows form.optionRows

/-! ## Words -/

/-- What a word of a command line is. -/
inductive Word
  /-- An option, with its value where that is attached. -/
  | option (p : Parameter) (value : Option String)
  | help
  | version
  /-- The end of the options. -/
  | ending
  /-- No option at all. -/
  | plain
  | misused (misuse : Misuse)

def longWord (form : Form) (word : String) (body : List Char) : Word :=
  let (name, behind) := body.span (· != '=')
  let value := behind.tail?.map String.ofList
  match form.parameters.find? fun p => p.long.toList == name with
  | some p => .option p value
  | none =>
    if name == "help".toList then
      if value.isSome then .misused (.needlessValue "--help") else .help
    else if name == "version".toList && form.version.isSome then
      if value.isSome then .misused (.needlessValue "--version") else .version
    else .misused (.unknownWord word)

/-- The word behind one hyphen: the letter of an option, and its value where more follows. -/
def shortWord (form : Form) (word : String) (letter : Char) (behind : List Char) : Word :=
  match form.parameters.find? fun p => p.short == some letter with
  | some p =>
    match behind with
    | [] => .option p none
    | '=' :: value => .option p (some (String.ofList value))
    | value => .option p (some (String.ofList value))
  | none =>
    if letter == 'h' then .help
    else if letter == 'V' && form.version.isSome then .version
    else .misused (.unknownWord word)

def classify (form : Form) (word : String) : Word :=
  match word.toList with
  | ['-', '-'] => .ending
  | '-' :: '-' :: body => form.longWord word body
  | '-' :: letter :: behind => form.shortWord word letter behind
  | _ => .plain

/-- A word that cannot be the value of the option before it. -/
def looksLikeOption (word : String) : Bool := word.startsWith "-" && word != "-"

/-- Takes note of an option.  No option may be given twice. -/
def note (p : Parameter) (value : String) (given : Given) : Except Stop Given :=
  -- A value is checked at once, so that a bad one wins over a call for help behind it.
  if !p.accepts value then .error (.misused (.badValue p.usage value))
  else if (given.lookup p.long).isSome then .error (.misused (.repeated p.usage))
  else .ok (given ++ [(p.long, value)])

/-- Reads the options at the start of a command line, and gives the words behind them.  Behind the
    mark that ends the options no word is of any use. -/
def read (form : Form) : List String → Given → Except Stop (Given × List String)
  | [], given => .ok (given, [])
  | word :: rest, given =>
    match form.classify word with
    | .plain => .ok (given, word :: rest)
    | .help => .error (.shown form.help)
    | .version => .error (.shown (form.version.getD ""))
    | .misused misuse => .error (.misused misuse)
    | .ending =>
      match rest with
      | [] => .ok (given, [])
      | word :: _ => .error (.misused (.unknownWord word))
    | .option p (some value) => do form.read rest (← note p value given)
    | .option p none =>
      match rest with
      | [] => .error (.misused (.noValue p.usage))
      | value :: rest =>
        -- A hyphen alone is a value, since it often stands for a stream.
        if looksLikeOption value then .error (.misused (.noValue p.usage))
        else do form.read rest (← note p value given)

/-- Reads a command line that holds nothing but options, and all that are required. -/
def readAll (form : Form) (words : List String) : Except Stop Given := do
  match ← form.read words [] with
  | (_, word :: _) => throw (.misused (.unknownWord word))
  | (given, []) =>
    match form.parameters.find? fun p => p.required && (given.lookup p.long).isNone with
    | some p => throw (.misused (.missing p.usage))
    | none => return given

end Form

end Throttle.CommandLine
