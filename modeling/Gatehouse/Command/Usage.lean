import Gatehouse.Role
import Gatehouse.Text.Integer
import Gatehouse.Text.Terminal

/-!
# Options of a command line

What an option of the command line is: its names, the kind of value it takes, the variable of the
environment that stands in for it and its standard value; and all that can be wrong with the
arguments of a command, with the wording of each fault.
-/

namespace Gatehouse.Command

/-- The kinds of value that an option takes. -/
inductive ValueKind where
  /-- Any text. -/
  | text
  /-- The path of a file, which is not empty. -/
  | path
  /-- A whole number of 64 bits. -/
  | long
  /-- A whole number of 32 bits. -/
  | short
  /-- A staff role, in any letter case. -/
  | role
  deriving DecidableEq, Repr

/-- A value that was given. -/
inductive Value where
  /-- A text. -/
  | text (value : String)
  /-- A whole number. -/
  | number (value : Nat)
  /-- A staff role. -/
  | role (value : Role)
  /-- Nothing but that the option was given. -/
  | mark
  deriving DecidableEq, Repr

/-- What is wrong with a value. -/
inductive ValueFault where
  /-- There is none. -/
  | missing
  /-- It cannot be read. -/
  | invalid (detail : String)
  deriving DecidableEq, Repr

/-- The largest whole number of 32 bits. -/
def largestShort : Nat := 0xFFFFFFFF

/-- Reads a whole number of 32 bits: as one of 64 bits with a sign, which has to lie in range. -/
def readShort (text : String) : Except String Value :=
  match Text.signed 0x8000000000000000 0x7FFFFFFFFFFFFFFF text with
  | .error fault => .error fault.message
  | .ok value =>
    if 0 ≤ value ∧ value ≤ largestShort then .ok (.number value.toNat)
    else .error (toString value ++ " is not in 0..=" ++ toString largestShort)

/-- Reads a value of a kind. -/
def ValueKind.read (kind : ValueKind) (text : String) : Except ValueFault Value :=
  match kind with
  | .text => .ok (.text text)
  | .path => if text.isEmpty then .error .missing else .ok (.text text)
  | .long =>
    match Text.natural 0xFFFFFFFFFFFFFFFF text with
    | .ok value => .ok (.number value)
    | .error fault => .error (.invalid fault.message)
  | .short => (readShort text).mapError .invalid
  | .role =>
    match Role.ofName? text with
    | some value => .ok (.role value)
    | none => .error (.invalid ("unknown role: " ++ text))

/-- What giving an option does. -/
inductive Effect where
  /-- It sets a value. -/
  | value (kind : ValueKind)
  /-- It sets a mark. -/
  | mark
  /-- It asks for help. -/
  | help
  /-- It asks for the version. -/
  | version
  deriving DecidableEq, Repr

/-- An option. -/
structure Switch where
  /-- Its name, which stands behind two dashes. -/
  name : String
  /-- Its letter, which stands behind one dash. -/
  letter : Option Char := none
  /-- What giving it does. -/
  effect : Effect
  /-- The variable of the environment that stands in for it. -/
  stand : Option String := none
  /-- The value it has when it is not given. -/
  standard : Option String := none
  /-- Whether it has to be given. -/
  isRequired : Bool := false
  deriving DecidableEq, Repr

/-- The name of a value in upper case and with underscores. -/
def placeholder (name : String) : String :=
  let letters := name.toList.map (fun c => if c = '-' then '_' else c.toUpper)
  "<" ++ String.ofList letters ++ ">"

/-- How an option is written. -/
def Switch.usage (switch : Switch) : String :=
  match switch.effect with
  | .value _ => "--" ++ switch.name ++ " " ++ placeholder switch.name
  | _ => "--" ++ switch.name

/-- What is wrong with the arguments of a command, or what they ask for instead of a command. -/
inductive Fault where
  /-- They ask for help. -/
  | help
  /-- They ask for the version. -/
  | version
  /-- There is nothing to go on. -/
  | nothing
  /-- There is no command. -/
  | noCommand (known : List String)
  /-- There is no such command. -/
  | unknownCommand (name : String)
  /-- There is no such option, or nothing more is taken. -/
  | unexpected (argument : String)
  /-- Something that has to be given is not. -/
  | required (usages : List String)
  /-- An option is given twice. -/
  | repeated (usage : String)
  /-- An option that takes a value has none. -/
  | noValue (usage : String)
  /-- An option that takes no value has one. -/
  | surplusValue (value usage : String)
  /-- A value cannot be read. -/
  | invalidValue (value usage detail : String)
  deriving DecidableEq, Repr

/-- The name of the program. -/
def programName : String := "salon-auth"

/-- The version of the program. -/
def programVersion : String := "0.1.0"

/-- The complaint about a fault as a terminal is sent it, with what was given set off. -/
def Fault.complaint : Fault → String
  | help => ""
  | version => ""
  | nothing => ""
  | noCommand known =>
    "'" ++ Text.setOff programName ++ "' requires a subcommand but one was not provided\n" ++
      "  [subcommands: " ++ String.intercalate ", " (known.map Text.setOff) ++ "]"
  | unknownCommand name => "unrecognized subcommand '" ++ Text.setOff name ++ "'"
  | unexpected argument => "unexpected argument '" ++ Text.setOff argument ++ "' found"
  | required usages =>
    "the following required arguments were not provided:" ++
      String.join (usages.map (fun usage => "\n  " ++ Text.setOff usage))
  | repeated usage => "the argument '" ++ Text.setOff usage ++ "' cannot be used multiple times"
  | noValue usage =>
    "a value is required for '" ++ Text.setOff usage ++ "' but none was supplied"
  | surplusValue value usage =>
    "unexpected value '" ++ Text.setOff value ++ "' for '" ++ Text.setOff usage ++
      "' found; no more were expected"
  | invalidValue value usage detail =>
    "invalid value '" ++ Text.setOff value ++ "' for '" ++ Text.setOff usage ++ "': " ++ detail

/-- The wording of a fault, without anything that only a terminal understands. A hint at the help
follows a complaint in a paragraph of its own. -/
def Fault.message (fault : Fault) : String :=
  match fault with
  | help => ""
  | version => programName ++ " " ++ programVersion
  | nothing => ""
  | fault =>
    Text.plain (Text.setOff "error:" ++ " " ++ fault.complaint ++
      "\n\nFor more information, try '" ++ Text.setOff "--help" ++ "'.")

/-- Whether a fault is an answer rather than a complaint. -/
def Fault.isAnswer : Fault → Bool
  | help => true
  | version => true
  | _ => false

end Gatehouse.Command
