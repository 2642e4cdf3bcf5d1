import Gatehouse.Command.Usage
import Gatehouse.Sql.Settings

/-!
# Reading arguments

Arguments are read from left to right against the options, operands and commands that a place
knows. The value of an option may stand in the same argument or in the next, and is read only when
the argument after it is taken up; so a fault of that argument counts first when it is not known.
After all arguments the environment stands in for options that were not given, and then the standard
values do.
-/

namespace Gatehouse.Command

/-- What a place of the command line knows. -/
structure Place where
  /-- The options, in the order in which the environment is asked for them. -/
  switches : List Switch
  /-- The names of the operands, all of which are taken in order. -/
  operands : List String := []
  /-- How many of the operands have to be given. -/
  required : Nat := 0
  /-- The commands. -/
  commands : List String := []

/-- Where a value comes from, in ascending order of weight. -/
inductive Source where
  /-- It is the standard value. -/
  | standard
  /-- It stands in the environment. -/
  | environment
  /-- It was given. -/
  | arguments
  deriving DecidableEq, Repr

/-- The weight of a source. -/
def Source.weight : Source → Nat
  | standard => 0
  | environment => 1
  | arguments => 2

/-- The value of an option. -/
structure Found where
  /-- The option's name. -/
  name : String
  /-- Where the value comes from. -/
  source : Source
  /-- The value. -/
  value : Value
  deriving DecidableEq, Repr

/-- How far the arguments have been read. -/
structure Progress where
  /-- The values of options. -/
  found : List Found := []
  /-- The operands. -/
  operands : List String := []
  /-- The option that was taken up last, with its value if that was met. -/
  pending : Option (Switch × Option String) := none
  /-- Whether everything that comes is an operand. -/
  onlyOperands : Bool := false
  deriving DecidableEq

namespace Progress

/-- Whether the next argument may be the value of an option. -/
def isExpecting (progress : Progress) : Bool :=
  !progress.onlyOperands &&
    match progress.pending with
    | some (_, none) => true
    | _ => false

/-- The value of an option. -/
def value? (progress : Progress) (name : String) : Option Found :=
  progress.found.find? (fun found => found.name == name)

/-- Sets the value of an option. -/
def put (progress : Progress) (switch : Switch) (source : Source) (value : Value) : Progress :=
  { progress with found := progress.found ++ [⟨switch.name, source, value⟩] }

/-- Reads and sets the value of an option. -/
def read (progress : Progress) (switch : Switch) (source : Source) (text : String) :
    Except Fault Progress :=
  match switch.effect with
  | .value kind =>
    match kind.read text with
    | .ok value => .ok (progress.put switch source value)
    | .error .missing => .error (.noValue switch.usage)
    | .error (.invalid detail) => .error (.invalidValue text switch.usage detail)
  | _ => .ok (progress.put switch source .mark)

/-- Takes in an option that was given, with the text of its value. -/
def give (progress : Progress) (switch : Switch) (text : String) : Except Fault Progress :=
  if (progress.value? switch.name).isSome then .error (.repeated switch.usage)
  else progress.read switch .arguments text

/-- Takes in the option that was taken up last. -/
def settle (progress : Progress) : Except Fault Progress :=
  let settled := { progress with pending := none }
  match progress.pending with
  | none => .ok settled
  | some (switch, none) => .error (.noValue switch.usage)
  | some (switch, some text) => settled.give switch text

/-- Takes up an option with the value in the same argument, if there is one. -/
def takeUp (progress : Progress) (switch : Switch) (attached : Option String) :
    Except Fault Progress :=
  match switch.effect, attached with
  | .value _, some text => do (← progress.settle).give switch text
  | .value _, none => do return { ← progress.settle with pending := some (switch, none) }
  | _, some text => .error (.surplusValue text switch.usage)
  | .mark, none => do (← progress.settle).give switch ""
  | .help, none => do
    discard progress.settle
    .error .help
  | .version, none => do
    discard progress.settle
    .error .version

end Progress

namespace Place

/-- Takes up an option given by its name, without the two dashes. -/
def takeName (place : Place) (progress : Progress) (body : List Char) : Except Fault Progress :=
  let (name, attached) := Text.halves '=' body
  match place.switches.find? (fun switch => switch.name == name) with
  | none => .error (.unexpected ("--" ++ name))
  | some switch => progress.takeUp switch attached

/-- Takes up options given by their letters, without the dash. What follows the letter of an option
that takes a value is its value, with or without an equals sign. -/
def takeLetters (place : Place) : Progress → List Char → Except Fault Progress
  | progress, [] => .ok progress
  | progress, letter :: rest =>
    match place.switches.find? (fun switch => switch.letter == some letter) with
    | none => .error (.unexpected ("-" ++ String.singleton letter))
    | some switch =>
      match switch.effect, rest with
      | .value _, [] => progress.takeUp switch none
      | .value _, '=' :: value => progress.takeUp switch (some (String.ofList value))
      | .value _, value => progress.takeUp switch (some (String.ofList value))
      | _, rest => do place.takeLetters (← progress.takeUp switch none) rest

/-- Takes an operand, or says that it is one too many. -/
def takeOperand (place : Place) (progress : Progress) (argument : String) :
    Except Fault Progress :=
  if progress.operands.length < place.operands.length then do
    let progress ← progress.settle
    return { progress with operands := progress.operands ++ [argument] }
  else if place.commands.isEmpty then .error (.unexpected argument)
  else if progress.onlyOperands && place.commands.contains argument then
    .error (.unexpected argument)
  else .error (.unknownCommand argument)

/-- Takes an argument that is no command. -/
def take (place : Place) (progress : Progress) (argument : String) : Except Fault Progress :=
  if progress.onlyOperands then place.takeOperand progress argument
  else
    match argument.toList, progress.pending with
    | ['-', '-'], _ => .ok { progress with onlyOperands := true }
    | '-' :: '-' :: body, _ => place.takeName progress body
    | '-' :: letter :: rest, _ => place.takeLetters progress (letter :: rest)
    | _, some (switch, none) => .ok { progress with pending := some (switch, some argument) }
    | _, _ => place.takeOperand progress argument

/-- Reads arguments up to a command, and gives the command with the arguments behind it. -/
def readArguments (place : Place) :
    Progress → List String → Except Fault (Progress × Option (String × List String))
  | progress, [] => .ok (progress, none)
  | progress, argument :: rest =>
    if !progress.onlyOperands && !progress.isExpecting && place.commands.contains argument then
      .ok (progress, some (argument, rest))
    else do place.readArguments (← place.take progress argument) rest

/-- Lets the environment stand in for options that were not given. -/
def askEnvironment (environment : Environment) :
    List Switch → Progress → Except Fault Progress
  | [], progress => .ok progress
  | switch :: rest, progress => do
    match switch.stand.bind environment with
    | some text =>
      if (progress.value? switch.name).isSome then askEnvironment environment rest progress
      else askEnvironment environment rest (← progress.read switch .environment text)
    | none => askEnvironment environment rest progress

/-- Lets the standard values stand in for options that are not set. -/
def askStandards : List Switch → Progress → Except Fault Progress
  | [], progress => .ok progress
  | switch :: rest, progress => do
    match switch.standard with
    | some text =>
      if (progress.value? switch.name).isSome then askStandards rest progress
      else askStandards rest (← progress.read switch .standard text)
    | none => askStandards rest progress

/-- Finishes reading: the last option is taken in, and what was not given is made up for. -/
def finish (place : Place) (environment : Environment) (progress : Progress) :
    Except Fault Progress := do
  let progress ← progress.settle
  let progress ← askEnvironment environment place.switches progress
  askStandards place.switches progress

/-- How that which has to be given and is not is written. -/
def missing (place : Place) (progress : Progress) : List String :=
  let switches := place.switches.filter (fun switch =>
    switch.isRequired && (progress.value? switch.name).isNone)
  let operands := (place.operands.take place.required).drop progress.operands.length
  switches.map Switch.usage ++ operands.map placeholder

/-- Reads all arguments of a place without commands. -/
def readAll (place : Place) (environment : Environment) (arguments : List String) :
    Except Fault Progress := do
  let (progress, _) ← place.readArguments {} arguments
  let progress ← place.finish environment progress
  match place.missing progress with
  | [] => return progress
  | usages => throw (.required usages)

end Place

end Gatehouse.Command
