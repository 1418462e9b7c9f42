import HubRoutes.Chain
import HubRoutes.Text.Terminal

/-!
# The command line

The arguments of the program: at most one hub chain, or a wish for help or for the version. They are
read from left to right; what stops the reading first decides.
-/

namespace HubRoutes.CommandLine

open Text.Terminal (Part)

inductive Request
  | compile (hub : Option ChainId)
  | help
  | version
deriving DecidableEq

inductive NumberFault
  | empty
  | badDigit
  | tooLarge
deriving DecidableEq

inductive Fault
  | unexpectedArgument (argument : String)
  | unexpectedValue (value option : String)
  | invalidValue (value : String) (reason : NumberFault)
deriving DecidableEq

def NumberFault.message : NumberFault → String
  | .empty => "cannot parse integer from empty string"
  | .badDigit => "invalid digit found in string"
  | .tooLarge => "number too large to fit in target type"

def Fault.message : Fault → List Part
  | .unexpectedArgument argument =>
    [⟨.alarm, "error:"⟩, ⟨.ordinary, " unexpected argument '"⟩, ⟨.mistake, argument⟩,
      ⟨.ordinary, "' found\n"⟩]
  | .unexpectedValue value option =>
    [⟨.alarm, "error:"⟩, ⟨.ordinary, " unexpected value '"⟩, ⟨.mistake, value⟩,
      ⟨.ordinary, "' for '"⟩, ⟨.literal, option⟩,
      ⟨.ordinary, "' found; no more were expected\n"⟩]
  | .invalidValue value reason =>
    [⟨.alarm, "error:"⟩, ⟨.ordinary, " invalid value '"⟩, ⟨.mistake, value⟩,
      ⟨.ordinary, "' for '"⟩, ⟨.literal, "[HUB_CHAIN_ID]"⟩,
      ⟨.ordinary, "': " ++ reason.message ++ "\n"⟩]

def helpText : List Part :=
  [⟨.ordinary, "Compile the declarative route spec into a validated route table\n\n"⟩,
    ⟨.heading, "Usage:"⟩, ⟨.ordinary, " "⟩, ⟨.literal, "route-compiler"⟩,
    ⟨.ordinary, " [HUB_CHAIN_ID]\n\n"⟩,
    ⟨.heading, "Arguments:"⟩,
    ⟨.ordinary, "\n  [HUB_CHAIN_ID]  Hub chain to compile routes for "⟩,
    ⟨.ordinary, "(defaults to ROUTEGEN_HUB_CHAIN_ID, then 1)\n\n"⟩,
    ⟨.heading, "Options:"⟩, ⟨.ordinary, "\n  "⟩,
    ⟨.literal, "-h"⟩, ⟨.ordinary, ", "⟩, ⟨.literal, "--help"⟩,
    ⟨.ordinary, "     Print help\n  "⟩,
    ⟨.literal, "-V"⟩, ⟨.ordinary, ", "⟩, ⟨.literal, "--version"⟩,
    ⟨.ordinary, "  Print version\n"⟩]

def versionText : List Part := [⟨.ordinary, "route-compiler 0.1.0\n"⟩]

/-! ## Numbers -/

/-- Reads the digits of a chain's number behind a value. The first digit with which the number is
too large ends the reading. -/
def readDigits : Nat → List Char → Except NumberFault ChainId
  | value, [] =>
    match ChainId.ofNat? value with
    | some chain => .ok chain
    | none => .error .tooLarge
  | value, character :: rest =>
    match Text.Numeral.digitValue? 10 character with
    | none => .error .badDigit
    | some digit =>
      let value' := 10 * value + digit
      if value' < UInt64.size then readDigits value' rest else .error .tooLarge

/-- Reads the number of a chain, with an optional plus sign. -/
def readChain : List Char → Except NumberFault ChainId
  | [] => .error .empty
  | ['+'] => .error .badDigit
  | '+' :: digits => readDigits 0 digits
  | digits => readDigits 0 digits

/-- Reads the value that was given for the hub chain, if one was. -/
def readHub : Option String → Except Fault (Option ChainId)
  | none => .ok none
  | some value =>
    match readChain value.toList with
    | .ok chain => .ok (some chain)
    | .error reason => .error (.invalidValue value reason)

/-! ## Arguments -/

inductive Argument
  | separator
  | long (name : List Char) (value : Option (List Char))
  | short (letter : Char)
  | value (text : String)
deriving DecidableEq

/-- What a single argument is before the separator. Of several short options in one argument the
first one decides, for none of them leaves anything to the next. -/
def Argument.ofText (text : String) : Argument :=
  match text.toList with
  | ['-', '-'] => .separator
  | '-' :: '-' :: option =>
    .long (option.takeWhile (· != '=')) (option.dropWhile (· != '=')).tail?
  | '-' :: letter :: _ => .short letter
  | _ => .value text

/-- The request that an option makes, by its long or its short name. -/
def requestOf? (name : String) : Option Request :=
  if name = "--help" ∨ name = "-h" then some .help
  else if name = "--version" ∨ name = "-V" then some .version
  else none

/-- Follows an option. A value that was given before has to be a number even if it is not needed. -/
def follow (given : Option String) (name : String) (attached : Option (List Char)) :
    Except Fault Request :=
  match requestOf? name, attached with
  | none, _ => .error (.unexpectedArgument name)
  | some _, some value => .error (.unexpectedValue (String.ofList value) name)
  | some request, none => (readHub given).map fun _ ↦ request

/-- Reads the arguments behind the separator: all of them are values. -/
def readValues (given : Option String) : List String → Except Fault Request
  | [] => (readHub given).map .compile
  | value :: rest =>
    match given with
    | none => readValues (some value) rest
    | some _ => .error (.unexpectedArgument value)

/-- Reads the arguments, given the value before them. -/
def readArguments (given : Option String) : List String → Except Fault Request
  | [] => (readHub given).map .compile
  | argument :: rest =>
    match Argument.ofText argument with
    | .separator => readValues given rest
    | .long name attached => follow given ("--" ++ String.ofList name) attached
    | .short letter => follow given (String.ofList ['-', letter]) none
    | .value value =>
      match given with
      | none => readArguments (some value) rest
      | some _ => .error (.unexpectedArgument value)

def read (arguments : List String) : Except Fault Request := readArguments none arguments

end HubRoutes.CommandLine
