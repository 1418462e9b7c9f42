import HubRoutes.Number.Layout
import HubRoutes.Number.Literal
import HubRoutes.Schema.Fault
import HubRoutes.Yaml.Tree

/-!
# The values of scalars

What a scalar is when nothing is known about its type. A plain scalar may be null, a flag, a whole
number, a floating-point number or a text; every other scalar is a text unless a tag says otherwise.
Whole numbers have up to 128 bits and may be written in base ten, sixteen, eight or two; a decimal
number with a leading zero is a text.
-/

namespace HubRoutes.Yaml

open Number (Binary64 Literal)
open Schema (Cause Found)

/-- The value of a scalar. Numbers beyond sixty-four bits are kept apart. -/
inductive Scalar
  | null
  | flag (value : Bool)
  | natural (value : Nat)
  | integer (value : Int)
  | wideNatural (value : Nat)
  | wideInteger (value : Int)
  | real (value : Binary64)
  | text (content : List Char)

namespace Scalar

/-! ## Plain scalars -/

def isNullWord (content : List Char) : Bool :=
  ["null", "Null", "NULL", "~"].contains (String.ofList content)

def readFlag? (content : List Char) : Option Bool :=
  let word := String.ofList content
  if ["true", "True", "TRUE"].contains word then some true
  else if ["false", "False", "FALSE"].contains word then some false
  else none

def dropSign (content : List Char) : List Char := (Literal.splitSign content).2

/-- Whether a scalar consists of more than one digit and starts with zero, after a sign. -/
def hasLeadingZero (content : List Char) : Bool :=
  match dropSign content with
  | '0' :: digit :: rest => (digit :: rest).all Text.Numeral.isDigit
  | _ => false

/-- Reads the digits of a number with the mark of its base. -/
def readDigits? : List Char → Option Nat
  | '0' :: 'x' :: digits => Text.Numeral.read? 16 digits
  | '0' :: 'o' :: digits => Text.Numeral.read? 8 digits
  | '0' :: 'b' :: digits => Text.Numeral.read? 2 digits
  | digits => if hasLeadingZero digits then none else Text.Numeral.read? 10 digits

def readNatural? : List Char → Option Nat
  | '+' :: digits => readDigits? digits
  | digits => readDigits? digits

/-- Reads a number with a minus sign, without the sign. -/
def readNegative? : List Char → Option Nat
  | '-' :: digits => readDigits? digits
  | _ => none

def readReal? (content : List Char) : Option Binary64 :=
  let word := String.ofList content
  if [".inf", ".Inf", ".INF", "+.inf", "+.Inf", "+.INF"].contains word then some (.infinite false)
  else if ["-.inf", "-.Inf", "-.INF"].contains word then some (.infinite true)
  else if [".nan", ".NaN", ".NAN"].contains word then some .notANumber
  else
    match (Literal.read? content).map Literal.toBinary64 with
    | some (.finite negative magnitude) => some (.finite negative magnitude)
    | _ => none

/-- Reads a whole number of at most 128 bits. -/
def readInteger? (content : List Char) : Option Scalar :=
  match readNatural? content with
  | some value =>
    if value < UInt64.size then some (.natural value)
    else if value < Number.twoTo 128 then some (.wideNatural value)
    else none
  | none =>
    match readNegative? content with
    | some value =>
      if value ≤ Number.twoTo 63 then some (.integer (-(value : Int)))
      else if value ≤ Number.twoTo 127 then some (.wideInteger (-(value : Int)))
      else none
    | none => none

def ofPlain (content : List Char) : Scalar :=
  if content.isEmpty || isNullWord content then .null
  else
    match readFlag? content with
    | some value => .flag value
    | none =>
      match readInteger? content with
      | some value => value
      | none =>
        if hasLeadingZero content then .text content
        else
          match readReal? content with
          | some value => .real value
          | none => .text content

/-! ## Tagged scalars -/

def nullTag : Tag := Tag.ofAscii "tag:yaml.org,2002:null".toList

def flagTag : Tag := Tag.ofAscii "tag:yaml.org,2002:bool".toList

def integerTag : Tag := Tag.ofAscii "tag:yaml.org,2002:int".toList

def realTag : Tag := Tag.ofAscii "tag:yaml.org,2002:float".toList

/-- Whether a tag is local to the document: it starts with an exclamation mark. -/
def isLocal (tag : Tag) : Bool := tag.head? == some '!'.toUInt8

/-- Whether a tag names something: it is local to the document and its octets are a text. -/
def isName (tag : Tag) : Bool := isLocal tag && (String.fromUTF8? ⟨tag.toArray⟩).isSome

/-- The value that a tag asks for, or the fault that the scalar is no such value. -/
def demand (content : List Char) (expected : String) : Option Scalar → Except Cause Scalar
  | some value => .ok value
  | none => .error (.wrongValue (.text (String.ofList content)) expected)

/-- The value of a scalar with its tag and style. -/
def read (tag : Option Tag) (content : List Char) (style : Style) : Except Cause Scalar :=
  match tag with
  | none => .ok (if style = .plain then ofPlain content else .text content)
  | some tag =>
    if tag = flagTag then demand content "a boolean" ((readFlag? content).map .flag)
    else if tag = integerTag then demand content "an integer" (readInteger? content)
    else if tag = realTag then demand content "a float" ((readReal? content).map .real)
    else if tag = nullTag then
      demand content "null" (if isNullWord content then some .null else none)
    else .ok (if isLocal tag ∧ style = .plain then ofPlain content else .text content)

/-- What a value is, where something else was expected. -/
def found : Scalar → Found
  | .null => .unit
  | .flag value => .flag value
  | .natural value => .integer value
  | .integer value => .integer value
  | .wideNatural value => .wideUnsigned value
  | .wideInteger value => .wideSigned value
  | .real value => .real value.positionalWithPoint
  | .text content => .text (String.ofList content)

end Scalar

end HubRoutes.Yaml
