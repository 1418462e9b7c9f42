/-!
# Texts for terminals

A text for a terminal consists of parts that look differently. It is written with the control
sequences that switch the looks on and off, or, where these are not wanted, as what a terminal would
show of it. Control sequences may also stand in the parts themselves, for instance where a part
quotes what somebody typed; then they are obeyed or left out like all others.
-/

namespace HubRoutes.Text.Terminal

/-! ## Looks -/

inductive Look
  | ordinary
  | alarm
  | mistake
  | literal
  | heading
deriving DecidableEq

structure Part where
  look : Look
  content : String
deriving DecidableEq

/-- The control sequences that switch a look on. -/
def Look.start : Look → String
  | .ordinary => ""
  | .alarm => "\x1b[1m\x1b[31m"
  | .mistake => "\x1b[33m"
  | .literal => "\x1b[1m"
  | .heading => "\x1b[1m\x1b[4m"

/-- The control sequence that switches a look off. -/
def Look.stop : Look → String
  | .ordinary => ""
  | _ => "\x1b[0m"

def Part.coloured (part : Part) : String := part.look.start ++ part.content ++ part.look.stop

def coloured (parts : List Part) : String := String.join (parts.map Part.coloured)

/-! ## What is shown -/

/-- What a terminal expects next: text, or the rest of a control sequence of some form. An escape
may be followed by a few further characters or open a sequence of parameters; a command and a string
have contents that are never shown, and a bell ends a command. -/
inductive State
  | text
  | escape
  | intermediate
  | parameters
  | command
  | string
deriving DecidableEq

/-- Whether a control character moves the place of writing: a tab or the end of a line or page. -/
def isSpacing (character : Char) : Bool := ['\t', '\n', '\x0c', '\r'].contains character

namespace State

/-- What is expected behind a character. A spacing control and any character beyond ASCII cut a
control sequence short. -/
def next (state : State) (character : Char) : State :=
  let code := character.toNat
  if 0x80 ≤ code then .text
  else if character = '\x1b' then .escape
  else if character = '\x18' ∨ character = '\x1a' then .text
  else
    match state with
    | .text => .text
    | .escape =>
      if isSpacing character then .text
      else if code < 0x20 ∨ code = 0x7F then .escape
      else if code < 0x30 then .intermediate
      else if character = '[' then .parameters
      else if character = ']' then .command
      else if ['P', 'X', '^', '_'].contains character then .string
      else .text
    | .intermediate =>
      if isSpacing character then .text
      else if code < 0x30 ∨ code = 0x7F then .intermediate
      else .text
    | .parameters =>
      if isSpacing character then .text
      else if code < 0x40 ∨ code = 0x7F then .parameters
      else .text
    | .command => if character = '\x07' then .text else .command
    | .string => .string

/-- What is shown of a character. Of a character beyond ASCII that cuts a control sequence short the
first octet is lost, and each of the others is shown as a broken character. -/
def shown (state : State) (character : Char) : List Char :=
  let code := character.toNat
  if 0x80 ≤ code then
    if state = .text then [character] else List.replicate (character.utf8Size - 1) '\ufffd'
  else
    match state with
    | .text => if isSpacing character ∨ (0x20 ≤ code ∧ code < 0x7F) then [character] else []
    | .escape | .intermediate | .parameters => if isSpacing character then [character] else []
    | .command | .string => []

/-- What is shown of a text, given what is expected in front of it. -/
def display : State → List Char → List Char
  | _, [] => []
  | state, character :: rest => state.shown character ++ (state.next character).display rest

/-- Text of visible characters is shown as it is. -/
theorem display_text {content : List Char}
    (hvisible : ∀ character ∈ content, 0x20 ≤ character.toNat ∧ character.toNat ≠ 0x7F) :
    State.text.display content = content := by
  induction content with
  | nil => rfl
  | cons character rest ih =>
    have hfirst := hvisible character (by simp)
    have hothers := ih fun other hmem ↦ hvisible other (by simp [hmem])
    have hcontrol : character ≠ '\x1b' ∧ character ≠ '\x18' ∧ character ≠ '\x1a' := by
      refine ⟨?_, ?_, ?_⟩ <;> (rintro rfl; exact absurd hfirst.1 (by decide))
    have hshown : State.text.shown character = [character] := by
      by_cases hwide : 0x80 ≤ character.toNat
      · simp [shown, hwide]
      · have hnarrow : character.toNat < 0x7F := by omega
        simp [shown, hwide, hfirst.1, hnarrow]
    have hstays : State.text.next character = .text := by
      simp [next, hcontrol]
    simp [display, hshown, hstays, hothers]

end State

def plain (content : String) : String := String.ofList (State.text.display content.toList)

/-- A text with its control sequences or without any. -/
def write (isColoured : Bool) (parts : List Part) : String :=
  if isColoured then coloured parts else plain (coloured parts)

end HubRoutes.Text.Terminal
