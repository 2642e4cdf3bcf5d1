/-!
# What a terminal shows of a text

A text with control sequences, which set colours or titles and are not shown, and the text that is
left without them. A sequence begins with the escape character; another escape character begins the
next one, whatever the last was, and so ends every sequence that is not complete.
-/

namespace Gatehouse.Text

/-- Where in a control sequence a text is. -/
inductive Control where
  /-- In none. -/
  | off
  /-- Behind the escape character. -/
  | escape
  /-- Behind the escape character and signs. -/
  | signs
  /-- Among parameters, which a letter ends. -/
  | parameters
  /-- In a title, which a bell ends. -/
  | title
  /-- In a message to the device, which only a cancellation ends. -/
  | message
  deriving DecidableEq, Repr

/-- Whether a control character lays out the text, and is shown therefore. -/
def isLayout (c : Char) : Bool := c == '\t' || c == '\n' || c == '\x0c' || c == '\r'

namespace Control

/-- What the character behind the escape character and signs leads to. -/
def afterEscape (c : Char) : Control :=
  match c with
  | '[' => parameters
  | ']' => title
  | 'P' => message
  | 'X' => message
  | '^' => message
  | '_' => message
  | c => if c.toNat < 0x30 then signs else off

/-- Goes on by a character, and tells whether it is shown. A character that lays out the text breaks
off a sequence, except in titles and messages; a character beyond ASCII breaks off every sequence
and is lost with it. -/
def step (control : Control) (c : Char) : Control × Bool :=
  if c = '\x1b' then (escape, false)
  else if c = '\x18' || c = '\x1a' then (off, false)
  else if control = off then (off, isLayout c || (32 ≤ c.toNat && c.toNat != 127))
  else if 128 ≤ c.toNat then (off, false)
  else
    match control with
    | title => (if c = '\x07' then off else title, false)
    | message => (message, false)
    | control =>
      if isLayout c then (off, true)
      else if c.toNat < 32 || c.toNat = 127 then (control, false)
      else
        match control with
        | escape => (afterEscape c, false)
        | signs => (if c.toNat < 0x30 then signs else off, false)
        | _ => (if c.toNat < 0x40 then parameters else off, false)

/-- The characters that are shown of a text. -/
def shown : Control → List Char → List Char
  | _, [] => []
  | control, c :: rest =>
    let (next, isShown) := control.step c
    if isShown then c :: shown next rest else shown next rest

end Control

/-- A text without control sequences and control characters, those that lay it out excepted. -/
def plain (text : String) : String := String.ofList (Control.off.shown text.toList)

/-- A text that is set off from what stands around it. -/
def setOff (text : String) : String := "\x1b[1m" ++ text ++ "\x1b[0m"

end Gatehouse.Text
