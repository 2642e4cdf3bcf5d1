import Gatehouse.Json.Number
import Gatehouse.Json.Text

/-!
# Passing over values

A value that nobody asks for is passed with only its form checked, at any depth of nesting: the
lists and objects that are open are kept in a list of frames.
-/

namespace Gatehouse.Json.Reader

/-- An open list or object. -/
inductive Frame where
  /-- An open list. -/
  | list
  /-- An open object. -/
  | object
  deriving DecidableEq

/-- The mark that closes a frame. -/
def Frame.mark : Frame → UInt8
  | list => 93
  | object => 125

/-- What comes after a value or an opening mark. -/
inductive After where
  /-- Every frame is closed. -/
  | done
  /-- Another value comes in the innermost of these frames. -/
  | more (frame : Frame) (outer : List Frame)

/-- Passes closing marks and the comma before the next value, if there is one. -/
def passMarks : Nat → Bool → Frame → List Frame → Reader After
  | 0, _, _, _ => fail .endInValue
  | fuel + 1, afterValue, frame, outer => do
    match ← space with
    | none =>
      match frame with
      | .list => failNext .endInList
      | .object => failNext .endInObject
    | some byte =>
      if afterValue ∧ byte = 44 then
        advance
        pure (.more frame outer)
      else if byte = frame.mark then
        advance
        match outer with
        | [] => pure .done
        | next :: outer => passMarks fuel true next outer
      else if afterValue then
        match frame with
        | .list => failNext .expectedListEnd
        | .object => failNext .expectedObjectEnd
      else pure (.more frame outer)

/-- Passes a key and its colon. -/
def passKey : Reader Unit := do
  match ← space with
  | some 34 => advance
  | some _ => failNext .keyNotString
  | none => failNext .endInObject
  passString
  colon

/-- Passes a simple value, or opens a frame. -/
def passStart : Reader (Option Frame) := do
  match ← space with
  | none => failNext .endInValue
  | some byte =>
    match byte with
    | 110 =>
      advance
      word [117, 108, 108]
      pure none
    | 116 =>
      advance
      word [114, 117, 101]
      pure none
    | 102 =>
      advance
      word [97, 108, 115, 101]
      pure none
    | 34 =>
      advance
      passString
      pure none
    | 91 =>
      advance
      pure (some .list)
    | 123 =>
      advance
      pure (some .object)
    | byte =>
      if byte = 45 ∨ isDigit byte then
        passNumber
        pure none
      else failNext .expectedValue

/-- Passes a value inside the open frames, and what follows it until all are closed. -/
def passValues : Nat → List Frame → Reader Unit
  | 0, _ => fail .endInValue
  | fuel + 1, frames => do
    let after ←
      match ← passStart, frames with
      | some frame, frames => passMarks (fuel + 1) false frame frames
      | none, [] => pure .done
      | none, frame :: outer => passMarks (fuel + 1) true frame outer
    match after with
    | .done => pure ()
    | .more .list outer => passValues fuel (.list :: outer)
    | .more .object outer =>
      passKey
      passValues fuel (.object :: outer)

/-- Passes a value. -/
def passValue : Reader Unit := do
  let rest ← remaining
  passValues (rest.length + 1) []

end Gatehouse.Json.Reader
