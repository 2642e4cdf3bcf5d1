/-!
# Whole numbers in texts

Decimal digits behind an optional sign, read into a range of whole numbers. Digits are taken one
after another, so of a number that leaves the range and a character that is no digit the earlier
counts.
-/

namespace Gatehouse.Text

/-- Why a text is not a whole number of a range. -/
inductive IntegerFault where
  /-- There is no character. -/
  | empty
  /-- A character is no digit. -/
  | invalidDigit
  /-- The number lies above the range. -/
  | tooLarge
  /-- The number lies below the range. -/
  | tooSmall
  deriving DecidableEq, Repr

/-- The wording of a fault. -/
def IntegerFault.message : IntegerFault → String
  | empty => "cannot parse integer from empty string"
  | invalidDigit => "invalid digit found in string"
  | tooLarge => "number too large to fit in target type"
  | tooSmall => "number too small to fit in target type"

/-- The value of digits that go on from a value, as long as it stays within a limit. -/
def digitsFrom (limit : Nat) (excess : IntegerFault) : Nat → List Char → Except IntegerFault Nat
  | value, [] => .ok value
  | value, c :: rest =>
    if !c.isDigit then .error .invalidDigit
    else
      let value := 10 * value + (c.toNat - 48)
      if limit < value then .error excess else digitsFrom limit excess value rest

/-- The value of one or more digits, within a limit. -/
def digits (limit : Nat) (excess : IntegerFault) : List Char → Except IntegerFault Nat
  | [] => .error .invalidDigit
  | c :: rest => digitsFrom limit excess 0 (c :: rest)

/-- Reads a whole number from zero to `largest`, with or without a plus sign. -/
def natural (largest : Nat) (text : String) : Except IntegerFault Nat :=
  match text.toList with
  | [] => .error .empty
  | '+' :: rest => digits largest .tooLarge rest
  | letters => digits largest .tooLarge letters

/-- Reads a whole number from `-lowest` to `largest`, with or without a sign. -/
def signed (lowest largest : Nat) (text : String) : Except IntegerFault Int :=
  match text.toList with
  | [] => .error .empty
  | '-' :: rest => (digits lowest .tooSmall rest).map (fun size => -(size : Int))
  | '+' :: rest => (digits largest .tooLarge rest).map (fun size => (size : Int))
  | letters => (digits largest .tooLarge letters).map (fun size => (size : Int))

end Gatehouse.Text
