/-!
# Letter case as far as ASCII words need it

Names such as roles are written in ASCII letters and read in any letter case. `upper` and `lower`
fold a text so that it equals an ASCII word exactly when its full case folding does: a character
is replaced when its folded form is made of ASCII letters, and kept otherwise. A kept character is
not ASCII unless it was before, so it can match no letter of the word.
-/

namespace Gatehouse.Text

/-- The upper-case form of a character, where that form is ASCII. The dotless i, the long s, the
sharp s and the Latin ligatures are the characters outside ASCII that have one. -/
def upperChar (c : Char) : List Char :=
  match c with
  | 'ı' => ['I']
  | 'ſ' => ['S']
  | 'ß' => ['S', 'S']
  | 'ﬀ' => ['F', 'F']
  | 'ﬁ' => ['F', 'I']
  | 'ﬂ' => ['F', 'L']
  | 'ﬃ' => ['F', 'F', 'I']
  | 'ﬄ' => ['F', 'F', 'L']
  | 'ﬅ' => ['S', 'T']
  | 'ﬆ' => ['S', 'T']
  | c => [c.toUpper]

/-- The lower-case form of a character, where that form is ASCII. The Kelvin sign is the one
character outside ASCII that has one. -/
def lowerChar (c : Char) : Char :=
  if c = '\u212a' then 'k' else c.toLower

/-- Folds a text to upper case, as far as ASCII letters are reached. -/
def upper (text : String) : String :=
  String.ofList (text.toList.flatMap upperChar)

/-- Folds a text to lower case, as far as ASCII letters are reached. -/
def lower (text : String) : String :=
  String.ofList (text.toList.map lowerChar)

end Gatehouse.Text
