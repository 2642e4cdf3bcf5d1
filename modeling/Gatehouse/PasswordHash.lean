import Gatehouse.Argon2
import Gatehouse.Base64

/-!
# Stored password hashes

The text form of a salted password hash: fields between dollar signs for the algorithm, the version,
the parameters, the salt and the hash. A stored hash carries everything that is needed to check a
password against it; a text that is no stored hash fits no password.
-/

namespace Gatehouse

/-- A way to make stored hashes and to check passwords against them. The salt is random bytes. -/
structure Hasher where
  /-- Makes a stored hash of a password, or says why it cannot. -/
  hash : Bytes → String → Except String String
  /-- Whether a password fits a stored hash. -/
  fits : String → String → Bool

namespace PasswordHash

/-- A stored hash, taken apart. -/
structure Parts where
  /-- The algorithm's name. -/
  algorithm : String
  /-- The version, if it is given. -/
  version : Option Nat
  /-- The parameters, by name. -/
  parameters : List (String × String)
  /-- The salt's text, if there is one. -/
  salt : Option String
  /-- The hash, if there is one. -/
  hash : Option Bytes

/-- Whether a text is a name: up to 32 lower-case letters, digits and hyphens. -/
def isName (text : String) : Bool :=
  let letters := text.toList
  !letters.isEmpty && letters.length ≤ 32 &&
    letters.all (fun c => c.isLower || c.isDigit || c == '-')

/-- Whether a text is a value: up to 64 letters, digits and the signs `/`, `+`, `.` and `-`. -/
def isValue (text : String) : Bool :=
  let letters := text.toList
  letters.length ≤ 64 && letters.all (fun c => c.isAlphanum || "/+.-".toList.contains c)

/-- Reads a decimal number below 2³² without leading zeros. -/
def decimal? (text : String) : Option Nat :=
  let digits := text.toList
  if digits.isEmpty || !digits.all Char.isDigit then none
  else if digits.length > 1 && digits.head? == some '0' then none
  else
    let value := digits.foldl (fun value c => 10 * value + (c.toNat - 48)) 0
    if value < 0x100000000 then some value else none

/-- Splits a text at a character. -/
def fields (mark : Char) (text : String) : List String :=
  (text.toList.splitOn mark).map String.ofList

/-- Reads a parameter, a name and a value. -/
def parameter? (text : String) : Option (String × String) :=
  match fields '=' text with
  | [name, value] => if isName name && isValue value then some (name, value) else none
  | _ => none

/-- Reads parameters between commas. A name may come more than once. -/
def parameters? (text : String) : Option (List (String × String)) :=
  if 127 < (utf8 text).length then none else (fields ',' text).mapM parameter?

/-- Reads a salt's text. -/
def salt? (text : String) : Option String :=
  if isValue text && 4 ≤ text.length then some text else none

/-- Reads a hash of 10 to 64 bytes. -/
def hash? (text : String) : Option Bytes :=
  match Base64.decode .standard (utf8 text) with
  | .ok bytes => if 10 ≤ bytes.length ∧ bytes.length ≤ 64 then some bytes else none
  | .error _ => none

/-- Reads the version, if the first of the fields gives it. -/
def takeVersion (texts : List String) : Option (Option Nat × List String) :=
  match texts with
  | field :: rest =>
    let letters := field.toList
    if letters.take 2 == ['v', '='] && !letters.contains ',' then do
      let version ← decimal? (String.ofList (letters.drop 2))
      return (some version, rest)
    else some (none, texts)
  | [] => some (none, [])

/-- Reads the parameters, if the first of the fields gives them. -/
def takeParameters (texts : List String) : Option (List (String × String) × List String) :=
  match texts with
  | field :: rest =>
    if field.toList.contains '=' then do
      let parameters ← parameters? field
      return (parameters, rest)
    else some ([], texts)
  | [] => some ([], [])

/-- Takes a stored hash apart. -/
def parts? (text : String) : Option Parts := do
  match fields '$' text with
  | "" :: algorithm :: rest =>
    if !isName algorithm then none
    else
      let (version, rest) ← takeVersion rest
      let (parameters, rest) ← takeParameters rest
      match rest with
      | [] => return ⟨algorithm, version, parameters, none, none⟩
      | [salt] => return ⟨algorithm, version, parameters, some (← salt? salt), none⟩
      | [salt, hash] =>
        return ⟨algorithm, version, parameters, some (← salt? salt), some (← hash? hash)⟩
      | _ => none
  | _ => none

/-- The kind of hash that an algorithm's name names. -/
def kind? (name : String) : Option Argon2.Kind :=
  match name with
  | "argon2d" => some .d
  | "argon2i" => some .i
  | "argon2id" => some .id
  | _ => none

/-- The version that a number names; without one it is the later. -/
def version? (number : Option Nat) : Option Argon2.Version :=
  match number with
  | none => some .nineteen
  | some 16 => some .sixteen
  | some 19 => some .nineteen
  | some _ => none

/-- The costs when none are given. -/
def defaultCost : Argon2.Cost := ⟨19456, 2, 1⟩

/-- The bytes of a value in base64, at most `limit` of them. -/
def shortBytes? (limit : Nat) (text : String) : Option Bytes :=
  match Base64.decode .standard (utf8 text) with
  | .ok bytes => if bytes.length ≤ limit then some bytes else none
  | .error _ => none

/-- Takes one parameter into account. It takes the place of an earlier one of its name, and whether
the costs are allowed is asked of the last ones only. -/
def applyParameter (state : Argon2.Cost × Bytes) (parameter : String × String) :
    Option (Argon2.Cost × Bytes) :=
  let (cost, data) := state
  let (name, value) := parameter
  match name with
  | "m" => (decimal? value).map (fun memory => ({ cost with memory }, data))
  | "t" => (decimal? value).map (fun passes => ({ cost with passes }, data))
  | "p" => (decimal? value).map (fun lanes => ({ cost with lanes }, data))
  | "keyid" => (shortBytes? 8 value).map (fun _ => (cost, data))
  | "data" => (shortBytes? 32 value).map (fun data => (cost, data))
  | _ => none

/-- Whether a password fits a stored hash. Everything about the hash is taken from the text. -/
def fits (password stored : String) : Bool :=
  let outcome : Option Bool := do
    let parts ← parts? stored
    let salt ← parts.salt
    let expected ← parts.hash
    let kind ← kind? parts.algorithm
    let version ← version? parts.version
    let (cost, data) ← parts.parameters.foldlM applyParameter (defaultCost, [])
    let salt ← (Base64.decode .standard (utf8 salt)).toOption
    -- A salt below eight bytes and a refused cost both count as a password that does not fit.
    if salt.length < 8 then none
    else
      match cost.check with
      | .error _ => none
      | .ok () =>
        let parameters : Argon2.Parameters :=
          { kind, version, cost, data, length := expected.length }
        return Argon2.hash parameters (utf8 password) salt == expected
  outcome.getD false

/-- Makes a stored hash with a cost from a password and a salt. -/
def make (cost : Argon2.Cost) (salt : Bytes) (password : String) : String :=
  let parameters : Argon2.Parameters :=
    { kind := .id, version := .nineteen, cost, data := [], length := 32 }
  let hash := Argon2.hash parameters (utf8 password) salt
  let text (bytes : Bytes) := Bytes.asciiText (Base64.encode .standard bytes)
  "$argon2id$v=19$m=" ++ toString cost.memory ++ ",t=" ++ toString cost.passes ++ ",p=" ++
    toString cost.lanes ++ "$" ++ text salt ++ "$" ++ text hash

/-- The way to make and check stored hashes with a cost. -/
def hasher (cost : Argon2.Cost) : Hasher where
  hash salt password := .ok (make cost salt password)
  fits := fits

/-- The form of a stored hash with the lengths of its salt and hash in place of the two, for a
text of that form. -/
def outline? (stored : String) : Option String :=
  match fields '$' stored with
  | ["", "argon2id", version, cost, salt, hash] =>
    if version == "v=19" && cost.startsWith "m=" then
      some ("$argon2id$" ++ version ++ "$" ++ cost ++ "$<salt " ++ toString salt.length ++
        ">$<hash " ++ toString hash.length ++ ">")
    else none
  | _ => none

end PasswordHash

end Gatehouse
