import Gatehouse.Base64
import Gatehouse.Sha256
import Gatehouse.Time
import Gatehouse.Token.Claims

/-!
# Issuing and verifying access tokens

An access token is three segments joined by dots: a header and the claims, each as unpadded
URL-safe base64 of JSON, and the authentication code of the first two segments with their dot under
the issuer's secret. Verification looks at the claims only after the code has been found right.
-/

namespace Gatehouse.Token

/-- The name of the signature algorithm, the only one accepted. -/
def acceptedAlgorithm : String := "HS256"

/-- The header of a token. -/
structure Header where
  /-- The signature algorithm. -/
  algorithm : String
  /-- The type of token. -/
  type : String
  deriving DecidableEq

namespace Header

/-- The members of a header. -/
def members : List (Json.Reader.Member Header) :=
  [ { key := "alg", mayLack := false, mayEnd := false
      read := fun header => do return { header with algorithm := ← .string "a string" } },
    { key := "typ", mayLack := false, mayEnd := false
      read := fun header => do return { header with type := ← .string "a string" } } ]

/-- Reads a header. -/
def read : Json.Reader Header := .record "Header" members ⟨"", ""⟩

/-- Writes a header. -/
def write (header : Header) : Bytes :=
  Json.Write.object
    [("alg", Json.Write.string header.algorithm), ("typ", Json.Write.string header.type)]

/-- The header of the tokens issued here. -/
def standard : Header := ⟨acceptedAlgorithm, "JWT"⟩

end Header

/-- Sixteen random bytes, from which a token's own name is made. -/
abbrev Entropy := Bytes

/-- The name made of sixteen random bytes: the version and the variant are set to those of a random
name, and the digits are grouped as eight, four, four, four and twelve. -/
def nameOf (entropy : Entropy) : String :=
  let marked := (entropy.zipIdx).map (fun (byte, place) =>
    if place = 6 then (byte &&& 0x0f) ||| 0x40
    else if place = 8 then (byte &&& 0x3f) ||| 0x80
    else byte)
  let digits := Bytes.hex marked
  let part (start count : Nat) := Bytes.asciiText ((digits.drop start).take count)
  String.intercalate "-" [part 0 8, part 8 4, part 12 4, part 16 4, part 20 12]

/-- The opaque text of a refresh token, made of random bytes. -/
def refreshText (random : Bytes) : String := Base64.urlText random

/-- Who signs and checks access tokens: a secret, and how long a token lives. -/
structure Issuer where
  /-- The key of the authentication codes. -/
  secret : Bytes
  /-- How long a token lives. -/
  lifetime : Duration

/-- A freshly issued access token. -/
structure Issued where
  /-- The token. -/
  token : String
  /-- Its lifetime in whole seconds. -/
  expiresIn : Nat
  /-- The claims it carries. -/
  claims : Claims

/-- The largest signed number of 64 bits. -/
def largestSeconds : Int := 0x7FFFFFFFFFFFFFFF

namespace Issuer

/-- When a token issued at `now` expires: after the whole seconds of its lifetime, and no later
than the clock can show. -/
def expiry (issuer : Issuer) (now : Int64) : Int64 :=
  let seconds := min (issuer.lifetime.seconds : Int) largestSeconds
  Int64.ofInt (min (now.toInt + seconds) largestSeconds)

/-- The part of a token that is signed. -/
def signingInput (header claims : Bytes) : Bytes :=
  header ++ 46 :: claims

/-- The claims of a token issued at `now`. -/
def claimsFor (issuer : Issuer) (context : Context) (now : Int64) (entropy : Entropy) : Claims :=
  Claims.ofContext context now (issuer.expiry now) (nameOf entropy)

/-- Issues an access token for a context at the time `now`, in whole seconds. -/
def issue (issuer : Issuer) (context : Context) (now : Int64) (entropy : Entropy) : Issued :=
  let claims := issuer.claimsFor context now entropy
  let header := Base64.encode .urlSafe Header.standard.write
  let body := Base64.encode .urlSafe claims.write
  let input := signingInput header body
  let signature := Base64.encode .urlSafe (Sha256.mac issuer.secret input)
  { token := Bytes.asciiText (input ++ 46 :: signature)
    expiresIn := issuer.lifetime.seconds
    claims }

/-- The bytes of a segment. -/
def segment (symbols : Bytes) : Except TokenError Bytes :=
  match Base64.decode .urlSafe symbols with
  | .ok bytes => .ok bytes
  | .error error => .error (.malformed error.message)

/-- Reads a JSON value out of a token. -/
def parse {α : Type} (reader : Json.Reader α) (bytes : Bytes) : Except TokenError α :=
  match reader.document bytes with
  | .ok value => .ok value
  | .error problem => .error (.malformed problem.message)

/-- Verifies a token at the time `now`, in whole seconds, and gives its claims. -/
def verify (issuer : Issuer) (token : String) (now : Int64) : Except TokenError Claims := do
  match (utf8 token).splitOn 46 with
  | [header, body, signature] =>
    let parsed ← parse Header.read (← segment header)
    if parsed.algorithm ≠ acceptedAlgorithm then
      throw (.malformed ("unsupported algorithm: " ++ parsed.algorithm))
    let code ← segment signature
    if code ≠ Sha256.mac issuer.secret (signingInput header body) then throw .invalidSignature
    -- Only now that the code is right does anything depend on the claims or the clock.
    let claims ← parse Claims.read (← segment body)
    if claims.expiresAt ≤ now then throw .expired
    return claims
  | segments =>
    throw (.malformed ("expected 3 segments, got " ++ toString segments.length))

end Issuer

end Gatehouse.Token
