import Gatehouse.Proofs.Base64
import Gatehouse.Proofs.Wire
import Gatehouse.Token.Issuer

/-!
# Access tokens, issued and verified

What is issued is verified until it expires, and nothing is verified that was not signed. Main
statements: a token that was issued gives back its claims until their end
(`access_token_round_trip`), the tokens that are accepted are exactly those signed under the secret,
each in one spelling (`accepted_iff_signed`), and of a token that is not signed neither the claims
nor the time of the question show in the failure (`unsigned_claims_unseen`). Of the authentication
code nothing is used but that it is a function of the secret and the message.
-/

namespace Gatehouse.Token

open Json.Reader

/-! ## Headers and claims read back -/

/-- The header of the tokens issued here reads back. -/
theorem Header.document_write (header : Header) :
    Header.read.document header.write = .ok header := by
  refine document_of_reads (record_reads _ ?_)
  refine .cons rfl rfl ((string_reads _ header.algorithm).bind_pure _) ?_
  refine .cons rfl rfl ((string_reads _ header.type).bind_pure _) ?_
  exact .nil rfl

/-- Written claims read back, with a role or without. -/
theorem Claims.document_write (claims : Claims) :
    Claims.read.document claims.write = .ok claims := by
  apply document_of_reads
  obtain ⟨subject, kind, username, role, stores, issuedAt, expiresAt, tokenId⟩ := claims
  cases role with
  | none =>
    apply record_reads
    refine .cons rfl rfl ((int64_reads subject).bind_pure _) ?_
    refine .cons rfl rfl ((PrincipalKind.read_write kind).bind_pure _) ?_
    refine .cons rfl rfl ((string_reads _ username).bind_pure _) ?_
    refine .cons rfl rfl ((StoreSet.read_write stores).bind_pure _) ?_
    refine .cons rfl rfl ((int64_reads issuedAt).bind_pure _) ?_
    refine .cons rfl rfl ((int64_reads expiresAt).bind_pure _) ?_
    refine .cons rfl rfl ((string_reads _ tokenId).bind_pure _) ?_
    exact .nil rfl
  | some role =>
    apply record_reads
    refine .cons rfl rfl ((int64_reads subject).bind_pure _) ?_
    refine .cons rfl rfl ((PrincipalKind.read_write kind).bind_pure _) ?_
    refine .cons rfl rfl ((string_reads _ username).bind_pure _) ?_
    refine .cons rfl rfl ((Role.optional_read_write (some role)).bind_pure _) ?_
    refine .cons rfl rfl ((StoreSet.read_write stores).bind_pure _) ?_
    refine .cons rfl rfl ((int64_reads issuedAt).bind_pure _) ?_
    refine .cons rfl rfl ((int64_reads expiresAt).bind_pure _) ?_
    refine .cons rfl rfl ((string_reads _ tokenId).bind_pure _) ?_
    exact .nil rfl

/-! ## Segments -/

/-- Three segments without a dot are what a text of them, joined by dots, is cut into. -/
theorem splitOn_joined {α : Type} [BEq α] [LawfulBEq α] {dot : α} {header body signature : List α}
    (hheader : dot ∉ header) (hbody : dot ∉ body) (hsignature : dot ∉ signature) :
    (header ++ dot :: (body ++ dot :: signature)).splitOn dot = [header, body, signature] := by
  rw [List.splitOn_append_cons_self_of_not_mem hheader,
    List.splitOn_append_cons_self_of_not_mem hbody, List.splitOn_eq_singleton hsignature]

/-- A text that is cut into three segments at dots is these segments, joined by dots. -/
theorem eq_joined_of_splitOn {α : Type} [BEq α] [LawfulBEq α] {dot : α}
    {text header body signature : List α} (h : text.splitOn dot = [header, body, signature]) :
    text = header ++ dot :: (body ++ dot :: signature) := by
  have hjoined : [dot].intercalate (text.splitOn dot) = text := List.intercalate_splitOn dot
  rw [h] at hjoined
  simpa [List.intercalate] using hjoined.symm

/-- A text that is cut into one segment is this segment. -/
theorem eq_of_splitOn {α : Type} [BEq α] [LawfulBEq α] {dot : α} {text segment : List α}
    (h : text.splitOn dot = [segment]) : text = segment := by
  have hjoined : [dot].intercalate (text.splitOn dot) = text := List.intercalate_splitOn dot
  rw [h] at hjoined
  simpa [List.intercalate] using hjoined.symm

/-- Texts joined by dots are cut into three segments only if they are these segments. -/
theorem eq_segments_of_splitOn {α : Type} [BEq α] [LawfulBEq α] {dot : α}
    {header body signature first second third : List α}
    (h : (header ++ dot :: (body ++ dot :: signature)).splitOn dot = [first, second, third]) :
    header = first ∧ body = second ∧ signature = third := by
  rw [List.splitOn_append_cons_self, List.splitOn_append_cons_self] at h
  obtain ⟨a, as, ha⟩ := List.exists_cons_of_ne_nil (List.splitOn_ne_nil dot header)
  obtain ⟨b, bs, hb⟩ := List.exists_cons_of_ne_nil (List.splitOn_ne_nil dot body)
  obtain ⟨c, cs, hc⟩ := List.exists_cons_of_ne_nil (List.splitOn_ne_nil dot signature)
  -- each of the texts is cut into at least one segment, so each into exactly one
  have hlength := congrArg List.length h
  simp only [ha, hb, hc, List.length_append, List.length_cons, List.length_nil] at hlength
  obtain rfl : as = [] := List.eq_nil_of_length_eq_zero (by omega)
  obtain rfl : bs = [] := List.eq_nil_of_length_eq_zero (by omega)
  obtain rfl : cs = [] := List.eq_nil_of_length_eq_zero (by omega)
  rw [ha, hb, hc] at h
  obtain ⟨rfl, rfl, rfl⟩ : a = first ∧ b = second ∧ c = third := by simpa using h
  exact ⟨eq_of_splitOn ha, eq_of_splitOn hb, eq_of_splitOn hc⟩

/-- Three segments joined by dots. -/
def joined (header body signature : String) : String :=
  header ++ "." ++ body ++ "." ++ signature

/-- The characters of joined segments are those of the segments, with dots between them. -/
theorem toList_joined (header body signature : String) :
    (joined header body signature).toList =
      header.toList ++ '.' :: (body.toList ++ '.' :: signature.toList) := by
  simp [joined]

/-- The bytes of joined segments are those of the segments, with dots between them. -/
theorem utf8_joined (header body signature : String) :
    utf8 (joined header body signature) =
      utf8 header ++ 46 :: (utf8 body ++ 46 :: utf8 signature) := by
  have hdot : utf8 "." = [46] := by decide
  simp [joined, utf8_append, hdot]

/-- The bytes of a text without a dot hold none. -/
theorem dot_notMem_utf8 {text : String} (h : '.' ∉ text.toList) : 46 ∉ utf8 text := by
  intro hdot
  obtain ⟨c, hc, hvalue⟩ := exists_mem_of_mem_utf8 (by decide) hdot
  obtain rfl : c = '.' := Char.toNat_inj.1 hvalue
  exact h hc

/-- Joined segments are cut where the outer ones are cut, and around the one in the middle if that
holds no dot. -/
theorem splitOn_utf8_joined {body : String} (hbody : '.' ∉ body.toList)
    (header signature : String) :
    (utf8 (joined header body signature)).splitOn 46 =
      (utf8 header).splitOn 46 ++ utf8 body :: (utf8 signature).splitOn 46 := by
  rw [utf8_joined, List.splitOn_append_cons_self,
    List.splitOn_append_cons_self_of_not_mem (dot_notMem_utf8 hbody)]

/-- Three segments that carry claims under a secret: the first is the written form of a header that
names the accepted algorithm, the second that of the claims, and the third that of the
authentication code of the other two. -/
structure Signed (secret : Bytes) (header body signature : String) (claims : Claims) : Prop where
  /-- The first segment is a header with the accepted algorithm. -/
  algorithm : ∃ json parsed, header = Base64.urlText json ∧
    Header.read.document json = .ok parsed ∧ parsed.algorithm = acceptedAlgorithm
  /-- The second segment is the claims. -/
  content : ∃ json, body = Base64.urlText json ∧ Claims.read.document json = .ok claims
  /-- The third segment is the authentication code. -/
  code : signature = Base64.urlText (Sha256.mac secret (utf8 (header ++ "." ++ body)))

namespace Signed

variable {secret : Bytes} {header body signature : String} {claims : Claims}

/-- Signed segments are what their token is cut into. -/
theorem splitOn_eq (h : Signed secret header body signature claims) :
    (joined header body signature).toList.splitOn '.' =
      [header.toList, body.toList, signature.toList] := by
  obtain ⟨⟨headerJson, -, rfl, -⟩, ⟨bodyJson, rfl, -⟩, rfl⟩ := h
  rw [toList_joined]
  exact splitOn_joined (Base64.dot_notMem_urlText _) (Base64.dot_notMem_urlText _)
    (Base64.dot_notMem_urlText _)

/-- The first two segments decide the third, and the claims. -/
theorem unique (h : Signed secret header body signature claims) {other : String} {found : Claims}
    (hother : Signed secret header body other found) : other = signature ∧ found = claims := by
  obtain ⟨json, hjson, hread⟩ := h.content
  obtain ⟨json', hjson', hread'⟩ := hother.content
  obtain rfl := Base64.urlText_injective (hjson.symm.trans hjson')
  exact ⟨hother.code.trans h.code.symm, Except.ok.inj (hread'.symm.trans hread)⟩

end Signed

namespace Issuer

/-- A segment has the bytes whose written form it is, and no others. -/
theorem segment_eq_ok_iff {symbols bytes : Bytes} :
    segment symbols = .ok bytes ↔ symbols = Base64.encode .urlSafe bytes := by
  rw [← Base64.decode_eq_ok_iff Base64.Alphabet.urlSafe_lawful, segment]
  cases Base64.decode .urlSafe symbols <;> simp

/-- A value is parsed exactly when it is read from the whole of the bytes. -/
theorem parse_eq_ok_iff {α : Type} {reader : Json.Reader α} {bytes : Bytes} {value : α} :
    parse reader bytes = .ok value ↔ reader.document bytes = .ok value := by
  rw [parse]
  cases reader.document bytes <;> simp

/-- What is signed of two segments is their text with the dot. -/
theorem utf8_signed (header body : String) :
    utf8 (header ++ "." ++ body) = signingInput (utf8 header) (utf8 body) := by
  have hdot : utf8 "." = [46] := by decide
  simp [signingInput, utf8_append, hdot]

/-- Signed segments are verified until the claims expire. -/
theorem verify_of_signed (issuer : Issuer) {header body signature : String} {claims : Claims}
    (h : Signed issuer.secret header body signature claims) (now : Int64) :
    issuer.verify (joined header body signature) now =
      if now < claims.expiresAt then .ok claims else .error .expired := by
  obtain ⟨⟨headerJson, parsed, rfl, hparsed, halgorithm⟩, ⟨bodyJson, rfl, hread⟩, rfl⟩ := h
  have hsplit := splitOn_joined (Base64.dot_notMem_encode headerJson)
    (Base64.dot_notMem_encode bodyJson)
    (Base64.dot_notMem_encode (Sha256.mac issuer.secret
      (signingInput (Base64.encode .urlSafe headerJson) (Base64.encode .urlSafe bodyJson))))
  rw [verify, utf8_joined, utf8_signed, Base64.utf8_urlText, Base64.utf8_urlText,
    Base64.utf8_urlText, hsplit]
  simp only [segment_eq_ok_iff.2 rfl, parse_eq_ok_iff.2 hparsed, parse_eq_ok_iff.2 hread,
    halgorithm, bind, Except.bind, ne_eq, not_true, if_false, ← Int64.not_lt, ite_not]
  rfl

/-- A verified token is made of signed segments, and its claims have not expired. -/
theorem exists_signed_of_verify {issuer : Issuer} {token : String} {now : Int64} {claims : Claims}
    (h : issuer.verify token now = .ok claims) :
    ∃ header body signature, token = joined header body signature ∧
      Signed issuer.secret header body signature claims ∧ now < claims.expiresAt := by
  rw [verify] at h
  split at h
  · rename_i header body signature hsplit
    obtain ⟨headerJson, hheader, h⟩ := bind_eq_ok_iff.1 h
    obtain ⟨parsed, hparsed, h⟩ := bind_eq_ok_iff.1 h
    split at h
    · cases h
    rename_i halgorithm
    obtain ⟨code, hcode, h⟩ := bind_eq_ok_iff.1 h
    split at h
    · cases h
    rename_i hmac
    obtain ⟨bodyJson, hbody, h⟩ := bind_eq_ok_iff.1 h
    obtain ⟨read, hread, h⟩ := bind_eq_ok_iff.1 h
    split at h
    · cases h
    rename_i hlive
    cases h
    rw [segment_eq_ok_iff] at hheader hcode hbody
    rw [parse_eq_ok_iff] at hparsed hread
    obtain rfl := Decidable.not_not.1 hmac
    refine ⟨Base64.urlText headerJson, Base64.urlText bodyJson, Base64.urlText _, ?_,
      ⟨⟨headerJson, parsed, rfl, hparsed, Decidable.not_not.1 halgorithm⟩, ⟨bodyJson, rfl, hread⟩,
        rfl⟩,
      Int64.not_le.1 hlive⟩
    apply utf8_injective
    rw [eq_joined_of_splitOn hsplit, utf8_joined, utf8_signed, Base64.utf8_urlText,
      Base64.utf8_urlText, Base64.utf8_urlText, hcode, hheader, hbody]
  · cases h

/-- Segments joined to a verified token are signed, and the claims have not expired. -/
theorem signed_of_verify {issuer : Issuer} {header body signature : String} {now : Int64}
    {claims : Claims} (h : issuer.verify (joined header body signature) now = .ok claims) :
    Signed issuer.secret header body signature claims ∧ now < claims.expiresAt := by
  obtain ⟨first, second, third, htoken, hsigned, hlive⟩ := exists_signed_of_verify h
  have hsplit := hsigned.splitOn_eq
  rw [← htoken, toList_joined] at hsplit
  obtain ⟨hfirst, hsecond, hthird⟩ := eq_segments_of_splitOn hsplit
  rw [String.toList_inj] at hfirst hsecond hthird
  subst hfirst hsecond hthird
  exact ⟨hsigned, hlive⟩

/-- The token that is issued is made of segments that are signed under the issuer's secret. -/
theorem exists_signed_issue (issuer : Issuer) (context : Context) (now : Int64)
    (entropy : Entropy) :
    ∃ header body signature, (issuer.issue context now entropy).token =
      joined header body signature ∧
      Signed issuer.secret header body signature (issuer.claimsFor context now entropy) := by
  refine ⟨Base64.urlText Header.standard.write,
    Base64.urlText (issuer.claimsFor context now entropy).write, _, ?_,
    ⟨⟨_, _, rfl, Header.document_write Header.standard, rfl⟩, ⟨_, rfl, Claims.document_write _⟩,
      rfl⟩⟩
  apply utf8_injective
  rw [utf8_joined, utf8_signed, Base64.utf8_urlText, Base64.utf8_urlText, Base64.utf8_urlText]
  refine (utf8_asciiText fun symbol hsymbol => ?_).trans (by simp [signingInput])
  simp only [signingInput, List.mem_append, List.mem_cons] at hsymbol
  rcases hsymbol with (hsymbol | rfl | hsymbol) | rfl | hsymbol
  · exact Base64.lt_of_mem_encode hsymbol
  · decide
  · exact Base64.lt_of_mem_encode hsymbol
  · decide
  · exact Base64.lt_of_mem_encode hsymbol

/-- A token that was issued is verified, by every issuer with the same secret, until its claims
expire. -/
theorem verify_issue (issuer : Issuer) (lifetime : Duration) (context : Context) (now : Int64)
    (entropy : Entropy) (time : Int64) :
    (⟨issuer.secret, lifetime⟩ : Issuer).verify (issuer.issue context now entropy).token time =
      if time < issuer.expiry now then .ok (issuer.claimsFor context now entropy)
      else .error .expired := by
  obtain ⟨header, body, signature, htoken, hsigned⟩ :=
    exists_signed_issue issuer context now entropy
  rw [htoken]
  exact verify_of_signed ⟨issuer.secret, lifetime⟩ hsigned time

/-- The end of a token's lifetime is counted in whole seconds, and is no later than the clock can
show. -/
theorem toInt_expiry (issuer : Issuer) (now : Int64) :
    (issuer.expiry now).toInt =
      min (now.toInt + min (issuer.lifetime.seconds : Int) largestSeconds) largestSeconds := by
  have hlow := Int64.le_toInt now
  have hend : -0x8000000000000000 ≤ min (now.toInt +
      min (issuer.lifetime.seconds : Int) largestSeconds) largestSeconds ∧ min (now.toInt +
      min (issuer.lifetime.seconds : Int) largestSeconds) largestSeconds ≤ 0x7FFFFFFFFFFFFFFF := by
    simp only [largestSeconds]
    omega
  exact Int64.toInt_ofInt_of_le hend.1 (by omega)

/-! ## Tokens that are not signed -/

/-- The code that a token presents, if its header is in order. -/
def presentedCode (header signature : Bytes) : Except TokenError Bytes := do
  let parsed ← parse Header.read (← segment header)
  if parsed.algorithm ≠ acceptedAlgorithm then
    throw (.malformed ("unsupported algorithm: " ++ parsed.algorithm))
  segment signature

/-- Why a token is refused that is not signed: what stands before and behind the claims says it all.
-/
def refusal (before behind : Bytes) : TokenError :=
  match before.splitOn 46, behind.splitOn 46 with
  | [header], [signature] =>
    match presentedCode header signature with
    | .error error => error
    | .ok _ => .invalidSignature
  | first, last =>
    .malformed ("expected 3 segments, got " ++ toString (first.length + (last.length + 1)))

/-- What is wrong with a segment is its form. -/
theorem segment_ne_expired (symbols : Bytes) : segment symbols ≠ .error .expired := by
  rw [segment]
  split <;> rintro ⟨⟩

/-- What is wrong with a JSON value is its form. -/
theorem parse_ne_expired {α : Type} (reader : Json.Reader α) (bytes : Bytes) :
    parse reader bytes ≠ .error .expired := by
  rw [parse]
  split <;> rintro ⟨⟩

/-- What is wrong with a presented code is not its age. -/
theorem presentedCode_ne_expired (header signature : Bytes) :
    presentedCode header signature ≠ .error .expired := by
  rw [presentedCode]
  rcases hheader : segment header with error | json
  · simpa only [bind, Except.bind, hheader] using segment_ne_expired header
  rcases hparsed : parse Header.read json with error | parsed
  · simp only [bind, Except.bind, hparsed]
    rintro ⟨⟩
    exact parse_ne_expired Header.read json hparsed
  simp only [bind, Except.bind, hparsed]
  split
  · rintro ⟨⟩
  · exact segment_ne_expired signature

/-- A token that is not signed is not refused as expired. -/
theorem refusal_ne_expired (before behind : Bytes) : refusal before behind ≠ .expired := by
  rw [refusal]
  split
  · rename_i header signature _ _
    split
    · rename_i error hpresented
      rintro rfl
      exact presentedCode_ne_expired header signature hpresented
    · rintro ⟨⟩
  · rintro ⟨⟩

/-- A token that is cut into three segments is refused as the first and the third say, whatever it
claims and whenever that is, if it presents no code or a wrong one. -/
theorem verify_of_segments (issuer : Issuer) {token : String} {header body signature : Bytes}
    (hsplit : (utf8 token).splitOn 46 = [header, body, signature])
    (hcode : segment signature ≠ .ok (Sha256.mac issuer.secret (signingInput header body)))
    (now : Int64) :
    issuer.verify token now =
      match presentedCode header signature with
      | .error error => .error error
      | .ok _ => .error .invalidSignature := by
  rw [verify, hsplit, presentedCode]
  dsimp only
  -- one check after the other, up to the comparison of the codes
  rcases segment header with error | json
  · rfl
  rcases hparsed : parse Header.read json with error | parsed
  · simp only [bind, Except.bind, hparsed]
  simp only [bind, Except.bind, hparsed]
  split
  · rfl
  rcases hsegment : segment signature with error | code
  · rfl
  have hwrong : code ≠ Sha256.mac issuer.secret (signingInput header body) := by
    rintro rfl
    exact hcode hsegment
  simp only [if_pos hwrong]
  rfl

/-- A token that is not cut into three segments is refused for their number. -/
theorem verify_of_length_ne (issuer : Issuer) {token : String}
    (hsplit : ((utf8 token).splitOn 46).length ≠ 3) (now : Int64) :
    issuer.verify token now = .error (.malformed
      ("expected 3 segments, got " ++ toString ((utf8 token).splitOn 46).length)) := by
  rw [verify]
  split
  · rename_i header body signature heq
    rw [heq] at hsplit
    exact absurd rfl hsplit
  · rfl

/-- A token that is not signed is refused as what stands before and behind the claims says. -/
theorem verify_of_unsigned (issuer : Issuer) {header body signature : String}
    (hbody : '.' ∉ body.toList)
    (hcode : segment (utf8 signature) ≠
      .ok (Sha256.mac issuer.secret (signingInput (utf8 header) (utf8 body))))
    (now : Int64) :
    issuer.verify (joined header body signature) now =
      .error (refusal (utf8 header) (utf8 signature)) := by
  have hcut := splitOn_utf8_joined hbody header signature
  rw [refusal]
  split
  · rename_i first last hfirst hlast
    obtain rfl := eq_of_splitOn hfirst
    obtain rfl := eq_of_splitOn hlast
    rw [hfirst, hlast] at hcut
    rw [issuer.verify_of_segments hcut hcode now]
    cases presentedCode (utf8 header) (utf8 signature) <;> rfl
  · rename_i hmany
    have hcount := congrArg List.length hcut
    rw [List.length_append, List.length_cons] at hcount
    rw [issuer.verify_of_length_ne ?_ now, hcount]
    -- three segments are one before the claims and one behind them
    rw [hcount]
    intro hthree
    have hfirst := List.length_pos_iff.2 (List.splitOn_ne_nil 46 (utf8 header))
    have hlast := List.length_pos_iff.2 (List.splitOn_ne_nil 46 (utf8 signature))
    obtain ⟨first, hfirst⟩ := List.length_eq_one_iff.1
      (show ((utf8 header).splitOn 46).length = 1 by omega)
    obtain ⟨last, hlast⟩ := List.length_eq_one_iff.1
      (show ((utf8 signature).splitOn 46).length = 1 by omega)
    exact hmany first last hfirst hlast

end Issuer

/-- A token that was issued for a context is accepted under the same secret, with the claims that
were issued, until these expire, and is refused as expired from then on; the claims hold the
context, the time of issue, and an end that is counted in whole seconds and held back at the last
one that the clock can show. -/
theorem access_token_round_trip (secret : Bytes) (lifetime checked : Duration) (context : Context)
    (now : Int64) (entropy : Entropy) :
    let issued := (⟨secret, lifetime⟩ : Issuer).issue context now entropy
    issued.claims.context = context ∧ issued.claims.issuedAt = now ∧
      issued.claims.expiresAt.toInt =
        min (now.toInt + min (lifetime.seconds : Int) largestSeconds) largestSeconds ∧
      ∀ time : Int64, (⟨secret, checked⟩ : Issuer).verify issued.token time =
        if time < issued.claims.expiresAt then .ok issued.claims else .error .expired :=
  ⟨rfl, rfl, Issuer.toInt_expiry ⟨secret, lifetime⟩ now,
    Issuer.verify_issue ⟨secret, lifetime⟩ checked context now entropy⟩

/-- A token is accepted exactly if it is cut at its dots into three segments that are signed under
the secret and carry claims that have not expired; the first two segments leave no choice for the
third; and what is accepted was accepted at every earlier time. -/
theorem accepted_iff_signed (issuer : Issuer) :
    (∀ (token : String) (now : Int64) (claims : Claims),
      issuer.verify token now = .ok claims ↔
        ∃ header body signature : String,
          token.toList.splitOn '.' = [header.toList, body.toList, signature.toList] ∧
          Signed issuer.secret header body signature claims ∧ now < claims.expiresAt) ∧
    (∀ (header body signature other : String) (now : Int64) (claims found : Claims),
      issuer.verify (joined header body signature) now = .ok claims →
        (issuer.verify (joined header body other) now = .ok found ↔
          other = signature ∧ found = claims)) ∧
    (∀ (token : String) (now earlier : Int64) (claims : Claims), earlier ≤ now →
      issuer.verify token now = .ok claims → issuer.verify token earlier = .ok claims) := by
  refine ⟨fun token now claims => ⟨fun h => ?_, ?_⟩,
    fun header body signature other now claims found h => ⟨fun hother => ?_, ?_⟩,
    fun token now earlier claims hearlier h => ?_⟩
  · obtain ⟨header, body, signature, rfl, hsigned, hlive⟩ := Issuer.exists_signed_of_verify h
    exact ⟨header, body, signature, hsigned.splitOn_eq, hsigned, hlive⟩
  · rintro ⟨header, body, signature, hsplit, hsigned, hlive⟩
    have htoken := eq_joined_of_splitOn hsplit
    rw [← toList_joined, String.toList_inj] at htoken
    rw [htoken, Issuer.verify_of_signed issuer hsigned, if_pos hlive]
  · exact (Issuer.signed_of_verify h).1.unique (Issuer.signed_of_verify hother).1
  · rintro ⟨rfl, rfl⟩
    exact h
  · obtain ⟨header, body, signature, rfl, hsigned, hlive⟩ := Issuer.exists_signed_of_verify h
    rw [Issuer.verify_of_signed issuer hsigned, if_pos (Int64.lt_of_le_of_lt hearlier hlive)]

/-- A token that lives a minute and is accepted after half of it was accepted when it was issued,
and its first two segments are accepted with no other third one. -/
theorem accepted_iff_signed_minute :
    let issuer : Issuer := ⟨[115], Duration.ofSeconds 60⟩
    let issued := issuer.issue ⟨7, .staff, "ana", some .stylist, .empty⟩ 100 []
    issuer.verify issued.token 130 = .ok issued.claims ∧
      issuer.verify issued.token 100 = .ok issued.claims ∧
      ∃ header body signature, issued.token = joined header body signature ∧
        ∀ other, issuer.verify (joined header body other) 130 = .ok issued.claims →
          other = signature := by
  intro issuer issued
  have hverified : issuer.verify issued.token 130 = .ok issued.claims :=
    (Issuer.verify_issue issuer issuer.lifetime _ 100 [] 130).trans (if_pos (by decide))
  obtain ⟨header, body, signature, htoken, -⟩ := Issuer.exists_signed_issue issuer
    ⟨7, .staff, "ana", some .stylist, .empty⟩ 100 []
  refine ⟨hverified,
    (accepted_iff_signed issuer).2.2 issued.token 130 100 issued.claims (by decide) hverified,
    header, body, signature, htoken, fun other hother => ?_⟩
  rw [show issued.token = joined header body signature from htoken] at hverified
  exact (((accepted_iff_signed issuer).2.1 header body signature other 130 issued.claims
    issued.claims hverified).1 hother).1

/-- Two tokens that differ in what they claim, and are looked at at any two times, are refused with
the same failure, and not as expired, if their third segment is no code or the wrong one for both.
-/
theorem unsigned_claims_unseen (issuer : Issuer) (header signature body other : String)
    (hbody : '.' ∉ body.toList) (hother : '.' ∉ other.toList)
    (hcode : ∀ code, Base64.decode .urlSafe (utf8 signature) = .ok code →
      code ≠ Sha256.mac issuer.secret (utf8 (header ++ "." ++ body)) ∧
        code ≠ Sha256.mac issuer.secret (utf8 (header ++ "." ++ other)))
    (now later : Int64) :
    ∃ error, error ≠ .expired ∧ issuer.verify (joined header body signature) now = .error error ∧
      issuer.verify (joined header other signature) later = .error error := by
  -- a segment that is decoded is a code of one spelling
  have hsegment {claimed : String} (h : ∀ code, Base64.decode .urlSafe (utf8 signature) = .ok code →
      code ≠ Sha256.mac issuer.secret (utf8 (header ++ "." ++ claimed))) :
      Issuer.segment (utf8 signature) ≠ .ok (Sha256.mac issuer.secret
        (Issuer.signingInput (utf8 header) (utf8 claimed))) := by
    intro heq
    rw [← Issuer.utf8_signed, Issuer.segment_eq_ok_iff,
      ← Base64.decode_eq_ok_iff Base64.Alphabet.urlSafe_lawful] at heq
    exact h _ heq rfl
  exact ⟨Issuer.refusal (utf8 header) (utf8 signature), Issuer.refusal_ne_expired _ _,
    issuer.verify_of_unsigned hbody (hsegment fun code h => (hcode code h).1) now,
    issuer.verify_of_unsigned hother (hsegment fun code h => (hcode code h).2) later⟩

/-- A token whose claims would have expired and one whose claims cannot be read are both refused for
a code that is too short. -/
theorem unsigned_claims_unseen_short :
    let issuer : Issuer := ⟨[115], Duration.ofSeconds 60⟩
    let header := Base64.urlText Header.standard.write
    let body := Base64.urlText (issuer.claimsFor ⟨7, .staff, "ana", none, .empty⟩ 100 []).write
    ∃ error, error ≠ .expired ∧ issuer.verify (joined header body "AA") 1000 = .error error ∧
      issuer.verify (joined header "not claims" "AA") 100 = .error error := by
  intro issuer header body
  have hdecode : Base64.decode .urlSafe (utf8 "AA") = .ok [0] :=
    (Base64.decode_eq_ok_iff Base64.Alphabet.urlSafe_lawful).2 (by decide)
  have hshort (message : Bytes) : [0] ≠ Sha256.mac issuer.secret message := by
    intro h
    have hlength := congrArg List.length h
    rw [Sha256.length_mac] at hlength
    cases hlength
  refine unsigned_claims_unseen issuer header "AA" body "not claims"
    (Base64.dot_notMem_urlText _) (by decide) ?_ 1000 100
  intro code hcode
  obtain rfl := Except.ok.inj (hdecode.symm.trans hcode)
  exact ⟨hshort _, hshort _⟩

end Gatehouse.Token
