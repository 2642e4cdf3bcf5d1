import Gatehouse.Proofs.History
import Gatehouse.Proofs.Responses
import Gatehouse.Proofs.Token

/-!
# Nothing is done for a bearer who is not known

The resources that need a bearer, and what a request for one of them comes to. Main statement:
whether it is let through, and as whom, depends on nothing but its header, the secret and the time
(`admission`, `admission_eq_ok_iff`); one that is not let through reads the clock at most and is
answered with the catalog's entry for the reason, and one that is does what it asks with the claims
that were signed (`protected_mediated`).
-/

namespace Gatehouse

namespace Program

variable {I : Interface} {α β σ : Type}

/-- The calls that a program makes when it runs. -/
def asked (handler : Handler I σ) : Program I α → σ → List I.Call
  | done _, _ => []
  | ask call next, state =>
    call ::
      match handler call state with
      | (some reply, state) => (next reply).asked handler state
      | (none, _) => []

section

variable {handler : Handler I σ} {call : I.Call} {next : I.Reply call → Program I α}
  {reply : I.Reply call} {state state' : σ}

/-- A program goes on with the reply to its call. -/
theorem run_ask_of_reply (h : handler call state = (some reply, state')) :
    (ask call next).run handler state = (next reply).run handler state' := by
  rw [run, h]

/-- A program that goes on with the reply to its call has made this call first. -/
theorem asked_ask_of_reply (h : handler call state = (some reply, state')) :
    (ask call next).asked handler state = call :: (next reply).asked handler state' := by
  rw [asked, h]

end

/-- Two programs make their calls one after the other. -/
theorem asked_bind (handler : Handler I σ) (program : Program I α) (next : α → Program I β)
    (state : σ) :
    (program >>= next).asked handler state =
      program.asked handler state ++
        match program.run handler state with
        | (some value, state) => (next value).asked handler state
        | (none, _) => [] := by
  change (program.bind next).asked handler state = _
  induction program generalizing state with
  | done value => rfl
  | ask call rest ih =>
    rw [bind, asked, asked, run]
    rcases handler call state with ⟨_ | reply, state'⟩
    · rfl
    · exact congrArg (call :: ·) (ih reply state')

/-- A program makes the same calls when its value is changed. -/
theorem asked_map (handler : Handler I σ) (change : α → β) (program : Program I α) (state : σ) :
    (change <$> program).asked handler state = program.asked handler state := by
  rw [map_eq_pure_bind, asked_bind]
  rcases program.run handler state with ⟨_ | value, state'⟩
  · exact List.append_nil _
  · exact List.append_nil _

end Program

/-- After a failure nothing more is called. -/
theorem Action.asked_bind_of_error {α β σ : Type} {handler : Handler requests σ}
    {action : Action α} {next : α → Action β} {state state' : σ} {error : AuthError}
    (h : perform handler action state = (some (.error error), state')) :
    (action >>= next).request.asked handler state = action.request.asked handler state := by
  change (action.request >>= ExceptT.bindCont next).asked handler state = _
  rw [Program.asked_bind, show action.request.run handler state = _ from h]
  exact List.append_nil _

namespace Token

/-- A check does not fail for want of a signature of our own. -/
def Checks {α : Type} (outcome : Except TokenError α) : Prop :=
  ∀ detail, outcome ≠ .error (.signing detail)

/-- Checks one after another are checks. -/
theorem Checks.bind {α β : Type} {outcome : Except TokenError α} {next : α → Except TokenError β}
    (h : Checks outcome) (hnext : ∀ value, Checks (next value)) : Checks (outcome >>= next) := by
  cases outcome with
  | error error => exact fun detail heq => h detail (congrArg Except.error (Except.error.inj heq))
  | ok value => exact hnext value

/-- The bytes of a segment are checked. -/
theorem checks_segment (symbols : Bytes) : Checks (Issuer.segment symbols) := by
  intro detail
  rw [Issuer.segment]
  split <;> rintro ⟨⟩

/-- What is parsed out of a token is checked. -/
theorem checks_parse {α : Type} (reader : Json.Reader α) (bytes : Bytes) :
    Checks (Issuer.parse reader bytes) := by
  intro detail
  rw [Issuer.parse]
  split <;> rintro ⟨⟩

/-- A token is verified by checks. -/
theorem checks_verify (issuer : Issuer) (token : String) (now : Int64) :
    Checks (issuer.verify token now) := by
  rw [Issuer.verify]
  split
  · refine (checks_segment _).bind fun _ => (checks_parse _ _).bind fun parsed => ?_
    split
    · rintro detail ⟨⟩
    refine (checks_segment _).bind fun code => ?_
    split
    · rintro detail ⟨⟩
    refine (checks_segment _).bind fun _ => (checks_parse _ _).bind fun claims => ?_
    split
    · rintro detail ⟨⟩
    · rintro detail ⟨⟩
  · rintro detail ⟨⟩

end Token

namespace Http

/-- Whether a resource needs a bearer. -/
def Resource.isProtected : Resource → Bool
  | health | staffLogin | customerLogin | refresh _ | logout _ => false
  | password | me | permission | role _ | active _ | stores _ => true

/-- The token in the text of a header: what stands behind the scheme, without blanks around it. -/
def tokenBehindScheme? (text : String) : Option String :=
  if "Bearer ".toList <+: text.toList then
    let token := trimmed (String.ofList (text.toList.drop "Bearer ".toList.length))
    if token.isEmpty then none else some token
  else none

/-- The token that a header presents, or the kind of failure if it presents none. -/
def presented : Option Bytes → Except ErrorKind String
  | none => .error .unauthenticated
  | some value =>
    match (headerText? value).bind tokenBehindScheme? with
    | some token => .ok token
    | none => .error .tokenMalformed

/-- Who is let through with a header at a time, or the kind of failure if nobody is. -/
def admission (secret : Bytes) (header : Option Bytes) (now : Timestamp) :
    Except ErrorKind Token.Claims := do
  let token ← presented header
  ((⟨secret, .zero⟩ : Token.Issuer).verify token (Int64.ofInt now.seconds)).mapError
    (fun error => (AuthError.ofToken error).kind)

/-- The token of a request is that of its header. -/
theorem mapError_bearerToken (request : Request) :
    (bearerToken request).mapError AuthError.kind =
      presented (request.header? "authorization") := by
  rw [bearerToken, presented.eq_def]
  cases request.header? "authorization" with
  | none => rfl
  | some value =>
    dsimp only
    cases headerText? value with
    | none => rfl
    | some text =>
      rw [Option.bind_some, tokenBehindScheme?]
      dsimp only
      generalize trimmed _ = token
      by_cases hscheme : "Bearer ".toList <+: text.toList
      · rw [if_pos hscheme, ← List.prefix_iff_eq_take.1 hscheme, beq_self_eq_true, Bool.true_and]
        cases token.isEmpty <;> rfl
      · have htake : (text.toList.take "Bearer ".toList.length == "Bearer ".toList) = false :=
          beq_eq_false_iff_ne.2 (fun heq => hscheme (List.prefix_iff_eq_take.2 heq.symm))
        rw [if_neg hscheme, htake, Bool.false_and]
        rfl

/-- What stands behind the scheme, without blanks around it, is the token unless it is empty. -/
theorem tokenBehindScheme?_eq_some_iff {text token : String} :
    tokenBehindScheme? text = some token ↔
      ∃ rest, text = "Bearer " ++ rest ∧ token = trimmed rest ∧ token.isEmpty = false := by
  rw [tokenBehindScheme?]
  generalize "Bearer " = scheme
  dsimp only
  constructor
  · intro h
    split at h
    · rename_i hscheme
      obtain ⟨rest, hrest⟩ := hscheme
      rw [← hrest, List.drop_left] at h
      split at h
      · cases h
      · rename_i hnonempty
        have htoken := Option.some.inj h
        refine ⟨String.ofList rest, String.toList_inj.1 ?_, htoken.symm, ?_⟩
        · rw [String.toList_append, String.toList_ofList, hrest]
        · rw [← htoken]
          exact Bool.eq_false_iff.2 hnonempty
    · cases h
  · rintro ⟨rest, rfl, rfl, hnonempty⟩
    rw [String.toList_append, if_pos (List.prefix_append _ _), List.drop_left,
      String.ofList_toList, hnonempty]
    rfl

/-- A token is presented if it stands behind the scheme and is not empty. -/
theorem presented_eq_ok_iff {header : Option Bytes} {token : String} :
    presented header = .ok token ↔
      ∃ rest, header.bind headerText? = some ("Bearer " ++ rest) ∧ token = trimmed rest ∧
        token.isEmpty = false := by
  have hbehind : presented header = .ok token ↔
      (header.bind headerText?).bind tokenBehindScheme? = some token := by
    rcases header with _ | value
    · constructor <;> rintro ⟨⟩
    · rw [presented, Option.bind_some]
      cases (headerText? value).bind tokenBehindScheme? with
      | none => constructor <;> rintro ⟨⟩
      | some found => rw [Except.ok.injEq, Option.some.injEq]
  rw [hbehind, Option.bind_eq_some_iff]
  constructor
  · rintro ⟨text, hheader, htoken⟩
    obtain ⟨rest, rfl, hrest⟩ := tokenBehindScheme?_eq_some_iff.1 htoken
    exact ⟨rest, hheader, hrest⟩
  · rintro ⟨rest, hheader, hrest⟩
    exact ⟨_, hheader, tokenBehindScheme?_eq_some_iff.2 ⟨rest, rfl, hrest⟩⟩

/-- Who is let through has sent a token behind the scheme, of segments that are signed under the
secret and carry claims that have not expired. -/
theorem admission_eq_ok_iff {secret : Bytes} {header : Option Bytes} {now : Timestamp}
    {claims : Token.Claims} :
    admission secret header now = .ok claims ↔
      ∃ (token first second third : String),
        header.bind headerText? = some ("Bearer " ++ token) ∧
          trimmed token = Token.joined first second third ∧
            Token.Signed secret first second third claims ∧
              Int64.ofInt now.seconds < claims.expiresAt := by
  rw [admission, bind_eq_ok_iff]
  constructor
  · rintro ⟨token, hpresented, hverify⟩
    obtain ⟨rest, hheader, rfl, -⟩ := presented_eq_ok_iff.1 hpresented
    cases hresult : (⟨secret, .zero⟩ : Token.Issuer).verify (trimmed rest)
      (Int64.ofInt now.seconds) with
    | error error =>
      rw [hresult] at hverify
      cases hverify
    | ok found =>
      rw [hresult] at hverify
      cases hverify
      obtain ⟨first, second, third, htoken, hsigned, hlive⟩ :=
        Token.Issuer.exists_signed_of_verify hresult
      exact ⟨rest, first, second, third, hheader, htoken, hsigned, hlive⟩
  · rintro ⟨rest, first, second, third, hheader, htoken, hsigned, hlive⟩
    refine ⟨trimmed rest, presented_eq_ok_iff.2 ⟨rest, hheader, rfl, ?_⟩, ?_⟩
    · refine Bool.eq_false_iff.2 fun hempty => ?_
      have hchars := congrArg String.toList (htoken.symm.trans (String.isEmpty_iff.1 hempty))
      rw [Token.toList_joined] at hchars
      simp at hchars
    · rw [htoken, Token.Issuer.verify_of_signed ⟨secret, .zero⟩ hsigned, if_pos hlive]
      rfl

/-! ## Signed tokens in headers -/

/-- The characters of a text can be seen, and are of ASCII. -/
def Visible (text : String) : Prop := ∀ c ∈ text.toList, 32 < c.toNat ∧ c.toNat < 127

/-- A written form can be seen. -/
theorem visible_urlText (bytes : Bytes) : Visible (Base64.urlText bytes) := by
  have hsymbol : ∀ value < 64, 32 < (Base64.Alphabet.urlSafe.symbol value).toNat ∧
      (Base64.Alphabet.urlSafe.symbol value).toNat < 127 := by
    rintro ⟨⟨value⟩⟩
    revert value
    decide +kernel
  intro c hc
  rw [Base64.urlText, Bytes.asciiText, String.toList_ofList] at hc
  obtain ⟨symbol, hmem, rfl⟩ := List.mem_map.1 hc
  rw [toNat_ofNat_byte (Base64.lt_of_mem_encode hmem)]
  obtain ⟨value, hvalue, rfl⟩ := Base64.exists_symbol_of_mem_encode hmem
  exact hsymbol value hvalue

/-- Signed segments with dots between them can be seen. -/
theorem visible_of_signed {secret : Bytes} {first second third : String} {claims : Token.Claims}
    (h : Token.Signed secret first second third claims) :
    Visible (Token.joined first second third) := by
  obtain ⟨⟨_, -, rfl, -⟩, ⟨_, rfl, -⟩, rfl⟩ := h
  have hdot : 32 < '.'.toNat ∧ '.'.toNat < 127 := by decide
  intro c hc
  simp only [Token.toList_joined, List.mem_append, List.mem_cons] at hc
  rcases hc with hc | rfl | hc | rfl | hc
  · exact visible_urlText _ c hc
  · exact hdot
  · exact visible_urlText _ c hc
  · exact hdot
  · exact visible_urlText _ c hc

/-- There are no blanks around what can be seen. -/
theorem trimmed_of_visible {text : String} (h : Visible text) : trimmed text = text := by
  -- every range of blanks ends before what can be seen, or starts behind it
  have hapart : ∀ range ∈ Text.blankRanges, range.2 ≤ 32 ∨ 127 ≤ range.1 := by decide
  have hvisible : ∀ c ∈ text.toList, Text.isBlank c = false := by
    intro c hc
    obtain ⟨hfirst, hlast⟩ := h c hc
    rw [Text.isBlank, List.any_eq_false]
    rintro ⟨first, last⟩ hmem
    have hrange : last ≤ 32 ∨ 127 ≤ first := hapart _ hmem
    simp only [Bool.and_eq_true, decide_eq_true_eq]
    omega
  rw [trimmed, Text.strip_eq_self hvisible, String.ofList_toList]

/-- The bytes of a text of ASCII without control characters read as the text of a header. -/
theorem headerText?_utf8 {text : String} (h : ∀ c ∈ text.toList, 32 ≤ c.toNat ∧ c.toNat < 127) :
    headerText? (utf8 text) = some text := by
  have hbytes : utf8 text = text.toList.map (fun c => c.toNat.toUInt8) := by
    have hascii := utf8_ofList_ascii (fun c hc => Nat.lt_trans (h c hc).2 (by decide))
    rwa [String.ofList_toList] at hascii
  have hbyte {c : Char} (hc : c ∈ text.toList) : c.toNat.toUInt8.toNat = c.toNat := by
    have hlt := (h c hc).2
    simp only [Nat.toUInt8, UInt8.toNat_ofNat']
    omega
  rw [headerText?, hbytes, if_pos]
  · refine congrArg some (String.toList_inj.1 ?_)
    rw [Bytes.asciiText, String.toList_ofList, List.map_map]
    refine (List.map_congr_left fun c hc => ?_).trans (List.map_id _)
    rw [Function.comp, hbyte hc, Char.ofNat_toNat]
    rfl
  · refine List.all_eq_true.2 fun byte hmem => ?_
    obtain ⟨c, hc, rfl⟩ := List.mem_map.1 hmem
    have hrange := h c hc
    have hlow : (32 : UInt8) ≤ c.toNat.toUInt8 := by
      rw [UInt8.le_iff_toNat_le, hbyte hc]
      exact hrange.1
    have hhigh : c.toNat.toUInt8 < 127 := by
      rw [UInt8.lt_iff_toNat_lt, hbyte hc]
      exact hrange.2
    simp [hlow, hhigh]

/-- Signed segments behind the scheme are let through until the claims expire. -/
theorem admission_of_signed {secret : Bytes} {first second third : String} {claims : Token.Claims}
    (h : Token.Signed secret first second third claims) {now : Timestamp}
    (hlive : Int64.ofInt now.seconds < claims.expiresAt) :
    admission secret (some (utf8 ("Bearer " ++ Token.joined first second third))) now =
      .ok claims := by
  refine admission_eq_ok_iff.2 ⟨Token.joined first second third, first, second, third, ?_,
    trimmed_of_visible (visible_of_signed h), h, hlive⟩
  refine headerText?_utf8 fun c hc => ?_
  rw [String.toList_append, List.mem_append] at hc
  rcases hc with hc | hc
  · have hscheme :
        "Bearer ".toList.all (fun c => decide (32 ≤ c.toNat ∧ c.toNat < 127)) = true := by decide
    exact of_decide_eq_true (List.all_eq_true.1 hscheme c hc)
  · exact ⟨Nat.le_of_lt (visible_of_signed h c hc).1, (visible_of_signed h c hc).2⟩

/-- Nobody is let through for one of four reasons. -/
theorem kind_of_admission {secret : Bytes} {header : Option Bytes} {now : Timestamp}
    {kind : ErrorKind} (h : admission secret header now = .error kind) :
    kind ∈ [ErrorKind.unauthenticated, .tokenMalformed, .tokenInvalid, .tokenExpired] := by
  rw [admission] at h
  cases hpresented : presented header with
  | error reason =>
    rw [hpresented] at h
    cases h
    rcases header with _ | value
    · cases hpresented
      decide
    · rw [presented] at hpresented
      split at hpresented <;> cases hpresented
      decide
  | ok token =>
    rw [hpresented] at h
    have hchecks := Token.checks_verify ⟨secret, .zero⟩ token (Int64.ofInt now.seconds)
    simp only [bind, Except.bind] at h
    cases hresult : (⟨secret, .zero⟩ : Token.Issuer).verify token (Int64.ofInt now.seconds) with
    | ok claims =>
      rw [hresult] at h
      cases h
    | error error =>
      rw [hresult] at h
      cases h
      cases error with
      | signing detail => exact absurd hresult (hchecks detail)
      | _ => simp [AuthError.ofToken, AuthError.kind]

namespace Api

variable (api : Api) {request : Request} {resource : Resource} {σ : Type}
  {handler : Handler requests σ} {state : σ} {now : Timestamp}

/-- What a request for a resource that needs a bearer asks, once it is known for whom. -/
def errand? (request : Request) : Resource → Option (Token.Claims → Action Response)
  | .password => some fun claims => do
    let change ← body Body.passwordChange request
    api.service.changePassword claims change.staffId change.oldPassword change.newPassword
    return success
  | .me => some fun claims => return .json 200 claims.write
  | .permission => some fun claims => do
    let context ← api.service.permissions claims
    return .json 200 context.write
  | .role segment => some fun claims => withId segment fun id => do
    let role ← body Body.role request
    api.service.changeRole claims id role
    return success
  | .active segment => some fun claims => withId segment fun id => do
    let active ← body Body.isActive request
    api.service.setActive claims id active
    return success
  | .stores segment => some fun claims => withId segment fun id => do
    let change := if request.method == "DELETE" then Service.revokeStores else Service.grantStores
    let stores ← body Body.storeIds request
    change api.service claims id stores
    return success
  | _ => none

/-- The resources that need a bearer have such an errand. -/
theorem exists_errand (request : Request) (h : resource.isProtected = true) :
    ∃ errand, api.errand? request resource = some errand := by
  cases resource <;> first | exact ⟨_, rfl⟩ | cases h

/-- The bearer is asked for first, and everything else is done for the bearer. -/
theorem perform_eq_of_errand {errand : Token.Claims → Action Response}
    (h : api.errand? request resource = some errand) :
    api.perform request resource = api.bearer request >>= errand := by
  cases resource with
  | stores segment =>
    cases h
    rw [perform]
    dsimp only
    split <;> rfl
  | _ => cases h <;> rfl

/-- A token is checked at the time that the clock shows, and nothing else is called. -/
theorem perform_authenticate (service : Service) (token : String)
    (hclock : handler (.outside .now) state = (some now, state)) :
    Action.perform handler (service.authenticate token) state =
        (some ((service.issuer.verify token (Int64.ofInt now.seconds)).mapError .ofToken), state) ∧
      (service.authenticate token).request.asked handler state = [.outside .now] := by
  have hprogram : (service.authenticate token).request =
      Program.ask (I := requests) (.outside .now) (fun now : Timestamp =>
        pure ((service.issuer.verify token (Int64.ofInt now.seconds)).mapError .ofToken)) := by
    refine congrArg (Program.ask _) (funext fun now : Timestamp => ?_)
    simp only [Program.bind, pure, ExceptT.bindCont]
    cases service.issuer.verify token (Int64.ofInt now.seconds) <;> rfl
  rw [Action.perform, hprogram]
  exact ⟨Program.run_ask_of_reply hclock, Program.asked_ask_of_reply hclock⟩

/-- Asking for the bearer reads the clock at most, and gives who is let through. -/
theorem perform_bearer (request : Request)
    (hclock : handler (.outside .now) state = (some now, state)) :
    ∃ outcome : Except AuthError Token.Claims,
      Action.perform handler (api.bearer request) state = (some outcome, state) ∧
        outcome.mapError AuthError.kind =
          admission api.service.issuer.secret (request.header? "authorization") now ∧
        ∀ call ∈ (api.bearer request).request.asked handler state, call = .outside .now := by
  rw [admission, ← mapError_bearerToken request, bearer]
  cases bearerToken request with
  | error error => exact ⟨.error error, rfl, rfl, by rintro _ ⟨⟩⟩
  | ok token =>
    obtain ⟨hperform, hasked⟩ := perform_authenticate api.service token hclock
    refine ⟨_, hperform, ?_, ?_⟩
    · -- of the issuer only the secret is looked at
      change _ = ((api.service.issuer.verify token (Int64.ofInt now.seconds)).mapError _)
      cases api.service.issuer.verify token (Int64.ofInt now.seconds) <;> rfl
    · intro call hcall
      rw [hasked] at hcall
      exact List.mem_singleton.1 hcall

/-- A request that is delivered does what the action does, and gives the response to its outcome. -/
theorem run_deliver (request : Request) (action : Action Response) :
    (api.deliver request action).run handler state =
      ((Action.perform handler action state).1.map (api.conclude request),
        (Action.perform handler action state).2) := by
  rw [deliver, Program.run_map]
  rfl

/-- A request that needs a bearer asks for the bearer first. -/
theorem respond_of_errand (hrouted : request.Routed resource)
    {errand : Token.Claims → Action Response} (h : api.errand? request resource = some errand) :
    api.respond request = api.deliver request (api.bearer request >>= errand) := by
  rw [api.respond_of_routed hrouted, api.perform_eq_of_errand h]

section

variable {errand : Token.Claims → Action Response} (hrouted : request.Routed resource)
  (herrand : api.errand? request resource = some errand)
  (hclock : handler (.outside .now) state = (some now, state))

include hrouted herrand hclock

/-- A request that is not let through reads the clock at most, and its response is the catalog's
entry for the reason. -/
theorem respond_of_refused {kind : ErrorKind}
    (hkind : admission api.service.issuer.secret (request.header? "authorization") now =
      .error kind) :
    (∀ call ∈ (api.respond request).asked handler state, call = .outside .now) ∧
      (api.respond request).run handler state =
        (some ((api.refusal kind).cutFor request.method), state) := by
  obtain ⟨outcome, hperform, houtcome, hasked⟩ := api.perform_bearer request hclock
  have hshown := kind_of_admission hkind
  rw [hkind] at houtcome
  rcases outcome with error | claims
  · cases houtcome
    have herror : error.kind ≠ .invalidRequest := by
      intro heq
      rw [heq] at hshown
      revert hshown
      decide
    rw [api.respond_of_errand hrouted herrand]
    refine ⟨?_, ?_⟩
    · -- nothing is called after the bearer
      rw [deliver, Program.asked_map, Action.asked_bind_of_error hperform]
      exact hasked
    · rw [run_deliver, Action.perform_bind, hperform, ← api.failure_eq_refusal herror]
      rfl
  · cases houtcome

/-- A request that is let through does what it asks with the claims. -/
theorem respond_of_admitted {claims : Token.Claims}
    (hclaims : admission api.service.issuer.secret (request.header? "authorization") now =
      .ok claims) :
    (api.respond request).run handler state =
      (api.deliver request (errand claims)).run handler state := by
  obtain ⟨outcome, hperform, houtcome, -⟩ := api.perform_bearer request hclock
  rw [hclaims] at houtcome
  rcases outcome with error | found
  · cases houtcome
  · cases houtcome
    rw [api.respond_of_errand hrouted herrand, run_deliver, run_deliver, Action.perform_bind,
      hperform]

end

/-- **Nothing is done for a bearer who is not known.** A request for a resource that needs a bearer,
whatever else is in it and whatever state it meets, is let through or not by its header, the secret
and the time alone. If it is not let through, nothing is called but the clock, the state stays as it
is, and the response is the catalog's entry for one of four reasons. If it is let through, what it
asks is done with the claims that were signed. It is let through exactly if the header holds the
scheme and a token, made of segments that are signed under the secret and carry claims that have not
expired. -/
theorem protected_mediated (hrouted : request.Routed resource)
    (hprotected : resource.isProtected = true)
    (hclock : handler (.outside .now) state = (some now, state)) :
    let header := request.header? "authorization"
    let secret := api.service.issuer.secret
    (∀ kind, admission secret header now = .error kind →
      kind ∈ [ErrorKind.unauthenticated, .tokenMalformed, .tokenInvalid, .tokenExpired] ∧
        (∀ call ∈ (api.respond request).asked handler state, call = .outside .now) ∧
          (api.respond request).run handler state =
            (some ((api.refusal kind).cutFor request.method), state)) ∧
      (∀ claims, admission secret header now = .ok claims →
        ∃ errand, api.errand? request resource = some errand ∧
          (api.respond request).run handler state =
            (api.deliver request (errand claims)).run handler state) ∧
        ∀ claims, admission secret header now = .ok claims ↔
          ∃ (token first second third : String),
            header.bind headerText? = some ("Bearer " ++ token) ∧
              trimmed token = Token.joined first second third ∧
                Token.Signed secret first second third claims ∧
                  Int64.ofInt now.seconds < claims.expiresAt := by
  obtain ⟨errand, herrand⟩ := api.exists_errand request hprotected
  refine ⟨fun kind hkind => ?_, fun claims hclaims => ?_, fun claims => admission_eq_ok_iff⟩
  · exact ⟨kind_of_admission hkind, api.respond_of_refused hrouted herrand hclock hkind⟩
  · exact ⟨errand, herrand, api.respond_of_admitted hrouted herrand hclock hclaims⟩

/-- An interface with the built-in catalog. -/
def plain : Api := ⟨.plain, .standard⟩

end Api

end Http

/-- The claims of a token that is good for a minute from the first moment. -/
def Token.Claims.plainMinute : Token.Claims :=
  Service.plain.issuer.claimsFor Token.Claims.plain.context 0 []

namespace Http

/-- A request without a body. -/
def Request.plain (method path : String) (headers : List (String × Bytes)) : Request :=
  ⟨method, utf8 path, headers, none, none⟩

/-- A header that stands alone is found. -/
theorem Request.header?_plain (method path : String) (value : Bytes) :
    (plain method path [("authorization", value)]).header? "authorization" = some value := by
  have hname : (lowerAscii "authorization" == "authorization") = true := by decide
  rw [header?, plain, List.find?_cons, hname]
  rfl

/-- Without a header neither the path nor the body matters, and with signed claims the claims are
shown. -/
theorem protected_mediated_plain :
    let stranger := Request.plain "PATCH" "/staff/x/role" []
    stranger.Routed (.role (utf8 "x")) ∧
      (Api.plain.respond stranger).run (World.handler .plain) .plain =
        (some (Api.plain.refusal .unauthenticated), .plain) ∧
      ∃ value : Bytes,
        let known := Request.plain "GET" "/auth/me" [("authorization", value)]
        known.Routed .me ∧
          (Api.plain.respond known).run (World.handler .plain) .plain =
            (some (.json 200 Token.Claims.plainMinute.write), .plain) := by
  intro stranger
  have hclock : World.handler .plain (.outside .now) .plain =
      (some (World.plain.clock.now), World.plain) := rfl
  have hrouted : stranger.Routed (.role (utf8 "x")) := ⟨by rfl, by rfl⟩
  refine ⟨hrouted, ?_, ?_⟩
  · exact ((Api.protected_mediated .plain hrouted rfl hclock).1 .unauthenticated rfl).2.2
  · obtain ⟨first, second, third, -, hsigned⟩ := Token.Issuer.exists_signed_issue
      Service.plain.issuer Token.Claims.plain.context 0 []
    have hadmitted : admission Service.plain.issuer.secret
        (some (utf8 ("Bearer " ++ Token.joined first second third))) World.plain.clock.now =
          .ok Token.Claims.plainMinute :=
      admission_of_signed hsigned (by decide)
    generalize utf8 ("Bearer " ++ Token.joined first second third) = value at hadmitted
    have hknown : (Request.plain "GET" "/auth/me" [("authorization", value)]).Routed .me :=
      ⟨by rfl, by rfl⟩
    rw [← Request.header?_plain "GET" "/auth/me" value] at hadmitted
    obtain ⟨errand, herrand, hrun⟩ :=
      (Api.protected_mediated .plain hknown rfl hclock).2.1 _ hadmitted
    cases herrand
    exact ⟨value, hknown, hrun⟩

end Http

end Gatehouse
