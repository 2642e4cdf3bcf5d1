import Gatehouse.Proofs.Numerals
import Gatehouse.Sql.Settings

/-!
# The grammar of database addresses

Which texts are addresses of a database, and what each part of one means. The marks between the
parts may stand in other parts as well; a part ends at the first mark that can end it. Main
statement (`address_grammar`): a text is read exactly if it is laid out as an address whose port, if
it names one, is a numeral of 16 bits; the layout is all that the settings depend on; and settings
whose texts are free of the marks that end them are read back from their address.
-/

namespace Gatehouse

namespace Text

/-- A text splits at the first place of a mark into what stands before and what stands behind;
nothing stands behind if the mark does not stand in the text. -/
def SplitsAt (mark : Char) (text before : String) (behind : Option String) : Prop :=
  match behind with
  | none => text = before ∧ mark ∉ before.toList
  | some behind => text = before ++ String.singleton mark ++ behind ∧ mark ∉ before.toList

/-- The halves of a text are what it splits into. -/
theorem halves_eq_iff {mark : Char} {text before : String} {behind : Option String} :
    halves mark text.toList = (before, behind) ↔ SplitsAt mark text before behind := by
  rw [halves]
  rcases hcut : cut mark text.toList with _ | ⟨first, second⟩
  · have hnot := cut_eq_none_iff.1 hcut
    rw [String.ofList_toList]
    cases behind with
    | none =>
      simp only [Prod.mk.injEq, and_true, SplitsAt]
      exact ⟨by rintro rfl; exact ⟨rfl, hnot⟩, fun h => h.1⟩
    | some behind =>
      refine iff_of_false (by simp) ?_
      rintro ⟨rfl, -⟩
      exact hnot (by simp)
  · obtain ⟨htext, hfirst⟩ := cut_eq_some_iff.1 hcut
    cases behind with
    | none =>
      refine iff_of_false (by simp) ?_
      rintro ⟨rfl, hnot⟩
      exact hnot (by simp [htext])
    | some behind =>
      simp only [Prod.mk.injEq, Option.some.injEq, SplitsAt]
      constructor
      · rintro ⟨rfl, rfl⟩
        refine ⟨String.ext ?_, by rwa [String.toList_ofList]⟩
        simp [htext]
      -- the first place of the mark is one place only
      · rintro ⟨rfl, hnot⟩
        have hother : cut mark (before ++ String.singleton mark ++ behind).toList =
            some (before.toList, behind.toList) := cut_eq_some_iff.2 ⟨by simp, hnot⟩
        rw [hother] at hcut
        cases hcut
        exact ⟨String.ofList_toList, String.ofList_toList⟩

/-- What stands before the first place of a mark is what comes before the first such letter. -/
theorem halves_fst (mark : Char) (letters : List Char) :
    (halves mark letters).1 = String.ofList (letters.takeWhile (· != mark)) := by
  have hcut : ((cut mark letters).map Prod.fst).getD letters =
      letters.takeWhile (· != mark) := by
    induction letters with
    | nil => rfl
    | cons letter letters ih =>
      rw [cut, List.takeWhile_cons]
      by_cases hmark : letter = mark
      · simp [hmark]
      · rw [← ih, if_neg hmark, if_pos (by simp [hmark])]
        rcases cut mark letters with _ | parts <;> rfl
  rw [halves, ← hcut]
  rcases cut mark letters with _ | parts <;> rfl

/-- What stands behind a beginning is the rest of the text. -/
theorem behind?_eq_some_iff {start text rest : List Char} :
    behind? start text = some rest ↔ text = start ++ rest := by
  rw [behind?]
  split
  · rename_i hstart
    obtain ⟨behind, rfl⟩ := List.isPrefixOf_iff_prefix.1 hstart
    simp
  · rename_i hstart
    refine iff_of_false (by rintro ⟨⟩) ?_
    rintro rfl
    exact hstart (List.isPrefixOf_iff_prefix.2 (List.prefix_append start rest))

end Text

namespace Sql

/-- A port is read exactly from a numeral of 16 bits. -/
theorem port?_eq_some_iff {text : String} {port : Nat} :
    port? text = some port ↔ Text.Numeral text port ∧ port ≤ largestPort := by
  rw [← Text.natural_eq_ok_iff, port?]
  rcases Text.natural largestPort text with fault | value
  · exact iff_of_false (by rintro ⟨⟩) (by rintro ⟨⟩)
  · rw [Except.toOption, Option.some.injEq, Except.ok.injEq]

namespace Settings

/-! ## Layouts and what they mean -/

/-- The schemes of addresses. -/
def schemes : List String := ["postgres://", "postgresql://"]

/-- A text is laid out as an address: a scheme, a login, an at sign, a place, a slash, and a tail. A
login has no at sign in it, and a place no slash. -/
structure LaidOut (url scheme login place tail : String) : Prop where
  /-- The text is made of the parts. -/
  url_eq : url = scheme ++ login ++ "@" ++ place ++ "/" ++ tail
  /-- The scheme is one of those of addresses. -/
  scheme_mem : scheme ∈ schemes
  /-- The first at sign ends the login. -/
  login_free : '@' ∉ login.toList
  /-- The first slash behind that ends the place. -/
  place_free : '/' ∉ place.toList

/-- A port is what the text for it says, or the usual one if there is no text. -/
def IsPort : Option String → Nat → Prop
  | none, port => port = 5432
  | some text, port => Text.Numeral text port ∧ port ≤ largestPort

/-- Settings are what the parts of an address say. -/
structure Told (settings : Settings) (login place tail : String) : Prop where
  /-- The login is the user, with the password behind its first colon. -/
  login_splits : Text.SplitsAt ':' login settings.user settings.password
  /-- The place is the host, with the port behind its first colon. -/
  place_splits : ∃ text, Text.SplitsAt ':' place settings.host text ∧ IsPort text settings.port
  /-- The database is the tail up to its first question mark. -/
  tail_splits : ∃ query, Text.SplitsAt '?' tail settings.database query
  /-- All else is as usual. -/
  usual : settings.maxConnections = 16 ∧ settings.connectTimeout = .ofSeconds 5 ∧
    settings.statementTimeout = .ofSeconds 10

variable {url scheme login place tail : String} {settings : Settings}

/-- A scheme is behind nothing but itself. -/
theorem behindScheme?_eq_some_iff {letters rest : List Char} :
    behindScheme? letters = some rest ↔
      ∃ scheme ∈ schemes, letters = scheme.toList ++ rest := by
  have hlong : Text.behind? "postgres://".toList ("postgresql://".toList ++ rest) = none := rfl
  simp only [behindScheme?, schemes, List.mem_cons, List.not_mem_nil, or_false, exists_eq_or_imp,
    exists_eq_left, Option.or_eq_some_iff, Text.behind?_eq_some_iff]
  constructor
  · rintro (h | ⟨-, h⟩)
    · exact .inl h
    · exact .inr h
  · rintro (h | rfl)
    · exact .inl h
    · exact .inr ⟨hlong, rfl⟩

/-- A text is laid out in parts exactly if it is cut into them. -/
theorem laidOut_iff :
    (∃ scheme, LaidOut url scheme login place tail) ↔
      ∃ letters rest, behindScheme? url.toList = some letters ∧
        Text.cut '@' letters = some (login.toList, rest) ∧
        Text.cut '/' rest = some (place.toList, tail.toList) := by
  simp only [behindScheme?_eq_some_iff, Text.cut_eq_some_iff]
  constructor
  · rintro ⟨scheme, rfl, hscheme, hlogin, hplace⟩
    refine ⟨_, _, ⟨scheme, hscheme, ?_⟩, ⟨rfl, hlogin⟩, rfl, hplace⟩
    simp
  · rintro ⟨-, -, ⟨scheme, hscheme, hurl⟩, ⟨rfl, hlogin⟩, rfl, hplace⟩
    refine ⟨scheme, String.ext ?_, hscheme, hlogin, hplace⟩
    rw [hurl]
    simp

/-- A port is what is read from the text for it, or the usual one. -/
theorem isPort_iff {text : Option String} {port : Nat} :
    (match text with
      | none => some 5432
      | some text => port? text) = some port ↔ IsPort text port := by
  cases text with
  | none => exact Option.some_inj.trans eq_comm
  | some text => exact port?_eq_some_iff

/-- The settings that the parts of an address tell. -/
def told? (login place tail : List Char) : Option Settings :=
  let (user, password) := Text.halves ':' login
  let (host, text) := Text.halves ':' place
  (match text with
    | none => some 5432
    | some text => port? text).map fun port =>
      { host, port, user, password, database := String.ofList (tail.takeWhile (· != '?')) }

/-- An address is cut into its parts, which tell the settings. -/
theorem ofUrl?_eq_bind : ofUrl? url = (behindScheme? url.toList).bind fun letters =>
    (Text.cut '@' letters).bind fun (login, rest) =>
      (Text.cut '/' rest).bind fun (place, tail) => told? login place tail := by
  rw [ofUrl?]
  refine congrArg _ (funext fun letters => congrArg _ (funext fun (login, rest) => ?_))
  refine congrArg (Option.bind (Text.cut '/' rest)) (funext fun (place, tail) => ?_)
  dsimp only [told?]
  rcases Text.halves ':' place with ⟨host, _ | text⟩
  · rfl
  · dsimp only
    rcases port? text with _ | port <;> rfl

/-- The parts of an address tell the settings that are what the parts say. -/
theorem told?_eq_some_iff :
    told? login.toList place.toList tail.toList = some settings ↔
      settings.Told login place tail := by
  rw [told?, Option.map_eq_some_iff]
  constructor
  · rintro ⟨port, hport, rfl⟩
    refine ⟨Text.halves_eq_iff.1 rfl, ⟨_, Text.halves_eq_iff.1 rfl, isPort_iff.1 hport⟩, ?_,
      rfl, rfl, rfl⟩
    exact ⟨_, Text.halves_eq_iff.1 (Prod.ext (Text.halves_fst '?' tail.toList) rfl)⟩
  · rintro ⟨hlogin, ⟨text, hplace, hport⟩, ⟨query, htail⟩, husual⟩
    obtain ⟨host, port, user, password, database, _, _, _⟩ := settings
    obtain ⟨rfl, rfl, rfl⟩ := husual
    rw [Text.halves_eq_iff.2 hlogin, Text.halves_eq_iff.2 hplace]
    refine ⟨port, isPort_iff.2 hport, ?_⟩
    rw [← Text.halves_fst, Text.halves_eq_iff.2 htail]

/-- What is read from a text that is laid out as an address is what its parts tell. -/
theorem LaidOut.ofUrl?_eq (h : LaidOut url scheme login place tail) :
    ofUrl? url = told? login.toList place.toList tail.toList := by
  obtain ⟨letters, rest, hletters, hlogin, hplace⟩ := laidOut_iff.1 ⟨scheme, h⟩
  rw [ofUrl?_eq_bind, hletters, Option.bind_some, hlogin, Option.bind_some]
  dsimp only
  rw [hplace, Option.bind_some]

/-- Settings are read only from a text that is laid out as an address. -/
theorem exists_laidOut (h : ofUrl? url = some settings) :
    ∃ scheme login place tail, LaidOut url scheme login place tail := by
  rw [ofUrl?_eq_bind] at h
  obtain ⟨letters, hletters, h⟩ := Option.bind_eq_some_iff.1 h
  obtain ⟨⟨login, rest⟩, hlogin, h⟩ := Option.bind_eq_some_iff.1 h
  obtain ⟨⟨place, tail⟩, hplace, -⟩ := Option.bind_eq_some_iff.1 h
  have hlaid : ∃ scheme,
      LaidOut url scheme (.ofList login) (.ofList place) (.ofList tail) := by
    refine laidOut_iff.2 ⟨letters, rest, hletters, ?_, ?_⟩
    · rwa [String.toList_ofList]
    · rwa [String.toList_ofList, String.toList_ofList]
  obtain ⟨scheme, hlaid⟩ := hlaid
  exact ⟨scheme, _, _, _, hlaid⟩

/-! ## Addresses of settings -/

/-- The login of settings. -/
def loginText (settings : Settings) : String :=
  match settings.password with
  | none => settings.user
  | some password => settings.user ++ ":" ++ password

/-- The address of settings. -/
def address (settings : Settings) (scheme : String) : String :=
  scheme ++ settings.loginText ++ "@" ++ (settings.host ++ ":" ++ toString settings.port) ++ "/" ++
    settings.database

/-- The texts of settings are free of the marks that end them in an address, and the port is one. -/
structure Writable (settings : Settings) : Prop where
  /-- The user ends at a colon or an at sign. -/
  user_free : ':' ∉ settings.user.toList ∧ '@' ∉ settings.user.toList
  /-- The password ends at an at sign. -/
  password_free : ∀ password ∈ settings.password, '@' ∉ password.toList
  /-- The host ends at a colon or a slash. -/
  host_free : ':' ∉ settings.host.toList ∧ '/' ∉ settings.host.toList
  /-- The port has 16 bits. -/
  port_le : settings.port ≤ largestPort
  /-- The database ends at a question mark. -/
  database_free : '?' ∉ settings.database.toList

/-- The address of settings whose texts are free of the marks that end them is laid out as such. -/
theorem Writable.laidOut (h : settings.Writable) (hscheme : scheme ∈ schemes) :
    LaidOut (settings.address scheme) scheme settings.loginText
      (settings.host ++ ":" ++ toString settings.port) settings.database := by
  refine ⟨rfl, hscheme, ?_, ?_⟩
  · rw [loginText]
    rcases hpassword : settings.password with _ | password
    · exact h.user_free.2
    · have hfree := h.password_free password hpassword
      simp [h.user_free.2, hfree]
  · have hdigits : '/' ∉ (toString settings.port).toList :=
      fun hslash => absurd (Text.isDigit_of_mem_toString hslash) (by decide)
    simpa [h.host_free.2] using hdigits

/-- The parts of the address of settings tell these settings, but for what an address does not tell.
-/
theorem Writable.told (h : settings.Writable) :
    Told { host := settings.host, port := settings.port, user := settings.user,
           password := settings.password, database := settings.database }
      settings.loginText (settings.host ++ ":" ++ toString settings.port) settings.database := by
  refine ⟨?_, ⟨some (toString settings.port), ⟨rfl, h.host_free.1⟩,
    Text.numeral_toString settings.port, h.port_le⟩, ⟨none, rfl, h.database_free⟩, rfl, rfl, rfl⟩
  rw [loginText]
  rcases settings.password with _ | password
  · exact ⟨rfl, h.user_free.1⟩
  · exact ⟨rfl, h.user_free.1⟩

/-! ## The grammar -/

/-- The part of a place behind its first colon, if it has one, is a numeral of 16 bits. -/
def HasPort (place : String) : Prop :=
  ∀ host text, Text.SplitsAt ':' place host (some text) →
    ∃ port ≤ largestPort, Text.Numeral text port

/-- The parts of an address tell settings exactly if what is to be the port can be one. -/
theorem exists_told_iff : (∃ settings : Settings, settings.Told login place tail) ↔
    HasPort place := by
  constructor
  · rintro ⟨settings, htold⟩ host text hsplits
    obtain ⟨found, hfound, hport⟩ := htold.place_splits
    -- a text splits in one way only
    cases (Text.halves_eq_iff.2 hfound).symm.trans (Text.halves_eq_iff.2 hsplits)
    exact ⟨settings.port, hport.2, hport.1⟩
  · intro hhas
    rcases hplace : Text.halves ':' place.toList with ⟨host, text⟩
    have hsplits := Text.halves_eq_iff.1 hplace
    have hport : ∃ port, IsPort text port := by
      cases text with
      | none => exact ⟨5432, rfl⟩
      | some text =>
        obtain ⟨port, hle, hnumeral⟩ := hhas host text hsplits
        exact ⟨port, hnumeral, hle⟩
    obtain ⟨port, hport⟩ := hport
    refine ⟨{ host, port
              user := (Text.halves ':' login.toList).1
              password := (Text.halves ':' login.toList).2
              database := (Text.halves '?' tail.toList).1 }, ?_⟩
    exact ⟨Text.halves_eq_iff.1 rfl, ⟨text, hsplits, hport⟩, ⟨_, Text.halves_eq_iff.1 rfl⟩,
      rfl, rfl, rfl⟩

/-- A text is read exactly if it is laid out as an address whose place has nothing but a port behind
its first colon. However it is laid out so, the settings are what the parts tell: user and password,
host and port, split at the first colon, and the database up to the first question mark. Settings
whose texts are free of the marks that end them are read back from their address, but for what an
address does not tell. -/
theorem address_grammar :
    (∀ url, (∃ settings, ofUrl? url = some settings) ↔
      ∃ scheme login place tail, LaidOut url scheme login place tail ∧ HasPort place) ∧
    (∀ url scheme login place tail, LaidOut url scheme login place tail →
      ∀ settings, ofUrl? url = some settings ↔ settings.Told login place tail) ∧
    (∀ settings : Settings, settings.Writable → ∀ scheme ∈ schemes,
      ofUrl? (settings.address scheme) = some
        { host := settings.host, port := settings.port, user := settings.user,
          password := settings.password, database := settings.database }) := by
  have hread (url scheme login place tail : String) (h : LaidOut url scheme login place tail)
      (settings : Settings) : ofUrl? url = some settings ↔ settings.Told login place tail := by
    rw [h.ofUrl?_eq, told?_eq_some_iff]
  refine ⟨fun url => ⟨?_, ?_⟩, hread, ?_⟩
  · rintro ⟨settings, hsettings⟩
    obtain ⟨scheme, login, place, tail, hlaid⟩ := exists_laidOut hsettings
    have htold := (hread _ _ _ _ _ hlaid settings).1 hsettings
    exact ⟨scheme, login, place, tail, hlaid, exists_told_iff.1 ⟨settings, htold⟩⟩
  · rintro ⟨scheme, login, place, tail, hlaid, hport⟩
    obtain ⟨settings, htold⟩ := exists_told_iff.2 hport
    exact ⟨settings, (hread _ _ _ _ _ hlaid settings).2 htold⟩
  · intro settings hwritable scheme hscheme
    exact (hread _ _ _ _ _ (hwritable.laidOut hscheme) _).2 hwritable.told

/-- Settings with marks in texts that they do not end. -/
def plainMarked : Settings :=
  { host := "h@i", port := 99, user := "a/b", password := some "c:d", database := "x/y@z" }

/-- Colons, slashes and at signs may stand where they end nothing. -/
theorem address_grammar_marked :
    plainMarked.Writable ∧ "postgresql://" ∈ schemes ∧
      plainMarked.address "postgresql://" = "postgresql://a/b:c:d@h@i:99/x/y@z" ∧
      ofUrl? "postgresql://a/b:c:d@h@i:99/x/y@z" = some plainMarked := by
  have hwritable : plainMarked.Writable :=
    ⟨by decide, by decide, by decide, by decide, by decide⟩
  have haddress : plainMarked.address "postgresql://" = "postgresql://a/b:c:d@h@i:99/x/y@z" := by
    decide +kernel
  have hscheme : "postgresql://" ∈ schemes := by simp [schemes]
  rw [← haddress]
  exact ⟨hwritable, hscheme, rfl, address_grammar.2.2 plainMarked hwritable _ hscheme⟩

/-- A port may have a plus sign and leading zeros, and an address without one means the usual. -/
example : (ofUrl? "postgres://a@h:+0099/x?y").map Settings.port = some 99 ∧
    (ofUrl? "postgres://a@h/x").map Settings.port = some 5432 ∧
    ofUrl? "postgres://a@h:65536/x" = none := by
  decide +kernel

end Settings

end Sql

end Gatehouse
