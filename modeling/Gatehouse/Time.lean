/-!
# Spans of time, dates and clocks

Lengths of time, instants of the calendar and readings of a clock that only moves forward, all in
whole nanoseconds. Main statements: an expiry that the calendar can hold is exact
(`Timestamp.after_of_le_latest`), and every other one is the last instant of the calendar
(`Timestamp.after_of_latest_lt`).
-/

namespace Gatehouse

/-- A length of time. -/
structure Duration where
  /-- The length in nanoseconds. -/
  nanos : Nat
  deriving DecidableEq, Repr, Inhabited

namespace Duration

/-- The nanoseconds of a second. -/
def nanosPerSecond : Nat := 1000000000

/-- The nanoseconds of a millisecond. -/
def nanosPerMilli : Nat := 1000000

/-- The length zero. -/
def zero : Duration := ⟨0⟩

/-- A length of whole seconds. -/
def ofSeconds (seconds : Nat) : Duration := ⟨seconds * nanosPerSecond⟩

/-- A length of whole milliseconds. -/
def ofMillis (millis : Nat) : Duration := ⟨millis * nanosPerMilli⟩

/-- The whole seconds of a length. -/
def seconds (duration : Duration) : Nat := duration.nanos / nanosPerSecond

/-- The whole milliseconds of a length. -/
def millis (duration : Duration) : Nat := duration.nanos / nanosPerMilli

/-- The least number of whole milliseconds that covers a length. -/
def millisUp (duration : Duration) : Nat :=
  (duration.nanos + (nanosPerMilli - 1)) / nanosPerMilli

/-- Whether there is no time at all. -/
def isZero (duration : Duration) : Bool := duration.nanos == 0

/-- The sum of two lengths. -/
def add (first second : Duration) : Duration := ⟨first.nanos + second.nanos⟩

/-- The digits of a fraction of `width` decimal places, without trailing zeros. -/
def fractionDigits : Nat → Nat → List Char
  | 0, _ => []
  | width + 1, rest =>
    if rest = 0 then []
    else
      let unit := Nat.pow 10 width
      Char.ofNat (48 + rest / unit % 10) :: fractionDigits width (rest % unit)

/-- A number of units with its fraction of `width` places, which is left out when it is zero. -/
def unitText (whole rest width : Nat) (unit : String) : String :=
  match fractionDigits width rest with
  | [] => toString whole ++ unit
  | digits => toString whole ++ "." ++ String.ofList digits ++ unit

/-- The text of a length: in the largest of seconds, milliseconds, microseconds and nanoseconds
that it reaches, with as many decimal places as it needs. -/
def text (duration : Duration) : String :=
  let nanos := duration.nanos
  if nanosPerSecond ≤ nanos then
    unitText (nanos / nanosPerSecond) (nanos % nanosPerSecond) 9 "s"
  else if nanosPerMilli ≤ nanos then
    unitText (nanos / nanosPerMilli) (nanos % nanosPerMilli) 6 "ms"
  else if 1000 ≤ nanos then unitText (nanos / 1000) (nanos % 1000) 3 "µs"
  else unitText nanos 0 0 "ns"

end Duration

/-- An instant of the calendar, in nanoseconds since the start of the year 1970. -/
structure Timestamp where
  /-- The nanoseconds since the start of the year 1970; negative before it. -/
  nanos : Int
  deriving DecidableEq, Repr, Inhabited

namespace Timestamp

/-- The instant of a number of whole seconds. -/
def ofSeconds (seconds : Int) : Timestamp := ⟨seconds * Duration.nanosPerSecond⟩

/-- The instant of a number of whole milliseconds. -/
def ofMillis (millis : Int) : Timestamp := ⟨millis * Duration.nanosPerMilli⟩

/-- The last whole second at or before an instant. -/
def seconds (time : Timestamp) : Int := time.nanos / Duration.nanosPerSecond

/-- The nanoseconds since the last whole second. -/
def nanosOfSecond (time : Timestamp) : Nat := (time.nanos % Duration.nanosPerSecond).toNat

/-- The last instant of the calendar: the end of the year 262142. -/
def latest : Timestamp := ⟨8210266876799999999999⟩

/-- The instant after a length of time. -/
def plus (time : Timestamp) (duration : Duration) : Timestamp := ⟨time.nanos + duration.nanos⟩

/-- The longest span that calendar arithmetic takes: the largest signed 64-bit number of
milliseconds. -/
def longestSpan : Duration := Duration.ofMillis 0x7FFFFFFFFFFFFFFF

/-- Calendar arithmetic takes a longer span for the longest one. -/
def spanOf (duration : Duration) : Duration :=
  if duration.nanos ≤ longestSpan.nanos then duration else longestSpan

/-- The instant after a span, if the calendar holds it. -/
def plus? (time : Timestamp) (span : Duration) : Option Timestamp :=
  let sum := time.plus span
  if sum.nanos ≤ latest.nanos then some sum else none

/-- When something issued at an instant expires after a length of time: at the last instant of the
calendar when the sum lies beyond it. -/
def after (issued : Timestamp) (ttl : Duration) : Timestamp :=
  (issued.plus? (spanOf ttl)).getD latest

/-- The first instant of the calendar: the start of the year -262143. -/
def earliest : Timestamp := ⟨-8334601228800000000000⟩

/-- An expiry that the calendar holds is exact. -/
theorem after_of_le_latest {issued : Timestamp} {ttl : Duration}
    (hissued : earliest.nanos ≤ issued.nanos)
    (hsum : (issued.plus ttl).nanos ≤ latest.nanos) :
    issued.after ttl = issued.plus ttl := by
  have hspan : ttl.nanos ≤ longestSpan.nanos := by
    simp only [earliest, plus, latest, longestSpan, Duration.ofMillis,
      Duration.nanosPerMilli] at *
    omega
  simp [after, plus?, spanOf, hspan, hsum]

/-- An expiry beyond the calendar is the calendar's last instant. -/
theorem after_of_latest_lt {issued : Timestamp} {ttl : Duration}
    (hissued : earliest.nanos ≤ issued.nanos)
    (hsum : latest.nanos < (issued.plus ttl).nanos) :
    issued.after ttl = latest := by
  have hspan : latest.nanos < (issued.plus (spanOf ttl)).nanos := by
    by_cases h : ttl.nanos ≤ longestSpan.nanos
    · simpa [spanOf, h] using hsum
    · simp only [spanOf, h, if_false]
      simp only [earliest, plus, latest, longestSpan, Duration.ofMillis,
        Duration.nanosPerMilli] at *
      omega
  simp [after, plus?, Int.not_le.2 hspan]

end Timestamp

/-- A reading of a clock that only moves forward, in nanoseconds. -/
structure Instant where
  /-- The nanoseconds that the clock shows. -/
  nanos : Nat
  deriving DecidableEq, Repr, Inhabited

namespace Instant

/-- The reading after a length of time, if the clock can show it: its seconds are signed 64-bit
numbers. -/
def plus? (instant : Instant) (duration : Duration) : Option Instant :=
  let sum := instant.nanos + duration.nanos
  if sum / Duration.nanosPerSecond < 0x8000000000000000 then some ⟨sum⟩ else none

end Instant

/-- The two clocks of a process: the calendar and the steady clock, which move together. -/
structure Clock where
  /-- The calendar when the steady clock stood at zero. -/
  started : Timestamp
  /-- The time gone by since then. -/
  elapsed : Duration
  deriving DecidableEq, Repr, Inhabited

namespace Clock

/-- The calendar now. -/
def now (clock : Clock) : Timestamp := clock.started.plus clock.elapsed

/-- The steady clock now. -/
def instant (clock : Clock) : Instant := ⟨clock.elapsed.nanos⟩

/-- Lets time pass. -/
def advance (clock : Clock) (duration : Duration) : Clock :=
  { clock with elapsed := clock.elapsed.add duration }

end Clock

end Gatehouse
