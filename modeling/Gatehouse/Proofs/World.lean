import Gatehouse.World

/-!
# What a call changes in a world

Every call that a request makes changes one part of the world at most: the store that it goes to, or
the clock and the count of draws.
-/

namespace Gatehouse

/-- Time that passes does not let the calendar go back. -/
theorem Clock.now_le_advance (clock : Clock) (duration : Duration) :
    clock.now.nanos ≤ (clock.advance duration).now.nanos := by
  simp only [now, advance, Timestamp.plus, Duration.add]
  omega

namespace World

variable (around : Surroundings) (call : RequestCall) (world : World)

/-- Only calls to the directory change the directory. -/
theorem handler_directory :
    (handler around call world).2.directory =
      match call with
      | .store (.directory call) => (world.directory.answer call).2
      | _ => world.directory := by
  rcases call with (call | call | call) | call
  · simp only [handler, answerStore]
    split <;> rfl
  · rfl
  · rfl
  · rfl

/-- Only calls to the sessions change the sessions. -/
theorem handler_sessions :
    (handler around call world).2.sessions =
      match call with
      | .store (.session call) => (world.sessions.answer world.clock.now call).2
      | _ => world.sessions := by
  rcases call with (call | call | call) | call
  · simp only [handler, answerStore]
    split <;> rfl
  · rfl
  · rfl
  · rfl

/-- Only calls to the shared entries change the shared entries; a call without an answer does not.
-/
theorem handler_keyValue :
    (handler around call world).2.keyValue =
      match call with
      | .store (.keyValue call) =>
        ((world.keyValue.answer world.clock.instant call).map Prod.snd).getD world.keyValue
      | _ => world.keyValue := by
  rcases call with (call | call | call) | call
  · simp only [handler, answerStore]
    split
    · rename_i value keyValue hanswer
      rw [hanswer]
      rfl
    · rename_i hanswer
      rw [hanswer]
      rfl
  · rfl
  · rfl
  · rfl

/-- Only a pause moves the clock. -/
theorem handler_clock :
    (handler around call world).2.clock =
      match call with
      | .outside (.pause duration) => world.clock.advance (pauseTaken duration)
      | _ => world.clock := by
  rcases call with (call | call | call) | call
  · simp only [handler, answerStore]
    split <;> rfl
  · rfl
  · rfl
  · cases call <;> rfl

/-- A call without an answer changes nothing. -/
theorem eq_of_handler_none {around : Surroundings} {call : RequestCall} {world world' : World}
    (h : handler around call world = (none, world')) : world' = world := by
  rcases call with (call | call | call) | call
  · simp only [handler, answerStore] at h
    split at h
    · cases h
    · cases h
      rfl
  · cases h
  · cases h
  · cases h

/-- No call lets the calendar go back. -/
theorem now_handler_le : world.clock.now.nanos ≤ (handler around call world).2.clock.now.nanos := by
  rw [handler_clock]
  split
  · exact world.clock.now_le_advance _
  · exact Int.le_refl _

end World

end Gatehouse
