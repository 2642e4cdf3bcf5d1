import Gatehouse.Lock
import Gatehouse.Proofs.Wire

/-!
# Keys among the shared entries

Contexts and locks share one store without meeting in it: every principal has a key of its own
(`ContextCache.keyFor_inj`), and so has every job (`Lock.keyFor_inj`), and no lock has the key of a
principal, whatever the job is called (`Lock.keyFor_ne`).
-/

namespace Gatehouse

open Json.Reader

/-- The bytes of a principal's key. -/
theorem ContextCache.utf8_keyFor (kind : PrincipalKind) (id : PrincipalId) :
    utf8 (keyFor kind id) =
      utf8 "auth_ctx:" ++ (utf8 kind.name ++ (utf8 ":" ++ Json.Write.integer id.toInt)) := by
  have hid : toString id = toString id.toInt := rfl
  rw [keyFor, hid, utf8_append, utf8_append, utf8_append, List.append_assoc, List.append_assoc,
    Json.Write.integer]

/-- Whole numbers of 64 bits are written in different ways. -/
theorem integer_toInt_injective {first second : Int64}
    (h : Json.Write.integer first.toInt = Json.Write.integer second.toInt) : first = second := by
  have hfirst := int64_reads first [] delimited_nil
  have hsecond := int64_reads second [] delimited_nil
  rw [h, hsecond] at hfirst
  cases hfirst
  rfl

/-- The names of the kinds begin with different letters. -/
theorem head?_utf8_name (kind : PrincipalKind) (rest : Bytes) :
    (utf8 kind.name ++ rest).head? = some (if kind = .staff then 115 else 99) := by
  cases kind <;> rfl

/-- Every principal has a key of its own. -/
theorem ContextCache.keyFor_inj {kind other : PrincipalKind} {id otherId : PrincipalId} :
    keyFor kind id = keyFor other otherId ↔ kind = other ∧ id = otherId := by
  refine ⟨?_, fun ⟨hkind, hid⟩ => hkind ▸ hid ▸ rfl⟩
  intro h
  have hbytes := congrArg utf8 h
  rw [utf8_keyFor, utf8_keyFor, List.append_cancel_left_eq] at hbytes
  -- behind the common prefix the first letter gives away the kind
  have hkind : kind = other := by
    have hhead := congrArg List.head? hbytes
    rw [head?_utf8_name, head?_utf8_name] at hhead
    revert hhead
    cases kind <;> cases other <;> decide
  subst hkind
  rw [List.append_cancel_left_eq, List.append_cancel_left_eq] at hbytes
  exact ⟨rfl, integer_toInt_injective hbytes⟩

/-- Written digits end with a digit. -/
theorem exists_digitBytes_eq_concat (n : Nat) :
    ∃ start byte, digitBytes (Nat.toDigits 10 n) = start ++ [byte] ∧ isDigit byte = true := by
  have hne : Nat.toDigits 10 n ≠ [] := Nat.toDigits_ne_nil
  have hlast := isDigit_toDigits n _ (List.getLast_mem hne)
  have hsplit := congrArg digitBytes (List.dropLast_concat_getLast hne)
  rw [digitBytes, List.map_append] at hsplit
  exact ⟨_, _, hsplit.symm, (isDigit_byte hlast).1⟩

/-- A written whole number ends with a digit. -/
theorem exists_integer_eq_concat (value : Int) :
    ∃ start byte, Json.Write.integer value = start ++ [byte] ∧ isDigit byte = true := by
  rw [integer_eq]
  split
  · exact exists_digitBytes_eq_concat value.toNat
  · obtain ⟨start, byte, heq, hdigit⟩ := exists_digitBytes_eq_concat (-value).toNat
    exact ⟨45 :: start, byte, by rw [heq]; rfl, hdigit⟩

/-- Every job has a lock of its own. -/
theorem Lock.keyFor_inj {job other : String} : keyFor job = keyFor other ↔ job = other :=
  String.append_left_inj "_lock"

/-- No lock has the key of a principal. -/
theorem Lock.keyFor_ne (job : String) (kind : PrincipalKind) (id : PrincipalId) :
    Lock.keyFor job ≠ ContextCache.keyFor kind id := by
  intro h
  obtain ⟨start, byte, heq, hdigit⟩ := exists_integer_eq_concat id.toInt
  -- a principal's key ends with a digit, and a lock's with a letter
  have hlast := congrArg List.getLast? (congrArg utf8 h)
  have hlock : utf8 "_lock" = [95, 108, 111, 99] ++ [107] := by decide
  rw [Lock.keyFor, ContextCache.utf8_keyFor, utf8_append, hlock, heq, ← List.append_assoc,
    ← List.append_assoc, ← List.append_assoc, ← List.append_assoc, List.getLast?_concat,
    List.getLast?_concat] at hlast
  cases hlast
  exact absurd hdigit (by decide)

end Gatehouse
