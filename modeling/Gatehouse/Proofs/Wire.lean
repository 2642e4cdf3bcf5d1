import Gatehouse.ContextCache
import Gatehouse.Proofs.Json.Records

/-!
# Contexts read back

Roles, kinds, sets of stores and contexts are read back as what they were written for. Main
statements: `Context.document_write`, and that a cached context is found to be that of its own
principal and of no other (`ContextCache.decode?_write`).
-/

namespace Gatehouse

open Json.Reader

/-- A written role reads back. -/
theorem Role.read_write (role : Role) : Reads Role.read role.write role := by
  refine variant_reads ?_
  cases role <;> decide

/-- A written kind of principal reads back. -/
theorem PrincipalKind.read_write (kind : PrincipalKind) :
    Reads PrincipalKind.read kind.write kind := by
  refine variant_reads ?_
  cases kind <;> decide

/-- A written role that may be missing reads back. -/
theorem Role.optional_read_write (role : Option Role) :
    Reads (optional Role.read) (Json.Write.optional Role.write role) role := by
  cases role with
  | none => exact optional_reads_none Role.read
  | some role => exact optional_reads_some (Role.read_write role) rfl (by decide)

/-- A written whole number starts as an element of a list may. -/
theorem starts_integer (value : Int) : Starts (Json.Write.integer value) := by
  obtain ⟨byte, rest, heq, hbyte⟩ := exists_integer_eq_cons value
  refine ⟨byte, rest, heq, isBlank_of_number hbyte, ?_⟩
  rintro rfl
  rcases hbyte with h | h
  · exact absurd h (by decide)
  · exact absurd h (by decide)

/-- A written set of stores reads back. -/
theorem StoreSet.read_write (stores : StoreSet) : Reads StoreSet.read stores.write stores := by
  have hlist : Reads (list int64)
      (Json.Write.list (stores.ids.map (fun id => Json.Write.integer id.toInt))) stores.ids :=
    list_reads (fun id _ => int64_reads id) (fun id _ => starts_integer id.toInt)
  have hset := hlist.bind_pure StoreSet.ofList
  rwa [StoreSet.ofList_ids] at hset

namespace Context

/-- A written context reads back. -/
theorem read_write (context : Context) : Reads Context.read context.write context := by
  apply record_reads
  refine .cons rfl rfl ((int64_reads context.principalId).bind_pure _) ?_
  refine .cons rfl rfl ((PrincipalKind.read_write context.kind).bind_pure _) ?_
  refine .cons rfl rfl ((string_reads _ context.username).bind_pure _) ?_
  refine .cons rfl rfl ((Role.optional_read_write context.role).bind_pure _) ?_
  refine .cons rfl rfl ((StoreSet.read_write context.stores).bind_pure _) ?_
  exact .nil rfl

/-- The whole text of a written context reads as the context. -/
theorem document_write (context : Context) : read.document context.write = .ok context :=
  document_of_reads context.read_write

end Context

/-- What was cached for a context holds that context, for its own principal and for no other. -/
theorem ContextCache.decode?_write (kind : PrincipalKind) (id : PrincipalId) (context : Context) :
    decode? kind id context.write = if context.isFor kind id then some context else none := by
  rw [decode?, Context.document_write]
  rfl

/-- What was cached for a context holds it for its own principal. -/
theorem ContextCache.decode?_write_self (context : Context) :
    decode? context.kind context.principalId context.write = some context := by
  rw [decode?_write, Context.isFor, beq_self_eq_true, beq_self_eq_true]
  rfl

end Gatehouse
