/-!
# Sets of stores

The stores that a principal has been granted: a finite set of store ids, held as its ids in
ascending order. The order is part of the type, so two sets are equal exactly when they have the
same members (`ext_mem`), and their ids are written in one way only.
-/

namespace Gatehouse

/-- The number that names a store. -/
abbrev StoreId := Int64

/-- A set of stores, given by its ids in ascending order. -/
structure StoreSet where
  /-- The ids of the set, in ascending order and without repetition. -/
  ids : List StoreId
  /-- The ids ascend strictly. -/
  ascending : ids.Pairwise (· < ·)
  deriving DecidableEq

namespace StoreSet

/-- Adds an id to an ascending list at its place, once. -/
def insertId (id : StoreId) : List StoreId → List StoreId
  | [] => [id]
  | head :: rest =>
    if id < head then id :: head :: rest
    else if id = head then head :: rest
    else head :: insertId id rest

/-- The members after adding an id are the old ones and the new one. -/
theorem mem_insertId {id other : StoreId} {ids : List StoreId} :
    other ∈ insertId id ids ↔ other = id ∨ other ∈ ids := by
  induction ids with
  | nil => simp [insertId]
  | cons head rest ih =>
    rw [insertId]
    split
    · simp
    · split
      · rename_i h
        simp [h]
      · simp only [List.mem_cons, ih]
        constructor
        · rintro (h | h | h) <;> simp [h]
        · rintro (h | h | h) <;> simp [h]

/-- Adding an id keeps the order. -/
theorem ascending_insertId {id : StoreId} {ids : List StoreId} (h : ids.Pairwise (· < ·)) :
    (insertId id ids).Pairwise (· < ·) := by
  induction ids with
  | nil => simp [insertId]
  | cons head rest ih =>
    rw [List.pairwise_cons] at h
    rw [insertId]
    split
    · rename_i hlt
      refine List.pairwise_cons.2 ⟨?_, List.pairwise_cons.2 h⟩
      intro other hother
      rcases List.mem_cons.1 hother with rfl | hrest
      · exact hlt
      · exact Int64.lt_trans hlt (h.1 other hrest)
    · split
      · exact List.pairwise_cons.2 h
      · rename_i hnlt hne
        refine List.pairwise_cons.2 ⟨?_, ih h.2⟩
        intro other hother
        rcases mem_insertId.1 hother with rfl | hrest
        · exact Int64.lt_of_le_of_ne (Int64.not_lt.1 hnlt) (Ne.symm hne)
        · exact h.1 other hrest

/-- The set without members. -/
def empty : StoreSet := ⟨[], List.Pairwise.nil⟩

/-- Adds a store. -/
def insert (stores : StoreSet) (id : StoreId) : StoreSet :=
  ⟨insertId id stores.ids, ascending_insertId stores.ascending⟩

/-- Takes a store away. -/
def erase (stores : StoreSet) (id : StoreId) : StoreSet :=
  ⟨stores.ids.filter (· != id), stores.ascending.filter _⟩

/-- Whether a store is a member. -/
def contains (stores : StoreSet) (id : StoreId) : Bool :=
  stores.ids.contains id

/-- The set of the listed ids, in whatever order and however often they are listed. -/
def ofList (ids : List StoreId) : StoreSet :=
  ids.foldr (fun id stores => stores.insert id) empty

/-- The number of members. -/
def size (stores : StoreSet) : Nat :=
  stores.ids.length

/-- Whether the set has no member. -/
def isEmpty (stores : StoreSet) : Bool :=
  stores.ids.isEmpty

instance : Membership StoreId StoreSet where
  mem stores id := id ∈ stores.ids

/-- The empty set has no members. -/
@[simp]
theorem not_mem_empty (id : StoreId) : ¬ id ∈ empty := by
  intro h
  exact absurd h List.not_mem_nil

/-- The members after adding a store. -/
@[simp]
theorem mem_insert {stores : StoreSet} {id other : StoreId} :
    other ∈ stores.insert id ↔ other = id ∨ other ∈ stores :=
  mem_insertId

/-- The members of a set made from a list are the ids listed. -/
@[simp]
theorem mem_ofList {ids : List StoreId} {id : StoreId} : id ∈ ofList ids ↔ id ∈ ids := by
  induction ids with
  | nil => exact iff_of_false (not_mem_empty id) List.not_mem_nil
  | cons head rest ih =>
    show id ∈ (ofList rest).insert head ↔ id ∈ head :: rest
    rw [mem_insert, ih, List.mem_cons]

/-- The members after taking a store away. -/
@[simp]
theorem mem_erase {stores : StoreSet} {id other : StoreId} :
    other ∈ stores.erase id ↔ other ∈ stores ∧ other ≠ id := by
  show other ∈ stores.ids.filter (· != id) ↔ other ∈ stores.ids ∧ other ≠ id
  simp

/-- The membership test is membership. -/
@[simp]
theorem contains_iff {stores : StoreSet} {id : StoreId} :
    stores.contains id = true ↔ id ∈ stores := by
  show stores.ids.contains id = true ↔ id ∈ stores.ids
  simp

/-- Ascending lists with the same members are equal. -/
private theorem ids_eq_of_mem_iff {first second : List StoreId}
    (hfirst : first.Pairwise (· < ·)) (hsecond : second.Pairwise (· < ·))
    (h : ∀ id, id ∈ first ↔ id ∈ second) : first = second := by
  induction first generalizing second with
  | nil =>
    cases second with
    | nil => rfl
    | cons head rest => exact absurd ((h head).2 List.mem_cons_self) List.not_mem_nil
  | cons head rest ih =>
    cases second with
    | nil => exact absurd ((h head).1 List.mem_cons_self) List.not_mem_nil
    | cons other tail =>
      rw [List.pairwise_cons] at hfirst hsecond
      have hhead : head = other := by
        rcases List.mem_cons.1 ((h head).1 List.mem_cons_self) with heq | hmem
        · exact heq
        · rcases List.mem_cons.1 ((h other).2 List.mem_cons_self) with heq | hother
          · exact heq.symm
          · exact absurd (Int64.lt_trans (hfirst.1 other hother) (hsecond.1 head hmem))
              Int64.lt_irrefl
      subst hhead
      rw [ih hfirst.2 hsecond.2]
      intro id
      constructor
      · intro hid
        rcases List.mem_cons.1 ((h id).1 (List.mem_cons_of_mem _ hid)) with rfl | hmem
        · exact absurd (hfirst.1 id hid) Int64.lt_irrefl
        · exact hmem
      · intro hid
        rcases List.mem_cons.1 ((h id).2 (List.mem_cons_of_mem _ hid)) with rfl | hmem
        · exact absurd (hsecond.1 id hid) Int64.lt_irrefl
        · exact hmem

/-- Sets with the same members are equal. -/
theorem ext_mem {first second : StoreSet} (h : ∀ id, id ∈ first ↔ id ∈ second) :
    first = second := by
  cases first with
  | mk ids ascending =>
    cases second with
    | mk others ascending' =>
      have heq : ids = others := ids_eq_of_mem_iff ascending ascending' h
      subst heq
      rfl

/-- The set made of a set's own ids is the set. -/
@[simp]
theorem ofList_ids (stores : StoreSet) : ofList stores.ids = stores :=
  ext_mem (fun _ => mem_ofList)

end StoreSet

end Gatehouse
