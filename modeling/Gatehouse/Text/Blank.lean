/-!
# Blanks

The characters that only make room between others, in all scripts, and lists without such elements
at their ends. Main statement: a list that has none stays whole (`strip_eq_self`).
-/

namespace Gatehouse.Text

/-- The ranges of code points of blanks, with both ends. -/
def blankRanges : List (Nat × Nat) :=
  [(0x9, 0xd), (0x20, 0x20), (0x85, 0x85), (0xa0, 0xa0), (0x1680, 0x1680), (0x2000, 0x200a),
   (0x2028, 0x2029), (0x202f, 0x202f), (0x205f, 0x205f), (0x3000, 0x3000)]

/-- Whether a character is a blank. -/
def isBlank (c : Char) : Bool :=
  blankRanges.any (fun (first, last) => first ≤ c.toNat && c.toNat ≤ last)

section

variable {α : Type}

/-- A list without the elements at its end for which a test holds. -/
def stripEnd (test : α → Bool) (list : List α) : List α :=
  (list.reverse.dropWhile test).reverse

/-- A list without the elements at both ends for which a test holds. -/
def strip (test : α → Bool) (list : List α) : List α := stripEnd test (list.dropWhile test)

/-- A list stays whole if a test holds for none of its elements. -/
theorem strip_eq_self {test : α → Bool} {list : List α}
    (h : ∀ element ∈ list, test element = false) : strip test list = list := by
  -- what is in the list, in whatever order, begins with an element that is kept
  have hkept (other : List α) (hmem : ∀ element ∈ other, element ∈ list) :
      other.dropWhile test = other := by
    cases other with
    | nil => rfl
    | cons element other =>
      have hfirst : test element = false := h element (hmem element List.mem_cons_self)
      exact List.dropWhile_cons_of_neg (Bool.eq_false_iff.1 hfirst)
  rw [strip, stripEnd, hkept list (fun _ h => h),
    hkept list.reverse (fun _ h => List.mem_reverse.1 h), List.reverse_reverse]

end

/-- A text without the blanks at its end. -/
def trimEnd (text : String) : String := String.ofList (stripEnd isBlank text.toList)

end Gatehouse.Text
