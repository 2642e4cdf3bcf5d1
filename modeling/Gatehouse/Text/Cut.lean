/-!
# Cutting a text at a mark

A text cut at the first place where a mark stands. Main statement: the cut gives back the text, and
the part before the mark does not hold it (`cut_eq_some_iff`).
-/

namespace Gatehouse.Text

/-- What stands before and behind the first mark, if the mark stands anywhere. -/
def cut (mark : Char) : List Char → Option (List Char × List Char)
  | [] => none
  | c :: rest =>
    if c = mark then some ([], rest)
    else (cut mark rest).map (fun (before, behind) => (c :: before, behind))

/-- What stands before the first mark, and what stands behind it if the mark stands anywhere. -/
def halves (mark : Char) (text : List Char) : String × Option String :=
  match cut mark text with
  | some (before, behind) => (String.ofList before, some (String.ofList behind))
  | none => (String.ofList text, none)

/-- What stands behind a beginning, if the text begins so. -/
def behind? (start : List Char) (text : List Char) : Option (List Char) :=
  if start.isPrefixOf text then some (text.drop start.length) else none

/-- A text is cut into two parts exactly when they are joined by the mark, and the first does not
hold it. -/
theorem cut_eq_some_iff {mark : Char} {text before behind : List Char} :
    cut mark text = some (before, behind) ↔
      text = before ++ mark :: behind ∧ mark ∉ before := by
  induction text generalizing before with
  | nil => simp [cut]
  | cons c rest ih =>
    by_cases h : c = mark
    · subst h
      cases before with
      | nil => simp [cut]
      | cons d before =>
        simp only [cut, if_true, Option.some.injEq, Prod.mk.injEq, List.nil_eq, reduceCtorEq,
          false_and, List.cons_append, List.cons.injEq, List.mem_cons, not_or, false_iff]
        rintro ⟨⟨rfl, -⟩, hne, -⟩
        exact hne rfl
    · cases before with
      | nil =>
        simp [cut, h]
      | cons d before =>
        simp only [cut, h, if_false, Option.map_eq_some_iff, Prod.exists, Prod.mk.injEq,
          List.cons.injEq, List.cons_append, List.mem_cons, not_or]
        constructor
        · rintro ⟨b, r, hb, ⟨rfl, rfl⟩, rfl⟩
          obtain ⟨h1, h2⟩ := ih.1 hb
          exact ⟨⟨rfl, h1⟩, fun e => h e.symm, h2⟩
        · rintro ⟨⟨rfl, h1⟩, -, h2⟩
          exact ⟨before, behind, ih.2 ⟨h1, h2⟩, ⟨rfl, rfl⟩, rfl⟩

/-- A text is not cut exactly when the mark does not stand in it. -/
theorem cut_eq_none_iff {mark : Char} {text : List Char} :
    cut mark text = none ↔ mark ∉ text := by
  induction text with
  | nil => simp [cut]
  | cons c rest ih =>
    by_cases h : c = mark
    · simp [cut, h]
    · simp [cut, h, ih, Ne.symm h]

end Gatehouse.Text
