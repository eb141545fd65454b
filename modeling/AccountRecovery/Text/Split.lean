/-!
# Cutting and splitting texts

A text is cut at the first place a character stands, or split at every place a separator stands.
Splitting keeps empty pieces, and joining the pieces with the separator gives the text back
(`intercalate_fields`).
-/

namespace AccountRecovery.Text

/-- What stands before and after the first `sep`, if there is one. -/
def cut? (sep : Char) : List Char → Option (List Char × List Char)
  | [] => none
  | c :: cs =>
    if c = sep then
      some ([], cs)
    else
      (cut? sep cs).map fun p => (c :: p.1, p.2)

def consHead (c : Char) : List (List Char) → List (List Char)
  | [] => [[c]]
  | p :: ps => (c :: p) :: ps

def fields (sep : Char) : List Char → List (List Char)
  | [] => [[]]
  | c :: cs => if c = sep then [] :: fields sep cs else consHead c (fields sep cs)

/-- The pieces between the occurrences of a separator of any length, read from the left after
`skip` characters that belong to a separator already found. -/
def splitFrom (sep : List Char) : Nat → List Char → List (List Char)
  | _, [] => [[]]
  | skip + 1, _ :: cs => splitFrom sep skip cs
  | 0, c :: cs =>
    if sep.isPrefixOf (c :: cs) then
      [] :: splitFrom sep (sep.length - 1) cs
    else
      consHead c (splitFrom sep 0 cs)

def splitOn (sep text : String) : List String :=
  (splitFrom sep.toList 0 text.toList).map String.ofList

theorem cut?_eq_none_iff {sep : Char} {cs : List Char} : cut? sep cs = none ↔ sep ∉ cs := by
  induction cs with
  | nil => simp [cut?]
  | cons c cs ih =>
    by_cases h : c = sep
    · simp [cut?, h]
    · simp [cut?, h, ih, Ne.symm h]

theorem eq_of_cut?_eq_some {sep : Char} {cs l r : List Char} (h : cut? sep cs = some (l, r)) :
    cs = l ++ sep :: r ∧ sep ∉ l := by
  induction cs generalizing l with
  | nil => simp [cut?] at h
  | cons c cs ih =>
    by_cases hc : c = sep
    · simp [cut?, hc] at h
      obtain ⟨rfl, rfl⟩ := h
      simp [hc]
    · simp only [cut?, hc, if_false, Option.map_eq_some_iff, Prod.exists, Prod.mk.injEq] at h
      obtain ⟨l', r', h', rfl, rfl⟩ := h
      obtain ⟨rfl, hl⟩ := ih h'
      exact ⟨rfl, by simp [hl, Ne.symm hc]⟩

@[simp]
theorem cut?_append {sep : Char} {l r : List Char} (h : sep ∉ l) :
    cut? sep (l ++ sep :: r) = some (l, r) := by
  induction l with
  | nil => simp [cut?]
  | cons c l ih =>
    rw [List.mem_cons, not_or] at h
    simp [cut?, Ne.symm h.1, ih h.2]

theorem fields_ne_nil (sep : Char) (cs : List Char) : fields sep cs ≠ [] := by
  cases cs with
  | nil => simp [fields]
  | cons c cs =>
    by_cases h : c = sep
    · simp [fields, h]
    · cases hf : fields sep cs <;> simp [fields, h, hf, consHead]

theorem intercalate_consHead (s : List Char) (c : Char) {ps : List (List Char)} (h : ps ≠ []) :
    s.intercalate (consHead c ps) = c :: s.intercalate ps := by
  match ps, h with
  | [p], _ => simp [consHead]
  | p :: q :: ps, _ => simp [consHead]

/-- Nothing is lost between the pieces. -/
theorem intercalate_fields (sep : Char) (cs : List Char) :
    [sep].intercalate (fields sep cs) = cs := by
  induction cs with
  | nil => simp [fields]
  | cons c cs ih =>
    by_cases h : c = sep
    · obtain ⟨p, ps, hp⟩ := List.exists_cons_of_ne_nil (fields_ne_nil sep cs)
      rw [hp] at ih
      simp [fields, h, hp, ih]
    · rw [fields, if_neg h, intercalate_consHead _ _ (fields_ne_nil sep cs), ih]

/-- A separator of one character splits like that character. -/
theorem splitFrom_singleton (sep : Char) (cs : List Char) :
    splitFrom [sep] 0 cs = fields sep cs := by
  induction cs with
  | nil => rfl
  | cons c cs ih =>
    by_cases h : c = sep
    · simp [splitFrom, fields, h, ih]
    · simp [splitFrom, fields, h, Ne.symm h, ih]

end AccountRecovery.Text
