import SqlAnywhere.Query.Row

/-!
# Reading rows

A row can hold several cells of one name, which need not be in the same ASCII
case.  The first of them is what the row has in the column, and what is read
from the column depends on the value of that cell alone: rows that have the
same there are read alike, down to what is said of a fault.
-/

namespace SqlAnywhere.Row

/-! ## The cell of a column -/

/-- Whether the first cell of a name, in any ASCII case, has a value. -/
def HasFirst (row : Row) (column : Text) (value : Value) : Prop :=
  ∃ before name after, row = before ++ (name, value) :: after ∧
    Text.sameLetters name column ∧
    ∀ earlier ∈ before, ¬ Text.sameLetters earlier.1 column

/-- Whether the last cell of a name, in any ASCII case, has a value. -/
def HasLast (row : Row) (column : Text) (value : Value) : Prop :=
  ∃ before name after, row = before ++ (name, value) :: after ∧
    Text.sameLetters name column ∧
    ∀ later ∈ after, ¬ Text.sameLetters later.1 column

/-- Backwards, the first cell of a name is the last one. -/
theorem hasFirst_reverse_iff {row : Row} {column : Text} {value : Value} :
    HasFirst row.reverse column value ↔ HasLast row column value := by
  constructor
  · rintro ⟨before, name, after, whole, named, others⟩
    refine ⟨after.reverse, name, before.reverse, ?_, named, ?_⟩
    · rw [← row.reverse_reverse, whole]
      simp
    · simpa using others
  · rintro ⟨before, name, after, rfl, named, others⟩
    exact ⟨after.reverse, name, before.reverse, by simp, named,
      by simpa using others⟩

theorem get?_eq_some_iff {row : Row} {column : Text} {value : Value} :
    get? row column = some value ↔ HasFirst row column value := by
  simp only [get?, Option.map_eq_some_iff, List.find?_eq_some_iff_append,
    HasFirst, Bool.not_eq_true', ← Bool.not_eq_true]
  constructor
  · rintro ⟨⟨name, _⟩, ⟨named, before, after, whole, others⟩, rfl⟩
    exact ⟨before, name, after, whole, named, others⟩
  · rintro ⟨before, name, after, whole, named, others⟩
    exact ⟨(name, value), ⟨named, before, after, whole, others⟩, rfl⟩

theorem get?_eq_none_iff {row : Row} {column : Text} :
    get? row column = none ↔
      ∀ cell ∈ row, ¬ Text.sameLetters cell.1 column := by
  rw [get?, Option.map_eq_none_iff, List.find?_eq_none]

theorem get?_cons (cell : Text × Value) (row : Row) (column : Text) :
    get? (cell :: row) column =
      if Text.sameLetters cell.1 column then some cell.2
      else get? row column := by
  rw [get?, List.find?_cons]
  split <;> simp_all [get?]

theorem get?_append (row others : Row) (column : Text) :
    get? (row ++ others) column =
      (get? row column).or (get? others column) := by
  rw [get?, List.find?_append, Option.map_or]
  rfl

/-! ## Rows that are alike -/

section Alike

variable {row row' : Row} {column : Text}
  (same : get? row column = get? row' column)

include same

theorem require_congr : require row column = require row' column := by
  rw [require, require, same]

theorem optionalText_congr :
    optionalText row column = optionalText row' column := by
  rw [optionalText, optionalText, require_congr same]

theorem text_congr : text row column = text row' column := by
  rw [text, text, optionalText_congr same]

theorem trimmedText_congr :
    trimmedText row column = trimmedText row' column := by
  rw [trimmedText, trimmedText, text_congr same]

theorem optionalInteger_congr :
    optionalInteger row column = optionalInteger row' column := by
  rw [optionalInteger, optionalInteger, require_congr same]

theorem integer_congr : integer row column = integer row' column := by
  rw [integer, integer, optionalInteger_congr same]

theorem flag_congr : flag row column = flag row' column := by
  rw [flag, flag, optionalText_congr same]

end Alike

end SqlAnywhere.Row
