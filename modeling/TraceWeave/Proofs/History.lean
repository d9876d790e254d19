import TraceWeave.Proofs.Blank
import TraceWeave.Row

/-! What a row keeps of the steps that built it.

A step gives texts to columns. `Keeps` is what each step preserves: looking a column up finds the
last text that the column was given since the row was begun. A run of steps preserves it too
(`get?_build`), and nothing else of the run can be seen in the row, neither by looking columns up
nor by comparing rows (`last_texts_kept`). -/

namespace TraceWeave.Row

inductive Step where
  /-- Gives a text to a column of the row in place. -/
  | insert (column value : String)
  /-- Hands on the row with a text given to a column. -/
  | extend (column value : String)
  /-- Begins the row anew, from columns and their texts. -/
  | collect (pairs : List (String × String))

namespace Step

def apply (row : Row) : Step → Row
  | insert column value => row.insert column value
  | extend column value => row.insert column value
  | collect pairs => ofPairs pairs

/-- What was given since the row was begun, in order, after one more step. -/
def record (given : List (String × String)) : Step → List (String × String)
  | insert column value => given ++ [(column, value)]
  | extend column value => given ++ [(column, value)]
  | collect pairs => pairs

end Step

def build (steps : List Step) : Row := steps.foldl Step.apply empty

def written (steps : List Step) : List (String × String) := steps.foldl Step.record []

def last? (given : List (String × String)) (column : String) : Option String :=
  given.reverse.lookup column

def Keeps (row : Row) (given : List (String × String)) : Prop :=
  ∀ column, row.get? column = last? given column

variable {row : Row} {given : List (String × String)} {column value : String}

theorem get?_empty (column : String) : empty.get? column = none := by
  simp [empty, get?]

theorem last?_concat (given : List (String × String)) (column value other : String) :
    last? (given ++ [(column, value)]) other =
      if column = other then some value else last? given other := by
  unfold last?
  rw [List.reverse_append, List.reverse_singleton, List.singleton_append, List.lookup_cons]
  by_cases same : other = column
  · subst same
    simp
  · have apart : (other == column) = false := beq_eq_false_iff_ne.mpr same
    simp [apart, Ne.symm same]

theorem Keeps.insert (h : row.Keeps given) (column value : String) :
    (row.insert column value).Keeps (given ++ [(column, value)]) := by
  intro other
  rw [get?_insert, last?_concat, h other]

theorem Keeps.foldl_insert (h : row.Keeps given) (pairs : List (String × String)) :
    (pairs.foldl (fun row (column, value) => row.insert column value) row).Keeps
      (given ++ pairs) := by
  induction pairs generalizing row given with
  | nil =>
    rw [List.append_nil]
    exact h
  | cons pair pairs ih =>
    have next := ih (h.insert pair.1 pair.2)
    rw [List.append_assoc] at next
    exact next

theorem keeps_empty : empty.Keeps [] := by
  intro column
  rw [get?_empty]
  rfl

theorem keeps_ofPairs (pairs : List (String × String)) : (ofPairs pairs).Keeps pairs :=
  keeps_empty.foldl_insert pairs

theorem Keeps.apply (h : row.Keeps given) (step : Step) :
    (step.apply row).Keeps (step.record given) := by
  cases step with
  | insert column value => exact h.insert column value
  | extend column value => exact h.insert column value
  | collect pairs => exact keeps_ofPairs pairs

theorem Keeps.foldl (h : row.Keeps given) (steps : List Step) :
    (steps.foldl Step.apply row).Keeps (steps.foldl Step.record given) := by
  induction steps generalizing row given with
  | nil => exact h
  | cons step steps ih => exact ih (h.apply step)

theorem get?_build (steps : List Step) (column : String) :
    (build steps).get? column = last? (written steps) column :=
  keeps_empty.foldl steps column

theorem eq_iff_get? {a b : Row} : a = b ↔ ∀ column, a.get? column = b.get? column := by
  constructor
  · rintro rfl column
    rfl
  · exact ext_get?

theorem build_concat (steps : List Step) (step : Step) :
    build (steps ++ [step]) = step.apply (build steps) := by
  rw [build, List.foldl_append]
  rfl

/-- Giving a column the text that it has changes nothing, and giving it another text does. -/
theorem insert_eq_self_iff : row.insert column value = row ↔ row.get? column = some value := by
  rw [eq_iff_get?]
  constructor
  · intro same
    rw [← same column, get?_insert, if_pos rfl]
  · intro has other
    rw [get?_insert]
    split
    case isTrue eq => rw [← eq, has]
    case isFalse => rfl

/-- Looking a column up gives the last text that it was given, without the blanks at its ends, and
the empty text if it was given none. Rows are equal if and only if each column was last given the
same text on the way to both, or none on the way to either: the order and the number of the steps do
not count, blanks do, and a column with the empty text is not one without a text. -/
theorem last_texts_kept :
    (∀ (steps : List Step) (column : String),
      match last? (written steps) column with
      | some value => Text.Trims value ((build steps).field column)
      | none => (build steps).field column = "") ∧
    (∀ steps steps' : List Step, build steps = build steps' ↔
      ∀ column, last? (written steps) column = last? (written steps') column) ∧
    ∀ (steps : List Step) (column : String),
      build (steps ++ [.insert column ""]) = build steps ↔
        last? (written steps) column = some "" := by
  refine ⟨?field, ?equal, ?absent⟩
  case field =>
    intro steps column
    rw [field, get?_build]
    cases last? (written steps) column with
    | some value => exact Text.trims_trim value
    | none => decide
  case equal =>
    intro steps steps'
    simp only [eq_iff_get?, get?_build]
  case absent =>
    intro steps column
    rw [build_concat, ← get?_build]
    exact insert_eq_self_iff

/-- A text that was given over again and texts in another order make the same row. -/
example : build [.insert "a" "1", .extend "b" " x y ", .insert "a" ""] =
    build [.insert "c" "2", .collect [("a", ""), ("b", " x y ")]] := by
  decide +kernel

end TraceWeave.Row
