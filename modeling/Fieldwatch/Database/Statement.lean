import Fieldwatch.Database.Value

/-!
# Statements

A statement is a text and the values bound to its parameters. The k-th value is bound wherever the
text says `$k`, counted from one. What writes a row binds its values in the order of its columns.
-/
namespace Fieldwatch.Database

/-- A statement with the values of its parameters. -/
structure Statement where
  text : String
  params : List Value

/-- Where the text of a statement takes a parameter, counted from one. -/
def placeholder (number : Nat) : String := "$" ++ toString number

def commaList (items : List String) : String := ", ".intercalate items

/-- Texts each followed by the placeholder of its parameter, the first of which has a number. -/
def numbered (first : Nat) (clauses : List (String × Value)) : List String :=
  (clauses.zipIdx first).map fun (clause, number) => clause.1 ++ placeholder number

theorem numbered_cons (first : Nat) (clause : String × Value) (rest : List (String × Value)) :
    numbered first (clause :: rest)
      = (clause.1 ++ placeholder first) :: numbered (first + 1) rest := by
  simp [numbered, List.zipIdx_cons]

theorem numbered_append (first : Nat) (clauses more : List (String × Value)) :
    numbered first (clauses ++ more)
      = numbered first clauses ++ numbered (first + clauses.length) more := by
  simp [numbered, List.zipIdx_append]

namespace Statement

/-- Adds a row, unless there is one with the same value in the key column. -/
def insert (table : String) (row : Row) (key : String) : Statement where
  text := "INSERT INTO " ++ table ++ " (" ++ commaList (row.map Prod.fst) ++ ") VALUES ("
    ++ commaList (numbered 1 (row.map fun column => ("", column.2))) ++ ") ON CONFLICT (" ++ key
    ++ ") DO NOTHING"
  params := row.map Prod.snd

/-- Overwrites the row whose identifier is in the first column. -/
def update (table : String) (row : Row) : Statement where
  text := "UPDATE " ++ table ++ " SET "
    ++ commaList (numbered 2 ((row.drop 1).map fun column => (column.1 ++ " = ", column.2)))
    ++ " WHERE id = " ++ placeholder 1
  params := row.map Prod.snd

/-- The statement restricted to rows with a value in a column. -/
def whenEqual (statement : Statement) (column : String) (value : Value) : Statement where
  text := statement.text ++ " AND " ++ column ++ " = " ++ placeholder (statement.params.length + 1)
  params := statement.params ++ [value]

/-- Reads columns of the rows that meet a condition. -/
def select (table : String) (columns : List String) (condition : String) (params : List Value) :
    Statement where
  text := "SELECT " ++ commaList columns ++ " FROM " ++ table ++ " WHERE " ++ condition
  params := params

end Statement

/-! ## Texts in the making -/

/-- The text of a statement as far as it is written, and the number of its next parameter. -/
structure Draft where
  text : String
  next : Nat

namespace Draft

/-- Goes on with a clause that takes the next parameter, if a field is set. -/
def ask {α : Type} (draft : Draft) (clause : String) (field : Option α) : Draft :=
  if field.isSome then ⟨draft.text ++ clause ++ placeholder draft.next, draft.next + 1⟩ else draft

/-- Goes on with words that take no parameter. -/
def say (draft : Draft) (words : String) : Draft :=
  { draft with text := draft.text ++ words }

end Draft

/-- Binds the value of a field after the values bound so far, if the field is set. -/
def bindField {α : Type} [Column α] (field : Option α) (params : List Value) : List Value :=
  match field with
  | some value => params ++ [toValue value]
  | none => params

end Fieldwatch.Database
