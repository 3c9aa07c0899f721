import Mathlib.Data.String.Basic
import Fieldwatch.Database.Schema
import Fieldwatch.Database.Statement

/-!
# The row that a statement writes

What a statement writes is told from its text alone: the text names a table and says which
placeholder stands for the value of which column, and a placeholder stands for the value that is
bound to it. A column of the table that the text does not mention is null.
-/
namespace Fieldwatch.Database

/-! ## Words -/

/-- Whether a character only keeps words apart. -/
def isSeparator (c : Char) : Bool := c = ' ' || c = ',' || c = '(' || c = ')'

/-- A word that has ended, unless nothing was said. -/
def ended : List Char → List String
  | [] => []
  | word => [String.ofList word]

/-- The words of a text of which the first has begun. -/
def wordsFrom (begun : List Char) : List Char → List String
  | [] => ended begun
  | c :: rest =>
    if isSeparator c then ended begun ++ wordsFrom [] rest else wordsFrom (begun ++ [c]) rest

/-- The words of a text. -/
def words (text : String) : List String := wordsFrom [] text.toList

theorem wordsFrom_append {c : Char} (apart : isSeparator c) (begun first rest : List Char) :
    wordsFrom begun (first ++ c :: rest) = wordsFrom begun first ++ wordsFrom [] rest := by
  induction first generalizing begun with
  | nil =>
    rw [List.nil_append]
    exact if_pos apart
  | cons head first ih =>
    rw [List.cons_append, wordsFrom, wordsFrom]
    by_cases parts : isSeparator head
    · rw [if_pos parts, if_pos parts, ih, List.append_assoc]
    · rw [if_neg parts, if_neg parts, ih]

/-- Whether a text begins with a separator. -/
def opensApart (text : String) : Bool := text.toList.head?.any isSeparator

/-- Whether a text ends with a separator. -/
def endsApart (text : String) : Bool := text.toList.getLast?.any isSeparator

theorem words_append_of_opens {first later : String} (apart : opensApart later) :
    words (first ++ later) = words first ++ words later := by
  unfold opensApart at apart
  cases text : later.toList with
  | nil => rw [text] at apart; cases apart
  | cons c rest =>
    rw [text] at apart
    have here : wordsFrom [] (c :: rest) = wordsFrom [] rest := if_pos apart
    rw [words, words, words, String.toList_append, text, wordsFrom_append apart, here]

theorem words_append_of_ends {first later : String} (apart : endsApart first) :
    words (first ++ later) = words first ++ words later := by
  unfold endsApart at apart
  rcases List.eq_nil_or_concat first.toList with text | ⟨init, c, text⟩
  · rw [text] at apart; cases apart
  · rw [text, List.concat_eq_append, List.getLast?_concat] at apart
    have here : wordsFrom [] (init ++ [c]) = wordsFrom [] init := by
      rw [wordsFrom_append apart]
      exact List.append_nil _
    rw [words, words, words, String.toList_append, text, List.concat_eq_append, List.append_assoc,
      List.singleton_append, wordsFrom_append apart, here]

theorem endsApart_append {first later : String} (apart : endsApart later) :
    endsApart (first ++ later) := by
  unfold endsApart at apart ⊢
  rw [String.toList_append, List.getLast?_append]
  cases last : later.toList.getLast? with
  | none => rw [last] at apart; cases apart
  | some c => rw [last] at apart; exact apart

/-- Whether a text is one word. -/
def IsWord (text : String) : Prop := text ≠ "" ∧ ∀ c ∈ text.toList, isSeparator c = false

-- Only the characters of the text are gone through, not all that there are.
instance (text : String) : Decidable (IsWord text) :=
  @instDecidableAnd _ _ inferInstance
    (List.decidableBAll (fun c => isSeparator c = false) text.toList)

theorem wordsFrom_of_no_separator {text : List Char} (begun : List Char)
    (whole : ∀ c ∈ text, isSeparator c = false) : wordsFrom begun text = ended (begun ++ text) := by
  induction text generalizing begun with
  | nil => rw [List.append_nil]; rfl
  | cons c rest ih =>
    rw [wordsFrom, if_neg (by simp [whole c List.mem_cons_self]),
      ih _ fun later member => whole later (List.mem_cons_of_mem _ member), List.append_assoc,
      List.singleton_append]

theorem IsWord.words_eq {text : String} (word : IsWord text) : words text = [text] := by
  obtain ⟨some, whole⟩ := word
  rw [words, wordsFrom_of_no_separator [] whole, List.nil_append]
  cases given : text.toList with
  | nil => exact absurd (String.toList_eq_nil_iff.mp given) some
  | cons c rest => rw [ended, ← given, String.ofList_toList]; intro nothing; cases nothing

theorem words_commaList (texts : List String) : words (commaList texts) = texts.flatMap words := by
  unfold commaList
  induction texts with
  | nil => rw [String.intercalate_nil]; rfl
  | cons text rest ih =>
    cases rest with
    | nil =>
      rw [String.intercalate_singleton, List.flatMap_cons, List.flatMap_nil, List.append_nil]
    | cons next rest =>
      have comma : words ", " = [] := by decide
      rw [String.intercalate_cons_cons,
        words_append_of_ends (endsApart_append (by decide : endsApart ", ")),
        words_append_of_opens (by decide : opensApart ", "), comma, List.append_nil, ih]
      rfl

/-! ## Placeholders -/

theorem toList_placeholder (number : Nat) :
    (placeholder number).toList = '$' :: Nat.toDigits 10 number := by
  rw [placeholder, String.toList_append]
  exact congrArg ('$' :: ·) Nat.toList_repr

theorem placeholder_inj {first second : Nat} (same : placeholder first = placeholder second) :
    first = second := by
  have digits : '$' :: Nat.toDigits 10 first = '$' :: Nat.toDigits 10 second := by
    rw [← toList_placeholder, ← toList_placeholder, same]
  have numbers := congrArg (Nat.ofDigitChars 10 · 0) (List.cons.inj digits).2
  simpa only [Nat.ofDigitChars_ten_toDigits] using numbers

theorem isWord_placeholder (number : Nat) : IsWord (placeholder number) := by
  constructor
  · intro empty
    have text := toList_placeholder number
    rw [empty] at text
    cases text
  · intro c member
    rw [toList_placeholder] at member
    rcases List.mem_cons.mp member with rfl | digit
    · rfl
    · have isDigit := Nat.isDigit_of_mem_toDigits (by decide) (by decide) digit
      by_contra apart
      have named : ((c = ' ' ∨ c = ',') ∨ c = '(') ∨ c = ')' := by
        simpa only [isSeparator, Bool.not_eq_false, Bool.or_eq_true, decide_eq_true_eq] using apart
      rcases named with ((rfl | rfl) | rfl) | rfl <;> revert isDigit <;> decide

theorem placeholder_ne {number : Nat} {word : String} (other : word.toList.head? ≠ some '$') :
    placeholder number ≠ word := by
  rintro rfl
  exact other (by rw [toList_placeholder]; rfl)

/-- The value that a word stands for, if it is a placeholder that one is bound to. -/
def Statement.valueOf? (statement : Statement) (word : String) : Option Value :=
  ((statement.params.zipIdx 1).find? fun bound => placeholder bound.2 = word).map Prod.fst

theorem Statement.valueOf?_placeholder {statement : Statement} {before after : List Value}
    {value : Value} (bound : statement.params = before ++ value :: after) :
    statement.valueOf? (placeholder (before.length + 1)) = some value := by
  have earlier : ∀ bound ∈ before.zipIdx 1,
      ¬ (decide (placeholder bound.2 = placeholder (before.length + 1)) = true) := by
    intro bound member same
    have number := placeholder_inj (of_decide_eq_true same)
    have among := (List.mem_zipIdx member).2.1
    omega
  rw [valueOf?, bound, List.zipIdx_append, List.find?_append, List.find?_eq_none.mpr earlier,
    List.zipIdx_cons, Option.none_or, Nat.add_comm, List.find?_cons_of_pos (by simp)]
  rfl

/-! ## What a text says -/

/-- The columns that are set equal to words, in order. -/
def equations : List String → List (String × String)
  | column :: "=" :: word :: rest => (column, word) :: equations rest
  | _ :: rest => equations rest
  | [] => []

/-- The table that a text writes to and the columns of the row, each with the word for its value. A
row that is overwritten has the values that it is given, and otherwise those that it was found by,
which the text says last. -/
def assignments : List String → Option (String × List (String × String))
  | "INSERT" :: "INTO" :: table :: rest =>
    some (table, (rest.takeWhile (· ≠ "VALUES")).zip
      (((rest.dropWhile (· ≠ "VALUES")).drop 1).takeWhile (· ≠ "ON")))
  | "UPDATE" :: table :: "SET" :: rest => some (table, equations rest)
  | _ => none

/-- The columns of a table with the values that a row has in them, or null. -/
def TableShape.fill (shape : TableShape) (row : Row) : Row :=
  shape.columns.map fun column => (column.1, (row.value? column.1).getD .null)

/-- Columns with the values that words stand for. -/
def Statement.bind? (statement : Statement) : List (String × String) → Option Row
  | [] => some []
  | (column, word) :: rest => do
    return (column, ← statement.valueOf? word) :: (← statement.bind? rest)

def Schema.shape? (table : String) : Option TableShape :=
  scripts.flatten.find? fun shape => shape.name = table

/-- The row that a statement writes, if it is told by its text. -/
def Statement.row? (statement : Statement) : Option Row := do
  let (table, assigned) ← assignments (words statement.text)
  return (← Schema.shape? table).fill (← statement.bind? assigned)

namespace Statement

variable {statement : Statement}

theorem bind?_append {first second : List (String × String)} {row later : Row}
    (bound : statement.bind? first = some row) (boundLater : statement.bind? second = some later) :
    statement.bind? (first ++ second) = some (row ++ later) := by
  induction first generalizing row with
  | nil => cases bound; exact boundLater
  | cons head first ih =>
    obtain ⟨column, word⟩ := head
    rw [List.cons_append, bind?]
    rw [bind?] at bound
    cases value : statement.valueOf? word with
    | none => rw [value] at bound; cases bound
    | some value =>
      rw [value] at bound
      cases rest : statement.bind? first with
      | none => rw [rest] at bound; cases bound
      | some row =>
        rw [rest] at bound
        cases bound
        rw [ih rest]
        rfl

/-- Columns with the placeholders of their values. -/
def placed (number : Nat) (row : Row) : List (String × String) :=
  (row.zipIdx number).map fun (column, number) => (column.1, placeholder number)

theorem bind?_placed (before after : List Value) {row : Row}
    (bound : statement.params = before ++ row.map Prod.snd ++ after) :
    statement.bind? (placed (before.length + 1) row) = some row := by
  induction row generalizing before with
  | nil => rfl
  | cons column rest ih =>
    have here : statement.params = before ++ column.2 :: (rest.map Prod.snd ++ after) := by
      simpa using bound
    have later := ih (before ++ [column.2]) (by simpa using bound)
    rw [List.length_append, List.length_singleton] at later
    rw [placed, List.zipIdx_cons, List.map_cons, bind?, valueOf?_placeholder here]
    change (do return (column.1, column.2) :: (← statement.bind? (placed _ rest))) = _
    rw [later]
    rfl

/-! ## Statements that write a row -/

theorem flatMap_words {texts : List String} (all : ∀ text ∈ texts, IsWord text) :
    texts.flatMap words = texts := by
  induction texts with
  | nil => rfl
  | cons text rest ih =>
    rw [List.flatMap_cons, (all text List.mem_cons_self).words_eq,
      ih fun text member => all text (List.mem_cons_of_mem _ member), List.singleton_append]

theorem words_values (number : Nat) (row : Row) :
    (numbered number (row.map fun column => ("", column.2))).flatMap words =
      (placed number row).map Prod.snd := by
  induction row generalizing number with
  | nil => rfl
  | cons column rest ih =>
    rw [List.map_cons, numbered_cons, List.flatMap_cons, ih, String.empty_append,
      (isWord_placeholder number).words_eq]
    rfl

theorem words_insert {table key : String} {row : Row} (tableWord : IsWord table)
    (keyWord : IsWord key) (columns : ∀ column ∈ row.map Prod.fst, IsWord column) :
    words (insert table row key).text =
      ["INSERT", "INTO", table] ++ row.map Prod.fst ++ ["VALUES"] ++ (placed 1 row).map Prod.snd ++
        ["ON", "CONFLICT", key, "DO", "NOTHING"] := by
  have into : words "INSERT INTO " = ["INSERT", "INTO"] := by decide
  have bracket : words " (" = [] := by decide
  have values : words ") VALUES (" = ["VALUES"] := by decide
  have conflict : words ") ON CONFLICT (" = ["ON", "CONFLICT"] := by decide
  have nothing : words ") DO NOTHING" = ["DO", "NOTHING"] := by decide
  unfold insert
  rw [words_append_of_opens (by decide), words_append_of_ends (endsApart_append (by decide)),
    words_append_of_opens (by decide), words_append_of_ends (endsApart_append (by decide)),
    words_append_of_opens (by decide), words_append_of_ends (endsApart_append (by decide)),
    words_append_of_opens (by decide), words_append_of_ends (by decide)]
  rw [into, bracket, values, conflict, nothing, tableWord.words_eq, keyWord.words_eq,
    words_commaList, words_commaList, flatMap_words columns, words_values]
  simp

theorem map_fst_placed (number : Nat) (row : Row) :
    (placed number row).map Prod.fst = row.map Prod.fst := by
  induction row generalizing number with
  | nil => rfl
  | cons column rest ih => exact congrArg (column.1 :: ·) (ih (number + 1))

theorem assignments_insert {table key : String} {row : Row} (tableWord : IsWord table)
    (keyWord : IsWord key)
    (columns : ∀ column ∈ row.map Prod.fst, IsWord column ∧ column ≠ "VALUES") :
    assignments (words (insert table row key).text) = some (table, placed 1 row) := by
  have names : ∀ column ∈ row.map Prod.fst, decide (column ≠ "VALUES") = true :=
    fun column member => decide_eq_true (columns column member).2
  have values : ∀ word ∈ (placed 1 row).map Prod.snd, decide (word ≠ "ON") = true := by
    intro word member
    obtain ⟨pair, among, rfl⟩ := List.mem_map.mp member
    obtain ⟨bound, -, rfl⟩ := List.mem_map.mp among
    exact decide_eq_true (placeholder_ne (by decide))
  rw [words_insert tableWord keyWord fun column member => (columns column member).1]
  simp only [List.append_assoc, List.cons_append, List.nil_append, assignments,
    List.takeWhile_append_of_pos names, List.dropWhile_append_of_pos names]
  rw [List.takeWhile_cons_of_neg (by decide), List.append_nil,
    List.dropWhile_cons_of_neg (by decide), List.drop_one, List.tail_cons,
    List.takeWhile_append_of_pos values, List.takeWhile_cons_of_neg (by decide), List.append_nil,
    ← List.zip_of_prod (map_fst_placed 1 row) rfl]

theorem row?_eq_some {table : String} {shape : TableShape} {assigned : List (String × String)}
    {row : Row} (said : assignments (words statement.text) = some (table, assigned))
    (known : Schema.shape? table = some shape) (bound : statement.bind? assigned = some row) :
    statement.row? = some (shape.fill row) := by
  unfold row?
  rw [said]
  change (do return (← Schema.shape? table).fill (← statement.bind? assigned)) = _
  rw [known, bound]
  rfl

/-- The row that is added is the one that was given. -/
theorem row?_insert {table key : String} {shape : TableShape} {row : Row}
    (known : Schema.shape? table = some shape) (tableWord : IsWord table) (keyWord : IsWord key)
    (columns : ∀ column ∈ row.map Prod.fst, IsWord column ∧ column ≠ "VALUES") :
    (insert table row key).row? = some (shape.fill row) := by
  have params : (insert table row key).params = [] ++ row.map Prod.snd ++ [] :=
    (List.append_nil _).symm
  exact row?_eq_some (assignments_insert tableWord keyWord columns) known
    (bind?_placed [] [] params)

theorem words_equations (number : Nat) {row : Row}
    (columns : ∀ column ∈ row.map Prod.fst, IsWord column) :
    (numbered number (row.map fun column => (column.1 ++ " = ", column.2))).flatMap words =
      (placed number row).flatMap fun (column, word) => [column, "=", word] := by
  have equals : words " = " = ["="] := by decide
  induction row generalizing number with
  | nil => rfl
  | cons column rest ih =>
    have here := columns column.1 List.mem_cons_self
    rw [List.map_cons, numbered_cons, List.flatMap_cons,
      ih (number + 1) fun column member => columns column (List.mem_cons_of_mem _ member),
      words_append_of_ends (endsApart_append (by decide)), words_append_of_opens (by decide),
      here.words_eq, equals, (isWord_placeholder number).words_eq]
    rfl

theorem equations_append (pairs : List (String × String)) (rest : List String) :
    equations (pairs.flatMap (fun (column, word) => [column, "=", word]) ++ rest) =
      pairs ++ equations rest := by
  induction pairs with
  | nil => rfl
  | cons pair pairs ih => exact congrArg (pair :: ·) ih

theorem words_update {table : String} {id : Value} {row : Row} (tableWord : IsWord table)
    (columns : ∀ column ∈ row.map Prod.fst, IsWord column) :
    words (update table (("id", id) :: row)).text =
      ["UPDATE", table, "SET"] ++
        (placed 2 row).flatMap (fun (column, word) => [column, "=", word]) ++
        ["WHERE", "id", "=", placeholder 1] := by
  have update : words "UPDATE " = ["UPDATE"] := by decide
  have set : words " SET " = ["SET"] := by decide
  have where_ : words " WHERE id = " = ["WHERE", "id", "="] := by decide
  unfold Statement.update
  rw [words_append_of_ends (endsApart_append (by decide)), words_append_of_opens (by decide),
    words_append_of_ends (endsApart_append (by decide)), words_append_of_opens (by decide),
    words_append_of_ends (by decide), update, set, where_, tableWord.words_eq,
    (isWord_placeholder 1).words_eq, words_commaList, List.drop_one, List.tail_cons,
    words_equations 2 columns]
  simp

theorem assignments_update {table : String} {id : Value} {row : Row} (tableWord : IsWord table)
    (columns : ∀ column ∈ row.map Prod.fst, IsWord column) :
    assignments (words (update table (("id", id) :: row)).text) =
      some (table, placed 2 row ++ [("id", placeholder 1)]) := by
  rw [words_update tableWord columns, List.append_assoc]
  exact congrArg (fun pairs => some (table, pairs)) (equations_append _ _)

/-- The values of a row that is overwritten are those that were given. -/
theorem bind?_update (table : String) (id : Value) (row : Row) (after : List Value)
    (params : statement.params = (update table (("id", id) :: row)).params ++ after) :
    statement.bind? (placed 2 row ++ [("id", placeholder 1)]) = some (row ++ [("id", id)]) := by
  have given : statement.params = [id] ++ row.map Prod.snd ++ after := params
  have found : statement.params =
      [] ++ List.map Prod.snd [("id", id)] ++ (row.map Prod.snd ++ after) := params
  exact bind?_append (bind?_placed [id] after given) (bind?_placed [] _ found)

theorem row?_update {table : String} {shape : TableShape} {id : Value} {row : Row}
    (known : Schema.shape? table = some shape) (tableWord : IsWord table)
    (columns : ∀ column ∈ row.map Prod.fst, IsWord column) :
    (update table (("id", id) :: row)).row? = some (shape.fill (row ++ [("id", id)])) :=
  row?_eq_some (assignments_update tableWord columns) known
    (bind?_update table id row [] (List.append_nil _).symm)

theorem words_whenEqual {name : String} {value : Value} (nameWord : IsWord name) :
    words (statement.whenEqual name value).text =
      words statement.text ++ ["AND", name, "=", placeholder (statement.params.length + 1)] := by
  have both : words " AND " = ["AND"] := by decide
  have equals : words " = " = ["="] := by decide
  unfold whenEqual
  rw [words_append_of_ends (endsApart_append (by decide)), words_append_of_opens (by decide),
    words_append_of_ends (endsApart_append (by decide)), words_append_of_opens (by decide),
    both, equals, nameWord.words_eq, (isWord_placeholder _).words_eq]
  simp

/-- A condition on the row that is overwritten comes after what it is overwritten with. -/
theorem row?_whenEqual {table name : String} {shape : TableShape} {id value : Value} {row : Row}
    (known : Schema.shape? table = some shape) (tableWord : IsWord table)
    (columns : ∀ column ∈ row.map Prod.fst, IsWord column) (nameWord : IsWord name)
    (noSign : name ≠ "=") :
    ((update table (("id", id) :: row)).whenEqual name value).row? =
      some (shape.fill (row ++ [("id", id)] ++ [(name, value)])) := by
  have params : ((update table (("id", id) :: row)).whenEqual name value).params =
      (update table (("id", id) :: row)).params ++ [value] := rfl
  have last : ((update table (("id", id) :: row)).whenEqual name value).params =
      (update table (("id", id) :: row)).params ++ List.map Prod.snd [(name, value)] ++ [] :=
    (List.append_nil _).symm
  have said : assignments (words ((update table (("id", id) :: row)).whenEqual name value).text) =
      some (table, placed 2 row ++ [("id", placeholder 1)] ++
        placed ((update table (("id", id) :: row)).params.length + 1) [(name, value)]) := by
    rw [words_whenEqual nameWord, words_update tableWord columns, List.append_assoc,
      List.append_assoc, List.append_assoc]
    refine congrArg (fun pairs => some (table, pairs)) ((equations_append _ _).trans ?_)
    refine congrArg (placed 2 row ++ ·) ?_
    simp [equations, noSign, placed]
  exact row?_eq_some said known
    (bind?_append (bind?_update table id row [value] params) (bind?_placed _ [] last))

end Statement
end Fieldwatch.Database
