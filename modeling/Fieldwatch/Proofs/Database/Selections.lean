import Fieldwatch.Database.Table
import Fieldwatch.Proofs.Database.Written

/-!
# The rows that a statement reads

What a statement reads is told from its text alone: the text names the columns and the table, says
how columns of a row must compare with values, in what order rows come and which page of them. A
value is bound to a placeholder or stands in quotes. The text of a query over the readings says what
the query says.
-/
namespace Fieldwatch.Database

/-! ## Conditions on a row -/

/-- How a column must compare with a value. -/
inductive Sign
  | equal
  | unequal
  | below
  | atMost
  | atLeast
  deriving DecidableEq

namespace Sign

def text : Sign → String
  | equal => "="
  | unequal => "<>"
  | below => "<"
  | atMost => "<="
  | atLeast => ">="

def ofText? : String → Option Sign
  | "=" => some equal
  | "<>" => some unequal
  | "<" => some below
  | "<=" => some atMost
  | ">=" => some atLeast
  | _ => none

theorem ofText?_text (sign : Sign) : ofText? sign.text = some sign := by cases sign <;> rfl

theorem isWord_text (sign : Sign) : IsWord sign.text := by cases sign <;> decide

/-- Whether two of an ordered type compare like this. -/
def compares {α : Type} [DecidableEq α] [LT α] [LE α] [DecidableLT α] [DecidableLE α]
    (sign : Sign) (held bound : α) : Bool :=
  match sign with
  | equal => held = bound
  | unequal => held ≠ bound
  | below => held < bound
  | atMost => held ≤ bound
  | atLeast => bound ≤ held

end Sign

/-- Whether the value that a row holds compares with another like this. Null compares with nothing,
and neither do values of two types. -/
def Value.meets (sign : Sign) : Value → Value → Bool
  | .uuid held, .uuid bound => sign.compares held bound
  | .text held, .text bound => sign.compares held bound
  | .int4 held, .int4 bound => sign.compares held bound
  | .int8 held, .int8 bound => sign.compares held bound
  | .time held, .time bound => sign.compares held bound
  | _, _ => false

/-- A column that must compare with something that stands for a value. -/
structure Comparison (ω : Type) where
  column : String
  sign : Sign
  bound : ω
  deriving DecidableEq

/-- What is read: columns of the rows of a table that meet all conditions, in ascending order of
some columns, and of these a page. -/
structure Selection (ω : Type) where
  columns : List String
  table : String
  conditions : List (Comparison ω)
  order : List String
  limit : Option ω
  offset : Option ω
  deriving DecidableEq

def Comparison.accepts (comparison : Comparison Value) (row : Row) : Bool :=
  (row.value? comparison.column).any fun held => held.meets comparison.sign comparison.bound

/-- Whether a row meets all conditions. -/
def Selection.accepts (selection : Selection Value) (row : Row) : Bool :=
  selection.conditions.all fun comparison => comparison.accepts row

/-! ## Reading the words of a text -/

/-- The comparisons that words begin with, each after `AND`, and the words after them. -/
def furtherComparisons : List String → List (Comparison String) × List String
  | "AND" :: column :: sign :: word :: rest =>
    match Sign.ofText? sign with
    | some sign =>
      let (more, rest) := furtherComparisons rest
      (⟨column, sign, word⟩ :: more, rest)
    | none => ([], "AND" :: column :: sign :: word :: rest)
  | rest => ([], rest)

/-- The comparisons that words begin with, joined by `AND`. What always holds is none. -/
def comparisons : List String → List (Comparison String) × List String
  | "1=1" :: rest => furtherComparisons rest
  | words => furtherComparisons ("AND" :: words)

/-- The columns that words begin with, each in ascending order. -/
def ascending : List String → List String × List String
  | column :: "ASC" :: rest =>
    let (more, rest) := ascending rest
    (column :: more, rest)
  | rest => ([], rest)

/-- How many rows at most and after how many, if words say nothing else. -/
def pageOf : List String → Option (Option String × Option String)
  | [] => some (none, none)
  | ["LIMIT", limit] => some (some limit, none)
  | ["OFFSET", offset] => some (none, some offset)
  | ["LIMIT", limit, "OFFSET", offset] => some (some limit, some offset)
  | _ => none

/-- What the words after a list of columns say. -/
def selectionFrom (columns : List String) : List String → Option (Selection String)
  | "FROM" :: table :: "WHERE" :: rest =>
    match comparisons rest with
    | (conditions, "ORDER" :: "BY" :: rest) =>
      let (order, rest) := ascending rest
      (pageOf rest).map fun (limit, offset) =>
        { columns, table, conditions, order, limit, offset }
    | _ => none
  | _ => none

/-- What words say is read, if they say that and nothing else. -/
def selectionOf : List String → Option (Selection String)
  | "SELECT" :: rest =>
    selectionFrom (rest.takeWhile (· ≠ "FROM")) (rest.dropWhile (· ≠ "FROM"))
  | _ => none

/-- The text in quotes, if a word is one. -/
def quoted? (word : String) : Option String :=
  match word.toList with
  | '\'' :: rest => if rest.getLast? = some '\'' then some (String.ofList rest.dropLast) else none
  | _ => none

namespace Statement

/-- The value that a word stands for: the one that is bound to a placeholder, or a text in
quotes. -/
def term? (statement : Statement) (word : String) : Option Value :=
  statement.valueOf? word <|> (quoted? word).map .text

def compare? (statement : Statement) (comparison : Comparison String) :
    Option (Comparison Value) := do
  return ⟨comparison.column, comparison.sign, ← statement.term? comparison.bound⟩

/-- What a statement reads, if that is told by its text and every word stands for a value. -/
def selection? (statement : Statement) : Option (Selection Value) := do
  let selection ← selectionOf (words statement.text)
  return {
    columns := selection.columns
    table := selection.table
    conditions := ← selection.conditions.mapM statement.compare?
    order := selection.order
    limit := ← selection.limit.mapM statement.term?
    offset := ← selection.offset.mapM statement.term? }

end Statement

/-- The words of a text in which there is a `$`, in the order in which they stand. -/
def placeholders (text : String) : List String := (words text).filter fun word => '$' ∈ word.toList

/-! ## Clauses -/

/-- The words of texts each followed by a placeholder, the first of which has a number. -/
def spoken (first : Nat) (clauses : List (String × Value)) : List String :=
  (clauses.zipIdx first).flatMap fun (clause, number) => words clause.1 ++ [placeholder number]

section Clauses

variable {clauses : List (String × Value)}

theorem spoken_cons (first : Nat) (clause : String × Value) (rest : List (String × Value)) :
    spoken first (clause :: rest) =
      words clause.1 ++ placeholder first :: spoken (first + 1) rest := by
  simp [spoken, List.zipIdx_cons]

theorem filter_spoken (first : Nat)
    (plain : ∀ clause ∈ clauses, placeholders clause.1 = []) :
    (spoken first clauses).filter (fun word => '$' ∈ word.toList) =
      (List.range' first clauses.length).map placeholder := by
  induction clauses generalizing first with
  | nil => rfl
  | cons clause rest ih =>
    have marked : '$' ∈ (placeholder first).toList := by
      rw [toList_placeholder]
      exact List.mem_cons_self
    rw [spoken_cons, List.filter_append, List.filter_cons_of_pos (by simpa using marked),
      ih (first + 1) fun clause member => plain clause (List.mem_cons_of_mem _ member),
      List.length_cons, List.range'_succ, List.map_cons]
    exact congrArg (· ++ _) (plain clause List.mem_cons_self)

theorem opensApart_append {first later : String} (apart : opensApart first) :
    opensApart (first ++ later) := by
  unfold opensApart at apart ⊢
  rw [String.toList_append, List.head?_append]
  cases head : first.toList.head? with
  | none => rw [head] at apart; cases apart
  | some c => rw [head] at apart; exact apart

/-- Clauses that are apart from what stands before and after them are heard one by one. -/
theorem words_append_join_numbered
    (apart : ∀ clause ∈ clauses, opensApart clause.1 ∧ endsApart clause.1) (before : String)
    (first : Nat) :
    words (before ++ String.join (numbered first clauses)) =
      words before ++ spoken first clauses := by
  induction clauses generalizing before first with
  | nil =>
    change words (before ++ String.join []) = words before ++ []
    rw [String.join_nil, String.append_empty, List.append_nil]
  | cons clause rest ih =>
    obtain ⟨opens, ends⟩ := apart clause List.mem_cons_self
    rw [numbered_cons, String.join_cons, ← String.append_assoc,
      ih fun clause member => apart clause (List.mem_cons_of_mem _ member),
      words_append_of_opens (opensApart_append opens), words_append_of_ends ends,
      (isWord_placeholder first).words_eq, spoken_cons]
    simp

end Clauses

namespace Draft

/-- Goes on with clauses that each take the next parameter. -/
def askAll (draft : Draft) (clauses : List (String × Value)) : Draft :=
  ⟨draft.text ++ String.join (numbered draft.next clauses), draft.next + clauses.length⟩

/-- A field asks for its clause if it is set, whatever is bound for it. -/
theorem ask_eq_askAll {α : Type} (draft : Draft) (clause : String) (field : Option α)
    (bound : α → Value) : draft.ask clause field =
      draft.askAll (field.map fun value => (clause, bound value)).toList := by
  cases field with
  | none => simp [ask, askAll, numbered]
  | some value => simp [ask, askAll, numbered, String.append_assoc]

theorem askAll_askAll (draft : Draft) (clauses more : List (String × Value)) :
    (draft.askAll clauses).askAll more = draft.askAll (clauses ++ more) := by
  simp [askAll, numbered_append, String.append_assoc, Nat.add_assoc]

end Draft

/-! ## Reading clauses back -/

namespace Statement

variable {statement : Statement}

theorem term?_placeholder {before after : List Value} {value : Value}
    (bound : statement.params = before ++ value :: after) :
    statement.term? (placeholder (before.length + 1)) = some value := by
  rw [term?, valueOf?_placeholder bound]
  rfl

theorem selection?_eq_some {selection : Selection String} {conditions : List (Comparison Value)}
    {limit offset : Option Value} (read : selectionOf (words statement.text) = some selection)
    (compared : selection.conditions.mapM statement.compare? = some conditions)
    (limited : selection.limit.mapM statement.term? = some limit)
    (skipped : selection.offset.mapM statement.term? = some offset) :
    statement.selection? = some
      ⟨selection.columns, selection.table, conditions, selection.order, limit, offset⟩ := by
  simp [selection?, read, compared, limited, skipped]

theorem words_select {table condition : String} {columns : List String} {params : List Value}
    (tableWord : IsWord table) (columnWords : ∀ column ∈ columns, IsWord column) :
    words (select table columns condition params).text =
      "SELECT" :: columns ++ "FROM" :: table :: "WHERE" :: words condition := by
  have select : words "SELECT " = ["SELECT"] := by decide
  have from_ : words " FROM " = ["FROM"] := by decide
  have where_ : words " WHERE " = ["WHERE"] := by decide
  unfold Statement.select
  rw [words_append_of_ends (endsApart_append (by decide)), words_append_of_opens (by decide),
    words_append_of_ends (endsApart_append (by decide)), words_append_of_opens (by decide),
    words_append_of_ends (by decide), select, from_, where_, tableWord.words_eq, words_commaList,
    flatMap_words columnWords]
  simp

theorem selectionOf_select {table condition : String} {columns : List String} {params : List Value}
    (tableWord : IsWord table) (names : ∀ column ∈ columns, IsWord column ∧ column ≠ "FROM") :
    selectionOf (words (select table columns condition params).text) =
      selectionFrom columns ("FROM" :: table :: "WHERE" :: words condition) := by
  have other : ∀ column ∈ columns, decide (column ≠ "FROM") = true :=
    fun column member => decide_eq_true (names column member).2
  rw [words_select tableWord fun column member => (names column member).1]
  rw [List.cons_append, selectionOf, List.takeWhile_append_of_pos other,
    List.dropWhile_append_of_pos other, List.takeWhile_cons_of_neg (by decide), List.append_nil,
    List.dropWhile_cons_of_neg (by decide)]

end Statement

namespace Comparison

/-- The clause that asks for a further comparison. -/
def clause (comparison : Comparison Value) : String × Value :=
  (" AND " ++ comparison.column ++ " " ++ comparison.sign.text ++ " ", comparison.bound)

theorem words_clause {comparison : Comparison Value} (column : IsWord comparison.column) :
    words comparison.clause.1 = ["AND", comparison.column, comparison.sign.text] := by
  have and_ : words " AND " = ["AND"] := by decide
  have blank : words " " = [] := by decide
  unfold clause
  rw [words_append_of_opens (by decide), words_append_of_ends (endsApart_append (by decide)),
    words_append_of_opens (by decide), words_append_of_ends (by decide), and_, blank,
    column.words_eq, comparison.sign.isWord_text.words_eq]
  simp

/-- Comparisons with placeholders for their values, the first of which has a number. -/
def placed (first : Nat) (conditions : List (Comparison Value)) : List (Comparison String) :=
  (conditions.zipIdx first).map fun (comparison, number) =>
    ⟨comparison.column, comparison.sign, placeholder number⟩

variable {conditions : List (Comparison Value)}

theorem furtherComparisons_spoken (first : Nat)
    (columns : ∀ comparison ∈ conditions, IsWord comparison.column) (rest : List String)
    (stops : rest.head? ≠ some "AND") :
    furtherComparisons (spoken first (conditions.map clause) ++ rest) =
      (placed first conditions, rest) := by
  induction conditions generalizing first with
  | nil =>
    unfold furtherComparisons
    split
    · next same => exact absurd (congrArg List.head? same) stops
    · rfl
  | cons comparison conditions ih =>
    rw [List.map_cons, spoken_cons, words_clause (columns comparison List.mem_cons_self)]
    simp only [List.cons_append, List.nil_append, furtherComparisons, Sign.ofText?_text]
    rw [ih (first + 1) fun comparison member => columns comparison (List.mem_cons_of_mem _ member)]
    rfl

theorem mapM_compare?_placed (statement : Statement) (before after : List Value)
    (bound : statement.params = before ++ conditions.map Comparison.bound ++ after) :
    (placed (before.length + 1) conditions).mapM statement.compare? = some conditions := by
  induction conditions generalizing before with
  | nil => rfl
  | cons comparison conditions ih =>
    have here : statement.params = before ++ comparison.bound ::
        (conditions.map Comparison.bound ++ after) := by
      simpa using bound
    have later := ih (before ++ [comparison.bound]) (by simpa using bound)
    rw [List.length_append, List.length_singleton] at later
    rw [placed, List.zipIdx_cons, List.map_cons, List.mapM_cons, Statement.compare?,
      Statement.term?_placeholder here]
    change (do return comparison :: (← (placed _ conditions).mapM statement.compare?)) = _
    rw [later]
    rfl

end Comparison

/-! ## The readings that a query asks for -/

/-- What a query asks of the columns of a reading. -/
def wanted (query : ReadingQuery) : List (Comparison Value) :=
  (query.sensorId.map fun id => ⟨"sensor_id", .equal, toValue id⟩).toList
    ++ (query.earliest.map fun time => ⟨"time", .atLeast, toValue time⟩).toList
    ++ (query.latest.map fun time => ⟨"time", .atMost, toValue time⟩).toList

/-- The clauses that say which page of the readings is wanted. -/
def pageClauses (query : ReadingQuery) : List (String × Value) :=
  (query.limit.map fun count => (" LIMIT ", toValue count.toInt64)).toList
    ++ (query.offset.map fun count => (" OFFSET ", toValue count.toInt64)).toList

/-- The texts of the clauses that there can be. -/
def clauseTexts : List String :=
  [" AND sensor_id = ", " AND time >= ", " AND time <= ", " LIMIT ", " OFFSET "]

theorem clauseTexts_plain {text : String} (listed : text ∈ clauseTexts) :
    (opensApart text ∧ endsApart text) ∧ placeholders text = [] := by
  have all : ∀ text ∈ clauseTexts, (opensApart text ∧ endsApart text) ∧ placeholders text = [] := by
    decide
  exact all text listed

theorem mem_clauseTexts {query : ReadingQuery} {clause : String × Value}
    (member : clause ∈ (wanted query).map Comparison.clause ++ pageClauses query) :
    clause.1 ∈ clauseTexts := by
  revert clause
  obtain ⟨_ | sensorId, _ | earliest, _ | latest, _ | limit, _ | offset⟩ := query <;>
    simp [wanted, Comparison.clause, Sign.text, pageClauses, clauseTexts]

theorem clauses_wanted (query : ReadingQuery) : (wanted query).map Comparison.clause =
    (query.sensorId.map fun id => (" AND sensor_id = ", toValue id)).toList
      ++ (query.earliest.map fun time => (" AND time >= ", toValue time)).toList
      ++ (query.latest.map fun time => (" AND time <= ", toValue time)).toList := by
  obtain ⟨_ | sensorId, _ | earliest, _ | latest, limit, offset⟩ := query <;> rfl

/-- The clauses of a query one after the other, with their parameters numbered through. -/
def readingsCondition (query : ReadingQuery) : String :=
  "1=1" ++ String.join (numbered 1 ((wanted query).map Comparison.clause))
    ++ " ORDER BY time ASC, recorded_at ASC"
    ++ String.join (numbered ((wanted query).length + 1) (pageClauses query))

theorem readingsText_eq (query : ReadingQuery) :
    readingsText query = (select ReadingRecord (readingsCondition query) []).text := by
  have asked (draft : Draft) :
      ((draft.ask " AND sensor_id = " query.sensorId).ask " AND time >= " query.earliest).ask
        " AND time <= " query.latest = draft.askAll ((wanted query).map Comparison.clause) := by
    rw [Draft.ask_eq_askAll draft _ _ toValue, Draft.ask_eq_askAll _ _ query.earliest toValue,
      Draft.ask_eq_askAll _ _ query.latest toValue, Draft.askAll_askAll, Draft.askAll_askAll,
      clauses_wanted, List.append_assoc]
  have paged (draft : Draft) : (draft.ask " LIMIT " query.limit).ask " OFFSET " query.offset =
      draft.askAll (pageClauses query) := by
    rw [Draft.ask_eq_askAll draft _ _ fun count => toValue count.toInt64,
      Draft.ask_eq_askAll _ _ query.offset fun count => toValue count.toInt64,
      Draft.askAll_askAll, pageClauses]
  simp only [readingsText, asked, paged, Draft.askAll, Draft.say, select, Statement.select,
    readingsCondition, List.length_map, String.append_assoc, Nat.add_comm 1]

/-- The values are bound in the order in which the text has their clauses. -/
theorem readingsParams_eq (query : ReadingQuery) :
    readingsParams query =
      (wanted query).map Comparison.bound ++ (pageClauses query).map Prod.snd := by
  obtain ⟨_ | sensorId, _ | earliest, _ | latest, _ | limit, _ | offset⟩ := query <;> rfl

/-- The statement says the clauses of its query, and binds their values in the same order. -/
theorem selectReadings_eq (query : ReadingQuery) :
    selectReadings query = .select (Table.name ReadingRecord) (Table.columns ReadingRecord)
      (readingsCondition query)
      ((wanted query).map Comparison.bound ++ (pageClauses query).map Prod.snd) := by
  rw [selectReadings, readingsText_eq, readingsParams_eq]
  rfl

theorem words_readingsCondition (query : ReadingQuery) :
    words (readingsCondition query) =
      "1=1" :: (spoken 1 ((wanted query).map Comparison.clause) ++
        "ORDER" :: "BY" :: "time" :: "ASC" :: "recorded_at" :: "ASC" ::
          spoken ((wanted query).length + 1) (pageClauses query)) := by
  have apart : ∀ clause ∈ (wanted query).map Comparison.clause ++ pageClauses query,
      opensApart clause.1 ∧ endsApart clause.1 :=
    fun clause member => (clauseTexts_plain (mem_clauseTexts member)).1
  have order : words " ORDER BY time ASC, recorded_at ASC" =
      ["ORDER", "BY", "time", "ASC", "recorded_at", "ASC"] := by decide
  have always : words "1=1" = ["1=1"] := by decide
  rw [readingsCondition,
    words_append_join_numbered fun clause member => apart clause (List.mem_append_right _ member),
    words_append_of_opens (by decide), order,
    words_append_join_numbered fun clause member => apart clause (List.mem_append_left _ member),
    always]
  simp

theorem ascending_placeholder (word : String) (number : Nat) (rest : List String) :
    ascending (word :: placeholder number :: rest) = ([], word :: placeholder number :: rest) := by
  unfold ascending
  split
  · next same =>
    exact absurd (List.cons.inj (List.cons.inj same).2).1 (placeholder_ne (by decide))
  · rfl

theorem ascending_page (first : Nat) (query : ReadingQuery) :
    ascending (spoken first (pageClauses query)) = ([], spoken first (pageClauses query)) := by
  have limitWord : words " LIMIT " = ["LIMIT"] := by decide
  have offsetWord : words " OFFSET " = ["OFFSET"] := by decide
  obtain ⟨sensorId, earliest, latest, _ | limit, _ | offset⟩ := query
  · rfl
  · change ascending (spoken _ [(" OFFSET ", _)]) = (_, spoken _ [(" OFFSET ", _)])
    rw [spoken_cons, offsetWord]
    exact ascending_placeholder _ _ _
  all_goals
    change ascending (spoken _ ((" LIMIT ", _) :: _)) =
      (_, spoken _ ((" LIMIT ", _) :: _))
    rw [spoken_cons, limitWord]
    exact ascending_placeholder _ _ _

/-- The page that the words of a statement say is the one that its query says. -/
theorem page_bound (statement : Statement) (before : List Value) (query : ReadingQuery)
    (params : statement.params = before ++ (pageClauses query).map Prod.snd) :
    ∃ limit offset,
      pageOf (spoken (before.length + 1) (pageClauses query)) = some (limit, offset) ∧
      limit.mapM statement.term? = some (query.limit.map fun count => toValue count.toInt64) ∧
      offset.mapM statement.term? = some (query.offset.map fun count => toValue count.toInt64) := by
  have limitWord : words " LIMIT " = ["LIMIT"] := by decide
  have offsetWord : words " OFFSET " = ["OFFSET"] := by decide
  obtain ⟨sensorId, earliest, latest, _ | limit, _ | offset⟩ := query
  · exact ⟨none, none, rfl, rfl, rfl⟩
  · refine ⟨none, some (placeholder (before.length + 1)), ?_, rfl, ?_⟩
    · change pageOf (spoken _ [(" OFFSET ", _)]) = _
      rw [spoken_cons, offsetWord]
      rfl
    · rw [Option.mapM_some, Statement.term?_placeholder params]
      rfl
  · refine ⟨some (placeholder (before.length + 1)), none, ?_, ?_, rfl⟩
    · change pageOf (spoken _ [(" LIMIT ", _)]) = _
      rw [spoken_cons, limitWord]
      rfl
    · rw [Option.mapM_some, Statement.term?_placeholder params]
      rfl
  · have after : statement.params =
        (before ++ [toValue limit.toInt64]) ++ [toValue offset.toInt64] := by
      rw [List.append_assoc]
      exact params
    refine ⟨some (placeholder (before.length + 1)), some (placeholder (before.length + 1 + 1)), ?_,
      ?_, ?_⟩
    · change pageOf (spoken _ [(" LIMIT ", _), (" OFFSET ", _)]) = _
      rw [spoken_cons, limitWord, spoken_cons, offsetWord]
      rfl
    · rw [Option.mapM_some, Statement.term?_placeholder params]
      rfl
    · have bound := Statement.term?_placeholder after
      rw [List.length_append, List.length_singleton] at bound
      rw [Option.mapM_some, bound]
      rfl

theorem accepts_sensor (id : SensorId) (reading : ReadingRecord) :
    Comparison.accepts ⟨"sensor_id", .equal, toValue id⟩ (Table.toRow reading) =
      decide (id = reading.sensorId) := by
  change decide (reading.sensorId.value = id.value) = _
  refine decide_eq_decide.mpr ⟨fun same => ?_, fun same => same ▸ rfl⟩
  cases id
  exact congrArg Id.mk same.symm

theorem accepts_wanted (query : ReadingQuery) (reading : ReadingRecord) :
    ((wanted query).all fun comparison => comparison.accepts (Table.toRow reading)) =
      query.accepts reading.sensorId reading.time := by
  have sensor := fun id => accepts_sensor id reading
  have earliest (time : Instant) :
      Comparison.accepts ⟨"time", .atLeast, toValue time⟩ (Table.toRow reading) =
        decide (time ≤ reading.time) := rfl
  have latest (time : Instant) :
      Comparison.accepts ⟨"time", .atMost, toValue time⟩ (Table.toRow reading) =
        decide (reading.time ≤ time) := rfl
  obtain ⟨_ | sensorId, _ | start, _ | finish, limit, offset⟩ := query <;>
    simp [wanted, ReadingQuery.accepts, sensor, earliest, latest, Bool.and_assoc]

theorem isWord_column (query : ReadingQuery) :
    ∀ comparison ∈ wanted query, IsWord comparison.column := by
  have here : ∀ column ∈ ["sensor_id", "time"], IsWord column := by decide
  have among : ∀ comparison ∈ wanted query, comparison.column ∈ ["sensor_id", "time"] := by
    obtain ⟨_ | sensorId, _ | earliest, _ | latest, limit, offset⟩ := query <;> simp [wanted]
  exact fun comparison member => here _ (among comparison member)

theorem placeholders_selectReadings (query : ReadingQuery) :
    placeholders (selectReadings query).text =
      (List.range' 1 (selectReadings query).params.length).map placeholder := by
  have same := selectReadings_eq query
  have said := words_readingsCondition query
  have word : IsWord (Table.name ReadingRecord) := by decide
  have columns : ∀ column ∈ Table.columns ReadingRecord, IsWord column := by decide
  have plain : ∀ clause ∈ (wanted query).map Comparison.clause ++ pageClauses query,
      placeholders clause.1 = [] :=
    fun clause member => (clauseTexts_plain (mem_clauseTexts member)).2
  have front : ("SELECT" :: Table.columns ReadingRecord ++
      ["FROM", "sensor_readings", "WHERE", "1=1"]).filter (fun word => '$' ∈ word.toList) = [] := by
    decide
  have middle : ["ORDER", "BY", "time", "ASC", "recorded_at", "ASC"].filter
      (fun word => '$' ∈ word.toList) = [] := by decide
  have counted : (selectReadings query).params.length =
      ((wanted query).map Comparison.clause).length + (pageClauses query).length := by
    simp [same, Statement.select]
  rw [counted, ← List.range'_append_1, List.map_append, same, placeholders,
    Statement.words_select word columns, said]
  change ("SELECT" :: Table.columns ReadingRecord ++ ["FROM", "sensor_readings", "WHERE", "1=1"] ++
    (spoken 1 _ ++ (["ORDER", "BY", "time", "ASC", "recorded_at", "ASC"] ++
      spoken _ _))).filter _ = _
  rw [List.filter_append, front, List.nil_append, List.filter_append, List.filter_append, middle,
    List.nil_append,
    filter_spoken 1 fun clause member => plain clause (List.mem_append_left _ member),
    filter_spoken _ fun clause member => plain clause (List.mem_append_right _ member),
    List.length_map, Nat.add_comm 1]

theorem selection?_selectReadings (query : ReadingQuery) :
    (selectReadings query).selection? = some
      { columns := Table.columns ReadingRecord
        table := Table.name ReadingRecord
        conditions := wanted query
        order := ["time", "recorded_at"]
        limit := query.limit.map fun count => toValue count.toInt64
        offset := query.offset.map fun count => toValue count.toInt64 } := by
  have same := selectReadings_eq query
  have said := words_readingsCondition query
  have word : IsWord (Table.name ReadingRecord) := by decide
  have names : ∀ column ∈ Table.columns ReadingRecord, IsWord column ∧ column ≠ "FROM" := by decide
  obtain ⟨limit, offset, paged, limited, skipped⟩ := page_bound (selectReadings query)
    ((wanted query).map Comparison.bound) query (by rw [same]; rfl)
  have compared := Comparison.mapM_compare?_placed (selectReadings query) []
    ((pageClauses query).map Prod.snd) (by rw [same]; rfl)
  have conditions := Comparison.furtherComparisons_spoken 1 (isWord_column query)
    ("ORDER" :: "BY" :: "time" :: "ASC" :: "recorded_at" :: "ASC" ::
      spoken ((wanted query).length + 1) (pageClauses query)) (by simp)
  have read : selectionOf (words (selectReadings query).text) = some
      ⟨Table.columns ReadingRecord, Table.name ReadingRecord, Comparison.placed 1 (wanted query),
        ["time", "recorded_at"], limit, offset⟩ := by
    rw [List.length_map] at paged
    rw [same, Statement.selectionOf_select word names, said]
    simp only [selectionFrom, comparisons, conditions, ascending, ascending_page, paged,
      Option.map_some]
  exact Statement.selection?_eq_some read compared limited skipped

/-- What the text of a query over the readings says is what the query says: one condition or clause
for each field that is set, with the value of that field, and no other. The parameters are taken in
the order in which they are bound, and a reading meets the conditions exactly when the query accepts
it. -/
theorem readings_asked_for (query : ReadingQuery) :
    placeholders (selectReadings query).text =
        (List.range' 1 (selectReadings query).params.length).map placeholder ∧
      ∃ selection, (selectReadings query).selection? = some selection ∧
        selection.columns = Table.columns ReadingRecord ∧
        selection.table = Table.name ReadingRecord ∧
        selection.conditions =
          (query.sensorId.map fun id => ⟨"sensor_id", .equal, toValue id⟩).toList
            ++ (query.earliest.map fun time => ⟨"time", .atLeast, toValue time⟩).toList
            ++ (query.latest.map fun time => ⟨"time", .atMost, toValue time⟩).toList ∧
        selection.order = ["time", "recorded_at"] ∧
        selection.limit = (query.limit.map fun count => toValue count.toInt64) ∧
        selection.offset = (query.offset.map fun count => toValue count.toInt64) ∧
        ∀ reading : ReadingRecord, selection.accepts (Table.toRow reading) =
          query.accepts reading.sensorId reading.time := by
  refine ⟨placeholders_selectReadings query, _, selection?_selectReadings query, ?_⟩
  exact ⟨rfl, rfl, rfl, rfl, rfl, rfl, accepts_wanted query⟩

/-- The placeholders are numbered over the fields that are set. -/
example : (selectReadings { latest := some .epoch, limit := some 5 }).text =
    "SELECT id, sensor_id, time, temperature, humidity, soil_moisture, rainfall, battery_level, "
      ++ "recorded_at FROM sensor_readings WHERE 1=1 AND time <= $1 "
      ++ "ORDER BY time ASC, recorded_at ASC LIMIT $2" := rfl

end Fieldwatch.Database
