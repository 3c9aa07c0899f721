import Fieldwatch.Json.Basic
import Fieldwatch.Store.Error
import Fieldwatch.Time.Instant
import Fieldwatch.Validation

/-!
# Database values

What a statement binds and what a row holds: a value of one of a few types, or null. A type of the
domain is kept in a column as a value of one type and read back from no other; only an optional
one may be null.
-/
namespace Fieldwatch.Database

inductive Value
  | null
  | uuid (value : BitVec 128)
  | uuids (values : List (BitVec 128))
  | text (value : String)
  | double (value : Double)
  | bool (value : Bool)
  | int4 (value : Int32)
  | int8 (value : Int64)
  | time (value : Instant)
  | json (value : Json)

/-- A type that is kept in a column: what is written is read back. -/
class Column (α : Type) where
  toValue : α → Value
  /-- Reads a value; none if it is of another type. -/
  ofValue? : Value → Option α
  ofValue?_toValue : ∀ value, ofValue? (toValue value) = some value

export Column (toValue)

/-- A type that is kept in a column without nulls. -/
class Required (α : Type) extends Column α where
  toValue_ne_null : ∀ value, toValue value ≠ .null

instance {kind : IdKind} : Required (Id kind) where
  toValue id := .uuid id.value
  ofValue?
    | .uuid value => some ⟨value⟩
    | _ => none
  ofValue?_toValue _ := rfl
  toValue_ne_null _ same := nomatch same

instance : Required String where
  toValue := .text
  ofValue?
    | .text value => some value
    | _ => none
  ofValue?_toValue _ := rfl
  toValue_ne_null _ same := nomatch same

instance : Required Double where
  toValue := .double
  ofValue?
    | .double value => some value
    | _ => none
  ofValue?_toValue _ := rfl
  toValue_ne_null _ same := nomatch same

instance : Required Bool where
  toValue := .bool
  ofValue?
    | .bool value => some value
    | _ => none
  ofValue?_toValue _ := rfl
  toValue_ne_null _ same := nomatch same

instance : Required Int32 where
  toValue := .int4
  ofValue?
    | .int4 value => some value
    | _ => none
  ofValue?_toValue _ := rfl
  toValue_ne_null _ same := nomatch same

instance : Required Int64 where
  toValue := .int8
  ofValue?
    | .int8 value => some value
    | _ => none
  ofValue?_toValue _ := rfl
  toValue_ne_null _ same := nomatch same

instance : Required Instant where
  toValue := .time
  ofValue?
    | .time value => some value
    | _ => none
  ofValue?_toValue _ := rfl
  toValue_ne_null _ same := nomatch same

instance : Required Json where
  toValue := .json
  ofValue?
    | .json value => some value
    | _ => none
  ofValue?_toValue _ := rfl
  toValue_ne_null _ same := nomatch same

/-- An absent value is null. -/
instance {α : Type} [Required α] : Column (Option α) where
  toValue
    | some value => toValue value
    | none => .null
  ofValue?
    | .null => some none
    | value => (Column.ofValue? value).map some
  ofValue?_toValue
    | none => rfl
    | some value => by
      have present := Required.toValue_ne_null value
      have back := Column.ofValue?_toValue value
      simp only
      generalize toValue value = written at present back ⊢
      cases written <;> simp_all

/-! ## Rows -/

/-- The columns of a row by name, in order. -/
abbrev Row := List (String × Value)

namespace Row

def value? (row : Row) (name : String) : Option Value :=
  (row.find? fun column => column.1 = name).map Prod.snd

def get {α : Type} [Column α] (row : Row) (name : String) : Except StoreError α :=
  match (row.value? name).bind Column.ofValue? with
  | some value => .ok value
  | none => .error .database

/-- Reads a column whose text names a member of a closed set. -/
def getNamed {α : Type} (read : String → Except UnknownName α) (row : Row) (name : String) :
    Except StoreError α := do
  (read (← row.get name)).mapError fun unknown => .invalidRecord (name ++ ": " ++ unknown.message)

/-- Reads the first column, whatever its name. -/
def first (α : Type) [Column α] : Row → Except StoreError α
  | (_, value) :: _ =>
    match Column.ofValue? value with
    | some value => .ok value
    | none => .error .database
  | [] => .error .database

end Row
end Fieldwatch.Database
