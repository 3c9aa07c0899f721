import Fieldwatch.Json.Record

/-!
# Store errors

Why a store refuses to read or to commit. An error is transient when the same operation may
succeed later.
-/
namespace Fieldwatch

inductive StoreError
  /-- An alert was saved from a stale copy. -/
  | conflict (id : EntityId) (expected actual : Int)
  /-- An entity was staged before it was created. -/
  | uninitialized (name : String)
  /-- A stored row is no value of the domain. -/
  | invalidRecord (reason : String)
  /-- There is no such outbox entry. -/
  | entryNotFound (id : EntryId)
  /-- The store is out of reach. -/
  | unavailable (reason : String)
  /-- The database failed. -/
  | database
  /-- The tables could not be brought up to date. -/
  | migration (reason : String)
  /-- A stored JSON value is unreadable. -/
  | unreadable (cause : Json.DecodeError)
  deriving DecidableEq

namespace StoreError

def message : StoreError → String
  | conflict id expected actual =>
    "Concurrency conflict for aggregate " ++ id.text ++ ": expected version " ++ toString expected
      ++ ", found " ++ toString actual
  | uninitialized name => "Cannot persist uninitialized " ++ name
  | invalidRecord reason => "Invalid stored record: " ++ reason
  | entryNotFound id => "Outbox entry not found: " ++ id.text
  | unavailable reason => "Store unavailable: " ++ reason
  | database => "Database error"
  | migration reason => "Migration error: " ++ reason
  | unreadable cause => "Serialization error: " ++ cause.message

/-- Whether the same operation may succeed later. -/
def isTransient : StoreError → Bool
  | conflict .. | unavailable _ | database => true
  | _ => false

end StoreError
end Fieldwatch
