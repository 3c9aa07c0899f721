import Fieldwatch.Decimal.Double

/-!
# JSON values

Whole numbers and doubles are kept apart, and the entries of an object are held in the order of
their keys, each key once.
-/
namespace Fieldwatch

/-- A JSON value. -/
inductive Json
  | null
  | bool (value : Bool)
  | int (value : Int)
  | float (value : Double)
  | str (value : String)
  | arr (items : List Json)
  | obj (entries : List (String × Json))
  deriving Inhabited

namespace Json

/-- Puts an entry at its place among entries in key order, in place of one of the same key. -/
def put (key : String) (value : Json) : List (String × Json) → List (String × Json)
  | [] => [(key, value)]
  | entry :: rest =>
    if key < entry.1 then (key, value) :: entry :: rest
    else if key = entry.1 then (key, value) :: rest
    else entry :: put key value rest

/-- Entries in key order; of two with one key the later counts. -/
def inKeyOrder (entries : List (String × Json)) : List (String × Json) :=
  entries.foldl (fun sorted entry => put entry.1 entry.2 sorted) []

def record (entries : List (String × Json)) : Json :=
  .obj (inKeyOrder entries)

def lookup (key : String) (entries : List (String × Json)) : Option Json :=
  (entries.find? fun entry => entry.1 = key).map Prod.snd

/-- The value under a key, if this is an object that has the key. -/
def get? (value : Json) (key : String) : Option Json :=
  match value with
  | .obj entries => lookup key entries
  | _ => none

/-! ## Leaves -/

variable {m : Type → Type} [Monad m]

mutual

/-- Changes every value that is neither array nor object, in order, the entries of an object as
they stand. -/
def mapLeavesM (change : Json → m Json) : Json → m Json
  | .arr items => return .arr (← mapItemsM change items)
  | .obj entries => return .obj (← mapEntriesM change entries)
  | .null => change .null
  | .bool value => change (.bool value)
  | .int value => change (.int value)
  | .float value => change (.float value)
  | .str value => change (.str value)

def mapItemsM (change : Json → m Json) : List Json → m (List Json)
  | [] => return []
  | item :: rest => do
    let item ← mapLeavesM change item
    return item :: (← mapItemsM change rest)

def mapEntriesM (change : Json → m Json) : List (String × Json) → m (List (String × Json))
  | [] => return []
  | (key, value) :: rest => do
    let value ← mapLeavesM change value
    return (key, value) :: (← mapEntriesM change rest)

end

/-- Changes every value that is neither array nor object. -/
def mapLeaves (change : Json → Json) (value : Json) : Json :=
  (mapLeavesM (fun leaf => (pure (change leaf) : StateM Unit Json)) value ()).1

end Json
end Fieldwatch
