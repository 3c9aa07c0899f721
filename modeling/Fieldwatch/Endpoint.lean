import Fieldwatch.Counter
import Fieldwatch.Json.Basic

/-!
# Operational endpoints

Two read-only resources tell how the service is doing: whether it is up and which store it uses,
and what it has counted.
-/
namespace Fieldwatch

inductive StoreKind
  | memory
  | postgres
  deriving DecidableEq, Repr

def StoreKind.name : StoreKind → String
  | memory => "memory"
  | postgres => "postgres"

namespace Endpoint

inductive Body
  | empty
  | json (value : Json)
  | lines (samples : List String)

structure Response where
  status : Nat
  contentType : Option String
  body : Body

inductive Resource
  | health
  | metrics
  deriving DecidableEq, Repr

/-- The characters after the scheme and `://` of an absolute address. -/
def afterScheme? (chars : List Char) : Option (List Char) :=
  match chars.dropWhile fun c => c.isAlphanum || c = '+' || c = '-' || c = '.' with
  | ':' :: '/' :: '/' :: rest => some rest
  | _ => none

/-- The path that a request asks for. An absolute address names the server in front of it; a query
or a fragment ends it. -/
def path (target : List Char) : List Char :=
  let onServer := match afterScheme? target with
    | some rest => rest.dropWhile fun c => c ≠ '/' && c ≠ '?' && c ≠ '#'
    | none => target
  onServer.takeWhile fun c => c ≠ '?' && c ≠ '#'

/-- The resource that a request asks for. -/
def resource? (target : String) : Option Resource :=
  let chars := path target.toList
  if chars = "/health".toList then some .health
  else if chars = "/metrics".toList then some .metrics
  else none

/-- The type of the content of a resource. -/
def Resource.contentType : Resource → String
  | health => "application/json"
  | metrics => "text/plain; version=0.0.4; charset=utf-8"

def Resource.body (store : String) (counters : Counters) : Resource → Body
  | health => .json (.record [("status", .str "ok"), ("store", .str store)])
  | metrics => .lines counters.lines

/-- Answers a request: a resource may be read, or asked for without its content. -/
def respond (method target store : String) (counters : Counters) : Response :=
  match resource? target with
  | none => ⟨404, none, .empty⟩
  | some resource =>
    if method = "GET" then ⟨200, some resource.contentType, resource.body store counters⟩
    else if method = "HEAD" then ⟨200, some resource.contentType, .empty⟩
    else ⟨405, none, .empty⟩

end Endpoint
end Fieldwatch
