import Fieldwatch.Json.Record
import Fieldwatch.Time.Window

/-!
# Owner snapshots

The local copy of a user that the identity service owns. Profile changes and deactivation share
one time of last change.
-/
namespace Fieldwatch

structure OwnerDetails where
  name : String
  email : String
  role : Option String
  deriving DecidableEq

/-- The local copy of a user. -/
structure OwnerSnapshot where
  id : OwnerId
  name : String
  email : String
  role : Option String
  isActive : Bool
  createdAt : Instant
  updatedAt : Option Instant
  /-- When the last event applied happened. -/
  lastChangedAt : Instant
  deriving DecidableEq

namespace OwnerSnapshot

/-- The copy of a user seen for the first time. -/
def create (id : OwnerId) (details : OwnerDetails) (occurredOn now : Instant) : OwnerSnapshot where
  id := id
  name := details.name
  email := details.email
  role := details.role
  isActive := true
  createdAt := now
  updatedAt := none
  lastChangedAt := occurredOn

def details (owner : OwnerSnapshot) : OwnerDetails :=
  ⟨owner.name, owner.email, owner.role⟩

/-- Whether the snapshot holds a profile already, as of a time give or take a tolerance. -/
def isDuplicate (owner : OwnerSnapshot) (details : OwnerDetails) (occurredOn : Instant)
    (tolerance : Span) : Bool :=
  owner.details = details && withinTolerance owner.lastChangedAt occurredOn tolerance

/-- Whether an event at a time comes before the last one applied. -/
def isOlderThanLastChange (owner : OwnerSnapshot) (occurredOn : Instant) : Bool :=
  occurredOn < owner.lastChangedAt

/-- The snapshot with another profile. Liveness is left alone. -/
def updateDetails (owner : OwnerSnapshot) (details : OwnerDetails) (occurredOn now : Instant) :
    OwnerSnapshot :=
  { owner with
    name := details.name, email := details.email, role := details.role
    lastChangedAt := occurredOn, updatedAt := some now }

/-- The snapshot after a deactivation, unless it is inactive already. -/
def deactivate? (owner : OwnerSnapshot) (occurredOn now : Instant) : Option OwnerSnapshot :=
  if owner.isActive then
    some { owner with isActive := false, lastChangedAt := occurredOn, updatedAt := some now }
  else none

end OwnerSnapshot

/-! ## JSON forms -/

instance : Json.Wire OwnerDetails where
  encode details := .record
    [("name", Json.encode details.name), ("email", Json.encode details.email),
      ("role", Json.encode details.role)]
  decode := Json.Record.decode (OwnerDetails.mk <$> .required "name" <*> .required "email"
    <*> .optional "role") "OwnerDetails"

instance : Json.Wire OwnerSnapshot where
  encode owner := .record
    [("id", Json.encode owner.id), ("name", Json.encode owner.name),
      ("email", Json.encode owner.email), ("role", Json.encode owner.role),
      ("is_active", Json.encode owner.isActive), ("created_at", Json.encode owner.createdAt),
      ("updated_at", Json.encode owner.updatedAt),
      ("last_changed_at", Json.encode owner.lastChangedAt)]
  decode := Json.Record.decode (OwnerSnapshot.mk <$> .required "id" <*> .required "name"
    <*> .required "email" <*> .optional "role" <*> .required "is_active"
    <*> .required "created_at" <*> .optional "updated_at" <*> .required "last_changed_at")
    "OwnerSnapshot"

end Fieldwatch
