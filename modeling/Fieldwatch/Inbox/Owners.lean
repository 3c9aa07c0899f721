import Fieldwatch.Inbox.Sensors

/-!
# Events about owners

How the creation, change and deactivation of a user change an owner snapshot. Profiles are kept
without the blanks at their ends, and liveness is changed by a deactivation alone.
-/
namespace Fieldwatch

/-- The greatest length of a role, in characters. -/
def maxRoleLength : Nat := 64

/-- The profile that an event carries, or what is wrong with it. -/
def OwnerDetails.check (ownerId : OwnerId) (name email : String) (role : Option String) :
    Except String OwnerDetails :=
  if ownerId.isNil then .error "owner_id is nil"
  else if Text.isBlankText name then .error "name is required"
  else if Text.isBlankText email then .error "email is required"
  else if maxNameLength < (Text.trim name).length || maxNameLength < (Text.trim email).length then
    .error "name and email are limited to 255 characters"
  else if role.any fun role => maxRoleLength < role.length then
    .error "role is limited to 64 characters"
  else .ok ⟨Text.trim name, Text.trim email, role⟩

namespace OwnerSnapshot

/-- A profile applies to a stored owner, unless it restates the profile or is older. -/
def decideProfile (owner : OwnerSnapshot) (policy : StalenessPolicy) (details : OwnerDetails)
    (occurredOn now : Instant) : Decision :=
  if owner.isDuplicate details occurredOn policy.tolerance then .skip .duplicate
  else if owner.isOlderThanLastChange occurredOn then .skip .stale
  else
    .write (ChangeSet.empty.writeOwner (.update (owner.updateDetails details occurredOn now)))
      .applied

end OwnerSnapshot

namespace Event

/-- The profile of a new user, or what is wrong with it. -/
def UserCreated.check (event : UserCreated) : Except String OwnerDetails :=
  OwnerDetails.check event.ownerId event.name event.email event.role

/-- A new user is stored; one that is stored already has the profile applied. -/
def UserCreated.decide (event : UserCreated) (policy : StalenessPolicy) (details : OwnerDetails)
    (stored : Option OwnerSnapshot) (now : Instant) : Decision :=
  match stored with
  | none =>
    .write (ChangeSet.empty.writeOwner
      (.add (.create event.ownerId details event.occurredOn now))) .created
  | some owner => owner.decideProfile policy details event.occurredOn now

/-- The changed profile of a user, or what is wrong with it. -/
def UserUpdated.check (event : UserUpdated) : Except String OwnerDetails :=
  OwnerDetails.check event.ownerId event.name event.email event.role

/-- A changed profile applies to a stored owner. -/
def UserUpdated.decide (event : UserUpdated) (policy : StalenessPolicy) (details : OwnerDetails)
    (stored : Option OwnerSnapshot) (now : Instant) : Decision :=
  match stored with
  | none => .skip .notFound
  | some owner => owner.decideProfile policy details event.occurredOn now

/-- What is wrong with the deactivation of a user. -/
def UserDeactivated.check (event : UserDeactivated) : Except String Unit :=
  if event.ownerId.isNil then .error "owner_id is nil" else .ok ()

/-- A deactivation retires a stored owner, unless it is retired already or has changed since. -/
def UserDeactivated.decide (event : UserDeactivated) (stored : Option OwnerSnapshot)
    (now : Instant) : Decision :=
  match stored with
  | none => .skip .notFound
  | some owner =>
    if !owner.isActive then .skip .duplicate
    else if owner.isOlderThanLastChange event.occurredOn then .skip .stale
    else
      .write (ChangeSet.empty.writeOwner (.delete owner.id event.occurredOn now)) .applied

end Event
end Fieldwatch
