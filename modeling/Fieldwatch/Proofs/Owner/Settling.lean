import Fieldwatch.Proofs.Inbox.Settling
import Fieldwatch.Proofs.Owner.Retiring

/-!
# Owners settle on the latest profile

The profile of an owner ends up as the latest that was told of, or as it was if that is later, in
whatever order the profiles are delivered and however often each is. A creation tells of a profile
like any change of it. Only profiles within the tolerance of each other could be mistaken for each
other, so all are taken to be apart.
-/
namespace Fieldwatch.Inbox

open Instant (Apart)
open Tables (find?)

/-- What is told of an owner, and since when it holds. -/
structure Profile where
  details : OwnerDetails
  since : Instant
  deriving DecidableEq

namespace Profile

/-- The profile that a row shows. -/
def ofRow (owner : OwnerSnapshot) : Profile := ⟨owner.details, owner.lastChangedAt⟩

/-- A profile as it is kept: name and email without the blanks at their ends. -/
def given (name email : String) (role : Option String) (since : Instant) : Profile :=
  ⟨⟨Text.trim name, Text.trim email, role⟩, since⟩

/-- The profile that a message tells of, if it tells of one and passes its check. -/
def told? : Message → Option Profile
  | .userCreated event =>
    if event.check.isOk then some (given event.name event.email event.role event.occurredOn)
    else none
  | .userUpdated event =>
    if event.check.isOk then some (given event.name event.email event.role event.occurredOn)
    else none
  | _ => none

end Profile

variable {policy : StalenessPolicy} {message : Message} {world : World Tables} {id : OwnerId}
  {shown news : Profile} {active : Bool}

/-! ## What each message does to the profile -/

theorem details_of_check {name email : String} {role : Option String} {details : OwnerDetails}
    (checked : OwnerDetails.check id name email role = .ok details) :
    details = ⟨Text.trim name, Text.trim email, role⟩ := by
  unfold OwnerDetails.check at checked
  split_ifs at checked
  exact (Except.ok.inj checked).symm

theorem since_of_told (tells : Profile.told? message = some news) :
    news.since = message.occurredOn := by
  cases message with
  | userCreated event | userUpdated event =>
    rw [Profile.told?] at tells
    split_ifs at tells
    cases tells
    rfl
  | sensorIngested _ | sensorRegistered _ | sensorDeactivated _ | sensorOperationalStatusChanged _
  | userDeactivated _ | alertRaised _ | alertAcknowledged _ | alertResolved _ => cases tells

/-- A message that tells of a profile follows the rule of that profile. -/
theorem ownerRule?_of_told (policy : StalenessPolicy) (about : ownerOf? message = some id)
    (tells : Profile.told? message = some news) :
    ∃ create?, ownerRule? policy message =
      some (profile id policy news.details news.since create?) := by
  cases message with
  | userCreated event | userUpdated event =>
    cases about
    rw [Profile.told?] at tells
    cases checked : event.check with
    | error reason => simp [checked, Except.isOk, Except.toBool] at tells
    | ok details =>
      simp only [checked, Except.isOk, Except.toBool, if_true, Option.some.injEq] at tells
      subst tells
      obtain rfl := details_of_check checked
      rw [ownerRule?, checked]
      exact ⟨_, rfl⟩
  | sensorIngested _ | sensorRegistered _ | sensorDeactivated _ | sensorOperationalStatusChanged _
  | userDeactivated _ | alertRaised _ | alertAcknowledged _ | alertResolved _ => cases tells

theorem profile_tells (id : OwnerId) (policy : StalenessPolicy) (news : Profile)
    (create? : Option (Instant → OwnerSnapshot)) :
    (profile id policy news.details news.since create?).Tells policy.tolerance
      (fun owner => some (Profile.ofRow owner)) Profile.since news where
  change _ _ := rfl
  shows := by
    rintro owner ⟨⟩
    exact isDuplicate_of_details policy rfl rfl
  within := by
    rintro owner _ ⟨⟩ passed
    simp only [profile, OwnerSnapshot.isDuplicate, Bool.and_eq_true] at passed
    exact passed.2
  outdates := by
    rintro owner _ ⟨⟩
    simp [profile, OwnerSnapshot.isOlderThanLastChange, Profile.ofRow]

/-- A profile leaves it alone whether an owner is active. -/
theorem isActive_profile {details : OwnerDetails} {occurredOn now : Instant}
    {create? : Option (Instant → OwnerSnapshot)} {owner left : OwnerSnapshot}
    (next : (profile id policy details occurredOn create?).next (some owner) now = some left) :
    left.isActive = owner.isActive := by
  rcases (profile id policy details occurredOn create?).next_cases owner now with
    ⟨-, -, kept⟩ | ⟨-, -, kept⟩ | ⟨-, -, changed⟩
  · cases kept.symm.trans next
    rfl
  · cases kept.symm.trans next
    rfl
  · cases changed.symm.trans next
    rfl

/-! ## Deliveries -/

/-- Whether commits succeed and a stored owner, active or not as it is said, shows a profile. -/
structure ShowsProfile (id : OwnerId) (active : Bool) (shown : Profile) (world : World Tables) :
    Prop where
  unset : world.store.failNextCommit = false
  row : ∃ owner, find? world.store.owners id = some owner ∧ Profile.ofRow owner = shown ∧
    owner.isActive = active

/-- An owner takes in a profile when it is later than what the owner shows. -/
theorem ShowsProfile.takeIn (shows : ShowsProfile id active shown world)
    (about : ownerOf? message = some id) (tells : Profile.told? message = some news)
    (apart : shown ≠ news → Apart policy.tolerance shown.since news.since)
    (context : MessageContext) :
    ∃ outcome after, Inbox.handle policy message context world = (.ok outcome, after) ∧
      ShowsProfile id active (takenIn Profile.since Profile.told? shown message) after := by
  obtain ⟨unset, owner, found, rfl, rfl⟩ := shows
  obtain ⟨create?, told⟩ := ownerRule?_of_told policy about tells
  obtain ⟨outcome, after, handled, unset, left⟩ := handle_owner about context unset
  obtain ⟨row, next, shows⟩ := (profile_tells id policy news create?).next policy.nonneg rfl apart
    world.now.time
  rw [found, ownerAfter, told, Option.map_some, Option.getD_some, next] at left
  rw [takenIn, tells]
  exact ⟨outcome, after, handled, unset, row, left, Option.some.inj shows, isActive_profile next⟩

/-- Once an owner is stored, active or not, deliveries that tell of each of several profiles, in any
order and any number of times, are all answered, and leave the owner with the latest: one of those
told of, as it is kept, or the one that was stored. Whether the owner is active stays as it was. -/
theorem profile_settles_on_latest {owner : OwnerSnapshot} {messages : List Message}
    (unset : world.store.failNextCommit = false)
    (found : find? world.store.owners owner.id = some owner)
    (valid : ∀ message ∈ messages, ownerOf? message = some owner.id ∧
      (Profile.told? message).isSome)
    (apart : (owner.lastChangedAt :: messages.map Message.occurredOn).Pairwise
      (Apart policy.tolerance)) :
    ∃ last, Latest Profile.since (.ofRow owner :: messages.filterMap Profile.told?) last ∧
      ∀ deliveries : List Delivery,
        (∀ message ∈ messages, ∃ delivery ∈ deliveries, delivery.message = message) →
        (∀ delivery ∈ deliveries, delivery.message ∈ messages) →
        ∃ outcomes after row, handleAll policy deliveries world = (.ok outcomes, after) ∧
          find? after.store.owners owner.id = some row ∧ Profile.ofRow row = last ∧
          row.isActive = owner.isActive := by
  let known := messages.filterMap Profile.told?
  obtain ⟨last, latest⟩ : ∃ last, Latest Profile.since (.ofRow owner :: known) last :=
    Latest.exists_of_cons _ _
  have knownApart := pairwise_told (fun _ _ => since_of_told) (.ofRow owner) apart
  have symm : Std.Symm fun a b : Profile => Apart policy.tolerance a.since b.since :=
    ⟨fun _ _ => Apart.symm⟩
  refine ⟨last, latest, fun deliveries all only => ?_⟩
  have start : ShowsProfile owner.id owner.isActive (.ofRow owner) world :=
    ⟨unset, owner, found, rfl, rfl⟩
  have delivered : ∀ news ∈ known, ∃ delivery ∈ deliveries,
      Profile.told? delivery.message = some news := by
    intro news member
    obtain ⟨message, wanted, tells⟩ := List.mem_filterMap.mp member
    obtain ⟨delivery, there, rfl⟩ := all message wanted
    exact ⟨delivery, there, tells⟩
  have among : ∀ delivery ∈ deliveries, ∀ news,
      Profile.told? delivery.message = some news → news ∈ known := fun delivery member news tells =>
    List.mem_filterMap.mpr ⟨delivery.message, only delivery member, tells⟩
  have takesIn : ∀ delivery ∈ deliveries, ∀ shown ∈ Profile.ofRow owner :: known, ∀ world,
      ShowsProfile owner.id owner.isActive shown world → ∃ outcome after,
        handle policy delivery.message delivery.context world = (.ok outcome, after) ∧
        ShowsProfile owner.id owner.isActive
          (takenIn Profile.since Profile.told? shown delivery.message) after := by
    intro delivery member shown old world shows
    obtain ⟨about, told⟩ := valid delivery.message (only delivery member)
    obtain ⟨news, tells⟩ := Option.isSome_iff_exists.mp told
    have new : news ∈ Profile.ofRow owner :: known :=
      List.mem_cons_of_mem _ (among delivery member news tells)
    exact shows.takeIn about tells (knownApart.forall old new) delivery.context
  obtain ⟨outcomes, after, run, -, row, there, shows, active⟩ :=
    handleAll_settles start latest knownApart delivered among takesIn
  exact ⟨outcomes, after, row, run, there, shows, active⟩

/-- The tenant changes her address, another seven minutes after her name. -/
def readdressed : Event.UserUpdated :=
  ⟨⟨24⟩, ⟨1260, 0, by decide, by decide, by decide⟩, ⟨1⟩, " Joana Lima", "lima@example.com ",
    some "Farmer"⟩

/-- The news of the tenant as they are delivered: the last first, and each of them twice. -/
def tenantNews : List Delivery :=
  [⟨.userUpdated readdressed, tenantContext⟩, ⟨.userUpdated renamed, tenantContext⟩,
    ⟨.userUpdated renamed, tenantContext⟩, ⟨.userUpdated readdressed, tenantContext⟩]

/-- The tenant has her last name and address in the end. -/
theorem tenantNews_settles : ∃ outcomes after row,
    handle .standard (.userCreated movedIn) tenantContext (.atRest .empty) =
      (.ok .created, letHouse) ∧
    handleAll .standard tenantNews letHouse = (.ok outcomes, after) ∧
    find? after.store.owners ⟨1⟩ = some row ∧
    Profile.ofRow row =
      ⟨⟨"Joana Lima", "lima@example.com", some "Farmer"⟩, readdressed.occurredOn⟩ ∧
    row.isActive = true := by
  have came : handle .standard (.userCreated movedIn) tenantContext (.atRest .empty) =
      (.ok .created, letHouse) := rfl
  have valid : ∀ message ∈ [Message.userUpdated renamed, .userUpdated readdressed],
      ownerOf? message = some ⟨1⟩ ∧ (Profile.told? message).isSome := by
    intro message member
    rcases List.mem_pair.mp member with rfl | rfl
    · exact ⟨rfl, rfl⟩
    · exact ⟨rfl, rfl⟩
  obtain ⟨last, latest, settles⟩ := @profile_settles_on_latest .standard letHouse
    (.create ⟨1⟩ ⟨"Joana", "joana@example.com", none⟩ .epoch .epoch) _ rfl rfl valid (by decide)
  obtain ⟨outcomes, after, row, run, found, shows, active⟩ :=
    settles tenantNews (by simp [tenantNews]) (by simp [tenantNews])
  have known : [Message.userUpdated renamed, .userUpdated readdressed].filterMap Profile.told? =
      [⟨⟨"Joana Lima", "joana@example.com", none⟩, renamed.occurredOn⟩,
        ⟨⟨"Joana Lima", "lima@example.com", some "Farmer"⟩, readdressed.occurredOn⟩] := rfl
  rw [known] at latest
  have newest : last =
      ⟨⟨"Joana Lima", "lima@example.com", some "Farmer"⟩, readdressed.occurredOn⟩ := by
    have since := latest.le
      ⟨⟨"Joana Lima", "lima@example.com", some "Farmer"⟩, readdressed.occurredOn⟩ (by simp)
    rcases List.mem_cons.mp latest.mem with rfl | member
    · exact absurd since (by decide)
    · rcases List.mem_pair.mp member with rfl | rfl
      · exact absurd since (by decide)
      · rfl
  exact ⟨outcomes, after, row, came, run, found, shows.trans newest, active⟩

end Fieldwatch.Inbox
