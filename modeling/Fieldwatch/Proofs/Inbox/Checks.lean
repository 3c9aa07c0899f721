import Mathlib.Tactic.SplitIfs
import Fieldwatch.Inbox.Owners
import Fieldwatch.Proofs.Text.Trimmed

/-!
# What the checks of events ensure

What is known of an event once it has passed its check: it names things that are not nil, and what
it tells of a sensor or an owner is sound, so that it may be stored as it is.
-/
namespace Fieldwatch

/-- Whether what is told of a sensor may be stored. -/
structure SensorDetails.Sound (details : SensorDetails) : Prop where
  ownerId : details.ownerId.isNil = false
  propertyId : details.propertyId.isNil = false
  plotId : details.plotId.isNil = false
  plotName : Text.isBlankText details.plotName = false
  propertyName : Text.isBlankText details.propertyName = false
  plotName_length : details.plotName.length ≤ 255
  propertyName_length : details.propertyName.length ≤ 255
  label_length : ∀ label ∈ details.label, label.length ≤ 255

/-- Whether the profile of an owner may be stored. -/
structure OwnerDetails.Sound (details : OwnerDetails) : Prop where
  name_trimmed : Text.Trimmed details.name
  name_present : details.name ≠ ""
  name_length : details.name.length ≤ 255
  email_trimmed : Text.Trimmed details.email
  email_present : details.email ≠ ""
  email_length : details.email.length ≤ 255
  role_length : ∀ role ∈ details.role, role.length ≤ 64

namespace Inbox

theorem ok_of_mapError {α ε ε' : Type} {result : Except ε α} {change : ε → ε'} {value : α}
    (answered : result.mapError change = .ok value) : result = .ok value := by
  cases result with
  | error error => cases answered
  | ok other => exact congrArg Except.ok (Except.ok.inj answered)

theorem of_check_registration {event : Event.SensorRegistered} {status : SensorStatus}
    (checked : event.check = .ok status) :
    event.sensorId.isNil = false ∧ event.details.Sound ∧
      SensorStatus.ofText event.status = .ok status := by
  unfold Event.SensorRegistered.check at checked
  split_ifs at checked with nil ids blank long
  simp only [Bool.or_eq_true, not_or, Bool.not_eq_true] at nil ids blank
  have short : ∀ name ∈ [event.plotName, event.propertyName] ++ event.label.toList,
      name.length ≤ maxNameLength := by
    simpa only [List.any_eq_true, decide_eq_true_eq, not_exists, not_and, Nat.not_lt] using long
  exact ⟨nil, {
    ownerId := ids.1.1
    propertyId := ids.1.2
    plotId := ids.2
    plotName := blank.1
    propertyName := blank.2
    plotName_length := short event.plotName (by simp)
    propertyName_length := short event.propertyName (by simp)
    label_length := fun label told =>
      short label (List.mem_append_right _ (Option.mem_toList.mpr told)) },
    ok_of_mapError checked⟩

theorem of_check_statusChange {event : Event.SensorOperationalStatusChanged} {status : SensorStatus}
    (checked : event.check = .ok status) :
    event.sensorId.isNil = false ∧ SensorStatus.ofText event.newStatus = .ok status := by
  unfold Event.SensorOperationalStatusChanged.check at checked
  split_ifs at checked with nil
  exact ⟨by simpa using nil, ok_of_mapError checked⟩

theorem of_check_profile {id : OwnerId} {name email : String} {role : Option String}
    {details : OwnerDetails} (checked : OwnerDetails.check id name email role = .ok details) :
    id.isNil = false ∧ details.Sound := by
  unfold OwnerDetails.check at checked
  split_ifs at checked with nil nameless unreachable long wide
  obtain rfl := Except.ok.inj checked
  simp only [Bool.not_eq_true] at nil nameless unreachable
  simp only [Bool.or_eq_true, decide_eq_true_eq, not_or, Nat.not_lt] at long
  have narrow : ∀ text ∈ role, text.length ≤ maxRoleLength := by
    rintro text ⟨⟩
    simpa using wide
  exact ⟨nil, {
    name_trimmed := Text.trimmed_trim name
    name_present := Text.trim_ne_empty nameless
    name_length := long.1
    email_trimmed := Text.trimmed_trim email
    email_present := Text.trim_ne_empty unreachable
    email_length := long.2
    role_length := narrow }⟩

end Inbox
end Fieldwatch
