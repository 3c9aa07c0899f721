import Fieldwatch.Proofs.Inbox.Checks
import Fieldwatch.Proofs.Inbox.Runs

/-!
# Retiring an owner

A deactivation makes an owner inactive for good, since no profile brings one back. But profiles and
deactivations share one time of last change: a deactivation that is handled after a profile of a
later time is stale, and then the owner stays active.
-/
namespace Fieldwatch.Inbox

open Tables (find?)

variable {policy : StalenessPolicy} {message : Message} {context : MessageContext}
  {before world : World Tables} {id : OwnerId} {owner : OwnerSnapshot}

/-! ## Messages -/

/-- When the profile that a message carries was given. -/
def profiledAt? : Message → Option Instant
  | .userCreated event => some event.occurredOn
  | .userUpdated event => some event.occurredOn
  | _ => none

/-- What a message makes of a stored owner: a profile leaves liveness alone and its own time behind,
and a deactivation leaves the owner inactive. -/
inductive OwnerStep (message : Message) (owner : OwnerSnapshot) : OwnerSnapshot → Prop
  | kept : OwnerStep message owner owner
  | profiled {next : OwnerSnapshot} (told : profiledAt? message = some next.lastChangedAt)
    (alive : next.isActive = owner.isActive) : OwnerStep message owner next
  | retired {next : OwnerSnapshot} (inactive : next.isActive = false) : OwnerStep message owner next

theorem OwnerStep.inactive {next : OwnerSnapshot} (step : OwnerStep message owner next)
    (was : owner.isActive = false) : next.isActive = false := by
  cases step with
  | kept => exact was
  | profiled _ alive => exact alive.trans was
  | retired inactive => exact inactive

theorem Rule.ownerStep_next {rule : Rule OwnerSnapshot .owner} {now : Instant}
    (change : OwnerStep message owner (rule.change owner now)) :
    ∃ left, rule.next (some owner) now = some left ∧ OwnerStep message owner left := by
  rcases rule.next_cases owner now with ⟨-, -, kept⟩ | ⟨-, -, kept⟩ | ⟨-, -, changed⟩
  · exact ⟨owner, kept, .kept⟩
  · exact ⟨owner, kept, .kept⟩
  · exact ⟨_, changed, change⟩

/-- A message about a stored owner leaves a row that is a step on. -/
theorem ownerStep_ownerAfter (policy : StalenessPolicy) (message : Message) (owner : OwnerSnapshot)
    (now : Instant) :
    ∃ left, ownerAfter policy message (some owner) now = some left ∧
      OwnerStep message owner left := by
  rw [ownerAfter]
  cases told : ownerRule? policy message with
  | none => exact ⟨owner, rfl, .kept⟩
  | some rule =>
    refine Rule.ownerStep_next ?_
    cases ownerRuling_of_rule? told with
    | creation _ => exact .profiled rfl rfl
    | update _ => exact .profiled rfl rfl
    | deactivation _ => exact .retired rfl

/-- A message about an owner that is not stored stores none, or one with the profile it carries. -/
theorem ownerAfter_none (about : ownerOf? message = some id) (now : Instant) :
    ownerAfter policy message none now = none ∨
      id.isNil = false ∧ ∃ left, ownerAfter policy message none now = some left ∧
        profiledAt? message = some left.lastChangedAt := by
  rw [ownerAfter]
  cases told : ownerRule? policy message with
  | none => exact .inl rfl
  | some rule =>
    have ruling := ownerRuling_of_rule? told
    cases about.symm.trans ruling.about
    cases ruling with
    | creation checked => exact .inr ⟨(of_check_profile checked).1, _, rfl, rfl⟩
    | update _ => exact .inl rfl
    | deactivation _ => exact .inl rfl

/-! ## Deliveries -/

/-- Whether commits succeed and an owner is not stored, or is stored and then inactive or last
changed by one of the profiles that were delivered. -/
structure Profiled (id : OwnerId) (delivered : List Delivery) (world : World Tables) : Prop where
  unset : world.store.failNextCommit = false
  stored : find? world.store.owners id = none ∨
    id.isNil = false ∧ ∃ owner, find? world.store.owners id = some owner ∧
      (owner.isActive = true → ∃ delivery ∈ delivered,
        profiledAt? delivery.message = some owner.lastChangedAt)

theorem Profiled.handle {delivered : List Delivery} {delivery : Delivery}
    (profiled : Profiled id delivered world) (about : ownerOf? delivery.message = some id) :
    ∃ outcome after, Inbox.handle policy delivery.message delivery.context world =
        (.ok outcome, after) ∧ Profiled id (delivered ++ [delivery]) after := by
  obtain ⟨unset, stored⟩ := profiled
  obtain ⟨outcome, after, handled, unset, left⟩ := handle_owner about delivery.context unset
  refine ⟨outcome, after, handled, unset, ?_⟩
  have last : delivery ∈ delivered ++ [delivery] := List.mem_append_right _ List.mem_cons_self
  rcases stored with absent | ⟨real, owner, found, changed⟩
  · rw [absent] at left
    rcases ownerAfter_none about world.now.time with none | ⟨real, row, made, told⟩
    · exact .inl (left.trans none)
    · exact .inr ⟨real, row, left.trans made, fun _ => ⟨delivery, last, told⟩⟩
  · obtain ⟨row, moved, step⟩ := ownerStep_ownerAfter policy delivery.message owner world.now.time
    rw [found, moved] at left
    refine .inr ⟨real, row, left, fun active => ?_⟩
    cases step with
    | kept =>
      obtain ⟨earlier, member, told⟩ := changed active
      exact ⟨earlier, List.mem_append_left _ member, told⟩
    | profiled told _ => exact ⟨delivery, last, told⟩
    | retired inactive =>
      rw [inactive] at active
      cases active

/-- Whether commits succeed and an owner is stored, and inactive. -/
structure Retired (id : OwnerId) (world : World Tables) : Prop where
  unset : world.store.failNextCommit = false
  inactive : ∃ owner, find? world.store.owners id = some owner ∧ owner.isActive = false

theorem Retired.handle (retired : Retired id world) (about : ownerOf? message = some id)
    (context : MessageContext) :
    ∃ outcome after, Inbox.handle policy message context world = (.ok outcome, after) ∧
      Retired id after := by
  obtain ⟨unset, owner, found, inactive⟩ := retired
  obtain ⟨outcome, after, handled, unset, left⟩ := handle_owner about context unset
  obtain ⟨row, moved, step⟩ := ownerStep_ownerAfter policy message owner world.now.time
  rw [found, moved] at left
  exact ⟨outcome, after, handled, unset, row, left, step.inactive inactive⟩

/-- A deactivation of a stored owner leaves it inactive, unless the owner is active and has changed
since: then it is stale, and leaves the owner as it is. -/
theorem handle_deactivation {event : Event.UserDeactivated} (real : event.ownerId.isNil = false)
    (unset : world.store.failNextCommit = false)
    (found : find? world.store.owners event.ownerId = some owner) (context : MessageContext) :
    ∃ outcome after, handle policy (.userDeactivated event) context world = (.ok outcome, after) ∧
      (Retired event.ownerId after ∨
        outcome = .stale ∧ owner.isActive = true ∧ event.occurredOn < owner.lastChangedAt ∧
          find? after.store.owners event.ownerId = some owner) := by
  have checked : event.check = .ok () := by
    rw [Event.UserDeactivated.check, real]
    rfl
  have ruling : OwnerRuling policy (.userDeactivated event) (userDeactivation event) :=
    .deactivation checked
  obtain ⟨after, handled, unset, left⟩ := ruling.governs.handle_of_unset context unset
  have stored : (userDeactivation event).stored? world.store = some owner := found
  change find? after.store.owners event.ownerId = _ at left
  rw [stored] at handled left
  refine ⟨_, after, handled, ?_⟩
  rcases (userDeactivation event).next_cases owner world.now.time with
    ⟨shown, -, kept⟩ | ⟨outdated, stale, kept⟩ | ⟨-, -, changed⟩
  · exact .inl ⟨unset, owner, left.trans kept, by simpa [userDeactivation] using shown⟩
  · -- A row that outdates the event may still be inactive.
    cases active : owner.isActive with
    | false => exact .inl ⟨unset, owner, left.trans kept, active⟩
    | true =>
      have older : event.occurredOn < owner.lastChangedAt := by
        simpa [userDeactivation, OwnerSnapshot.isOlderThanLastChange] using outdated
      exact .inr ⟨stale, rfl, older, left.trans kept⟩
  · exact .inl ⟨unset, _, left.trans changed, rfl⟩

/-- In a run of deliveries about one owner that is not stored before, once a deactivation was
handled while the owner is stored, the owner is inactive and stays so, whatever is delivered later;
unless the owner was active and its last change, by a profile delivered before, later than the
deactivation: then the deactivation is stale and leaves the owner as it was. -/
theorem deactivation_lasts {event : Event.UserDeactivated} {earlier later : List Delivery}
    (unset : before.store.failNextCommit = false)
    (absent : find? before.store.owners event.ownerId = none)
    (about : ∀ delivery ∈ earlier ++ later, ownerOf? delivery.message = some event.ownerId)
    (context : MessageContext) :
    ∃ firsts world, handleAll policy earlier before = (.ok firsts, world) ∧
      ∀ owner, find? world.store.owners event.ownerId = some owner →
        ∃ outcome left, handle policy (.userDeactivated event) context world = (.ok outcome, left) ∧
          ((Retired event.ownerId left ∧
              ∃ rests reached, handleAll policy later left = (.ok rests, reached) ∧
                Retired event.ownerId reached) ∨
            outcome = .stale ∧ owner.isActive = true ∧
              event.occurredOn < owner.lastChangedAt ∧
              (∃ delivery ∈ earlier, profiledAt? delivery.message = some owner.lastChangedAt) ∧
              find? left.store.owners event.ownerId = some owner) := by
  -- Up to the deactivation an active owner was last changed by a profile of this run.
  obtain ⟨firsts, world, first, profiled⟩ := handleAll_of_step (Profiled event.ownerId)
    ⟨unset, .inl absent⟩ fun _ _ member _ profiled =>
      profiled.handle (about _ (List.mem_append_left _ member))
  refine ⟨firsts, world, first, fun owner found => ?_⟩
  obtain ⟨unset, stored⟩ := profiled
  rw [found] at stored
  obtain ⟨real, _, ⟨⟩, changed⟩ := stored.resolve_left (by simp)
  -- The deactivation retires the owner, and nothing that is handled later brings one back.
  obtain ⟨outcome, left, handled, retired | ⟨stale, active, older, kept⟩⟩ :=
    handle_deactivation real unset found context
  · obtain ⟨rests, reached, rest, lasts⟩ := handleAll_of_step (fun _ => Retired event.ownerId)
      retired fun _ delivery member _ retired =>
        retired.handle (about delivery (List.mem_append_right _ member)) delivery.context
    exact ⟨outcome, left, handled, .inl ⟨retired, rests, reached, rest, lasts⟩⟩
  · exact ⟨outcome, left, handled, .inr ⟨stale, active, older, changed active, kept⟩⟩

/-! ## A tenant -/

/-- A tenant moves in. -/
def movedIn : Event.UserCreated :=
  ⟨⟨21⟩, .epoch, ⟨1⟩, "Joana", "joana@example.com", none⟩

/-- The tenant moves out, seven minutes later. -/
def movedOut : Event.UserDeactivated :=
  ⟨⟨22⟩, ⟨420, 0, by decide, by decide, by decide⟩, ⟨1⟩, "Joana", "joana@example.com", none⟩

/-- The tenant changes her name, another seven minutes later. -/
def renamed : Event.UserUpdated :=
  ⟨⟨23⟩, ⟨840, 0, by decide, by decide, by decide⟩, ⟨1⟩, "Joana Lima", "joana@example.com", none⟩

def tenantContext : MessageContext := .ofMessage (.userCreated movedIn) ⟨9⟩

def letHouse : World Tables :=
  (handle .standard (.userCreated movedIn) tenantContext (.atRest .empty)).2

def leftHouse : World Tables :=
  (handle .standard (.userDeactivated movedOut) tenantContext letHouse).2

/-- A tenant who moved out does not come back when she changes her name. -/
theorem movedOut_lasts :
    handle .standard (.userDeactivated movedOut) tenantContext letHouse =
      (.ok .applied, leftHouse) ∧ Retired ⟨1⟩ leftHouse ∧
    ∃ rests reached, handleAll .standard [⟨.userUpdated renamed, tenantContext⟩] leftHouse =
      (.ok rests, reached) ∧ Retired ⟨1⟩ reached := by
  have absent : find? (World.atRest Tables.empty).store.owners movedOut.ownerId = none := rfl
  have about : ∀ delivery ∈ [⟨.userCreated movedIn, tenantContext⟩] ++
      [(⟨.userUpdated renamed, tenantContext⟩ : Delivery)],
      ownerOf? delivery.message = some movedOut.ownerId := by decide
  obtain ⟨firsts, world, first, lasts⟩ := deactivation_lasts rfl absent about tenantContext
  have came : handleAll .standard [⟨.userCreated movedIn, tenantContext⟩] (.atRest .empty) =
      (.ok [.created], letHouse) := rfl
  cases first.symm.trans came
  have went : handle .standard (.userDeactivated movedOut) tenantContext letHouse =
      (.ok .applied, leftHouse) := rfl
  obtain ⟨outcome, left, handled, retired | ⟨stale, -⟩⟩ := lasts _ rfl
  · cases handled.symm.trans went
    exact ⟨went, retired⟩
  · cases stale.symm.trans (Except.ok.inj (Prod.mk.inj (handled.symm.trans went)).1)

/-- A tenant who changed her name stays when the news that she had moved out before that come
last. -/
theorem movedOut_lost_once_renamed :
    ∃ world left owner,
      handleAll .standard [⟨.userCreated movedIn, tenantContext⟩,
        ⟨.userUpdated renamed, tenantContext⟩] (.atRest Tables.empty) =
          (.ok [.created, .applied], world) ∧
      handle .standard (.userDeactivated movedOut) tenantContext world = (.ok .stale, left) ∧
      find? left.store.owners movedOut.ownerId = some owner ∧ owner.isActive = true :=
  ⟨_, _, _, rfl, rfl, rfl, rfl⟩

end Fieldwatch.Inbox
