import Mathlib.Data.Char
import Mathlib.Data.List.Lex
import ApiGateway.Database
import ApiGateway.Library.SqlQueries

/-!
# The profile a user gets

The query of user profiles for a user and an optional service. It is meant to
prefer the profile of the service and to fall back to a global one, which has no
service.

A null service makes its condition unknown or false on every row, so the global
profile is not found. Nothing keeps a user from having several global profiles;
the order of scanning then picks one.
-/

namespace ApiGateway.UserProfileRepository

open Sql

/-- Identifiers are ordered by their bytes, hence as their texts are. -/
def uuidAtMost (left right : Guid) : Bool := decide (left.text ≤ right.text)

/-- The condition of the query on a row. -/
def queried (userId : Text) (serviceId : Option Guid) (row : UserProfile) : Truth :=
  ((equal (some row.userId) (some userId)).and
    ((equal row.serviceId serviceId).or ((isNull row.serviceId).and (isNotNull serviceId)))).and
      (equal (some row.isEnabled) (some true))

/-- The first row in order, over rows in their order of scanning. -/
def getByUserIdAsync (userProfiles : List UserProfile) (userId : Text) (serviceId : Option Guid) :
    Option UserProfile :=
  ((orderBy (descNullsLast UserProfile.serviceId uuidAtMost)
    (select (queried userId serviceId) userProfiles)).take 1).head?

/-- An enabled profile of a user with a given service column. -/
def EnabledFor (userProfiles : List UserProfile) (userId : Text) (serviceId : Option Guid)
    (row : UserProfile) : Prop :=
  row ∈ userProfiles ∧ row.userId = userId ∧ row.serviceId = serviceId ∧ row.isEnabled = true

/-- The profile of the service, else a global one, else none. -/
structure Preferred (userProfiles : List UserProfile) (userId : Text) (serviceId : Option Guid)
    (answer : Option UserProfile) : Prop where
  specific : (∃ row, EnabledFor userProfiles userId serviceId row) →
    ∃ found, answer = some found ∧ EnabledFor userProfiles userId serviceId found
  fallback : (¬ ∃ row, EnabledFor userProfiles userId serviceId row) →
    (∃ row, EnabledFor userProfiles userId none row) →
      ∃ found, answer = some found ∧ EnabledFor userProfiles userId none found
  missing : (¬ ∃ row, EnabledFor userProfiles userId serviceId row) →
    (¬ ∃ row, EnabledFor userProfiles userId none row) → answer = none

/-- The query answers as preferred, and alike in every order of scanning. -/
def Selects (userProfiles : List UserProfile) (userId : Text) (serviceId : Option Guid) : Prop :=
  Preferred userProfiles userId serviceId (getByUserIdAsync userProfiles userId serviceId) ∧
    ∀ scanned : List UserProfile, scanned.Perm userProfiles →
      getByUserIdAsync scanned userId serviceId = getByUserIdAsync userProfiles userId serviceId

/-- Without a service no global profile is there to be missed; with one, its own
profile exists or the global one is determined. -/
def Determined (userProfiles : List UserProfile) (userId : Text) : Option Guid → Prop
  | none => ∀ row, ¬ EnabledFor userProfiles userId none row
  | some service =>
    (∃ row, EnabledFor userProfiles userId (some service) row) ∨
      ∀ left right, EnabledFor userProfiles userId none left →
        EnabledFor userProfiles userId none right → left = right

/-- The test for an enabled profile with a given service column. -/
def enabledFor (userId : Text) (serviceId : Option Guid) (row : UserProfile) : Bool :=
  decide (row.userId = userId) && decide (row.serviceId = serviceId) && row.isEnabled

theorem uuidAtMost_refl (id : Guid) : uuidAtMost id id = true := by
  simp [uuidAtMost]

theorem enabledFor_iff (userProfiles : List UserProfile) (userId : Text) (serviceId : Option Guid)
    (row : UserProfile) :
    EnabledFor userProfiles userId serviceId row ↔
      row ∈ userProfiles ∧ enabledFor userId serviceId row = true := by
  simp [EnabledFor, enabledFor, and_assoc]

/-- No row satisfies the condition with a null service. -/
@[simp] theorem satisfied_queried_none (userId : Text) (row : UserProfile) :
    satisfied (queried userId none row) = false := by
  simp [queried]

@[simp] theorem satisfied_queried_some (userId : Text) (service : Guid) (row : UserProfile) :
    satisfied (queried userId (some service) row) =
      (enabledFor userId (some service) row || enabledFor userId none row) := by
  cases enabled : row.isEnabled <;> cases column : row.serviceId <;>
    simp [queried, enabledFor, enabled, column]

theorem getByUserIdAsync_none (userProfiles : List UserProfile) (userId : Text) :
    getByUserIdAsync userProfiles userId none = none := by
  have nothing : select (queried userId none) userProfiles = [] := by
    simp [select]
  rw [getByUserIdAsync, nothing]
  rfl

/-- With a service, the query is a search for its profile and then for a global
one, in the order of scanning. -/
theorem getByUserIdAsync_some (userProfiles : List UserProfile) (userId : Text) (service : Guid) :
    getByUserIdAsync userProfiles userId (some service) =
      (userProfiles.find? (enabledFor userId (some service))).or
        (userProfiles.find? (enabledFor userId none)) := by
  have single : ∀ row ∈ select (queried userId (some service)) userProfiles,
      row.serviceId = some service ∨ row.serviceId = none := by
    intro row kept
    have satisfies := (mem_select_iff.mp kept).2
    rw [satisfied_queried_some, Bool.or_eq_true] at satisfies
    rcases satisfies with own | shared
    · exact Or.inl (by simp_all [enabledFor])
    · exact Or.inr (by simp_all [enabledFor])
  have column : ∀ (matched : UserProfile → Bool) (serviceId : Option Guid),
      (∀ row, (satisfied (queried userId (some service) row) && matched row) =
        enabledFor userId serviceId row) →
      (select (queried userId (some service)) userProfiles).find? matched =
        userProfiles.find? (enabledFor userId serviceId) := by
    intro matched serviceId agrees
    rw [select, List.find?_filter]
    congr 1
    funext row
    rw [← agrees row]
    simp
  rw [getByUserIdAsync, List.head?_take, if_neg (by decide),
    head_orderBy_descNullsLast (uuidAtMost_refl service) _ single]
  congr 1
  · apply column
    intro row
    rw [satisfied_queried_some]
    cases row.isEnabled <;> cases own : row.serviceId <;> simp [enabledFor, own]
  · apply column
    intro row
    rw [satisfied_queried_some]
    cases row.isEnabled <;> cases own : row.serviceId <;> simp [enabledFor, own]

/-- The query is what the registry answers. -/
theorem profileByUserId_eq (database : Database) (userId : Text) (serviceId : Option Guid) :
    database.profileByUserId userId serviceId =
      getByUserIdAsync database.userProfiles userId serviceId := by
  cases serviceId with
  | none => exact (getByUserIdAsync_none database.userProfiles userId).symm
  | some service => exact (getByUserIdAsync_some database.userProfiles userId service).symm

/-- A service has one profile of a user at most. -/
theorem enabledFor_unique (database : Database) {userId : Text} {service : Guid}
    {left right : UserProfile}
    (former : EnabledFor database.userProfiles userId (some service) left)
    (latter : EnabledFor database.userProfiles userId (some service) right) : left = right := by
  obtain ⟨leftRow, leftUser, leftService, _⟩ := former
  obtain ⟨rightRow, rightUser, rightService, _⟩ := latter
  apply Database.row_unique database.userProfiles_pair
  · exact List.mem_filter.mpr ⟨leftRow, by simp [leftService]⟩
  · exact List.mem_filter.mpr ⟨rightRow, by simp [rightService]⟩
  · rw [leftUser, rightUser, leftService, rightService]

/-- A search for the only such row does not depend on the order of scanning. -/
theorem find_perm {userProfiles scanned : List UserProfile} {userId : Text} {serviceId : Option Guid}
    (unique : ∀ left right, EnabledFor userProfiles userId serviceId left →
      EnabledFor userProfiles userId serviceId right → left = right)
    (permuted : scanned.Perm userProfiles) :
    scanned.find? (enabledFor userId serviceId) = userProfiles.find? (enabledFor userId serviceId) := by
  have sole : ∀ left ∈ userProfiles, ∀ right ∈ userProfiles,
      enabledFor userId serviceId left = true → enabledFor userId serviceId right = true →
        left = right := by
    intro left leftRow right rightRow leftFits rightFits
    exact unique left right ((enabledFor_iff _ _ _ _).mpr ⟨leftRow, leftFits⟩)
      ((enabledFor_iff _ _ _ _).mpr ⟨rightRow, rightFits⟩)
  apply Option.ext
  intro row
  rw [Database.find_row_iff sole, Database.find_row_iff, permuted.mem_iff]
  intro left leftRow right rightRow
  exact sole left (permuted.mem_iff.mp leftRow) right (permuted.mem_iff.mp rightRow)

theorem find_eq_none_iff {userProfiles : List UserProfile} {userId : Text} {serviceId : Option Guid} :
    userProfiles.find? (enabledFor userId serviceId) = none ↔
      ¬ ∃ row, EnabledFor userProfiles userId serviceId row := by
  simp [enabledFor_iff]

theorem find_enabledFor {userProfiles : List UserProfile} {userId : Text} {serviceId : Option Guid}
    {row : UserProfile} (found : userProfiles.find? (enabledFor userId serviceId) = some row) :
    EnabledFor userProfiles userId serviceId row :=
  (enabledFor_iff _ _ _ _).mpr ⟨List.mem_of_find?_eq_some found, List.find?_some found⟩

/-- With a service the answer is always a preferred one. -/
theorem preferred_some (userProfiles : List UserProfile) (userId : Text) (service : Guid) :
    Preferred userProfiles userId (some service)
      (getByUserIdAsync userProfiles userId (some service)) := by
  rw [getByUserIdAsync_some]
  cases own : userProfiles.find? (enabledFor userId (some service)) with
  | some row =>
    have enabled := find_enabledFor own
    constructor
    · intro _
      exact ⟨row, rfl, enabled⟩
    · intro absent
      exact absurd ⟨row, enabled⟩ absent
    · intro absent
      exact absurd ⟨row, enabled⟩ absent
  | none =>
    have absent := find_eq_none_iff.mp own
    constructor
    · intro present
      exact absurd present absent
    · intro _ shared
      cases global : userProfiles.find? (enabledFor userId none) with
      | none => exact absurd shared (find_eq_none_iff.mp global)
      | some row => exact ⟨row, rfl, find_enabledFor global⟩
    · intro _ unshared
      rw [find_eq_none_iff.mpr unshared]
      rfl

/-- Without a profile of the service's own, the global profile that is scanned first is
selected. -/
theorem first_scanned_selected {userProfiles : List UserProfile} {userId : Text} {service : Guid}
    {row : UserProfile} (unowned : ¬ ∃ own, EnabledFor userProfiles userId (some service) own)
    (enabled : EnabledFor userProfiles userId none row) :
    getByUserIdAsync (row :: userProfiles.erase row) userId (some service) = some row := by
  have permuted : (row :: userProfiles.erase row).Perm userProfiles :=
    (List.perm_cons_erase enabled.1).symm
  have absent : (row :: userProfiles.erase row).find? (enabledFor userId (some service)) = none := by
    rw [find_eq_none_iff]
    rintro ⟨other, member, rest⟩
    exact unowned ⟨other, permuted.mem_iff.mp member, rest⟩
  rw [getByUserIdAsync_some, absent, Option.none_or,
    List.find?_cons_of_pos ((enabledFor_iff _ _ _ _).mp enabled).2]

/-- What the rows determine is selected in every order of scanning. -/
theorem selected_alike {database : Database} {userId : Text} {service : Guid}
    (determined : Determined database.userProfiles userId (some service))
    {scanned : List UserProfile} (permuted : scanned.Perm database.userProfiles) :
    getByUserIdAsync scanned userId (some service) =
      getByUserIdAsync database.userProfiles userId (some service) := by
  have specific : scanned.find? (enabledFor userId (some service)) =
      database.userProfiles.find? (enabledFor userId (some service)) :=
    find_perm (fun left right => enabledFor_unique database) permuted
  rw [getByUserIdAsync_some, getByUserIdAsync_some, specific]
  rcases determined with ⟨row, enabled⟩ | unique
  · cases own : database.userProfiles.find? (enabledFor userId (some service)) with
    | none => exact absurd ⟨row, enabled⟩ (find_eq_none_iff.mp own)
    | some found => rfl
  · rw [find_perm unique permuted]

/-- The answer is the preferred one, whatever the order of scanning, exactly if the
rows determine it. -/
theorem getByUserIdAsync_selects_iff (database : Database) (userId : Text) (serviceId : Option Guid) :
    Selects database.userProfiles userId serviceId ↔
      Determined database.userProfiles userId serviceId := by
  cases serviceId with
  | none =>
    simp only [Selects, Determined, getByUserIdAsync_none]
    constructor
    · rintro ⟨preferred, _⟩ row enabled
      obtain ⟨found, nothing, _⟩ := preferred.specific ⟨row, enabled⟩
      cases nothing
    · intro unshared
      have absent : ¬ ∃ row, EnabledFor database.userProfiles userId none row := by
        rintro ⟨row, enabled⟩
        exact unshared row enabled
      refine ⟨⟨fun present => absurd present absent, fun _ present => absurd present absent,
        fun _ _ => rfl⟩, fun _ _ => trivial⟩
  | some service =>
    constructor
    · rintro ⟨_, alike⟩
      by_cases own : ∃ row, EnabledFor database.userProfiles userId (some service) row
      · exact Or.inl own
      · apply Or.inr
        -- each global profile is what the query returns when it is scanned first
        have first : ∀ row, EnabledFor database.userProfiles userId none row →
            getByUserIdAsync database.userProfiles userId (some service) = some row := by
          intro row enabled
          rw [← alike _ (List.perm_cons_erase enabled.1).symm, first_scanned_selected own enabled]
        intro left right former latter
        exact Option.some.inj ((first left former).symm.trans (first right latter))
    · intro determined
      exact ⟨preferred_some database.userProfiles userId service,
        fun scanned permuted => selected_alike determined permuted⟩

/-- An enabled profile of a user for all services. -/
def globalProfile (id : Nat) : UserProfile where
  id := Guid.numbered id
  userId := "alice".toList
  serviceId := none
  encryptionKey := []
  encryptionIv := none
  isEnabled := true

/-- A registry with two global profiles of one user, which the schema allows. -/
def globalProfiles : Database :=
  { Database.vacant with
    userProfiles := [globalProfile 1, globalProfile 2]
    userProfiles_id := by decide
    userProfiles_pair := by decide }

/-- Without a service no profile is found, though the user has global ones; with
one, the order of scanning decides between them. -/
theorem globalProfiles_unselected :
    ¬ Selects globalProfiles.userProfiles "alice".toList none ∧
      ¬ Selects globalProfiles.userProfiles "alice".toList (some (Guid.numbered 3)) := by
  constructor
  · rintro ⟨preferred, _⟩
    obtain ⟨found, nothing, _⟩ := preferred.specific ⟨globalProfile 1, by simp [globalProfiles],
      rfl, rfl, rfl⟩
    rw [getByUserIdAsync_none] at nothing
    cases nothing
  · rintro ⟨_, alike⟩
    have swapped := alike [globalProfile 2, globalProfile 1] (List.Perm.swap _ _ _)
    simp only [getByUserIdAsync_some] at swapped
    revert swapped
    decide

end ApiGateway.UserProfileRepository
