import ApiGateway.IpValidation

/-!
# Lists of allow-list entries

The portal validates a list entry by entry. An entry that is accepted is put on one
list and any other with an error on a second one, both trimmed.

The validator trims what it reads, so it judges a trimmed entry as the entry itself.
Validating either list again therefore changes nothing.
-/

namespace ApiGateway.IpValidation

structure InvalidEntry where
  ip : Text
  error : Text
deriving DecidableEq

structure ListValidation where
  valid : List Text
  invalid : List InvalidEntry
deriving DecidableEq

/-- The error of a result; an absent or empty one is replaced. -/
def errorOf (result : Validation) : Text :=
  match result.error with
  | some (first :: rest) => first :: rest
  | _ => "Invalid IP address".toList

/-- One round of the loop. -/
def validateEntry (lists : ListValidation) (ip : Text) : ListValidation :=
  let result := validateIPInput ip
  if result.isValid then { lists with valid := lists.valid ++ [trim ip] }
  else { lists with invalid := lists.invalid ++ [⟨trim ip, errorOf result⟩] }

def validateIPList (ips : List Text) : ListValidation := ips.foldl validateEntry ⟨[], []⟩

section Specification

def accepted (ip : Text) : Bool := (validateIPInput ip).isValid

/-- The validator splits the entries, which are trimmed and stay in their order, and
splits what it has split off as before. -/
structure Partitioned (ips : List Text) (lists : ListValidation) : Prop where
  valid : lists.valid = (ips.filter accepted).map trim
  invalid : lists.invalid.map InvalidEntry.ip = (ips.filter (fun ip => !accepted ip)).map trim
  lengths : lists.valid.length + lists.invalid.length = ips.length
  decided : ∀ ip ∈ ips, (trim ip ∈ lists.valid ↔ accepted ip = true) ∧
    (trim ip ∈ lists.invalid.map InvalidEntry.ip ↔ accepted ip = false)
  valid_again : validateIPList lists.valid = ⟨lists.valid, []⟩
  invalid_again : validateIPList (lists.invalid.map InvalidEntry.ip) = ⟨[], lists.invalid⟩

end Specification

section Entries

variable {ip : Text}

theorem trim_again (ip : Text) : trim (trim ip) = trim ip := Trimming.trim_trim

/-- The validator judges a trimmed entry as the entry itself. -/
theorem validateIPInput_trim (ip : Text) : validateIPInput (trim ip) = validateIPInput ip := by
  rw [validateIPInput, validateIPInput, trim_again]

theorem accepted_trim (ip : Text) : accepted (trim ip) = accepted ip := by
  rw [accepted, validateIPInput_trim, accepted]

theorem validateEntry_trim (lists : ListValidation) (ip : Text) :
    validateEntry lists (trim ip) = validateEntry lists ip := by
  rw [validateEntry, validateEntry, validateIPInput_trim, trim_again]

/-- What is put on the second list for an entry. -/
def invalidEntry (ip : Text) : InvalidEntry := ⟨trim ip, errorOf (validateIPInput ip)⟩

theorem validateEntry_accepted (lists : ListValidation) (taken : accepted ip = true) :
    validateEntry lists ip = ⟨lists.valid ++ [trim ip], lists.invalid⟩ :=
  if_pos taken

theorem validateEntry_refused (lists : ListValidation) (refused : accepted ip = false) :
    validateEntry lists ip = ⟨lists.valid, lists.invalid ++ [invalidEntry ip]⟩ :=
  if_neg (by rw [← accepted, refused]; exact Bool.false_ne_true)

end Entries

section Lists

variable {ips : List Text}

/-- The loop adds to both lists in the order of the entries. -/
theorem foldl_validateEntry (ips : List Text) (lists : ListValidation) :
    ips.foldl validateEntry lists =
      ⟨lists.valid ++ (ips.filter accepted).map trim,
        lists.invalid ++ (ips.filter (fun ip => !accepted ip)).map invalidEntry⟩ := by
  induction ips generalizing lists with
  | nil => simp
  | cons ip rest ih =>
    rw [List.foldl_cons, ih]
    cases taken : accepted ip with
    | true =>
      rw [validateEntry_accepted lists taken]
      simp [taken]
    | false =>
      rw [validateEntry_refused lists taken]
      simp [taken]

theorem validateIPList_eq (ips : List Text) :
    validateIPList ips =
      ⟨(ips.filter accepted).map trim, (ips.filter (fun ip => !accepted ip)).map invalidEntry⟩ := by
  rw [validateIPList, foldl_validateEntry, List.nil_append, List.nil_append]

/-- Trimming the entries before changes nothing. -/
theorem validateIPList_map_trim (ips : List Text) :
    validateIPList (ips.map trim) = validateIPList ips := by
  rw [validateIPList, List.foldl_map, validateIPList]
  congr 1
  funext lists ip
  exact validateEntry_trim lists ip

theorem trim_mem_iff {judgement : Text → Bool} (same : ∀ ip, judgement (trim ip) = judgement ip)
    {ip : Text} (member : ip ∈ ips) :
    trim ip ∈ (ips.filter judgement).map trim ↔ judgement ip = true := by
  rw [List.mem_map]
  constructor
  · rintro ⟨other, listed, alike⟩
    rw [← same ip, ← alike, same]
    exact (List.mem_filter.mp listed).2
  · intro taken
    exact ⟨ip, List.mem_filter.mpr ⟨member, taken⟩, rfl⟩

end Lists

/-- Every entry goes to exactly one list, the accepted ones to the first, and each list
is its own result. -/
theorem validateIPList_partitioned (ips : List Text) : Partitioned ips (validateIPList ips) := by
  have texts : (validateIPList ips).invalid.map InvalidEntry.ip =
      (ips.filter (fun ip => !accepted ip)).map trim := by
    rw [validateIPList_eq, List.map_map]
    rfl
  constructor
  · rw [validateIPList_eq]
  · exact texts
  · rw [validateIPList_eq, List.length_map, List.length_map]
    exact (List.length_eq_length_filter_add accepted).symm
  · intro ip member
    rw [texts, validateIPList_eq]
    constructor
    · exact trim_mem_iff accepted_trim member
    · rw [trim_mem_iff (fun ip => by rw [accepted_trim]) member, Bool.not_eq_true']
  · rw [validateIPList_eq ips, validateIPList_map_trim, validateIPList_eq]
    simp [List.filter_filter]
  · rw [texts, validateIPList_map_trim, validateIPList_eq, validateIPList_eq]
    simp [List.filter_filter]

example : validateIPList [" 10.0.0.1 ".toList, "10.0.0".toList, "10.0.0.0/8".toList] =
    ⟨["10.0.0.1".toList, "10.0.0.0/8".toList], [⟨"10.0.0".toList,
      "Invalid IP address or CIDR notation (e.g., 192.168.1.1 or 192.168.1.0/24)".toList⟩]⟩ := by
  decide

end ApiGateway.IpValidation
