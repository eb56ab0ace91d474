import Mathlib.Data.List.Basic
import Mathlib.Data.List.Induction
import Mathlib.Data.List.Nodup

/-!
# Insertion-ordered dictionaries

A dictionary is a list of pairs in which no key occurs twice. Assignment
overwrites the value of a present key in place and appends an absent one, so
enumeration follows the order in which keys were first assigned.

Two ways of filling a dictionary are compared. Assigning every pair keeps the
last value written under a key. Adding only absent keys keeps the first. Both
are also described without a dictionary: by the item that is last to write a key,
and by the items that are first in the list to carry theirs.
-/

namespace ApiGateway

universe u v w

/-- Pairs in enumeration order, with pairwise distinct keys. -/
structure Dictionary (κ : Type u) (α : Type v) where
  entries : List (κ × α)
  distinct : (entries.map Prod.fst).Nodup

namespace Dictionary

variable {κ : Type u} {α : Type v} [DecidableEq κ]

/-- The value of the first pair with the key. -/
def lookupIn (key : κ) : List (κ × α) → Option α
  | [] => none
  | (stored, value) :: rest => if stored = key then some value else lookupIn key rest

/-- Overwrite in place, or append at the end. -/
def assignIn (key : κ) (value : α) : List (κ × α) → List (κ × α)
  | [] => [(key, value)]
  | (stored, old) :: rest =>
      if stored = key then (key, value) :: rest else (stored, old) :: assignIn key value rest

theorem lookupIn_none_iff (key : κ) (pairs : List (κ × α)) :
    lookupIn key pairs = none ↔ key ∉ pairs.map Prod.fst := by
  induction pairs with
  | nil => simp [lookupIn]
  | cons pair rest ih =>
    obtain ⟨stored, value⟩ := pair
    by_cases same : stored = key
    · simp [lookupIn, same]
    · simp [lookupIn, same, ih, Ne.symm same]

theorem lookupIn_mem {key : κ} {value : α} {pairs : List (κ × α)}
    (found : lookupIn key pairs = some value) : (key, value) ∈ pairs := by
  induction pairs with
  | nil => simp [lookupIn] at found
  | cons pair rest ih =>
    obtain ⟨stored, old⟩ := pair
    by_cases same : stored = key
    · have equal : old = value := by simpa [lookupIn, same] using found
      simp [same, equal]
    · exact List.mem_cons_of_mem _ (ih (by simpa [lookupIn, same] using found))

/-- With distinct keys, membership of a pair is lookup of its key. -/
theorem lookupIn_of_mem {key : κ} {value : α} {pairs : List (κ × α)}
    (distinct : (pairs.map Prod.fst).Nodup) (member : (key, value) ∈ pairs) :
    lookupIn key pairs = some value := by
  induction pairs with
  | nil => simp at member
  | cons pair rest ih =>
    obtain ⟨stored, old⟩ := pair
    have split : stored ∉ rest.map Prod.fst ∧ (rest.map Prod.fst).Nodup := by
      simpa only [List.map_cons, List.nodup_cons] using distinct
    rcases List.mem_cons.mp member with same | later
    · obtain ⟨rfl, rfl⟩ := Prod.mk.inj same
      simp [lookupIn]
    · have different : stored ≠ key := by
        intro same
        exact split.1 (same ▸ List.mem_map.mpr ⟨(key, value), later, rfl⟩)
      simp [lookupIn, different, ih split.2 later]

theorem lookupIn_append (key : κ) (left right : List (κ × α)) :
    lookupIn key (left ++ right) = (lookupIn key left).or (lookupIn key right) := by
  induction left with
  | nil => simp [lookupIn]
  | cons pair rest ih =>
    obtain ⟨stored, value⟩ := pair
    by_cases same : stored = key <;> simp [lookupIn, same, ih]

theorem lookupIn_assignIn (key tested : κ) (value : α) (pairs : List (κ × α)) :
    lookupIn tested (assignIn key value pairs) =
      if key = tested then some value else lookupIn tested pairs := by
  induction pairs with
  | nil => simp [assignIn, lookupIn]
  | cons pair rest ih =>
    obtain ⟨stored, old⟩ := pair
    by_cases stored_key : stored = key
    · subst stored
      by_cases same : key = tested <;> simp [assignIn, lookupIn, same]
    · rw [assignIn, if_neg stored_key, lookupIn, ih, lookupIn]
      by_cases same : key = tested
      · subst tested
        simp [stored_key]
      · simp [same]

theorem keys_assignIn (key : κ) (value : α) (pairs : List (κ × α)) :
    (assignIn key value pairs).map Prod.fst =
      if key ∈ pairs.map Prod.fst then pairs.map Prod.fst else pairs.map Prod.fst ++ [key] := by
  induction pairs with
  | nil => simp [assignIn]
  | cons pair rest ih =>
    obtain ⟨stored, old⟩ := pair
    by_cases same : stored = key
    · simp [assignIn, same]
    · have reversed : ¬ key = stored := Ne.symm same
      by_cases present : key ∈ rest.map Prod.fst
      · simp only [assignIn, if_neg same, List.map_cons, ih, if_pos present,
          List.mem_cons, reversed, false_or]
      · simp only [assignIn, if_neg same, List.map_cons, ih, if_neg present,
          List.mem_cons, reversed, false_or, List.cons_append]

theorem assignIn_absent {key : κ} {pairs : List (κ × α)} (absent : key ∉ pairs.map Prod.fst)
    (value : α) : assignIn key value pairs = pairs ++ [(key, value)] := by
  induction pairs with
  | nil => rfl
  | cons pair rest ih =>
    obtain ⟨stored, old⟩ := pair
    have split : key ≠ stored ∧ key ∉ rest.map Prod.fst := by
      simpa only [List.map_cons, List.mem_cons, not_or] using absent
    simp [assignIn, Ne.symm split.1, ih split.2]

/-- Renaming keys injectively renames lookups. -/
theorem lookupIn_map {κ' : Type u} {α' : Type v} [DecidableEq κ'] {rename : κ → κ'}
    (injective : Function.Injective rename) (convert : α → α') (key : κ) (pairs : List (κ × α)) :
    lookupIn (rename key) (pairs.map (fun pair => (rename pair.1, convert pair.2))) =
      (lookupIn key pairs).map convert := by
  induction pairs with
  | nil => rfl
  | cons pair rest ih =>
    obtain ⟨stored, value⟩ := pair
    by_cases same : stored = key
    · simp [lookupIn, same]
    · have renamed : rename stored ≠ rename key := fun equal => same (injective equal)
      simp only [List.map_cons, lookupIn, if_neg same, if_neg renamed, ih]

/-- A key whose pairs all carry one value is looked up as that value, from either end. -/
theorem lookupIn_of_only {key : κ} {value : α} {pairs : List (κ × α)}
    (member : (key, value) ∈ pairs) (only : ∀ other, (key, other) ∈ pairs → other = value) :
    lookupIn key pairs = some value := by
  cases found : lookupIn key pairs with
  | none =>
    exact absurd (List.mem_map.mpr ⟨(key, value), member, rfl⟩) ((lookupIn_none_iff key pairs).mp found)
  | some other => rw [only other (lookupIn_mem found)]

/-- The dictionary without keys. -/
def empty : Dictionary κ α := ⟨[], by simp⟩

/-- The value stored under a key, if any. -/
def tryGetValue (dictionary : Dictionary κ α) (key : κ) : Option α :=
  lookupIn key dictionary.entries

/-- Whether some value is stored under a key. -/
def containsKey (dictionary : Dictionary κ α) (key : κ) : Bool :=
  (dictionary.tryGetValue key).isSome

/-- Assign a value to a key. -/
def set (dictionary : Dictionary κ α) (key : κ) (value : α) : Dictionary κ α where
  entries := assignIn key value dictionary.entries
  distinct := by
    rw [keys_assignIn]
    split
    · exact dictionary.distinct
    · next absent =>
      exact List.nodup_append.mpr ⟨dictionary.distinct, by simp, by
        intro stored member tested single
        rw [List.mem_singleton.mp single]
        rintro rfl
        exact absent member⟩

/-- The keys in enumeration order. -/
def keys (dictionary : Dictionary κ α) : List κ := dictionary.entries.map Prod.fst

/-- The values in enumeration order. -/
def values (dictionary : Dictionary κ α) : List α := dictionary.entries.map Prod.snd

@[simp] theorem tryGetValue_empty (key : κ) :
    (empty : Dictionary κ α).tryGetValue key = none := rfl

theorem tryGetValue_set (dictionary : Dictionary κ α) (key tested : κ) (value : α) :
    (dictionary.set key value).tryGetValue tested =
      if key = tested then some value else dictionary.tryGetValue tested :=
  lookupIn_assignIn key tested value dictionary.entries

/-- A pair is enumerated exactly when lookup finds it. -/
theorem mem_entries_iff (dictionary : Dictionary κ α) (key : κ) (value : α) :
    (key, value) ∈ dictionary.entries ↔ dictionary.tryGetValue key = some value :=
  ⟨lookupIn_of_mem dictionary.distinct, lookupIn_mem⟩

theorem mem_keys_iff (dictionary : Dictionary κ α) (key : κ) :
    key ∈ dictionary.keys ↔ dictionary.tryGetValue key ≠ none := by
  rw [tryGetValue, Ne, lookupIn_none_iff, not_not, keys]

/-- Assigning an absent key appends its pair. -/
theorem entries_set_absent {dictionary : Dictionary κ α} {key : κ}
    (absent : dictionary.tryGetValue key = none) (value : α) :
    (dictionary.set key value).entries = dictionary.entries ++ [(key, value)] :=
  assignIn_absent ((lookupIn_none_iff key dictionary.entries).mp absent) value

theorem containsKey_eq_false {dictionary : Dictionary κ α} {key : κ} :
    dictionary.containsKey key = false ↔ dictionary.tryGetValue key = none := by
  simp [containsKey]

theorem containsKey_iff_mem (dictionary : Dictionary κ α) (key : κ) :
    dictionary.containsKey key = true ↔ key ∈ dictionary.keys := by
  rw [mem_keys_iff, containsKey, Option.isSome_iff_ne_none]

/-- Assign every pair of a list in order. -/
def setAll (dictionary : Dictionary κ α) (pairs : List (κ × α)) : Dictionary κ α :=
  pairs.foldl (fun filled pair => filled.set pair.1 pair.2) dictionary

theorem setAll_append (dictionary : Dictionary κ α) (former latter : List (κ × α)) :
    dictionary.setAll (former ++ latter) = (dictionary.setAll former).setAll latter :=
  List.foldl_append

/-- The last writer of a key decides its value; other keys are untouched. -/
theorem tryGetValue_setAll (dictionary : Dictionary κ α) (pairs : List (κ × α)) (key : κ) :
    (dictionary.setAll pairs).tryGetValue key =
      (lookupIn key pairs.reverse).or (dictionary.tryGetValue key) := by
  induction pairs generalizing dictionary with
  | nil => simp [setAll, lookupIn]
  | cons pair rest ih =>
    have step : dictionary.setAll (pair :: rest) = (dictionary.set pair.1 pair.2).setAll rest := rfl
    rw [step, ih, tryGetValue_set, List.reverse_cons, lookupIn_append]
    by_cases same : pair.1 = key <;>
      simp [lookupIn, same]

/-- Lookup after filling an empty dictionary returns the last pair with the key. -/
theorem tryGetValue_setAll_empty (pairs : List (κ × α)) (key : κ) :
    ((empty : Dictionary κ α).setAll pairs).tryGetValue key = lookupIn key pairs.reverse := by
  simp [tryGetValue_setAll]

/-- Every value enumerated after filling an empty dictionary was written. -/
theorem mem_setAll_empty {pairs : List (κ × α)} {key : κ} {value : α}
    (found : ((empty : Dictionary κ α).setAll pairs).tryGetValue key = some value) :
    (key, value) ∈ pairs := by
  rw [tryGetValue_setAll_empty] at found
  exact List.mem_reverse.mp (lookupIn_mem found)

/-- A key is present after filling an empty dictionary exactly when it was written. -/
theorem tryGetValue_setAll_none_iff (pairs : List (κ × α)) (key : κ) :
    ((empty : Dictionary κ α).setAll pairs).tryGetValue key = none ↔
      key ∉ pairs.map Prod.fst := by
  rw [tryGetValue_setAll_empty, lookupIn_none_iff, List.map_reverse, List.mem_reverse]

end Dictionary

section LastOccurrences

variable {κ : Type u} {α : Type v} {ι : Type w}

/-- The last of some items with a property. -/
def LastOf (property : ι → Prop) (items : List ι) (item : ι) : Prop :=
  ∃ before after, items = before ++ item :: after ∧ property item ∧
    ∀ later ∈ after, ¬ property later

/-- An item that is added is the last one with the property, or changes nothing. -/
theorem lastOf_concat (property : ι → Prop) (items : List ι) (last item : ι) :
    LastOf property (items ++ [last]) item ↔
      (property last ∧ item = last) ∨ (¬ property last ∧ LastOf property items item) := by
  constructor
  · rintro ⟨before, after, split, holds, none⟩
    rcases List.eq_nil_or_concat after with rfl | ⟨initial, final, rfl⟩
    · obtain ⟨_, same⟩ := List.append_inj' split rfl
      cases same
      exact Or.inl ⟨holds, rfl⟩
    · rw [List.concat_eq_append, ← List.cons_append, ← List.append_assoc] at split
      obtain ⟨earlier, same⟩ := List.append_inj' split rfl
      cases same
      refine Or.inr ⟨none last (by simp), before, initial, earlier, holds, ?_⟩
      exact fun later member => none later (by simp [member])
  · rintro (⟨holds, rfl⟩ | ⟨absent, before, after, rfl, holds, none⟩)
    · exact ⟨items, [], rfl, holds, fun _ member => absurd member List.not_mem_nil⟩
    · refine ⟨before, after ++ [last], by simp, holds, fun later member => ?_⟩
      rcases List.mem_append.mp member with within | final
      · exact none later within
      · rw [List.mem_singleton.mp final]
        exact absent

/-- Some item has the property exactly when there is a last one. -/
theorem exists_lastOf_iff (property : ι → Prop) (items : List ι) :
    (∃ item, LastOf property items item) ↔ ∃ item ∈ items, property item := by
  constructor
  · rintro ⟨item, before, after, rfl, holds, _⟩
    exact ⟨item, by simp, holds⟩
  · induction items using List.reverseRecOn with
    | nil => simp
    | append_singleton items last ih =>
      rintro ⟨item, member, holds⟩
      by_cases final : property last
      · exact ⟨last, (lastOf_concat property items last last).mpr (Or.inl ⟨final, rfl⟩)⟩
      · have within : item ∈ items := by
          rcases List.mem_append.mp member with within | same
          · exact within
          · rw [List.mem_singleton.mp same] at holds
            exact absurd holds final
        obtain ⟨chosen, before⟩ := ih ⟨item, within, holds⟩
        exact ⟨chosen, (lastOf_concat property items last chosen).mpr (Or.inr ⟨final, before⟩)⟩

/-- Items that each write one value under several keys leave the value of the last
item with the key. -/
theorem Dictionary.setAll_items [DecidableEq κ] (keysOf : ι → List κ) (valueOf : ι → α)
    (items : List ι) (key : κ) (value : α) :
    ((Dictionary.empty : Dictionary κ α).setAll (items.flatMap (fun item =>
        (keysOf item).map (fun name => (name, valueOf item))))).tryGetValue key = some value ↔
      ∃ item, LastOf (fun item => key ∈ keysOf item) items item ∧ value = valueOf item := by
  induction items using List.reverseRecOn with
  | nil => simp [LastOf, Dictionary.setAll]
  | append_singleton items last ih =>
    rw [List.flatMap_append, Dictionary.setAll_append, Dictionary.tryGetValue_setAll]
    simp only [lastOf_concat]
    by_cases writes : key ∈ keysOf last
    · have found : Dictionary.lookupIn key ([last].flatMap (fun item =>
          (keysOf item).map (fun name => (name, valueOf item)))).reverse = some (valueOf last) := by
        apply Dictionary.lookupIn_of_only (by simpa using writes)
        simp
      rw [found]
      simp [writes, eq_comm]
    · have missing : Dictionary.lookupIn key ([last].flatMap (fun item =>
          (keysOf item).map (fun name => (name, valueOf item)))).reverse = none := by
        rw [Dictionary.lookupIn_none_iff]
        simpa using writes
      rw [missing, Option.none_or, ih]
      simp [writes]

end LastOccurrences

section FirstOccurrences

variable {κ : Type u} {α : Type v}

/-- The items that are first in the list to carry their key, in list order. -/
def firstBy [DecidableEq κ] (key : α → κ) : List α → List α
  | [] => []
  | item :: rest => item :: (firstBy key rest).filter (fun later => decide (key later ≠ key item))

/-- An item is first in the list to carry its key. -/
def FirstOf (key : α → κ) (items : List α) (item : α) : Prop :=
  ∃ before after, items = before ++ item :: after ∧ ∀ earlier ∈ before, key earlier ≠ key item

theorem FirstOf.mem {key : α → κ} {items : List α} {item : α} (first : FirstOf key items item) :
    item ∈ items := by
  obtain ⟨before, after, rfl, _⟩ := first
  simp

theorem firstOf_head (key : α → κ) (item : α) (rest : List α) : FirstOf key (item :: rest) item :=
  ⟨[], rest, rfl, by simp⟩

theorem firstOf_cons {key : α → κ} {head item : α} {rest : List α} (different : key item ≠ key head) :
    FirstOf key (head :: rest) item ↔ FirstOf key rest item := by
  constructor
  · rintro ⟨before, after, split, fresh⟩
    cases before with
    | nil =>
      have same : head = item := (List.cons.inj split).1
      exact absurd (congrArg key same.symm) different
    | cons first others =>
      exact ⟨others, after, (List.cons.inj split).2,
        fun earlier member => fresh earlier (List.mem_cons_of_mem first member)⟩
  · rintro ⟨before, after, rfl, fresh⟩
    refine ⟨head :: before, after, rfl, ?_⟩
    intro earlier member
    rcases List.mem_cons.mp member with rfl | later
    · exact Ne.symm different
    · exact fresh earlier later

/-- Two items that are both first to carry one key are the same item. -/
theorem FirstOf.unique {key : α → κ} {items : List α} {left right : α}
    (leftFirst : FirstOf key items left) (rightFirst : FirstOf key items right)
    (same : key left = key right) : left = right := by
  induction items with
  | nil => exact absurd leftFirst.mem (by simp)
  | cons head rest ih =>
    by_cases atHead : key left = key head
    · have headOnly : ∀ item, FirstOf key (head :: rest) item → key item = key head → item = head := by
        rintro item ⟨before, after, split, fresh⟩ equal
        cases before with
        | nil => exact (List.cons.inj split).1.symm
        | cons first others =>
          have leading : head = first := (List.cons.inj split).1
          exact absurd (leading ▸ equal.symm) (fresh first List.mem_cons_self)
      exact (headOnly left leftFirst atHead).trans
        (headOnly right rightFirst (same ▸ atHead)).symm
    · have rightLater : key right ≠ key head := same ▸ atHead
      exact ih ((firstOf_cons atHead).mp leftFirst) ((firstOf_cons rightLater).mp rightFirst)

/-- Every key of the list has a first carrier. -/
theorem exists_firstOf (key : α → κ) {items : List α} {item : α} (member : item ∈ items) :
    ∃ first, FirstOf key items first ∧ key first = key item := by
  induction items with
  | nil => simp at member
  | cons head rest ih =>
    by_cases same : key item = key head
    · exact ⟨head, firstOf_head key head rest, same.symm⟩
    · have later : item ∈ rest := by
        rcases List.mem_cons.mp member with rfl | later
        · exact absurd rfl same
        · exact later
      obtain ⟨first, leading, equal⟩ := ih later
      exact ⟨first, (firstOf_cons (equal ▸ same)).mpr leading, equal⟩

/-- An appended item is the first carrier of its key unless the key occurs before;
it does not displace earlier first carriers. -/
theorem firstOf_concat (key : α → κ) (items : List α) (last item : α) :
    FirstOf key (items ++ [last]) item ↔
      FirstOf key items item ∨ (item = last ∧ key last ∉ items.map key) := by
  constructor
  · rintro ⟨before, after, split, fresh⟩
    rcases List.eq_nil_or_concat after with rfl | ⟨others, final, rfl⟩
    · obtain ⟨rfl, same⟩ := List.append_inj' split (by simp)
      obtain rfl := (List.cons.inj same).1
      refine Or.inr ⟨rfl, ?_⟩
      intro occurs
      obtain ⟨earlier, member, equal⟩ := List.mem_map.mp occurs
      exact fresh earlier member equal
    · refine Or.inl ⟨before, others, ?_, fresh⟩
      have regrouped : items ++ [last] = (before ++ item :: others) ++ [final] := by
        simpa using split
      exact (List.append_inj' regrouped (by simp)).1
  · rintro (⟨before, after, rfl, fresh⟩ | ⟨rfl, absent⟩)
    · exact ⟨before, after ++ [last], by simp, fresh⟩
    · exact ⟨items, [], rfl, fun earlier member equal =>
        absent (List.mem_map.mpr ⟨earlier, member, equal⟩)⟩

theorem firstOf_concat_present {key : α → κ} {items : List α} {last : α}
    (occurs : key last ∈ items.map key) (item : α) :
    FirstOf key (items ++ [last]) item ↔ FirstOf key items item := by
  rw [firstOf_concat]
  exact or_iff_left (fun new => new.2 occurs)

theorem firstOf_concat_absent {key : α → κ} {items : List α} {last : α}
    (absent : key last ∉ items.map key) (item : α) :
    FirstOf key (items ++ [last]) item ↔ FirstOf key items item ∨ item = last := by
  rw [firstOf_concat]
  exact or_congr_right (and_iff_left absent)

/-- Selection by first occurrence keeps exactly the first carriers. -/
theorem mem_firstBy_iff [DecidableEq κ] (key : α → κ) (items : List α) (item : α) :
    item ∈ firstBy key items ↔ FirstOf key items item := by
  induction items with
  | nil =>
    simp only [firstBy, List.not_mem_nil, false_iff]
    exact fun first => absurd first.mem (by simp)
  | cons head rest ih =>
    by_cases different : key item ≠ key head
    · rw [firstOf_cons different, ← ih]
      have notHead : item ≠ head := fun same => different (congrArg key same)
      simp [firstBy, notHead, different]
    · have same : key item = key head := not_not.mp different
      constructor
      · intro member
        have atHead : item = head := by simpa [firstBy, same] using member
        exact atHead ▸ firstOf_head key head rest
      · intro first
        have atHead : item = head := first.unique (firstOf_head key head rest) same
        simp [firstBy, atHead]

/-- An appended item with a new key is selected last. -/
theorem firstBy_concat_absent [DecidableEq κ] {key : α → κ} {items : List α} {item : α}
    (absent : key item ∉ items.map key) :
    firstBy key (items ++ [item]) = firstBy key items ++ [item] := by
  induction items with
  | nil => rfl
  | cons head rest ih =>
    have split : key item ≠ key head ∧ key item ∉ rest.map key := by
      simpa only [List.map_cons, List.mem_cons, not_or] using absent
    simp [firstBy, ih split.2, List.filter_append, split.1]

/-- An appended item whose key occurs before is not selected. -/
theorem firstBy_concat_present [DecidableEq κ] {key : α → κ} {items : List α} {item : α}
    (occurs : key item ∈ items.map key) : firstBy key (items ++ [item]) = firstBy key items := by
  induction items with
  | nil => simp at occurs
  | cons head rest ih =>
    by_cases later : key item ∈ rest.map key
    · simp only [List.cons_append, firstBy, ih later]
    · have atHead : key item = key head := by
        rcases List.mem_cons.mp occurs with atHead | elsewhere
        · exact atHead
        · exact absurd elsewhere later
      simp [firstBy, firstBy_concat_absent later, atHead]

/-- Selection keeps every key that occurs. -/
theorem firstBy_keys [DecidableEq κ] (key : α → κ) (items : List α) (wanted : κ) :
    wanted ∈ (firstBy key items).map key ↔ wanted ∈ items.map key := by
  simp only [List.mem_map, mem_firstBy_iff]
  constructor
  · rintro ⟨item, first, same⟩
    exact ⟨item, first.mem, same⟩
  · rintro ⟨item, member, same⟩
    obtain ⟨first, leading, equal⟩ := exists_firstOf key member
    exact ⟨first, leading, equal.trans same⟩

theorem firstBy_keys_nodup [DecidableEq κ] (key : α → κ) (items : List α) :
    ((firstBy key items).map key).Nodup := by
  induction items with
  | nil => simp [firstBy]
  | cons head rest ih =>
    rw [firstBy, List.map_cons, List.nodup_cons]
    refine ⟨by simp, ?_⟩
    exact ih.sublist ((List.filter_sublist).map key)

end FirstOccurrences

end ApiGateway
