import Mathlib.Data.List.Nodup
import Mathlib.Data.Set.Function

/-!
# Rows under generated keys

Every row is given a key of its own, generated in the order of the rows, and a
reference to a row is replaced by the key that was generated for that row.

The replacement is a function of the old key. It takes every row's old key to its
generated one, and where generated keys are distinct it is injective on old keys, so
columns that were distinct stay so.
-/

namespace ApiGateway.Rekeying

universe u v w
variable {Row : Type u} {Key : Type v} {Column : Type w}

/-- Every row with the key generated for it. -/
def withGenerated (generated : Nat → Key) (rows : List Row) : List (Row × Key) :=
  rows.zipIdx.map (fun indexed => (indexed.1, generated indexed.2))

/-- The key generated for the row with an old key, if there is one. -/
def joined [DecidableEq Key] (keyOf : Row → Key) (widened : List (Row × Key)) (key : Key) :
    Option Key :=
  (widened.find? (fun pair => decide (keyOf pair.1 = key))).map Prod.snd

/-- The replacement of old keys. A key of no row stays. -/
def replacing [DecidableEq Key] (keyOf : Row → Key) (widened : List (Row × Key)) (key : Key) : Key :=
  (joined keyOf widened key).getD key

theorem map_fst_withGenerated (generated : Nat → Key) (rows : List Row) :
    (withGenerated generated rows).map Prod.fst = rows := by
  simp [withGenerated, Function.comp_def]

variable [DecidableEq Key] {keyOf : Row → Key} {widened : List (Row × Key)}

/-- A key of some row has a generated one. -/
theorem joined_isSome {key : Key} (present : key ∈ (widened.map Prod.fst).map keyOf) :
    (joined keyOf widened key).isSome = true := by
  obtain ⟨row, member, rfl⟩ := List.mem_map.mp present
  obtain ⟨pair, paired, rfl⟩ := List.mem_map.mp member
  rw [joined, Option.isSome_map, List.find?_isSome]
  exact ⟨pair, paired, decide_eq_true rfl⟩

theorem get_joined {key : Key} (present : (joined keyOf widened key).isSome = true) :
    (joined keyOf widened key).get present = replacing keyOf widened key :=
  (Option.get_eq_getD ..)

/-- Old keys are replaced by the keys generated for their rows. -/
theorem replacing_of_mem (distinct : ((widened.map Prod.fst).map keyOf).Nodup) {pair : Row × Key}
    (member : pair ∈ widened) : replacing keyOf widened (keyOf pair.1) = pair.2 := by
  have distinctPairs : (widened.map (fun each => keyOf each.1)).Nodup := by
    rwa [List.map_map] at distinct
  unfold replacing joined
  cases found : widened.find? (fun each => decide (keyOf each.1 = keyOf pair.1)) with
  | none => simpa using List.find?_eq_none.mp found pair member
  | some other =>
    have same : keyOf other.1 = keyOf pair.1 := by simpa using List.find?_some found
    rw [List.inj_on_of_nodup_map distinctPairs (List.mem_of_find?_eq_some found) member same]
    rfl

/-- A key of some row is replaced by a generated one. -/
theorem joined_eq_some {key : Key} (present : key ∈ (widened.map Prod.fst).map keyOf) :
    joined keyOf widened key = some (replacing keyOf widened key) := by
  rw [← get_joined (joined_isSome present), Option.some_get]

/-- Rows that take over their generated keys are the old rows under the replacement. -/
theorem map_withGenerated {Result : Type w} {generated : Nat → Key} {rows : List Row}
    (distinct : (rows.map keyOf).Nodup) (change : Row → Key → Result) :
    (withGenerated generated rows).map (fun pair => change pair.1 pair.2) =
      rows.map (fun row =>
        change row (replacing keyOf (withGenerated generated rows) (keyOf row))) := by
  have same := map_fst_withGenerated generated rows
  rw [← same] at distinct
  conv_rhs => rw [← same, List.map_map]
  apply List.map_congr_left
  intro pair member
  rw [Function.comp_apply, same]
  exact congrArg (change pair.1) (replacing_of_mem distinct member).symm

/-- Where generated keys are distinct, so are the replacements of distinct keys. -/
theorem replacing_injOn (distinct : ((widened.map Prod.fst).map keyOf).Nodup)
    (fresh : (widened.map Prod.snd).Nodup) :
    Set.InjOn (replacing keyOf widened) {key | key ∈ (widened.map Prod.fst).map keyOf} := by
  intro left leftKey right rightKey same
  obtain ⟨_, leftMember, rfl⟩ := List.mem_map.mp leftKey
  obtain ⟨_, rightMember, rfl⟩ := List.mem_map.mp rightKey
  obtain ⟨leftPair, leftPaired, rfl⟩ := List.mem_map.mp leftMember
  obtain ⟨rightPair, rightPaired, rfl⟩ := List.mem_map.mp rightMember
  rw [replacing_of_mem distinct leftPaired, replacing_of_mem distinct rightPaired] at same
  rw [List.inj_on_of_nodup_map fresh leftPaired rightPaired same]

/-- Columns of changed rows are distinct where they tell changed rows apart as the old
ones did. -/
theorem nodup_changed {Former : Type w} {Latter : Type w} {rows : List Row} {before : Row → Former}
    {after : Row → Latter} (distinct : (rows.map before).Nodup)
    (tells : ∀ left ∈ rows, ∀ right ∈ rows, after left = after right → before left = before right) :
    (rows.map after).Nodup := by
  refine List.Nodup.map_on (fun left leftRow right rightRow same => ?_) distinct.of_map
  exact List.inj_on_of_nodup_map distinct leftRow rightRow (tells left leftRow right rightRow same)

end ApiGateway.Rekeying
