import Mathlib.Data.List.Chain
import ApiGateway.Library.Regexes
import ApiGateway.Library.Trimming

/-!
# Runs of blank items as one mark

Every run of blank items is collapsed to one mark, and the marks at both ends are
trimmed. What is left are words of other items with single marks between them, and
such a list stays as it is.
-/

namespace ApiGateway.Collapsing

open Regexes RegularExpression

universe u
variable {α : Type u} {blank : α → Bool} {mark : α} {items : List α}

/-- Every run of blank items becomes one mark. The flag says whether a run has begun. -/
def collapse (blank : α → Bool) (mark : α) : Bool → List α → List α
  | _, [] => []
  | inRun, first :: rest =>
    if blank first then
      if inRun then collapse blank mark true rest else mark :: collapse blank mark true rest
    else first :: collapse blank mark false rest

/-- No mark follows another. -/
def SingleMarks (mark : α) (items : List α) : Prop :=
  items.IsChain (fun former latter => former = mark → latter ≠ mark)

/-- Words of items that are not blank with single marks between them. -/
structure Separated (blank : α → Bool) (mark : α) (items : List α) : Prop where
  kept : ∀ item ∈ items, item ≠ mark → blank item = false
  single : SingleMarks mark items
  begins : items.head? ≠ some mark
  ends : items.getLast? ≠ some mark

section Runs

theorem mem_collapse {inRun : Bool} {item : α} (member : item ∈ collapse blank mark inRun items) :
    item = mark ∨ blank item = false := by
  induction items generalizing inRun with
  | nil => cases member
  | cons first rest ih =>
    rw [collapse] at member
    cases skipped : blank first with
    | true =>
      rw [if_pos skipped] at member
      cases inRun with
      | true => exact ih member
      | false =>
        rcases List.mem_cons.mp member with rfl | later
        · exact Or.inl rfl
        · exact ih later
    | false =>
      rw [if_neg (by simp [skipped])] at member
      rcases List.mem_cons.mp member with rfl | later
      · exact Or.inr skipped
      · exact ih later

/-- Within a run no mark comes first. -/
theorem head_collapse (blankMark : blank mark = true) :
    (collapse blank mark true items).head? ≠ some mark := by
  induction items with
  | nil => simp [collapse]
  | cons first rest ih =>
    rw [collapse]
    cases skipped : blank first with
    | true =>
      rw [if_pos rfl, if_pos rfl]
      exact ih
    | false =>
      intro same
      rw [if_neg Bool.false_ne_true, List.head?_cons, Option.some.injEq] at same
      rw [same, blankMark] at skipped
      cases skipped

theorem singleMarks_collapse (blankMark : blank mark = true) (inRun : Bool) (items : List α) :
    SingleMarks mark (collapse blank mark inRun items) := by
  induction items generalizing inRun with
  | nil => exact List.IsChain.nil
  | cons first rest ih =>
    rw [collapse]
    cases skipped : blank first with
    | true =>
      rw [if_pos rfl]
      cases inRun with
      | true => exact ih true
      | false =>
        refine List.isChain_cons.mpr ⟨fun next follows _ same => ?_, ih true⟩
        rw [same] at follows
        exact head_collapse blankMark follows
    | false =>
      rw [if_neg Bool.false_ne_true]
      refine List.isChain_cons.mpr ⟨fun next follows same => ?_, ih false⟩
      rw [same, blankMark] at skipped
      cases skipped

/-- Nothing is collapsed where no mark follows another. -/
theorem collapse_eq_self (blankMark : blank mark = true)
    (kept : ∀ item ∈ items, item ≠ mark → blank item = false) (single : SingleMarks mark items)
    {inRun : Bool} (begins : inRun = true → items.head? ≠ some mark) :
    collapse blank mark inRun items = items := by
  induction items generalizing inRun with
  | nil => rfl
  | cons first rest ih =>
    have keptRest := fun item later => kept item (List.mem_cons_of_mem first later)
    obtain ⟨follows, singleRest⟩ := List.isChain_cons.mp single
    rw [collapse]
    by_cases same : first = mark
    · have fresh : inRun = false := by
        rw [Bool.eq_false_iff]
        exact fun running => begins running (by rw [same, List.head?_cons])
      have next : rest.head? ≠ some mark := fun found => follows mark found same rfl
      rw [same, if_pos blankMark, fresh, if_neg Bool.false_ne_true,
        ih keptRest singleRest (fun _ => next)]
    · have visible := kept first List.mem_cons_self same
      rw [if_neg (by simp [visible]), ih keptRest singleRest (fun running => by cases running)]

end Runs

section Words

theorem separated_word {word : List α} (known : ∀ item ∈ word, blank item = false)
    (clean : mark ∉ word) : Separated blank mark word where
  kept := fun item member _ => known item member
  single := List.Pairwise.isChain (List.pairwise_of_forall_mem_list
    (fun _ member _ _ same => absurd (same ▸ member) clean))
  begins := fun found => clean (List.mem_of_head? found)
  ends := fun found => clean (List.mem_of_getLast? found)

/-- A word may be put before, with a mark behind it. -/
theorem Separated.cons_word {word rest : List α} (known : ∀ item ∈ word, blank item = false)
    (clean : mark ∉ word) (nonempty : word ≠ []) (separated : Separated blank mark rest)
    (follows : rest ≠ []) : Separated blank mark (word ++ mark :: rest) where
  kept := by
    intro item member other
    rcases List.mem_append.mp member with inWord | inRest
    · exact known item inWord
    · exact separated.kept item (List.mem_of_ne_of_mem other inRest) other
  single := by
    refine List.isChain_append.mpr ⟨(separated_word known clean).single, ?_, ?_⟩
    · refine List.isChain_cons.mpr ⟨fun next found _ same => ?_, separated.single⟩
      exact separated.begins (same ▸ found)
    · intro last found _ _ same
      exact absurd (same ▸ List.mem_of_getLast? found) clean
  begins := by
    rw [List.head?_append_of_ne_nil _ nonempty]
    exact (separated_word known clean).begins
  ends := by
    obtain ⟨next, others, rfl⟩ := List.exists_cons_of_ne_nil follows
    rw [List.getLast?_append_cons, List.getLast?_cons_cons]
    exact separated.ends

/-- The words between the marks. -/
theorem words_of_single (single : SingleMarks mark items) (ends : items.getLast? ≠ some mark) :
    ∃ (word : List α) (words : List (List α)),
      items = word ++ (words.map (mark :: ·)).flatten ∧ mark ∉ word ∧
        ∀ other ∈ words, other ≠ [] ∧ mark ∉ other := by
  induction items with
  | nil => exact ⟨[], [], rfl, List.not_mem_nil, fun _ member => by cases member⟩
  | cons first rest ih =>
    obtain ⟨follows, singleRest⟩ := List.isChain_cons.mp single
    have endsRest : rest.getLast? ≠ some mark := by
      intro found
      cases rest with
      | nil => cases found
      | cons next others => exact ends (by rwa [List.getLast?_cons_cons])
    obtain ⟨word, words, whole, clean, apart⟩ := ih singleRest endsRest
    by_cases same : first = mark
    · -- A mark is followed by a word, as it neither ends the items nor precedes a mark.
      refine ⟨[], word :: words, by rw [whole, same]; rfl, List.not_mem_nil, ?_⟩
      refine List.forall_mem_cons.mpr ⟨⟨?_, clean⟩, apart⟩
      rintro rfl
      cases words with
      | nil =>
        rw [whole, same] at ends
        exact ends rfl
      | cons other others => exact follows mark (by rw [whole]; rfl) same rfl
    · refine ⟨first :: word, words, by rw [whole]; rfl, ?_, apart⟩
      rw [List.mem_cons, not_or]
      exact ⟨fun found => same found.symm, clean⟩

end Words

variable [DecidableEq α]

/-- Collapsing and trimming leaves words with single marks between them. -/
theorem separated_trim (blankMark : blank mark = true) (items : List α) :
    Separated blank mark
      (Trimming.trim (fun item => item == mark) (collapse blank mark false items)) where
  kept := by
    intro item member other
    exact (mem_collapse (Trimming.trim_within.subset member)).resolve_left other
  single := by
    obtain ⟨front, back, whole⟩ := @Trimming.trim_within _ (fun item => item == mark)
      (collapse blank mark false items)
    have single := singleMarks_collapse blankMark false items
    rw [SingleMarks, ← whole] at single
    exact (List.isChain_append.mp (List.isChain_append.mp single).1).2.1
  begins := by
    intro found
    simpa using Trimming.head_trim found
  ends := by
    intro found
    simpa using Trimming.last_trim found

/-- Words with single marks between them stay as they are. -/
theorem trim_collapse_eq_self (blankMark : blank mark = true)
    (separated : Separated blank mark items) :
    Trimming.trim (fun item => item == mark) (collapse blank mark false items) = items := by
  rw [collapse_eq_self blankMark separated.kept separated.single (fun running => by cases running)]
  apply Trimming.trim_eq_self
  · intro first found
    rw [beq_eq_false_iff_ne]
    rintro rfl
    exact separated.begins found
  · intro last found
    rw [beq_eq_false_iff_ne]
    rintro rfl
    exact separated.ends found

section Grammar

variable {characters : List α}

/-- Words of some characters with a mark between them. -/
def wordsRegex (characters : List α) (mark : α) : RegularExpression α :=
  repeated (oneOf characters) * star (char mark * repeated (oneOf characters))

/-- Words between single marks make up such a list. -/
theorem separated_words (fresh : mark ∉ characters) {word : List α} {words : List (List α)}
    (nonempty : word ≠ []) (known : ∀ item ∈ word, item ∈ characters)
    (others : ∀ other ∈ words, other ≠ [] ∧ ∀ item ∈ other, item ∈ characters) :
    Separated (fun item => !characters.contains item) mark
      (word ++ (words.map (mark :: ·)).flatten) := by
  induction words generalizing word with
  | nil =>
    rw [List.map_nil, List.flatten_nil, List.append_nil]
    exact separated_word (fun item member => by simp [known item member])
      (fun member => fresh (known mark member))
  | cons next rest ih =>
    obtain ⟨filled, ofNext⟩ := others next List.mem_cons_self
    have separated := ih filled ofNext
      (fun other later => others other (List.mem_cons_of_mem _ later))
    rw [List.map_cons, List.flatten_cons, List.cons_append]
    exact separated.cons_word (fun item member => by simp [known item member])
      (fun member => fresh (known mark member)) nonempty (List.append_ne_nil_of_left_ne_nil filled _)

/-- Of the lists that are not empty the expression matches those of words with single
marks between them. -/
theorem wordsRegex_rmatch_iff (fresh : mark ∉ characters) :
    (wordsRegex characters mark).rmatch items = true ↔
      items ≠ [] ∧ Separated (fun item => !characters.contains item) mark items := by
  have marked : ∀ text : List α, (char mark * repeated (oneOf characters)).rmatch text = true ↔
      ∃ word, text = mark :: word ∧ word ≠ [] ∧ ∀ item ∈ word, item ∈ characters := by
    intro text
    simp only [char_mul_rmatch_iff, repeated_oneOf_rmatch_iff]
  rw [wordsRegex, mul_rmatch_iff]
  constructor
  · rintro ⟨word, rest, rfl, matched, follow⟩
    obtain ⟨nonempty, known⟩ := (repeated_oneOf_rmatch_iff characters).mp matched
    obtain ⟨pieces, rfl, each⟩ := (star_rmatch_iff _ rest).mp follow
    refine ⟨List.append_ne_nil_of_left_ne_nil nonempty _, ?_⟩
    have marks : pieces = (pieces.map List.tail).map (mark :: ·) := by
      rw [List.map_map]
      refine (List.map_id _).symm.trans (List.map_congr_left fun text listed => ?_)
      obtain ⟨other, rfl, _⟩ := (marked text).mp (each text listed).2
      rfl
    rw [marks]
    refine separated_words fresh nonempty known fun other listed => ?_
    obtain ⟨text, inPieces, rfl⟩ := List.mem_map.mp listed
    obtain ⟨other, rfl, filled, ofOther⟩ := (marked text).mp (each text inPieces).2
    exact ⟨filled, ofOther⟩
  · rintro ⟨nonempty, separated⟩
    obtain ⟨word, words, rfl, clean, apart⟩ := words_of_single separated.single separated.ends
    have known : ∀ item ∈ word ++ (words.map (mark :: ·)).flatten, item ≠ mark →
        item ∈ characters := by
      intro item member other
      simpa using separated.kept item member other
    refine ⟨word, _, rfl, (repeated_oneOf_rmatch_iff characters).mpr ⟨?_, ?_⟩,
      (star_rmatch_iff _ _).mpr ⟨_, rfl, ?_⟩⟩
    · rintro rfl
      cases words with
      | nil => exact nonempty rfl
      | cons other others => exact separated.begins rfl
    · intro item member
      exact known item (List.mem_append_left _ member) (fun same => clean (same ▸ member))
    · intro text listed
      obtain ⟨other, inWords, rfl⟩ := List.mem_map.mp listed
      refine ⟨List.cons_ne_nil _ _, (marked _).mpr ⟨other, rfl, (apart other inWords).1, ?_⟩⟩
      intro item member
      refine known item (List.mem_append_right _ (List.mem_flatten.mpr ⟨_, listed, ?_⟩))
        (fun same => (apart other inWords).2 (same ▸ member))
      exact List.mem_cons_of_mem mark member

end Grammar

end ApiGateway.Collapsing
