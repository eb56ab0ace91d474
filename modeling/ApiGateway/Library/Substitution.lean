import Mathlib.Data.List.Basic
import Mathlib.Data.List.Infix

/-!
# Replacement one after another and replacement at once

A text is replaced from the left: where the old text begins the new one is put,
and the reading goes on behind it. Several texts, the names, can be replaced one
after another, or all at once by a single reading.

The letters may carry marks, and what is looked for are the letters alone. With a
mark for where each letter comes from the two ways agree exactly when what has been
put in brings forth no further name.
-/

namespace ApiGateway.Substitution

universe u v w

variable {α : Type u} {β : Type v} {ι : Type w} [DecidableEq α]

/-- Replacement from the left; the first letters may be skipped. -/
def replaceFrom (letter : β → α) (old : List α) (new : List β) : Nat → List β → List β
  | _, [] => []
  | skipped + 1, _ :: rest => replaceFrom letter old new skipped rest
  | 0, first :: rest =>
    if old.isPrefixOf ((first :: rest).map letter) then
      new ++ replaceFrom letter old new (old.length - 1) rest
    else first :: replaceFrom letter old new 0 rest

/-- Every occurrence, replaced from the left. -/
def replace (letter : β → α) (old : List α) (new text : List β) : List β :=
  replaceFrom letter old new 0 text

/-- At how many places a text begins in another one. -/
def occurrences (old : List α) : List α → Nat
  | [] => 0
  | first :: rest => (if old.isPrefixOf (first :: rest) then 1 else 0) + occurrences old rest

/-- Every name has a first letter that it has nowhere else, and none begins
another. -/
structure Delimited (opening : α) (names : ι → List α) : Prop where
  opens : ∀ index, ∃ rest, names index = opening :: rest ∧ opening ∉ rest
  apart : ∀ index other, names index <+: names other → index = other

omit [DecidableEq α] in
theorem Delimited.filled {opening : α} {names : ι → List α} (delimited : Delimited opening names)
    (index : ι) : names index ≠ [] := by
  obtain ⟨rest, spelled, _⟩ := delimited.opens index
  rw [spelled]
  exact List.cons_ne_nil opening rest

section Replacement

variable {letter : β → α} {old : List α} {new : List β}

/-- Marks do not matter to what is replaced. -/
theorem map_replaceFrom (letter : β → α) (old : List α) (new : List β) (skipped : Nat) (text : List β) :
    (replaceFrom letter old new skipped text).map letter =
      replaceFrom id old (new.map letter) skipped (text.map letter) := by
  induction text generalizing skipped with
  | nil => cases skipped <;> rfl
  | cons first rest mapRest =>
    cases skipped with
    | succ skipped => exact mapRest skipped
    | zero =>
      simp only [replaceFrom, List.map_cons, id_eq, List.map_id_fun]
      split
      · rw [List.map_append, mapRest]
      · rw [List.map_cons, mapRest]

theorem replaceFrom_skip (skipped rest : List β) :
    replaceFrom letter old new skipped.length (skipped ++ rest) = replace letter old new rest := by
  induction skipped with
  | nil => rfl
  | cons first others skipOthers => exact skipOthers

/-- An occurrence in front is replaced. -/
theorem replace_occurrence {occurrence : List β} (spelled : occurrence.map letter = old)
    (filled : old ≠ []) (rest : List β) :
    replace letter old new (occurrence ++ rest) = new ++ replace letter old new rest := by
  cases occurrence with
  | nil => exact absurd spelled.symm filled
  | cons first others =>
    have begins : old.isPrefixOf ((first :: (others ++ rest)).map letter) = true := by
      rw [List.isPrefixOf_iff_prefix, ← spelled, ← List.cons_append, List.map_append]
      exact List.prefix_append _ _
    have behind : old.length - 1 = others.length := by
      rw [← spelled, List.length_map, List.length_cons, Nat.add_sub_cancel]
    rw [replace, List.cons_append, replaceFrom, if_pos begins, behind, replaceFrom_skip]

theorem replace_cons {first : β} {rest : List β} (elsewhere : ¬ old <+: (first :: rest).map letter) :
    replace letter old new (first :: rest) = first :: replace letter old new rest := by
  rw [replace, replaceFrom, if_neg (by rwa [List.isPrefixOf_iff_prefix])]
  rfl

omit [DecidableEq α] in
theorem countP_fresh {kept : β → Bool} (fresh : ∀ added ∈ new, kept added = false) :
    new.countP kept = 0 := by
  rw [List.countP_eq_zero]
  intro added member
  simp [fresh added member]

/-- What no new letter is becomes no more frequent. -/
theorem countP_replaceFrom_le (letter : β → α) (old : List α) {kept : β → Bool}
    (fresh : ∀ added ∈ new, kept added = false) (skipped : Nat) (text : List β) :
    (replaceFrom letter old new skipped text).countP kept ≤ text.countP kept := by
  have none := countP_fresh fresh
  induction text generalizing skipped with
  | nil => cases skipped <;> exact Nat.le_refl _
  | cons first rest fewer =>
    have more : rest.countP kept ≤ (first :: rest).countP kept := by
      rw [List.countP_cons]
      exact Nat.le_add_right _ _
    cases skipped with
    | succ skipped => exact Nat.le_trans (fewer skipped) more
    | zero =>
      rw [replaceFrom]
      split
      · rw [List.countP_append, none, Nat.zero_add]
        exact Nat.le_trans (fewer _) more
      · rw [List.countP_cons, List.countP_cons]
        exact Nat.add_le_add_right (fewer 0) _

end Replacement

section Occurrences

variable {old : List α}

theorem occurrences_cons_of_prefix {first : α} {rest : List α} (begins : old <+: first :: rest) :
    occurrences old (first :: rest) = 1 + occurrences old rest := by
  rw [occurrences, if_pos (List.isPrefixOf_iff_prefix.mpr begins)]

theorem occurrences_cons {first : α} {rest : List α} (elsewhere : ¬ old <+: first :: rest) :
    occurrences old (first :: rest) = occurrences old rest := by
  rw [occurrences, if_neg (by rwa [List.isPrefixOf_iff_prefix]), Nat.zero_add]

theorem occurrences_le_append (old front rest : List α) :
    occurrences old rest ≤ occurrences old (front ++ rest) := by
  induction front with
  | nil => exact Nat.le_refl _
  | cons first others more => exact Nat.le_trans more (Nat.le_add_left _ _)

/-- Letters that do not open the text add no occurrence. -/
theorem occurrences_append_of_not_mem {opening : α} {tail : List α} {front : List α}
    (closed : opening ∉ front) (rest : List α) :
    occurrences (opening :: tail) (front ++ rest) = occurrences (opening :: tail) rest := by
  induction front with
  | nil => rfl
  | cons first others same =>
    obtain ⟨different, later⟩ := not_or.mp (List.mem_cons.not.mp closed)
    rw [List.cons_append, occurrences_cons, same later]
    intro begins
    exact different (List.cons_prefix_cons.mp begins).1

/-- A name in front is one occurrence of itself and none of another name. -/
theorem Delimited.occurrences_append [DecidableEq ι] {opening : α} {names : ι → List α}
    (delimited : Delimited opening names) (index other : ι) (rest : List α) :
    occurrences (names other) (names index ++ rest) =
      (if index = other then 1 else 0) + occurrences (names other) rest := by
  obtain ⟨tail, spelled, closed⟩ := delimited.opens index
  obtain ⟨otherTail, otherSpelled, _⟩ := delimited.opens other
  have behind : occurrences (names other) (tail ++ rest) = occurrences (names other) rest := by
    rw [otherSpelled]
    exact occurrences_append_of_not_mem closed rest
  by_cases same : index = other
  · subst same
    have begins : names index <+: opening :: (tail ++ rest) := by
      rw [← List.cons_append, ← spelled]
      exact List.prefix_append _ _
    rw [if_pos rfl, ← behind]
    conv => lhs; rw [spelled, List.cons_append, ← spelled, occurrences_cons_of_prefix begins]
  · have elsewhere : ¬ names other <+: opening :: (tail ++ rest) := by
      rw [← List.cons_append, ← spelled]
      intro begins
      rcases List.prefix_or_prefix_of_prefix begins (List.prefix_append (names index) rest) with
        shorter | longer
      · exact same (delimited.apart other index shorter).symm
      · exact same (delimited.apart index other longer)
    rw [if_neg same, Nat.zero_add, ← behind, ← occurrences_cons elsewhere, spelled, List.cons_append]

end Occurrences

section Fronts

variable {letter : β → α} {old : List α} {new front rest : List β}

/-- A front in which nothing begins is kept. -/
theorem replace_append
    (nothing : occurrences old ((front ++ rest).map letter) = occurrences old (rest.map letter)) :
    replace letter old new (front ++ rest) = front ++ replace letter old new rest := by
  induction front with
  | nil => rfl
  | cons first others keep =>
    have more := occurrences_le_append old (others.map letter) (rest.map letter)
    rw [← List.map_append] at more
    by_cases begins : old <+: letter first :: (others ++ rest).map letter
    · have counted := occurrences_cons_of_prefix begins
      rw [List.cons_append, List.map_cons] at nothing
      omega
    · rw [List.cons_append, List.map_cons, occurrences_cons begins] at nothing
      rw [List.cons_append, replace_cons begins, keep nothing, List.cons_append]

/-- Where something begins in a front, a letter that opens it is lost. -/
theorem countP_replace_lt {opening : α} {tail : List α} (spelled : old = opening :: tail)
    {kept : β → Bool} (fresh : ∀ added ∈ new, kept added = false)
    (opens : ∀ found ∈ front, letter found = opening → kept found = true)
    (something : occurrences old ((front ++ rest).map letter) ≠ occurrences old (rest.map letter)) :
    (replace letter old new (front ++ rest)).countP kept < (front ++ rest).countP kept := by
  induction front with
  | nil => exact absurd rfl something
  | cons first others fewer =>
    have opensLater : ∀ found ∈ others, letter found = opening → kept found = true :=
      fun found member => opens found (List.mem_cons_of_mem first member)
    by_cases begins : old <+: letter first :: (others ++ rest).map letter
    · have opened : letter first = opening := by
        rw [spelled] at begins
        exact (List.cons_prefix_cons.mp begins).1.symm
      have lost : kept first = true := opens first List.mem_cons_self opened
      have none := countP_fresh fresh
      have behind := countP_replaceFrom_le letter old fresh (old.length - 1) (others ++ rest)
      rw [replace, List.cons_append, replaceFrom, List.map_cons,
        if_pos (List.isPrefixOf_iff_prefix.mpr begins), List.countP_append, none,
        List.countP_cons_of_pos lost]
      omega
    · rw [List.cons_append, List.map_cons, occurrences_cons begins] at something
      rw [List.cons_append, replace_cons begins, List.countP_cons, List.countP_cons]
      exact Nat.add_lt_add_right (fewer opensLater something) _

end Fronts

section Pieces

/-- A piece of a text: a letter, or a name by its index. -/
inductive Piece (α : Type u) (ι : Type w) where
  | literal (letter : α)
  | name (index : ι)
deriving DecidableEq

/-- The pieces of a text, read from the left; the first letters may be skipped. -/
def piecesFrom (names : ι → List α) (order : List ι) : Nat → List α → List (Piece α ι)
  | _, [] => []
  | skipped + 1, _ :: rest => piecesFrom names order skipped rest
  | 0, first :: rest =>
    match order.find? (fun index => (names index).isPrefixOf (first :: rest)) with
    | some index => .name index :: piecesFrom names order ((names index).length - 1) rest
    | none => .literal first :: piecesFrom names order 0 rest

def pieces (names : ι → List α) (order : List ι) (text : List α) : List (Piece α ι) :=
  piecesFrom names order 0 text

variable {names : ι → List α} {order : List ι}

theorem piecesFrom_skip (skipped rest : List α) :
    piecesFrom names order skipped.length (skipped ++ rest) = pieces names order rest := by
  induction skipped with
  | nil => rfl
  | cons first others skipOthers => exact skipOthers

/-- Induction along the pieces of a text. -/
theorem pieces_induction (filled : ∀ index, names index ≠ []) {motive : List α → List (Piece α ι) → Prop}
    (nil : motive [] [])
    (name : ∀ index ∈ order, ∀ rest, motive rest (pieces names order rest) →
      motive (names index ++ rest) (.name index :: pieces names order rest))
    (literal : ∀ first rest, (∀ index ∈ order, ¬ names index <+: first :: rest) →
      motive rest (pieces names order rest) →
        motive (first :: rest) (.literal first :: pieces names order rest))
    (text : List α) : motive text (pieces names order text) := by
  induction count : text.length using Nat.strong_induction_on generalizing text with
  | _ size shorter =>
    cases text with
    | nil => exact nil
    | cons first rest =>
      rw [List.length_cons] at count
      rw [pieces, piecesFrom]
      cases found : order.find? (fun index => (names index).isPrefixOf (first :: rest)) with
      | none =>
        refine literal first rest ?_ (shorter rest.length (by omega) rest rfl)
        intro index member begins
        have absent := List.find?_eq_none.mp found index member
        exact absent (List.isPrefixOf_iff_prefix.mpr begins)
      | some index =>
        have accepted := List.find?_some found
        obtain ⟨behind, whole⟩ := List.isPrefixOf_iff_prefix.mp accepted
        obtain ⟨head, tail, spelled⟩ := List.exists_cons_of_ne_nil (filled index)
        have shape := whole
        rw [spelled, List.cons_append] at shape
        obtain ⟨rfl, rfl⟩ := List.cons.inj shape
        have skipped : (names index).length - 1 = tail.length := by
          rw [spelled, List.length_cons, Nat.add_sub_cancel]
        rw [List.length_append] at count
        dsimp only
        rw [skipped, piecesFrom_skip, ← whole]
        exact name index (List.mem_of_find?_eq_some found) behind
          (shorter behind.length (by omega) behind rfl)

/-- Each occurrence of a name is a piece of the text. -/
theorem occurrences_eq_count [DecidableEq ι] {opening : α} (delimited : Delimited opening names)
    {index : ι} (member : index ∈ order) (text : List α) :
    occurrences (names index) text = (pieces names order text).count (.name index) := by
  refine pieces_induction delimited.filled (motive := fun text parts =>
    occurrences (names index) text = parts.count (.name index)) rfl ?_ ?_ text
  · intro other _ rest counted
    rw [delimited.occurrences_append, counted, List.count_cons, Nat.add_comm]
    simp
  · intro first rest elsewhere counted
    rw [occurrences_cons (elsewhere index member), counted, List.count_cons]
    simp

end Pieces

section AtOnce

/-- Where a letter of a result comes from: from the text around its names, from the
spelling of a name, or from the value of one. -/
inductive Origin (ι : Type w) where
  | literal
  | name (index : ι)
  | value (index : ι)
deriving DecidableEq

variable [DecidableEq ι] (names values : ι → List α) (order : List ι)

/-- What a piece becomes when the chosen names are replaced. -/
def Piece.put (chosen : List ι) : Piece α ι → List α
  | .literal letter => [letter]
  | .name index => if index ∈ chosen then values index else names index

/-- The chosen names replaced at once. -/
def substitute (chosen : List ι) (text : List α) : List α :=
  (pieces names order text).flatMap (Piece.put names values chosen)

/-- The letters of a value. -/
def valueLetters (index : ι) : List (α × Origin ι) :=
  (values index).map (fun letter => (letter, .value index))

/-- What a piece becomes, with the origin of every letter. -/
def Piece.trace (chosen : List ι) : Piece α ι → List (α × Origin ι)
  | .literal letter => [(letter, .literal)]
  | .name index =>
    if index ∈ chosen then valueLetters values index
    else (names index).map (fun letter => (letter, .name index))

/-- The chosen names replaced at once, with the origin of every letter. -/
def traced (chosen : List ι) (text : List α) : List (α × Origin ι) :=
  (pieces names order text).flatMap (Piece.trace names values chosen)

/-- Names replaced one after another in a text whose letters have origins. -/
def replaceTraced (todo : List ι) (text : List (α × Origin ι)) : List (α × Origin ι) :=
  todo.foldl (fun held index => replace Prod.fst (names index) (valueLetters values index) held) text

variable {names values order}

omit [DecidableEq α] [DecidableEq ι] in
@[simp] theorem map_valueLetters (index : ι) : (valueLetters values index).map Prod.fst = values index := by
  simp [valueLetters, Function.comp_def]

omit [DecidableEq α] in
@[simp] theorem Piece.map_trace (chosen : List ι) (piece : Piece α ι) :
    (Piece.trace names values chosen piece).map Prod.fst = Piece.put names values chosen piece := by
  cases piece with
  | literal letter => rfl
  | name index =>
    simp only [Piece.trace, Piece.put]
    split
    · exact map_valueLetters index
    · simp [Function.comp_def]

omit [DecidableEq α] in
theorem map_flatMap_trace (chosen : List ι) (parts : List (Piece α ι)) :
    (parts.flatMap (Piece.trace names values chosen)).map Prod.fst =
      parts.flatMap (Piece.put names values chosen) := by
  rw [List.map_flatMap]
  exact List.flatMap_congr fun piece _ => Piece.map_trace chosen piece

/-- Nothing chosen, nothing replaced. -/
theorem substitute_nil {opening : α} (delimited : Delimited opening names) (text : List α) :
    substitute names values order [] text = text := by
  refine pieces_induction delimited.filled (motive := fun text parts =>
    parts.flatMap (Piece.put names values []) = text) rfl ?_ ?_ text
  · intro index _ rest whole
    rw [List.flatMap_cons, whole, Piece.put, if_neg List.not_mem_nil]
  · intro first rest _ whole
    rw [List.flatMap_cons, whole, Piece.put, List.singleton_append]

/-- Forgetting the origins. -/
theorem map_traced (chosen : List ι) (text : List α) :
    (traced names values order chosen text).map Prod.fst = substitute names values order chosen text :=
  map_flatMap_trace chosen _

omit [DecidableEq ι] in
theorem map_replaceTraced (todo : List ι) (text : List (α × Origin ι)) :
    (replaceTraced names values todo text).map Prod.fst =
      todo.foldl (fun held index => replace id (names index) (values index) held) (text.map Prod.fst) := by
  induction todo generalizing text with
  | nil => rfl
  | cons index later mapLater =>
    have step : (replace Prod.fst (names index) (valueLetters values index) text).map Prod.fst =
        replace id (names index) (values index) (text.map Prod.fst) := by
      rw [replace, map_replaceFrom, map_valueLetters, replace]
    rw [List.foldl_cons, ← step, ← mapLater]
    rfl

end AtOnce

section Stages

/-- What replacing one name makes of a text that should have a number of its
occurrences: either it has and the result is as it should be, or it has more and
kept letters are lost. -/
def Outcome (old : List α) (new : List (α × Origin ι)) (kept : α × Origin ι → Bool)
    (text : List (α × Origin ι)) (number : Nat) (result : List (α × Origin ι)) : Prop :=
  (occurrences old (text.map Prod.fst) = number ∧ replace Prod.fst old new text = result) ∨
    (number < occurrences old (text.map Prod.fst) ∧
      (replace Prod.fst old new text).countP kept < text.countP kept)

section Outcome

variable {opening : α} {old tail : List α} {new text front result : List (α × Origin ι)}
  {kept : α × Origin ι → Bool} {number : Nat}

/-- A front whose opening letters are kept stays, or one of them is lost. -/
theorem Outcome.kept_append (spelled : old = opening :: tail)
    (fresh : ∀ added ∈ new, kept added = false)
    (opens : occurrences old ((front ++ text).map Prod.fst) ≠ occurrences old (text.map Prod.fst) →
      ∀ found ∈ front, found.1 = opening → kept found = true)
    (outcome : Outcome old new kept text number result) :
    Outcome old new kept (front ++ text) number (front ++ result) := by
  by_cases nothing :
      occurrences old ((front ++ text).map Prod.fst) = occurrences old (text.map Prod.fst)
  · rcases outcome with ⟨counted, replaced⟩ | ⟨more, lost⟩
    · exact Or.inl ⟨nothing.trans counted, by rw [replace_append nothing, replaced]⟩
    · refine Or.inr ⟨nothing ▸ more, ?_⟩
      rw [replace_append nothing, List.countP_append, List.countP_append]
      exact Nat.add_lt_add_left lost _
  · refine Or.inr ⟨?_, countP_replace_lt spelled fresh (opens nothing) nothing⟩
    have atLeast : number ≤ occurrences old (text.map Prod.fst) := by
      rcases outcome with ⟨counted, _⟩ | ⟨more, _⟩
      · exact Nat.le_of_eq counted.symm
      · exact Nat.le_of_lt more
    have grown := occurrences_le_append old (front.map Prod.fst) (text.map Prod.fst)
    rw [← List.map_append] at grown
    omega

/-- A name in front is replaced. -/
theorem Outcome.name_append (filled : old ≠ []) (named : front.map Prod.fst = old)
    (once : occurrences old (old ++ text.map Prod.fst) = 1 + occurrences old (text.map Prod.fst))
    (fresh : ∀ added ∈ new, kept added = false)
    (outcome : Outcome old new kept text number result) :
    Outcome old new kept (front ++ text) (number + 1) (new ++ result) := by
  have counted : occurrences old ((front ++ text).map Prod.fst) =
      1 + occurrences old (text.map Prod.fst) := by
    rw [List.map_append, named, once]
  rw [Outcome, counted, replace_occurrence named filled]
  rcases outcome with ⟨same, replaced⟩ | ⟨more, lost⟩
  · exact Or.inl ⟨by omega, by rw [replaced]⟩
  · refine Or.inr ⟨by omega, ?_⟩
    have none := countP_fresh fresh
    rw [List.countP_append, List.countP_append, none]
    omega

end Outcome

variable [DecidableEq ι]

/-- The letters that replacing the chosen names has settled. -/
def settled (chosen : List ι) (letter : α × Origin ι) : Bool :=
  match letter.2 with
  | .literal => true
  | .name _ => false
  | .value index => decide (index ∈ chosen)

variable {names : ι → List α} (values : ι → List α) {order : List ι} {opening : α}

/-- Replacing a further name in a text whose chosen names are replaced. -/
theorem outcome_of_stage (delimited : Delimited opening names) {chosen : List ι} {next : ι}
    (unchosen : next ∉ chosen) (parts : List (Piece α ι)) :
    Outcome (names next) (valueLetters values next) (settled chosen)
      (parts.flatMap (Piece.trace names values chosen)) (parts.count (.name next))
      (parts.flatMap (Piece.trace names values (chosen ++ [next]))) := by
  have fresh : ∀ added ∈ valueLetters values next, settled chosen added = false := by
    intro added member
    obtain ⟨letter, _, rfl⟩ := List.mem_map.mp member
    simp [settled, unchosen]
  obtain ⟨tail, spelled, _⟩ := delimited.opens next
  induction parts with
  | nil => exact Or.inl ⟨rfl, rfl⟩
  | cons part others outcome =>
    rw [List.flatMap_cons, List.flatMap_cons]
    cases part with
    | literal letter =>
      have number : (Piece.literal letter :: others).count (.name next) = others.count (.name next) := by
        simp
      rw [number]
      refine Outcome.kept_append spelled fresh (fun _ found member _ => ?_) outcome
      obtain rfl := List.mem_singleton.mp member
      rfl
    | name index =>
      by_cases same : index = next
      · subst same
        have number : (Piece.name index :: others).count (.name index) =
            others.count (.name index) + 1 := List.count_cons_self
        have before : Piece.trace names values chosen (.name index) =
            (names index).map (fun letter => (letter, .name index)) := if_neg unchosen
        have after : Piece.trace names values (chosen ++ [index]) (.name index) =
            valueLetters values index := if_pos (by simp)
        have once := delimited.occurrences_append index index
          ((others.flatMap (Piece.trace names values chosen)).map Prod.fst)
        rw [if_pos rfl] at once
        rw [number, before, after]
        exact Outcome.name_append (delimited.filled index) (by simp [Function.comp_def]) once fresh
          outcome
      · have number : (Piece.name index :: others).count (.name next) = others.count (.name next) := by
          simp [same]
        have after : Piece.trace names values (chosen ++ [next]) (.name index) =
            Piece.trace names values chosen (.name index) := by
          simp [Piece.trace, same]
        rw [number, after]
        refine Outcome.kept_append spelled fresh (fun changed found member _ => ?_) outcome
        by_cases member' : index ∈ chosen
        · rw [Piece.trace, if_pos member'] at member
          obtain ⟨letter, _, rfl⟩ := List.mem_map.mp member
          simp [settled, member']
        · refine absurd ?_ changed
          have none := delimited.occurrences_append index next
            ((others.flatMap (Piece.trace names values chosen)).map Prod.fst)
          rw [if_neg same, Nat.zero_add] at none
          rw [List.map_append, Piece.map_trace, Piece.put, if_neg member', none]

omit [DecidableEq α] in
/-- What is settled stays when further names are chosen. -/
theorem countP_settled (chosen more : List ι) (parts : List (Piece α ι)) :
    (parts.flatMap (Piece.trace names values (chosen ++ more))).countP (settled chosen) =
      (parts.flatMap (Piece.trace names values chosen)).countP (settled chosen) := by
  induction parts with
  | nil => rfl
  | cons part others same =>
    rw [List.flatMap_cons, List.flatMap_cons, List.countP_append, List.countP_append, same]
    apply congrArg (· + _)
    cases part with
    | literal letter => rfl
    | name index =>
      by_cases member : index ∈ chosen
      · simp [Piece.trace, member]
      · have unsettled : ∀ letters : List α,
            (letters.map (fun letter => (letter, Origin.name index))).countP (settled chosen) = 0 := by
          intro letters
          simp [List.countP_eq_zero, settled]
        have fresh : (valueLetters values index).countP (settled chosen) = 0 := by
          simp [List.countP_eq_zero, valueLetters, settled, member]
        rw [Piece.trace, Piece.trace, if_neg member, unsettled]
        split
        · exact fresh
        · exact unsettled _

/-- Replacing names that are not chosen brings back nothing settled. -/
theorem countP_replaceTraced_le {chosen todo : List ι} (apart : ∀ index ∈ todo, index ∉ chosen)
    (text : List (α × Origin ι)) :
    (replaceTraced names values todo text).countP (settled chosen) ≤ text.countP (settled chosen) := by
  induction todo generalizing text with
  | nil => exact Nat.le_refl _
  | cons index later fewer =>
    have fresh : ∀ added ∈ valueLetters values index, settled chosen added = false := by
      intro added member
      obtain ⟨letter, _, rfl⟩ := List.mem_map.mp member
      simp [settled, apart index List.mem_cons_self]
    exact Nat.le_trans (fewer (fun other member => apart other (List.mem_cons_of_mem index member)) _)
      (countP_replaceFrom_le Prod.fst (names index) fresh 0 text)

/-- The names still to be replaced, from any stage on. -/
theorem replaceTraced_eq_iff (delimited : Delimited opening names) (parts : List (Piece α ι))
    (chosen todo : List ι) (distinct : (chosen ++ todo).Nodup) :
    replaceTraced names values todo (parts.flatMap (Piece.trace names values chosen)) =
        parts.flatMap (Piece.trace names values (chosen ++ todo)) ↔
      ∀ earlier next later, todo = earlier ++ next :: later →
        occurrences (names next) (parts.flatMap (Piece.put names values (chosen ++ earlier))) =
          parts.count (.name next) := by
  induction todo generalizing chosen with
  | nil =>
    apply iff_of_true (by rw [List.append_nil]; rfl)
    intro earlier next later split
    exact absurd split (by simp)
  | cons index rest stages =>
    have unchosen : index ∉ chosen := by
      intro member
      exact (List.nodup_append.mp distinct).2.2 index member index List.mem_cons_self rfl
    have regrouped : chosen ++ index :: rest = (chosen ++ [index]) ++ rest := by
      rw [List.append_assoc, List.singleton_append]
    have first := outcome_of_stage values delimited unchosen parts
    rw [Outcome, map_flatMap_trace] at first
    have exactly : (∀ earlier next later, index :: rest = earlier ++ next :: later →
        occurrences (names next) (parts.flatMap (Piece.put names values (chosen ++ earlier))) =
          parts.count (.name next)) ↔
        occurrences (names index) (parts.flatMap (Piece.put names values chosen)) =
            parts.count (.name index) ∧
          ∀ earlier next later, rest = earlier ++ next :: later →
            occurrences (names next)
                (parts.flatMap (Piece.put names values ((chosen ++ [index]) ++ earlier))) =
              parts.count (.name next) := by
      constructor
      · intro all
        refine ⟨by simpa using all [] index rest rfl, fun earlier next later split => ?_⟩
        simpa using all (index :: earlier) next later (by rw [split, List.cons_append])
      · rintro ⟨here, behind⟩ earlier next later split
        cases earlier with
        | nil =>
          obtain ⟨rfl, rfl⟩ := List.cons.inj split
          simpa using here
        | cons _ earlier =>
          obtain ⟨rfl, remaining⟩ := List.cons.inj split
          simpa using behind earlier next later remaining
    rw [exactly, regrouped, ← stages (chosen ++ [index]) (regrouped ▸ distinct)]
    rcases first with ⟨counted, replaced⟩ | ⟨more, lost⟩
    · rw [and_iff_right counted, ← replaced]
      rfl
    · refine iff_of_false ?_ (fun both => absurd both.1 (Nat.ne_of_gt more))
      intro same
      have apart : ∀ other ∈ rest, other ∉ chosen := by
        intro other member already
        exact (List.nodup_append.mp distinct).2.2 other already other
          (List.mem_cons_of_mem index member) rfl
      have fewer := @countP_replaceTraced_le _ _ _ _ names values _ _ apart
        (replace Prod.fst (names index) (valueLetters values index)
          (parts.flatMap (Piece.trace names values chosen)))
      have kept := @countP_settled _ _ _ names values chosen (index :: rest) parts
      have counted := congrArg (List.countP (settled chosen)) same
      rw [← regrouped, kept] at counted
      exact absurd (Nat.lt_of_le_of_lt fewer lost) (Nat.not_lt.mpr (Nat.le_of_eq counted.symm))

/-- Replacing the names one after another is replacing them at once, letter by
letter from the same origins, exactly when no value that is put in brings forth an
occurrence of a name that comes later. -/
theorem replaceTraced_eq_traced_iff (delimited : Delimited opening names) (distinct : order.Nodup)
    (text : List α) :
    replaceTraced names values order (traced names values order [] text) =
        traced names values order order text ↔
      ∀ earlier next later, order = earlier ++ next :: later →
        occurrences (names next) (substitute names values order earlier text) =
          occurrences (names next) text := by
  have stages := replaceTraced_eq_iff values delimited (pieces names order text) [] order
    distinct
  simp only [List.nil_append] at stages
  apply stages.trans
  refine forall_congr' fun earlier => forall_congr' fun next => forall_congr' fun later =>
    forall_congr' fun split => ?_
  have member : next ∈ order := by
    rw [split]
    exact List.mem_append_right earlier List.mem_cons_self
  rw [occurrences_eq_count delimited member text, substitute]

end Stages

end ApiGateway.Substitution
