import ApiGateway.Entities
import ApiGateway.Library.Dictionary
import ApiGateway.Library.Numbering
import ApiGateway.Library.Trimming

/-!
# Endpoint names of an imported document

The import script names every operation of a Swagger document by the slug of its
id, or else of its summary, or else of its verb and path. Operations whose slug
occurred before get a number behind it, and names are cut to 100 characters.

A numbered name may itself be the slug of another operation, and the cut may take
away where two names differ. The script's own INSERT then meets one row twice.
-/

namespace ApiGateway.SeedImport

/-- The case maps of the script's language. What a character becomes in lower case
may depend on the characters around it. -/
structure Casing where
  lowerAt : Text → Char → Text → Text
  upperOf : Char → Text
  lower_ascii : ∀ before character after, character.toNat < 128 →
    lowerAt before character after = [character.toLower]
  lower_other : ∀ before character after, 128 ≤ character.toNat →
    (character = '\u212a' ∧ lowerAt before character after = ['k']) ∨
      ∃ lowered ∈ lowerAt before character after, 128 ≤ lowered.toNat
  upper_ascii : ∀ character, character.toNat < 128 → upperOf character = [character.toUpper]

namespace Casing

variable (casing : Casing)

def lowerAfter : Text → Text → Text
  | _, [] => []
  | before, character :: after =>
    casing.lowerAt before character after ++ lowerAfter (before ++ [character]) after

def lower (text : Text) : Text := casing.lowerAfter [] text

def upper (text : Text) : Text := text.flatMap casing.upperOf

end Casing

/-- The case maps that change ASCII letters and the Kelvin sign only. -/
def asciiCasing : Casing where
  lowerAt := fun _ character _ =>
    if character.toNat < 128 then [character.toLower]
    else if character = '\u212a' then ['k'] else [character]
  upperOf := fun character => if character.toNat < 128 then [character.toUpper] else [character]
  lower_ascii := by
    intro before character after ascii
    rw [if_pos ascii]
  lower_other := by
    intro before character after other
    by_cases kelvin : character = '\u212a'
    · left
      rw [if_neg (Nat.not_lt.mpr other), if_pos kelvin]
      exact ⟨kelvin, rfl⟩
    · right
      rw [if_neg (Nat.not_lt.mpr other), if_neg kelvin]
      exact ⟨character, List.mem_singleton_self character, other⟩
  upper_ascii := by
    intro character ascii
    rw [if_pos ascii]

/-- White space as the script's language classifies it. -/
def isSpace (character : Char) : Bool :=
  isWhiteSpace character || (0x1C ≤ character.toNat && character.toNat ≤ 0x1F)

/-- The characters that a slug keeps. -/
def isSlugCharacter (character : Char) : Bool :=
  ('a' ≤ character && character ≤ 'z') || ('0' ≤ character && character ≤ '9')

/-- Every run of other characters becomes one dash. The flag says whether a run has
begun. -/
def dashRuns : Bool → Text → Text
  | _, [] => []
  | inRun, character :: rest =>
    if isSlugCharacter character then character :: dashRuns false rest
    else if inRun then dashRuns true rest
    else '-' :: dashRuns true rest

def slugify (casing : Casing) (value : Text) : Text :=
  Trimming.trim (fun character => character == '-')
    (dashRuns false (casing.lower (Trimming.trim isSpace value)))

/-- What the script reads of an operation. -/
structure Operation where
  operationId : Option Text
  summary : Option Text

/-- The paths of a document with their operations by verb. -/
abbrev Paths := Dictionary Text (Dictionary Text (Option Operation))

structure SeedEndpoint where
  endpointName : Text
  httpMethod : Text
  relativePath : Text
  upstreamPathTemplate : Text

def httpMethods : List Text :=
  ["get".toList, "post".toList, "put".toList, "patch".toList, "delete".toList, "head".toList,
    "options".toList]

/-- The operation id, or else the summary, or else the verb and the path. -/
def baseName (verbAndPath : Text) (spec : Option Operation) : Text :=
  let operationId := (spec.bind Operation.operationId).getD []
  let summary := (spec.bind Operation.summary).getD []
  if operationId ≠ [] then operationId else if summary ≠ [] then summary else verbAndPath

/-- The slug of an operation. -/
def slugOf (casing : Casing) (path method : Text) (spec : Option Operation) : Text :=
  let verbAndPath := casing.upper method ++ ' ' :: path
  let name := slugify casing (baseName verbAndPath spec)
  if name = [] then slugify casing verbAndPath else name

/-- A slug with its number, from the second on. -/
def numbered (slug : Text) (count : Nat) : Text :=
  if 1 < count then slug ++ '-' :: Nat.toDigits 10 count else slug

/-- How often each slug occurred so far, and the entries. -/
structure Progress where
  nameCounts : Text → Nat
  endpoints : List SeedEndpoint

def addOperation (casing : Casing) (path : Text) (progress : Progress)
    (entry : Text × Option Operation) : Progress :=
  if httpMethods.contains (casing.lower entry.1) then
    let name := slugOf casing path entry.1 entry.2
    let count := progress.nameCounts name + 1
    { nameCounts := Function.update progress.nameCounts name count
      endpoints := progress.endpoints ++ [{
        endpointName := (numbered name count).take 100
        httpMethod := casing.upper entry.1
        relativePath := path
        upstreamPathTemplate := path }] }
  else progress

def buildEndpoints (casing : Casing) (paths : Paths) : List SeedEndpoint :=
  let start : Progress := ⟨fun _ => 0, []⟩
  (paths.entries.foldl (fun progress item =>
    item.2.entries.foldl (addOperation casing item.1) progress) start).endpoints

/-- The rows of endpoints by their unique key. -/
abbrev EndpointRows := Guid × Text → Option SeedEndpoint

/-- The generated INSERT. A row that this statement has touched already cannot be
updated. -/
def insertEndpoints (serviceId : Guid) :
    List (Guid × Text) → EndpointRows → List SeedEndpoint → Option EndpointRows
  | _, rows, [] => some rows
  | touched, rows, endpoint :: rest =>
    if (serviceId, endpoint.endpointName) ∈ touched then none
    else insertEndpoints serviceId ((serviceId, endpoint.endpointName) :: touched)
      (Function.update rows (serviceId, endpoint.endpointName) (some endpoint)) rest

section Specification

/-- The path has an operation of the verb, however the verb is spelled. -/
def HasOperation (paths : Paths) (path verb : Text) : Prop :=
  ∃ item ∈ paths.entries, item.1 = path ∧ ∃ method ∈ item.2.keys,
    method.map Char.toLower ∈ httpMethods ∧ method.map Char.toUpper = verb

/-- One entry for each verb of a path and no others, with names of 1 to 100
characters that are all different, so that the INSERT succeeds. -/
structure UniquelyNamed (paths : Paths) (endpoints : List SeedEndpoint) : Prop where
  one_entry : ∀ path verb, HasOperation paths path verb →
    (endpoints.map (fun endpoint => (endpoint.relativePath, endpoint.httpMethod))).count
      (path, verb) = 1
  no_other : ∀ endpoint ∈ endpoints, HasOperation paths endpoint.relativePath endpoint.httpMethod
  named : ∀ endpoint ∈ endpoints,
    endpoint.endpointName ≠ [] ∧ endpoint.endpointName.length ≤ 100
  distinct : (endpoints.map SeedEndpoint.endpointName).Nodup
  inserted : ∀ (serviceId : Guid) (rows : EndpointRows),
    (insertEndpoints serviceId [] rows endpoints).isSome = true

/-- An operation with its place in the document. -/
structure Placed where
  path : Text
  method : Text
  spec : Option Operation

def Placed.slug (casing : Casing) (placed : Placed) : Text :=
  slugOf casing placed.path placed.method placed.spec

def placedIn (paths : Paths) : List Placed :=
  paths.entries.flatMap (fun item => item.2.entries.map (fun entry => ⟨item.1, entry.1, entry.2⟩))

/-- The operations under a verb. -/
def operations (casing : Casing) (paths : Paths) : List Placed :=
  (placedIn paths).filter (fun placed => httpMethods.contains (casing.lower placed.method))

/-- The slugs of a document's operations. -/
def slugs (casing : Casing) (paths : Paths) : List Text :=
  (operations casing paths).map (Placed.slug casing)

/-- No path has one verb in two spellings. -/
def VerbsOnce (paths : Paths) : Prop :=
  ∀ item ∈ paths.entries, ∀ left ∈ item.2.keys, ∀ right ∈ item.2.keys,
    left.map Char.toLower ∈ httpMethods → left.map Char.toLower = right.map Char.toLower →
      left = right

/-- No slug is another one with a number behind it that the other comes to. -/
def NumbersFree (slugs : List Text) : Prop :=
  ∀ slug ∈ slugs, ∀ count, 1 < count → count ≤ slugs.count slug →
    slug ++ '-' :: Nat.toDigits 10 count ∉ slugs

/-- No slug, with or without a number, of more than 100 characters begins with the
same 100 as another. -/
def CutsApart (slugs : List Text) : Prop :=
  ∀ left ∈ slugs, ∀ right ∈ slugs, ∀ former latter, 0 < former → former ≤ slugs.count left →
    0 < latter → latter ≤ slugs.count right → 100 < (numbered left former).length →
      (numbered left former).take 100 = (numbered right latter).take 100 →
        left = right ∧ former = latter

end Specification

section Slugs

variable {casing : Casing}

/-- What case maps and slugs do with ASCII characters. -/
theorem ascii_facts (code : Fin 128) :
    (Char.ofNat code).toUpper.toNat < 128 ∧
      (Char.ofNat code).toUpper.toLower = (Char.ofNat code).toLower ∧
      (Char.ofNat code).toLower.toUpper = (Char.ofNat code).toUpper ∧
      (isSlugCharacter (Char.ofNat code).toLower = true → isSpace (Char.ofNat code) = false) := by
  revert code
  decide

theorem toUpper_ascii {character : Char} (ascii : character.toNat < 128) :
    character.toUpper.toNat < 128 ∧ character.toUpper.toLower = character.toLower ∧
      character.toLower.toUpper = character.toUpper := by
  obtain ⟨bounded, lowered, raised, _⟩ := ascii_facts ⟨character.toNat, ascii⟩
  simp only [Char.ofNat_toNat] at bounded lowered raised
  exact ⟨bounded, lowered, raised⟩

theorem not_isSpace {character : Char} (ascii : character.toNat < 128)
    (kept : isSlugCharacter character.toLower = true) : isSpace character = false := by
  obtain ⟨_, _, _, visible⟩ := ascii_facts ⟨character.toNat, ascii⟩
  simp only [Char.ofNat_toNat] at visible
  exact visible kept

theorem mem_lowerAfter {before text : Text} {character : Char} (ascii : character.toNat < 128)
    (member : character ∈ text) : character.toLower ∈ casing.lowerAfter before text := by
  induction text generalizing before with
  | nil => cases member
  | cons first rest ih =>
    rw [Casing.lowerAfter, List.mem_append]
    rcases List.mem_cons.mp member with rfl | later
    · rw [casing.lower_ascii before character rest ascii]
      exact Or.inl (List.mem_singleton_self _)
    · exact Or.inr (ih later)

theorem mem_dashRuns {inRun : Bool} {text : Text} {character : Char}
    (kept : isSlugCharacter character = true) (member : character ∈ text) :
    character ∈ dashRuns inRun text := by
  induction text generalizing inRun with
  | nil => cases member
  | cons first rest ih =>
    rw [dashRuns]
    rcases List.mem_cons.mp member with rfl | later
    · rw [if_pos kept]
      exact List.mem_cons_self
    · split
      · exact List.mem_cons_of_mem _ (ih later)
      · split
        · exact ih later
        · exact List.mem_cons_of_mem _ (ih later)

/-- A text with an ASCII letter or digit has a slug. -/
theorem slugify_ne_nil {value : Text} {character : Char} (ascii : character.toNat < 128)
    (kept : isSlugCharacter character.toLower = true) (member : character ∈ value) :
    slugify casing value ≠ [] := by
  have stripped : character ∈ Trimming.trim isSpace value :=
    (Trimming.mem_trim_iff (not_isSpace ascii kept)).mpr member
  have noDash : (character.toLower == '-') = false := by
    cases dash : character.toLower == '-' with
    | false => rfl
    | true =>
      rw [eq_of_beq dash] at kept
      cases kept
  have inSlug : character.toLower ∈ slugify casing value := by
    rw [slugify, @Trimming.mem_trim_iff _ (fun character => character == '-') _ _ noDash]
    exact mem_dashRuns kept (mem_lowerAfter ascii stripped)
  exact List.ne_nil_of_mem inSlug

end Slugs

section Verbs

variable {casing : Casing}

theorem lowerAfter_ascii {before text : Text} (ascii : ∀ character ∈ text, character.toNat < 128) :
    casing.lowerAfter before text = text.map Char.toLower := by
  induction text generalizing before with
  | nil => rfl
  | cons first rest ih =>
    rw [Casing.lowerAfter, casing.lower_ascii _ _ _ (ascii first List.mem_cons_self),
      ih (fun character later => ascii character (List.mem_cons_of_mem _ later))]
    rfl

/-- Only ASCII text and the Kelvin sign become ASCII text in lower case. -/
theorem ascii_of_lowerAfter {before text : Text}
    (lowered : ∀ character ∈ casing.lowerAfter before text, character.toNat < 128 ∧ character ≠ 'k') :
    ∀ character ∈ text, character.toNat < 128 := by
  induction text generalizing before with
  | nil =>
    intro character member
    cases member
  | cons first rest ih =>
    rw [Casing.lowerAfter] at lowered
    have ofRest := ih (fun character later => lowered character (List.mem_append_right _ later))
    have ofFirst : first.toNat < 128 := by
      by_contra other
      rcases casing.lower_other before first rest (Nat.not_lt.mp other) with
        ⟨_, kelvin⟩ | ⟨character, member, large⟩
      · rw [kelvin] at lowered
        exact (lowered 'k' (by simp)).2 rfl
      · have small := (lowered character (List.mem_append_left _ member)).1
        omega
    intro character member
    rcases List.mem_cons.mp member with rfl | later
    · exact ofFirst
    · exact ofRest character later

theorem toLower_of_other {character : Char} (other : 128 ≤ character.toNat) :
    character.toLower = character := by
  apply dif_neg
  rintro ⟨_, high⟩
  have bounded : character.toNat ≤ 90 := high
  omega

theorem httpMethods_facts : ∀ verb ∈ httpMethods,
    (∀ character ∈ verb, character.toNat < 128 ∧ character ≠ 'k') ∧
      ∃ character ∈ verb, isSlugCharacter character = true := by
  have each : ∀ verb ∈ httpMethods,
      verb.all (fun character => character.toNat < 128 && character != 'k') = true ∧
        verb.any isSlugCharacter = true := by
    decide
  intro verb listed
  obtain ⟨plain, slug⟩ := each verb listed
  constructor
  · intro character member
    simpa using List.all_eq_true.mp plain character member
  · exact List.any_eq_true.mp slug

theorem ascii_of_verb {method : Text} (verb : method.map Char.toLower ∈ httpMethods) :
    ∀ character ∈ method, character.toNat < 128 := by
  intro character member
  by_contra other
  have same := toLower_of_other (Nat.not_lt.mp other)
  have small := ((httpMethods_facts _ verb).1 _ (List.mem_map_of_mem member)).1
  rw [same] at small
  exact other small

/-- The script takes the verbs in any spelling and nothing else. -/
theorem lower_mem_iff (method : Text) :
    casing.lower method ∈ httpMethods ↔ method.map Char.toLower ∈ httpMethods := by
  constructor
  · intro verb
    rwa [Casing.lower, lowerAfter_ascii (ascii_of_lowerAfter (httpMethods_facts _ verb).1)] at verb
  · intro verb
    rw [Casing.lower, lowerAfter_ascii (ascii_of_verb verb)]
    exact verb

theorem upper_ascii {text : Text} (ascii : ∀ character ∈ text, character.toNat < 128) :
    casing.upper text = text.map Char.toUpper := by
  induction text with
  | nil => rfl
  | cons first rest ih =>
    have step : casing.upper (first :: rest) = casing.upperOf first ++ casing.upper rest := rfl
    rw [step, casing.upper_ascii first (ascii first List.mem_cons_self),
      ih (fun character later => ascii character (List.mem_cons_of_mem _ later))]
    rfl

theorem upper_of_verb {method : Text} (verb : method.map Char.toLower ∈ httpMethods) :
    casing.upper method = method.map Char.toUpper :=
  upper_ascii (ascii_of_verb verb)

theorem upper_eq_iff {left right : Text} (leftVerb : left.map Char.toLower ∈ httpMethods)
    (rightVerb : right.map Char.toLower ∈ httpMethods) :
    casing.upper left = casing.upper right ↔ left.map Char.toLower = right.map Char.toLower := by
  have lowered : ∀ text : Text, (∀ character ∈ text, character.toNat < 128) →
      (text.map Char.toUpper).map Char.toLower = text.map Char.toLower := by
    intro text ascii
    rw [List.map_map, List.map_inj_left]
    exact fun character member => (toUpper_ascii (ascii character member)).2.1
  have raised : ∀ text : Text, (∀ character ∈ text, character.toNat < 128) →
      (text.map Char.toLower).map Char.toUpper = text.map Char.toUpper := by
    intro text ascii
    rw [List.map_map, List.map_inj_left]
    exact fun character member => (toUpper_ascii (ascii character member)).2.2
  rw [upper_of_verb leftVerb, upper_of_verb rightVerb]
  constructor
  · intro same
    rw [← lowered left (ascii_of_verb leftVerb), same, lowered right (ascii_of_verb rightVerb)]
  · intro same
    rw [← raised left (ascii_of_verb leftVerb), same, raised right (ascii_of_verb rightVerb)]

/-- An operation has a slug: its verb alone gives one. -/
theorem slugOf_ne_nil {path method : Text} (spec : Option Operation)
    (verb : casing.lower method ∈ httpMethods) : slugOf casing path method spec ≠ [] := by
  rw [slugOf]
  split
  · have spelled := (lower_mem_iff method).mp verb
    have ascii := ascii_of_verb spelled
    obtain ⟨lowered, member, kept⟩ := (httpMethods_facts _ spelled).2
    obtain ⟨character, inMethod, rfl⟩ := List.mem_map.mp member
    obtain ⟨small, same, _⟩ := toUpper_ascii (ascii character inMethod)
    rw [← same] at kept
    apply slugify_ne_nil small kept
    rw [upper_of_verb spelled]
    exact List.mem_append_left _ (List.mem_map_of_mem inMethod)
  · assumption

end Verbs

section Numbers

variable {left right : Text} {former latter : Nat}

/-- A number can be read off the end of a slug. -/
theorem numbers_injective
    (same : left ++ '-' :: Nat.toDigits 10 former = right ++ '-' :: Nat.toDigits 10 latter) :
    left = right ∧ former = latter := by
  have whole : ∀ count, '-' ∉ Nat.toDigits 10 count := by
    intro count member
    have digit := Nat.isDigit_of_mem_toDigits (by decide) (by decide) member
    cases digit
  obtain ⟨slugs, digits⟩ := Text.cut_at_last same (whole former) (whole latter)
  exact ⟨slugs, Text.digits_injective digits⟩

theorem numbered_of_one_lt (more : 1 < former) :
    numbered left former = left ++ '-' :: Nat.toDigits 10 former := by
  rw [numbered, if_pos more]

theorem numbered_one : numbered left 1 = left := rfl

theorem numbered_ne_nil (nonempty : left ≠ []) : numbered left former ≠ [] := by
  rw [numbered]
  split
  · simp
  · exact nonempty

/-- Whole numbered slugs differ, unless a numbered one is a slug of the list. -/
theorem numbered_injective {slugs : List Text} (free : NumbersFree slugs)
    (ofLeft : left ∈ slugs) (ofRight : right ∈ slugs)
    (formerPositive : 0 < former) (formerBound : former ≤ slugs.count left)
    (latterPositive : 0 < latter) (latterBound : latter ≤ slugs.count right)
    (same : numbered left former = numbered right latter) : left = right ∧ former = latter := by
  by_cases many : 1 < former
  · rw [numbered_of_one_lt many] at same
    by_cases others : 1 < latter
    · rw [numbered_of_one_lt others] at same
      exact numbers_injective same
    · rw [show latter = 1 by omega, numbered_one] at same
      rw [← same] at ofRight
      exact absurd ofRight (free left ofLeft former many formerBound)
  · rw [show former = 1 by omega, numbered_one] at same
    by_cases others : 1 < latter
    · rw [numbered_of_one_lt others] at same
      rw [same] at ofLeft
      exact absurd ofLeft (free right ofRight latter others latterBound)
    · rw [show latter = 1 by omega, numbered_one] at same
      exact ⟨same, by omega⟩

end Numbers

section Loop

open ApiGateway.Numbering

variable (casing : Casing)

/-- The entry of an operation with the number of its slug. -/
def seedEndpoint (entry : Placed × Nat) : SeedEndpoint where
  endpointName := (numbered (entry.1.slug casing) entry.2).take 100
  httpMethod := casing.upper entry.1.method
  relativePath := entry.1.path
  upstreamPathTemplate := entry.1.path

/-- One pass of the inner loop. -/
def addPlaced (progress : Progress) (placed : Placed) : Progress :=
  addOperation casing placed.path progress (placed.method, placed.spec)

theorem addPlaced_operation {progress : Progress} {placed : Placed}
    (verb : casing.lower placed.method ∈ httpMethods) :
    addPlaced casing progress placed =
      { nameCounts := Function.update progress.nameCounts (placed.slug casing)
          (progress.nameCounts (placed.slug casing) + 1)
        endpoints := progress.endpoints ++
          [seedEndpoint casing (placed, progress.nameCounts (placed.slug casing) + 1)] } := by
  rw [addPlaced, addOperation, if_pos (List.contains_iff_mem.mpr verb)]
  rfl

theorem addPlaced_other {progress : Progress} {placed : Placed}
    (other : casing.lower placed.method ∉ httpMethods) :
    addPlaced casing progress placed = progress := by
  rw [addPlaced, addOperation, if_neg (fun listed => other (List.contains_iff_mem.mp listed))]

/-- The loop appends the entries of the operations, numbered after the counts so far. -/
theorem foldl_addPlaced (placements : List Placed) (progress : Progress) :
    (placements.foldl (addPlaced casing) progress).endpoints =
      progress.endpoints ++ (number (Placed.slug casing) progress.nameCounts
        (placements.filter (fun placed => httpMethods.contains (casing.lower placed.method)))).map
          (seedEndpoint casing) := by
  induction placements generalizing progress with
  | nil => simp [number]
  | cons placed rest ih =>
    rw [List.foldl_cons, ih]
    by_cases verb : casing.lower placed.method ∈ httpMethods
    · rw [addPlaced_operation casing verb, List.filter_cons, if_pos (by simpa using verb), number,
        List.map_cons, List.append_assoc, List.singleton_append]
    · rw [addPlaced_other casing verb, List.filter_cons, if_neg (by simpa using verb)]

theorem buildEndpoints_eq (paths : Paths) :
    buildEndpoints casing paths =
      (number (Placed.slug casing) (fun _ => 0) (operations casing paths)).map
        (seedEndpoint casing) := by
  have flat : ∀ (items : List (Text × Dictionary Text (Option Operation))) (progress : Progress),
      items.foldl (fun progress item =>
        item.2.entries.foldl (addOperation casing item.1) progress) progress =
      (items.flatMap (fun item => item.2.entries.map (fun entry =>
        (⟨item.1, entry.1, entry.2⟩ : Placed)))).foldl (addPlaced casing) progress := by
    intro items progress
    rw [List.foldl_flatMap]
    simp only [List.foldl_map]
    rfl
  rw [buildEndpoints, flat, foldl_addPlaced]
  rfl

/-- The labels of the numbered operations are the slugs with the numbers they come to. -/
theorem mem_labels (paths : Paths) (slug : Text) (count : Nat) :
    (slug, count) ∈ (number (Placed.slug casing) (fun _ => 0) (operations casing paths)).map
        (label (Placed.slug casing)) ↔
      0 < count ∧ count ≤ (slugs casing paths).count slug := by
  rw [mem_labels_iff, Nat.zero_add, slugs]

theorem names_eq (paths : Paths) :
    (buildEndpoints casing paths).map SeedEndpoint.endpointName =
      ((number (Placed.slug casing) (fun _ => 0) (operations casing paths)).map
        (label (Placed.slug casing))).map (fun entry => (numbered entry.1 entry.2).take 100) := by
  rw [buildEndpoints_eq, List.map_map, List.map_map]
  rfl

theorem verbs_eq (paths : Paths) :
    (buildEndpoints casing paths).map
        (fun endpoint => (endpoint.relativePath, endpoint.httpMethod)) =
      (operations casing paths).map (fun placed => (placed.path, casing.upper placed.method)) := by
  rw [buildEndpoints_eq, List.map_map]
  conv => rhs; rw [← map_fst_number (Placed.slug casing) (fun _ => 0) (operations casing paths)]
  rw [List.map_map]
  rfl

end Loop

section Names

open ApiGateway.Numbering

variable {casing : Casing} {paths : Paths}

theorem mem_of_count {slug : Text} {count : Nat} {slugs : List Text} (positive : 0 < count)
    (bound : count ≤ slugs.count slug) : slug ∈ slugs :=
  List.count_pos_iff.mp (by omega)

/-- The names differ exactly if no number is taken by a slug and no cut joins two. -/
theorem names_nodup_iff :
    ((buildEndpoints casing paths).map SeedEndpoint.endpointName).Nodup ↔
      NumbersFree (slugs casing paths) ∧ CutsApart (slugs casing paths) := by
  rw [names_eq, List.nodup_map_iff_inj_on (nodup_labels _ _ _)]
  simp only [Prod.forall, mem_labels, Prod.mk.injEq]
  constructor
  · intro injective
    constructor
    · intro slug _ count many bound taken
      have both := injective slug count ⟨by omega, bound⟩ _ 1
        ⟨Nat.one_pos, List.count_pos_iff.mpr taken⟩ (by rw [numbered_of_one_lt many, numbered_one])
      omega
    · intro left _ right _ former latter formerPositive formerBound latterPositive latterBound _ same
      exact injective left former ⟨formerPositive, formerBound⟩ right latter
        ⟨latterPositive, latterBound⟩ same
  · rintro ⟨free, apart⟩ left former ⟨formerPositive, formerBound⟩ right latter
      ⟨latterPositive, latterBound⟩ same
    have ofLeft := mem_of_count formerPositive formerBound
    have ofRight := mem_of_count latterPositive latterBound
    by_cases leftCut : 100 < (numbered left former).length
    · exact apart left ofLeft right ofRight former latter formerPositive formerBound latterPositive
        latterBound leftCut same
    · by_cases rightCut : 100 < (numbered right latter).length
      · obtain ⟨slugSame, countSame⟩ := apart right ofRight left ofLeft latter former latterPositive
          latterBound formerPositive formerBound rightCut same.symm
        exact ⟨slugSame.symm, countSame.symm⟩
      · rw [List.take_of_length_le (Nat.not_lt.mp leftCut),
          List.take_of_length_le (Nat.not_lt.mp rightCut)] at same
        exact numbered_injective free ofLeft ofRight formerPositive formerBound latterPositive
          latterBound same

end Names

section Entries

variable {casing : Casing} {paths : Paths}

theorem mem_operations_iff {placed : Placed} :
    placed ∈ operations casing paths ↔
      placed.method.map Char.toLower ∈ httpMethods ∧ ∃ item ∈ paths.entries,
        item.1 = placed.path ∧ (placed.method, placed.spec) ∈ item.2.entries := by
  rw [operations, List.mem_filter, List.contains_iff_mem, lower_mem_iff, and_comm]
  simp only [placedIn, List.mem_flatMap, List.mem_map]
  constructor
  · rintro ⟨verb, item, member, entry, inside, rfl⟩
    exact ⟨verb, item, member, rfl, inside⟩
  · rintro ⟨verb, item, member, atPath, inside⟩
    exact ⟨verb, item, member, _, inside, by rw [atPath]⟩

/-- The entries are for the operations of the document. -/
theorem mem_verbs_iff {path verb : Text} :
    (path, verb) ∈ (buildEndpoints casing paths).map
        (fun endpoint => (endpoint.relativePath, endpoint.httpMethod)) ↔
      HasOperation paths path verb := by
  rw [verbs_eq, List.mem_map]
  constructor
  · rintro ⟨placed, member, same⟩
    obtain ⟨spelled, item, listed, atPath, inside⟩ := mem_operations_iff.mp member
    rw [upper_of_verb spelled, Prod.mk.injEq] at same
    exact ⟨item, listed, atPath.trans same.1, placed.method, List.mem_map_of_mem inside, spelled,
      same.2⟩
  · rintro ⟨item, listed, rfl, method, key, spelled, rfl⟩
    obtain ⟨entry, inside, rfl⟩ := List.mem_map.mp key
    refine ⟨⟨item.1, entry.1, entry.2⟩, ?_, ?_⟩
    · exact mem_operations_iff.mpr ⟨spelled, item, listed, rfl, inside⟩
    · rw [upper_of_verb spelled]

/-- The keys of the paths and of their operations place an operation. -/
theorem nodup_places : ((placedIn paths).map (fun placed => (placed.path, placed.method))).Nodup := by
  rw [placedIn, List.map_flatMap, List.nodup_flatMap]
  constructor
  · intro item _
    have injective : Function.Injective (fun key : Text => (item.1, key)) :=
      fun _ _ same => (Prod.mk.inj same).2
    have pairs := item.2.distinct.map injective
    rw [List.map_map] at pairs ⊢
    exact pairs
  · have apart : paths.entries.Pairwise (fun left right => left.1 ≠ right.1) :=
      List.pairwise_map.mp paths.distinct
    apply apart.imp
    intro left right different
    apply List.disjoint_left.mpr
    intro place ofLeft ofRight
    simp only [List.map_map, List.mem_map, Function.comp_apply] at ofLeft ofRight
    obtain ⟨_, _, rfl⟩ := ofLeft
    obtain ⟨_, _, same⟩ := ofRight
    exact different (congrArg Prod.fst same).symm

theorem nodup_operations_places :
    ((operations casing paths).map (fun placed => (placed.path, placed.method))).Nodup :=
  nodup_places.sublist (List.filter_sublist.map _)

/-- The verbs of the entries differ exactly if each is spelled once. -/
theorem verbs_nodup_iff :
    ((buildEndpoints casing paths).map
      (fun endpoint => (endpoint.relativePath, endpoint.httpMethod))).Nodup ↔ VerbsOnce paths := by
  rw [verbs_eq, List.nodup_map_iff_inj_on nodup_operations_places.of_map]
  constructor
  · intro injective item listed left leftKey right rightKey spelled same
    obtain ⟨former, leftInside, rfl⟩ := List.mem_map.mp leftKey
    obtain ⟨latter, rightInside, rfl⟩ := List.mem_map.mp rightKey
    have alsoSpelled := same ▸ spelled
    have equal := injective ⟨item.1, former.1, former.2⟩
      (mem_operations_iff.mpr ⟨spelled, item, listed, rfl, leftInside⟩)
      ⟨item.1, latter.1, latter.2⟩
      (mem_operations_iff.mpr ⟨alsoSpelled, item, listed, rfl, rightInside⟩)
      (by rw [(upper_eq_iff spelled alsoSpelled).mpr same])
    exact congrArg Placed.method equal
  · intro once left ofLeft right ofRight same
    obtain ⟨leftSpelled, item, listed, leftPath, leftInside⟩ := mem_operations_iff.mp ofLeft
    obtain ⟨rightSpelled, other, alsoListed, rightPath, rightInside⟩ := mem_operations_iff.mp ofRight
    obtain ⟨samePath, sameVerb⟩ := Prod.mk.inj same
    have sameItem : item = other := List.inj_on_of_nodup_map paths.distinct listed alsoListed
      (leftPath.trans (samePath.trans rightPath.symm))
    subst sameItem
    have sameMethod := once item listed left.method (List.mem_map_of_mem leftInside) right.method
      (List.mem_map_of_mem rightInside) leftSpelled
      ((upper_eq_iff leftSpelled rightSpelled).mp sameVerb)
    apply List.inj_on_of_nodup_map nodup_operations_places ofLeft ofRight
    rw [samePath, sameMethod]

/-- Rows with different names are all inserted or updated. -/
theorem insertEndpoints_isSome {serviceId : Guid} {touched : List (Guid × Text)}
    {rows : EndpointRows} {endpoints : List SeedEndpoint}
    (fresh : ∀ endpoint ∈ endpoints, (serviceId, endpoint.endpointName) ∉ touched)
    (distinct : (endpoints.map SeedEndpoint.endpointName).Nodup) :
    (insertEndpoints serviceId touched rows endpoints).isSome = true := by
  induction endpoints generalizing touched rows with
  | nil => rfl
  | cons endpoint rest ih =>
    rw [List.map_cons, List.nodup_cons] at distinct
    rw [insertEndpoints, if_neg (fresh endpoint List.mem_cons_self)]
    apply ih
    · intro later member
      rw [List.mem_cons, not_or]
      constructor
      · intro same
        exact distinct.1 (List.mem_map.mpr ⟨later, member, (Prod.mk.inj same).2⟩)
      · exact fresh later (List.mem_cons_of_mem _ member)
    · exact distinct.2

end Entries

/-- The entries of a document are uniquely named exactly if every verb is spelled once
under its path, no slug with a number is another slug, and no cut joins two. -/
theorem buildEndpoints_unique_iff (casing : Casing) (paths : Paths) :
    UniquelyNamed paths (buildEndpoints casing paths) ↔
      VerbsOnce paths ∧ NumbersFree (slugs casing paths) ∧ CutsApart (slugs casing paths) := by
  constructor
  · intro unique
    constructor
    · rw [← @verbs_nodup_iff casing, List.nodup_iff_count_le_one]
      intro entry
      by_cases member : entry ∈ (buildEndpoints casing paths).map
          (fun endpoint => (endpoint.relativePath, endpoint.httpMethod))
      · exact (unique.one_entry entry.1 entry.2 (mem_verbs_iff.mp member)).le
      · rw [List.count_eq_zero_of_not_mem member]
        exact Nat.zero_le 1
    · exact names_nodup_iff.mp unique.distinct
  · rintro ⟨once, apart⟩
    have distinct := names_nodup_iff.mpr apart
    constructor
    · intro path verb has
      exact List.count_eq_one_of_mem (verbs_nodup_iff.mpr once) (mem_verbs_iff.mpr has)
    · intro endpoint member
      exact mem_verbs_iff.mp (List.mem_map_of_mem member)
    · intro endpoint member
      rw [buildEndpoints_eq] at member
      obtain ⟨entry, listed, rfl⟩ := List.mem_map.mp member
      have operation : entry.1 ∈ operations casing paths := by
        rw [← Numbering.map_fst_number (Placed.slug casing) (fun _ => 0) (operations casing paths)]
        exact List.mem_map_of_mem listed
      have verb : casing.lower entry.1.method ∈ httpMethods :=
        (lower_mem_iff _).mpr (mem_operations_iff.mp operation).1
      constructor
      · have nonempty : numbered (entry.1.slug casing) entry.2 ≠ [] :=
          numbered_ne_nil (slugOf_ne_nil entry.1.spec verb)
        simpa [seedEndpoint, List.take_eq_nil_iff] using nonempty
      · exact List.length_take_le _ _
    · exact distinct
    · intro serviceId rows
      exact insertEndpoints_isSome (fun _ _ => List.not_mem_nil) distinct

/-- Two operations with the id "a" and one with the id "a-2". -/
def numberedIds : Paths where
  entries := [
    ("/a".toList, ⟨[("get".toList, some ⟨some "a".toList, none⟩),
      ("post".toList, some ⟨some "a".toList, none⟩)], by decide⟩),
    ("/b".toList, ⟨[("get".toList, some ⟨some "a-2".toList, none⟩)], by decide⟩)]
  distinct := by decide

/-- The second "a" takes the name of the operation "a-2". -/
theorem numberedIds_collide :
    (buildEndpoints asciiCasing numberedIds).map SeedEndpoint.endpointName =
        ["a".toList, "a-2".toList, "a-2".toList] ∧
      ¬ UniquelyNamed numberedIds (buildEndpoints asciiCasing numberedIds) := by
  have names : (buildEndpoints asciiCasing numberedIds).map SeedEndpoint.endpointName =
      ["a".toList, "a-2".toList, "a-2".toList] := by
    decide
  constructor
  · exact names
  · intro unique
    have distinct := unique.distinct
    rw [names] at distinct
    revert distinct
    decide

end ApiGateway.SeedImport
