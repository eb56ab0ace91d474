import ApiGateway.ProxyConfig

/-!
# Which route a request selects

The proxy's route matcher is not part of the gateway. Two descriptions of it
are used. The weaker one says only that the literal text leading a template
must lead the path. The stronger one compares template and path segment by
segment: a segment in braces matches any segment, any other matches itself
without regard to case, and of the matching routes the most literal wins. Where
no single route wins, the proxy selects none.

The stronger matcher satisfies the weaker description.
-/

namespace ApiGateway

/-- A matcher of templates and paths. A match requires the template's text up
to its second slash or its first brace to lead the path. -/
structure RouteMatcher (caseMap : CaseMap) where
  matchesPath : Text → Text → Bool
  leads : ∀ lead rest path, (∀ character ∈ lead, character ≠ '/' ∧ character ≠ '{') →
    matchesPath ('/' :: lead ++ rest) path = true →
    Text.startsWithIgnoreCase caseMap ('/' :: lead) path = true

namespace RouteMatching

/-- The pieces of a path between slashes. -/
def segments (path : Text) : List Text := Text.split '/' path

/-- A template segment in braces. -/
def isParameter (segment : Text) : Bool :=
  segment.head? == some '{' && segment.getLast? == some '}'

/-- One template segment against one path segment. -/
def segmentMatches (caseMap : CaseMap) (template segment : Text) : Bool :=
  isParameter template || Text.equalsIgnoreCase caseMap template segment

/-- Template segments against path segments, one by one. -/
def segmentsMatch (caseMap : CaseMap) : List Text → List Text → Bool
  | [], [] => true
  | template :: templates, segment :: rest =>
      segmentMatches caseMap template segment && segmentsMatch caseMap templates rest
  | _, _ => false

/-- A route matches a request by one of its methods and its template. -/
def routeMatches (caseMap : CaseMap) (route : RouteConfig) (path method : Text) : Bool :=
  route.routeMatch.methods.any (fun entry => Text.equalsIgnoreCase caseMap entry method) &&
    segmentsMatch caseMap (segments route.routeMatch.path) (segments path)

/-- At the first segment where only one template is literal, it is the first. -/
def moreLiteral : List Text → List Text → Bool
  | template :: templates, other :: others =>
      if isParameter template = isParameter other then moreLiteral templates others
      else isParameter other
  | _, _ => false

/-- The proxy selects a matching route that is more literal than any other. -/
def Selects (caseMap : CaseMap) (routes : List RouteConfig) (path method : Text)
    (route : RouteConfig) : Prop :=
  route ∈ routes ∧ routeMatches caseMap route path method = true ∧
    ∀ other ∈ routes, routeMatches caseMap other path method = true → other ≠ route →
      moreLiteral (segments route.routeMatch.path) (segments other.routeMatch.path) = true

section Case

variable {caseMap : CaseMap}

/-- Upper-casing neither removes nor creates a character that is no letter. -/
theorem upper_eq_iff (caseMap : CaseMap) (symbol : Char) (ascii : symbol.toNat < 128)
    (plain : symbol.isAlpha = false)
    (fixed : symbol.toUpper = symbol) (character : Char) :
    caseMap.upper character = symbol ↔ character = symbol := by
  constructor
  · exact caseMap.upper_symbol symbol ascii plain character
  · rintro rfl
    rw [caseMap.upper_ascii _ ascii, fixed]

theorem equalsIgnoreCase_iff (left right : Text) :
    Text.equalsIgnoreCase caseMap left right = true ↔
      left.map caseMap.upper = right.map caseMap.upper := by
  simp [Text.equalsIgnoreCase, Text.toUpperInvariant]

theorem equalsIgnoreCase_self (text : Text) : Text.equalsIgnoreCase caseMap text text = true :=
  (equalsIgnoreCase_iff text text).mpr rfl

/-- Braces survive case mapping, so segments equal up to case are both in braces
or both literal. -/
theorem isParameter_congr {left right : Text}
    (same : Text.equalsIgnoreCase caseMap left right = true) :
    isParameter left = isParameter right := by
  have mapped : ∀ text : Text, isParameter (text.map caseMap.upper) = isParameter text := by
    intro text
    have opening := upper_eq_iff caseMap '{' (by decide) (by decide) (by decide)
    have closing := upper_eq_iff caseMap '}' (by decide) (by decide) (by decide)
    rw [Bool.eq_iff_iff]
    simp [isParameter, List.head?_map, List.getLast?_map, opening, closing]
  rw [← mapped left, ← mapped right, (equalsIgnoreCase_iff left right).mp same]

end Case

section Templates

variable {caseMap : CaseMap}

theorem segmentsMatch_cons {template segment : Text} {templates rest : List Text} :
    segmentsMatch caseMap (template :: templates) (segment :: rest) = true ↔
      segmentMatches caseMap template segment = true ∧
        segmentsMatch caseMap templates rest = true := by
  simp [segmentsMatch]

/-- A path read as a template matches itself. -/
theorem segmentsMatch_self (path : List Text) : segmentsMatch caseMap path path = true := by
  induction path with
  | nil => rfl
  | cons segment rest ih =>
    refine segmentsMatch_cons.mpr ⟨?_, ih⟩
    simp [segmentMatches, equalsIgnoreCase_self]

theorem segmentsMatch_length {templates path : List Text}
    (matched : segmentsMatch caseMap templates path = true) : templates.length = path.length := by
  induction templates generalizing path with
  | nil =>
    cases path with
    | nil => rfl
    | cons segment rest => cases matched
  | cons template templates ih =>
    cases path with
    | nil => cases matched
    | cons segment rest => exact congrArg Nat.succ (ih (segmentsMatch_cons.mp matched).2)

/-- No template that matches a path is more literal than the path itself. -/
theorem moreLiteral_path {templates path : List Text}
    (matched : segmentsMatch caseMap templates path = true) : moreLiteral templates path = false := by
  induction templates generalizing path with
  | nil => rfl
  | cons template templates ih =>
    cases path with
    | nil => rfl
    | cons segment rest =>
      obtain ⟨here, later⟩ := segmentsMatch_cons.mp matched
      rw [moreLiteral]
      split
      · exact ih later
      · next differ =>
        simp only [segmentMatches, Bool.or_eq_true] at here
        rcases here with parameter | same
        · simpa [parameter] using differ
        · exact absurd (isParameter_congr same) differ

/-- A text has one more piece than separators. -/
theorem length_split (separator : Char) (text : Text) :
    (Text.split separator text).length = text.count separator + 1 := by
  unfold Text.split
  induction text with
  | nil => rfl
  | cons character rest ih =>
    rw [List.splitOn_cons_eq_if_modifyHead, List.count_cons]
    by_cases same : character = separator
    · simp [same, ih]
    · simp [same, ih]

/-- Templates have as many slashes as the paths they match. -/
theorem count_slash {template path : Text}
    (matched : segmentsMatch caseMap (segments template) (segments path) = true) :
    template.count '/' = path.count '/' := by
  have lengths := segmentsMatch_length matched
  simpa [segments, length_split] using lengths

theorem segments_slash (rest : Text) : segments ('/' :: rest) = [] :: segments rest := by
  simpa [segments, Text.split] using List.splitOn_append_cons_self (a := '/') [] rest

/-- A template that begins with a slash matches only paths that do. -/
theorem leading_slash {rest path : Text}
    (matched : segmentsMatch caseMap (segments ('/' :: rest)) (segments path) = true) :
    ∃ remaining, path = '/' :: remaining := by
  rw [segments_slash] at matched
  cases path with
  | nil =>
    have lengths := segmentsMatch_length matched
    simp [segments, Text.split, List.splitOn_ne_nil] at lengths
  | cons character remaining =>
    by_cases slash : character = '/'
    · exact ⟨remaining, by rw [slash]⟩
    · exfalso
      obtain ⟨piece, pieces, cut⟩ := List.exists_cons_of_ne_nil (List.splitOn_ne_nil '/' remaining)
      have first : segments (character :: remaining) = (character :: piece) :: pieces := by
        rw [segments, Text.split, List.splitOn_cons_eq_if_modifyHead, cut]
        simp [slash]
      rw [first, segmentsMatch_cons] at matched
      have empty := matched.1
      simp [segmentMatches, isParameter, equalsIgnoreCase_iff] at empty

/-- Text without separators joins the first piece of what follows it. -/
theorem split_append {separator : Char} {lead : Text} (whole : ∀ character ∈ lead, character ≠ separator)
    (rest : Text) :
    Text.split separator (lead ++ rest) = (Text.split separator rest).modifyHead (lead ++ ·) := by
  unfold Text.split
  induction lead with
  | nil =>
    obtain ⟨piece, pieces, cut⟩ := List.exists_cons_of_ne_nil (List.splitOn_ne_nil separator rest)
    simp [cut]
  | cons character remaining ih =>
    have different : character ≠ separator := whole character List.mem_cons_self
    have later := ih (fun other member => whole other (List.mem_cons_of_mem character member))
    obtain ⟨piece, pieces, cut⟩ := List.exists_cons_of_ne_nil (List.splitOn_ne_nil separator rest)
    rw [List.cons_append, List.splitOn_cons_eq_if_modifyHead, later, cut]
    simp [different]

/-- The first piece leads the text. -/
theorem split_head_leads {separator : Char} {text piece : Text} {pieces : List Text}
    (cut : Text.split separator text = piece :: pieces) : piece <+: text := by
  have joined := @List.intercalate_splitOn _ text _ _ separator
  rw [show text.splitOn separator = piece :: pieces from cut] at joined
  rw [← joined]
  cases pieces with
  | nil => simp
  | cons second others => simp [List.intercalate_cons_cons, List.append_assoc]

theorem startsWithIgnoreCase_iff (lead text : Text) :
    Text.startsWithIgnoreCase caseMap lead text = true ↔
      lead.map caseMap.upper <+: text.map caseMap.upper := by
  simp [Text.startsWithIgnoreCase, Text.toUpperInvariant]

/-- Matching segment by segment requires the leading literal text to lead the path. -/
theorem segmentsMatch_leads {lead rest path : Text}
    (literal : ∀ character ∈ lead, character ≠ '/' ∧ character ≠ '{')
    (matched : segmentsMatch caseMap (segments ('/' :: lead ++ rest)) (segments path) = true) :
    Text.startsWithIgnoreCase caseMap ('/' :: lead) path = true := by
  obtain ⟨remaining, rfl⟩ := leading_slash matched
  rw [startsWithIgnoreCase_iff, List.map_cons, List.map_cons, List.cons_prefix_cons]
  refine ⟨rfl, ?_⟩
  rcases lead with _ | ⟨first, others⟩
  · exact List.nil_prefix
  · obtain ⟨piece, pieces, cut⟩ := List.exists_cons_of_ne_nil (List.splitOn_ne_nil '/' rest)
    obtain ⟨segment, later, pathCut⟩ :=
      List.exists_cons_of_ne_nil (List.splitOn_ne_nil '/' remaining)
    have templateSegments : segments ('/' :: (first :: others) ++ rest) =
        [] :: ((first :: others) ++ piece) :: pieces := by
      rw [List.cons_append, segments_slash, segments,
        split_append (fun character member => (literal character member).1), Text.split, cut]
      rfl
    have pathSegments : segments ('/' :: remaining) = [] :: segment :: later := by
      rw [segments_slash, segments, Text.split, pathCut]
    rw [templateSegments, pathSegments, segmentsMatch_cons, segmentsMatch_cons] at matched
    have notParameter : isParameter ((first :: others) ++ piece) = false := by
      have opening : first ≠ '{' := (literal first List.mem_cons_self).2
      simp [isParameter, opening]
    have same := matched.2.1
    rw [segmentMatches, notParameter, Bool.false_or, equalsIgnoreCase_iff] at same
    have leading : (first :: others).map caseMap.upper <+: segment.map caseMap.upper := by
      rw [← same, List.map_append]
      exact List.prefix_append _ _
    exact leading.trans ((split_head_leads pathCut).map caseMap.upper)

/-- The segment-by-segment matcher. -/
def segmentMatcher (caseMap : CaseMap) : RouteMatcher caseMap where
  matchesPath := fun template path => segmentsMatch caseMap (segments template) (segments path)
  leads := fun _ _ _ literal matched => segmentsMatch_leads literal matched

end Templates

end RouteMatching

end ApiGateway
