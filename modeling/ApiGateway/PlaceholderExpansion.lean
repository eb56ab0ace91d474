import ApiGateway.HeaderTransform
import ApiGateway.Library.Substitution

/-!
# Placeholders expanded one after another

The value of a header to add is a template with four placeholders, which are
replaced one after another in the whole text. So a value put in early is read again
for the placeholders that come later, and so is what it forms with the text around
it.
-/

namespace ApiGateway.HeaderTransform

open Substitution

/-- The placeholders, in the order of their replacement. -/
inductive Placeholder where
  | ClientId
  | UserId
  | CorrelationId
  | Timestamp
deriving DecidableEq

namespace Placeholder

def spelling : Placeholder → Text
  | .ClientId => "\x7bClientId\x7d".toList
  | .UserId => "\x7bUserId\x7d".toList
  | .CorrelationId => "\x7bCorrelationId\x7d".toList
  | .Timestamp => "\x7bTimestamp\x7d".toList

/-- What is put in place of a placeholder. -/
def value (caseMap : CaseMap) (context : HttpContext) (utcNow : Text) : Placeholder → Text
  | .ClientId => (context.user.findFirst caseMap "client_id".toList).getD "unknown".toList
  | .UserId => (context.user.findFirst caseMap "sub".toList).getD "unknown".toList
  | .CorrelationId => context.traceIdentifier
  | .Timestamp => utcNow

def order : List Placeholder := [.ClientId, .UserId, .CorrelationId, .Timestamp]

theorem spelling_delimited : Delimited '{' spelling where
  opens := fun placeholder => by
    cases placeholder with
    | ClientId => exact ⟨"ClientId\x7d".toList, rfl, by decide⟩
    | UserId => exact ⟨"UserId\x7d".toList, rfl, by decide⟩
    | CorrelationId => exact ⟨"CorrelationId\x7d".toList, rfl, by decide⟩
    | Timestamp => exact ⟨"Timestamp\x7d".toList, rfl, by decide⟩
  apart := fun placeholder other => by
    cases placeholder <;> cases other <;> decide

end Placeholder

section Expansion

variable (caseMap : CaseMap) (template : Text) (context : HttpContext) (utcNow : Text)

/-- The template with some of its placeholders replaced at once. -/
def expandAtOnce (chosen : List Placeholder) : Text :=
  substitute Placeholder.spelling (Placeholder.value caseMap context utcNow) Placeholder.order chosen
    template

/-- The same with the origin of every character. -/
def tracedAtOnce (chosen : List Placeholder) : List (Char × Origin Placeholder) :=
  traced Placeholder.spelling (Placeholder.value caseMap context utcNow) Placeholder.order chosen
    template

/-- The replacements of the code, on a template whose characters have origins. -/
def resolveTraced : List (Char × Origin Placeholder) :=
  replaceTraced Placeholder.spelling (Placeholder.value caseMap context utcNow) Placeholder.order
    (tracedAtOnce caseMap template context utcNow [])

/-- The code returns what one reading of the template makes of it, and each character
of the result is the template's or a value's as that reading has it: nothing that was
put in has been expanded, and nothing else of the template has. -/
structure ExpandsAtOnce : Prop where
  returned : resolveHeaderValue caseMap (some template) context utcNow =
    some (expandAtOnce caseMap template context utcNow Placeholder.order)
  unexpanded : resolveTraced caseMap template context utcNow =
    tracedAtOnce caseMap template context utcNow Placeholder.order

/-- No placeholder occurs more often than in the template once the earlier ones are
replaced. -/
def BringsForthNone : Prop :=
  ∀ earlier next later, Placeholder.order = earlier ++ next :: later →
    occurrences next.spelling (expandAtOnce caseMap template context utcNow earlier) =
      occurrences next.spelling template

/-- Replacement in text is replacement in letters without marks. -/
theorem replace_eq (old new text : Text) : Text.replace old new text = replace id old new text := by
  suffices same : ∀ skipped,
      Text.replaceFrom old new skipped text = replaceFrom id old new skipped text from
    same 0
  induction text with
  | nil => intro skipped; cases skipped <;> rfl
  | cons first rest sameRest =>
    intro skipped
    cases skipped with
    | succ skipped => exact sameRest skipped
    | zero =>
      rw [Text.replaceFrom, replaceFrom, List.map_id, sameRest, sameRest]

/-- Without the origins, the traced replacements are the code's. -/
theorem resolveHeaderValue_eq_traced :
    resolveHeaderValue caseMap (some template) context utcNow =
      some ((resolveTraced caseMap template context utcNow).map Prod.fst) := by
  have start : (tracedAtOnce caseMap template context utcNow []).map Prod.fst = template := by
    rw [tracedAtOnce, map_traced, substitute_nil Placeholder.spelling_delimited]
  have steps : (resolveTraced caseMap template context utcNow).map Prod.fst =
      Text.replace Placeholder.Timestamp.spelling utcNow
        (Text.replace Placeholder.CorrelationId.spelling context.traceIdentifier
          (Text.replace Placeholder.UserId.spelling
            (Placeholder.UserId.value caseMap context utcNow)
            (Text.replace Placeholder.ClientId.spelling
              (Placeholder.ClientId.value caseMap context utcNow) template))) := by
    rw [resolveTraced, map_replaceTraced, start]
    simp only [Placeholder.order, List.foldl_cons, List.foldl_nil, replace_eq]
    rfl
  rw [steps, resolveHeaderValue]
  by_cases plain : (template.isEmpty || !template.contains '{') = true
  · have absent : '{' ∉ template := by
      intro member
      cases template with
      | nil => cases member
      | cons first rest => simp [member] at plain
    have kept : ∀ rest new, Text.replace ('{' :: rest) new template = template :=
      fun rest new => Text.replace_absent absent
    have spelled : ∀ placeholder : Placeholder, ∃ rest, placeholder.spelling = '{' :: rest :=
      fun placeholder => (Placeholder.spelling_delimited.opens placeholder).imp fun _ => And.left
    rw [if_pos plain]
    obtain ⟨_, first⟩ := spelled .ClientId
    obtain ⟨_, second⟩ := spelled .UserId
    obtain ⟨_, third⟩ := spelled .CorrelationId
    obtain ⟨_, fourth⟩ := spelled .Timestamp
    rw [first, kept, second, kept, third, kept, fourth, kept]
  · rw [if_neg plain]
    rfl

/-- The code expands the placeholders at once exactly when no value brings forth a
placeholder that is replaced later. -/
theorem expands_at_once_iff :
    ExpandsAtOnce caseMap template context utcNow ↔
      BringsForthNone caseMap template context utcNow := by
  have exact := replaceTraced_eq_traced_iff (Placeholder.value caseMap context utcNow)
    Placeholder.spelling_delimited (by decide : Placeholder.order.Nodup) template
  constructor
  · intro expands
    exact exact.mp expands.unexpanded
  · intro none
    have unexpanded : resolveTraced caseMap template context utcNow =
        tracedAtOnce caseMap template context utcNow Placeholder.order := exact.mpr none
    refine ⟨?_, unexpanded⟩
    rw [resolveHeaderValue_eq_traced, unexpanded, tracedAtOnce, map_traced, expandAtOnce]

end Expansion

/-- A caller whose client id claim is spelled like a placeholder. -/
def spelledClaim : Principal where
  identity := some ⟨true⟩
  claims := [⟨"sub".toList, "alice".toList⟩, ⟨"client_id".toList, "\x7bUserId\x7d".toList⟩]
  anonymous := by simp

/-- The claim is expanded in its turn. -/
theorem spelled_claim_expanded :
    resolveHeaderValue asciiCase (some "\x7bClientId\x7d".toList)
        (HttpContext.request spelledClaim [] "GET".toList []) [] = some "alice".toList ∧
      expandAtOnce asciiCase "\x7bClientId\x7d".toList
        (HttpContext.request spelledClaim [] "GET".toList []) [] Placeholder.order =
          "\x7bUserId\x7d".toList ∧
      ¬ ExpandsAtOnce asciiCase "\x7bClientId\x7d".toList
        (HttpContext.request spelledClaim [] "GET".toList []) [] := by
  have resolved : resolveHeaderValue asciiCase (some "\x7bClientId\x7d".toList)
      (HttpContext.request spelledClaim [] "GET".toList []) [] = some "alice".toList := by
    decide
  have atOnce : expandAtOnce asciiCase "\x7bClientId\x7d".toList
      (HttpContext.request spelledClaim [] "GET".toList []) [] Placeholder.order =
        "\x7bUserId\x7d".toList := by
    decide
  refine ⟨resolved, atOnce, fun expands => ?_⟩
  have same := expands.returned
  rw [resolved, atOnce] at same
  exact absurd same (by decide)

end ApiGateway.HeaderTransform
