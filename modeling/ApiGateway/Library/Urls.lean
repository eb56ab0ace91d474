import Mathlib.Data.List.Basic
import Mathlib.Data.List.DropRight
import Mathlib.Data.List.Infix

/-!
# Cutting URLs into their parts

A URL is cut by its delimiters: the scheme before the first colon, the authority
behind two slashes, the fragment behind '#', the query behind '?' and, under some
schemes, the parameters behind ';'. Nothing is decoded.

Every text has parts, unless its authority is refused. A path behind an authority is
empty or begins with a slash; one without an authority need not.
-/

namespace ApiGateway.Urls

/-- The authorities that are refused. Plain ASCII text without brackets is not. -/
structure AuthorityRules where
  refuses : List Char → Bool
  plain : ∀ netloc, (∀ character ∈ netloc, character.toNat < 128 ∧ character ≠ '[' ∧
    character ≠ ']') → refuses netloc = false

structure ParseResult where
  scheme : List Char
  netloc : List Char
  path : List Char
  params : List Char
  query : List Char
  fragment : List Char
deriving DecidableEq

/-- The text before a delimiter and the text behind it. -/
def cutAt (delimiter : Char) (text : List Char) : List Char × List Char :=
  (text.takeWhile (fun character => character != delimiter),
    (text.dropWhile (fun character => character != delimiter)).drop 1)

def isSchemeCharacter (character : Char) : Bool :=
  character.isAlphanum || character == '+' || character == '-' || character == '.'

/-- The scheme and what follows it. A text without a scheme is left whole. -/
def splitScheme (url : List Char) : List Char × List Char :=
  let cut := cutAt ':' url
  if ':' ∈ url ∧ cut.1.head?.any Char.isAlpha = true ∧ cut.1.all isSchemeCharacter = true then
    (cut.1.map Char.toLower, cut.2)
  else ([], url)

def inAuthority (character : Char) : Bool :=
  character != '/' && character != '?' && character != '#'

/-- The authority behind two slashes and what follows it. -/
def splitNetloc (url : List Char) : List Char × List Char :=
  if ['/', '/'].isPrefixOf url then
    ((url.drop 2).takeWhile inAuthority, (url.drop 2).dropWhile inAuthority)
  else ([], url)

/-- The parameters are those of the last segment. -/
def splitParams (url : List Char) : List Char × List Char :=
  let cut := cutAt ';' (url.rtakeWhile (fun character => character != '/'))
  (url.rdropWhile (fun character => character != '/') ++ cut.1, cut.2)

/-- The schemes whose URLs have parameters. -/
def usesParams : List (List Char) :=
  ["", "ftp", "hdl", "prospero", "http", "imap", "https", "shttp", "rtsp", "rtsps", "rtspu", "sip",
    "sips", "mms", "sftp", "tel"].map String.toList

/-- Leading spaces and control characters go, and tabs and line ends everywhere. -/
def cleaned (url : List Char) : List Char :=
  (url.dropWhile (fun character => decide (character.toNat ≤ 0x20))).filter
    (fun character => character != '\t' && character != '\r' && character != '\n')

def urlparse (rules : AuthorityRules) (url : List Char) : Option ParseResult :=
  let scheme := splitScheme (cleaned url)
  let netloc := splitNetloc scheme.2
  let fragment := cutAt '#' netloc.2
  let query := cutAt '?' fragment.1
  let params := if usesParams.contains scheme.1 then splitParams query.1 else (query.1, [])
  if rules.refuses netloc.1 then none
  else some ⟨scheme.1, netloc.1, params.1, params.2, query.2, fragment.2⟩

section Parts

variable {rules : AuthorityRules} {url : List Char} {parsed : ParseResult}

theorem cutAt_leads (delimiter : Char) (text : List Char) : (cutAt delimiter text).1 <+: text :=
  List.takeWhile_prefix _

theorem not_mem_cutAt (delimiter : Char) (text : List Char) : delimiter ∉ (cutAt delimiter text).1 := by
  intro member
  have different := List.mem_takeWhile_imp member
  simp at different

theorem splitParams_leads (url : List Char) : (splitParams url).1 <+: url := by
  have lead := (List.prefix_append_right_inj
    (url.rdropWhile (fun character => character != '/'))).mpr
      (cutAt_leads ';' (url.rtakeWhile (fun character => character != '/')))
  rwa [List.rdropWhile_append_rtakeWhile] at lead

theorem toLower_ne_colon {character : Char} (different : character ≠ ':') :
    character.toLower ≠ ':' := by
  by_cases upper : character.val ≥ 'A'.val ∧ character.val ≤ 'Z'.val
  · have lowered : character.toLower.val = character.val + ('a'.val - 'A'.val) :=
      congrArg Char.val (dif_pos upper)
    intro same
    rw [same] at lowered
    have shifted := congrArg UInt32.toNat lowered
    have atLeast : 65 ≤ character.val.toNat := upper.1
    have atMost : character.val.toNat ≤ 90 := upper.2
    rw [UInt32.toNat_add] at shifted
    have value : 58 = (character.val.toNat + 32) % 2 ^ 32 := shifted
    omega
  · have same : character.toLower = character := dif_neg upper
    rw [same]
    exact different

/-- A scheme ends before the first colon. -/
theorem scheme_colon (given : urlparse rules url = some parsed) : ':' ∉ parsed.scheme := by
  rw [urlparse] at given
  split at given
  · cases given
  · cases given
    rw [splitScheme]
    split
    · intro member
      obtain ⟨character, before, lowered⟩ := List.mem_map.mp member
      have different : character ≠ ':' := by
        rintro rfl
        exact not_mem_cutAt ':' _ before
      exact toLower_ne_colon different lowered
    · exact List.not_mem_nil

/-- The authority is cut off a text, and the path leads what is left of it. -/
theorem urlparse_parts (given : urlparse rules url = some parsed) :
    ∃ rest, parsed.netloc = (splitNetloc rest).1 ∧ parsed.path <+: (splitNetloc rest).2 ∧
      '#' ∉ parsed.path ∧ '?' ∉ parsed.path := by
  rw [urlparse] at given
  split at given
  · cases given
  · cases given
    have ofQuery : ∀ scheme query : List Char,
        (if usesParams.contains scheme then splitParams query else (query, [])).1 <+: query := by
      intro scheme query
      split
      · exact splitParams_leads query
      · exact List.prefix_rfl
    refine ⟨(splitScheme (cleaned url)).2, rfl, ?_, ?_, ?_⟩
    · exact (ofQuery _ _).trans ((cutAt_leads _ _).trans (cutAt_leads _ _))
    · intro member
      exact not_mem_cutAt '#' _ ((cutAt_leads _ _).subset ((ofQuery _ _).subset member))
    · intro member
      exact not_mem_cutAt '?' _ ((ofQuery _ _).subset member)

theorem netloc_inAuthority (given : urlparse rules url = some parsed) :
    ∀ character ∈ parsed.netloc, inAuthority character = true := by
  obtain ⟨rest, located, _⟩ := urlparse_parts given
  intro character member
  rw [located, splitNetloc] at member
  split at member
  · exact List.mem_takeWhile_imp member
  · cases member

/-- A path behind an authority is empty or begins with a slash. -/
theorem path_rooted (given : urlparse rules url = some parsed) (located : parsed.netloc ≠ [])
    {first : Char} {segment : List Char} (begins : parsed.path = first :: segment) :
    first = '/' := by
  obtain ⟨rest, authority, lead, noFragment, noQuery⟩ := urlparse_parts given
  rw [begins] at lead noFragment noQuery
  rw [authority, splitNetloc] at located
  rw [splitNetloc] at lead
  split at located
  · next slashes =>
    rw [if_pos slashes] at lead
    obtain ⟨after, left⟩ := lead
    dsimp only at left
    have delimiter : inAuthority first = false := by
      have found := List.head?_dropWhile_not inAuthority (rest.drop 2)
      rw [← left] at found
      simpa using found
    by_contra other
    simp only [inAuthority, Bool.and_eq_false_iff, bne_eq_false_iff_eq] at delimiter
    rcases delimiter with (slash | query) | fragment
    · exact other slash
    · exact noQuery (query ▸ List.mem_cons_self)
    · exact noFragment (fragment ▸ List.mem_cons_self)
  · exact absurd rfl located

end Parts

section AbsoluteUrls

def httpSchemes : List (List Char) := ["http".toList, "https".toList]

/-- The host of an authority: no user before it and no port behind it. -/
def hostOf (authority : List Char) : List Char :=
  (authority.rtakeWhile (fun character => character != '@')).takeWhile
    (fun character => character != ':')

/-- An http or https scheme, "://" and an authority with a host. -/
def AbsoluteHttp (url : List Char) : Prop :=
  ':' ∈ url ∧ (cutAt ':' url).1.map Char.toLower ∈ httpSchemes ∧ ['/', '/'] <+: (cutAt ':' url).2 ∧
    hostOf (((cutAt ':' url).2.drop 2).takeWhile inAuthority) ≠ []

instance (url : List Char) : Decidable (AbsoluteHttp url) :=
  inferInstanceAs (Decidable (_ ∧ _ ∧ _ ∧ _))

theorem cutAt_append {delimiter : Char} {before : List Char} (whole : delimiter ∉ before)
    (after : List Char) : cutAt delimiter (before ++ delimiter :: after) = (before, after) := by
  have passes : ∀ character ∈ before, (character != delimiter) = true := by
    intro character member
    rw [bne_iff_ne]
    rintro rfl
    exact whole member
  rw [cutAt, List.takeWhile_append_of_pos passes, List.dropWhile_append_of_pos passes]
  simp

/-- A text put together from a scheme, "://" and a rest is absolute by its scheme and
the host that its rest begins with. -/
theorem absoluteHttp_append {scheme : List Char} (whole : ':' ∉ scheme) (rest : List Char) :
    AbsoluteHttp (scheme ++ ':' :: '/' :: '/' :: rest) ↔
      scheme.map Char.toLower ∈ httpSchemes ∧ hostOf (rest.takeWhile inAuthority) ≠ [] := by
  rw [AbsoluteHttp, cutAt_append whole]
  simp

end AbsoluteUrls

end ApiGateway.Urls
