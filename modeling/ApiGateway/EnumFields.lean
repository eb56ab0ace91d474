import ApiGateway.AdminCreates
import ApiGateway.Library.Trimming

/-!
# The enum fields of services and endpoints

A request names a member of an enumeration by a text, and a text that does not
parse falls back: on creation to a default or to none, on an update to the
existing value.

The platform's parser also takes an integer, whether or not it is the number of a
member, and a list of names, whose numbers it joins bit by bit.
-/

namespace ApiGateway.Admin

open Effects Assignment

section Parsing

/-- The member whose name is the text, ignoring case and surrounding white space. -/
def namedMember (caseMap : CaseMap) (names : List Text) (text : Text) : Option Nat :=
  names.findIdx? (fun name => Text.equalsIgnoreCase caseMap name (Text.trim text))

/-- The number that the text spells. -/
def integerText (text : Text) : Option Int := parseInt32 (text.dropWhile isWhiteSpace)

/-- The number of a list of two or more names. -/
def listedNames (caseMap : CaseMap) (names : List Text) (text : Text) : Option Int :=
  if ',' ∈ text then parseNames caseMap names (text.dropWhile isWhiteSpace) else none

/-- A number begins with a digit or a sign. -/
def beginsNumber (first : Char) : Bool := first.isDigit || first == '-' || first == '+'

/-- Names are neither numbers nor lists. -/
def AreNames (names : List Text) : Prop :=
  ∀ name ∈ names, ',' ∉ name ∧ (name.head?.any (fun first => !beginsNumber first)) = true

instance (names : List Text) : Decidable (AreNames names) :=
  inferInstanceAs (Decidable (∀ name ∈ names, _))

variable {caseMap : CaseMap} {names : List Text} {text : Text}

/-- A character that begins a number, or the comma. -/
def isSpecial (symbol : Char) : Bool := beginsNumber symbol || symbol == ','

/-- Such a character is no letter, has no case and is not white space. -/
structure Symbolic (symbol : Char) : Prop where
  ascii : symbol.toNat < 128
  notLetter : symbol.isAlpha = false
  caseless : symbol.toUpper = symbol
  visible : isWhiteSpace symbol = false

theorem symbolic_code (code : Fin 128) (special : isSpecial (Char.ofNat code) = true) :
    (Char.ofNat code).isAlpha = false ∧ (Char.ofNat code).toUpper = Char.ofNat code ∧
      isWhiteSpace (Char.ofNat code) = false := by
  revert code
  decide

theorem special_ascii {symbol : Char} (special : isSpecial symbol = true) : symbol.toNat < 128 := by
  simp only [isSpecial, beginsNumber, Bool.or_eq_true, beq_iff_eq] at special
  rcases special with ((digit | rfl) | rfl) | rfl
  · exact Nat.lt_of_le_of_lt (Char.isDigit_iff_toNat.mp digit).2 (by decide)
  · decide
  · decide
  · decide

theorem symbolic {symbol : Char} (special : isSpecial symbol = true) : Symbolic symbol := by
  have ascii := special_ascii special
  have same : Char.ofNat symbol.toNat = symbol := Char.ofNat_toNat symbol
  have code := symbolic_code ⟨symbol.toNat, ascii⟩ (by rwa [same])
  rw [same] at code
  exact ⟨ascii, code.1, code.2.1, code.2.2⟩

/-- Such a character is its own upper case and no other character's. -/
theorem upper_special_iff {symbol : Char} (special : isSpecial symbol = true) (character : Char) :
    caseMap.upper character = caseMap.upper symbol ↔ character = symbol := by
  have facts := symbolic special
  constructor
  · intro became
    rw [caseMap.upper_ascii symbol facts.ascii, facts.caseless] at became
    exact caseMap.upper_symbol symbol facts.ascii facts.notLetter character became
  · rintro rfl
    rfl

/-- A text that equals a name, ignoring case, has such characters where the name
has them. -/
theorem special_of_equals {name : Text} (same : Text.equalsIgnoreCase caseMap name text = true)
    {symbol : Char} (special : isSpecial symbol = true) :
    (symbol ∈ text → symbol ∈ name) ∧ (text.head? = some symbol → name.head? = some symbol) := by
  rw [Text.equalsIgnoreCase, beq_iff_eq, Text.toUpperInvariant, Text.toUpperInvariant] at same
  constructor
  · intro member
    have upper : caseMap.upper symbol ∈ name.map caseMap.upper := by
      rw [same]
      exact List.mem_map_of_mem member
    obtain ⟨character, ofName, became⟩ := List.mem_map.mp upper
    rw [upper_special_iff special] at became
    exact became ▸ ofName
  · intro begins
    have upper : (name.head?).map caseMap.upper = some (caseMap.upper symbol) := by
      rw [← List.head?_map, same, List.head?_map, begins, Option.map_some]
    obtain ⟨character, first, became⟩ := Option.map_eq_some_iff.mp upper
    rw [upper_special_iff special] at became
    rw [first, became]

/-- No name equals an empty text, a list or what begins a number. -/
theorem unnamed_of (areNames : AreNames names)
    (different : text = [] ∨ ',' ∈ text ∨ text.head?.any beginsNumber = true) :
    names.findIdx? (fun name => Text.equalsIgnoreCase caseMap name text) = none := by
  rw [List.findIdx?_eq_none_iff]
  intro name listed
  obtain ⟨noComma, begins⟩ := areNames name listed
  by_contra equal
  rw [Bool.not_eq_false] at equal
  rcases different with rfl | list | number
  · cases name with
    | nil => cases begins
    | cons first rest => simp [Text.equalsIgnoreCase, Text.toUpperInvariant] at equal
  · exact noComma ((special_of_equals equal (by decide)).1 list)
  · obtain ⟨first, found, numeric⟩ : ∃ first, text.head? = some first ∧ beginsNumber first = true := by
      cases begun : text.head? with
      | none => simp [begun] at number
      | some first => exact ⟨first, rfl, by simpa [begun] using number⟩
    have special : isSpecial first = true := by simp [isSpecial, numeric]
    rw [(special_of_equals equal special).2 found] at begins
    simp [numeric] at begins

theorem parseInt32_of_not_number (other : text.head?.any beginsNumber = false) :
    parseInt32 text = none := by
  cases text with
  | nil => rfl
  | cons first rest =>
    simp only [List.head?_cons, Option.any_some, beginsNumber, Bool.or_eq_false_iff,
      beq_eq_false_iff_ne, ne_eq] at other
    obtain ⟨⟨notDigit, notMinus⟩, notPlus⟩ := other
    simp [parseInt32, notDigit, notMinus, notPlus]

/-- Trimming keeps what begins a number in front. -/
theorem head_trim_of_number {first : Char} (rest : Text) (number : beginsNumber first = true) :
    (Text.trim (first :: rest)).head? = some first := by
  have visible : isWhiteSpace first = false := (symbolic (by simp [isSpecial, number])).visible
  have begins : (first :: rest).dropWhile isWhiteSpace = first :: rest := by
    simp [visible]
  obtain ⟨kept, left, _⟩ := Trimming.trim_cons begins
  change (Trimming.trim isWhiteSpace (first :: rest)).head? = some first
  rw [left, List.head?_cons]

/-- A list that begins as a number is not one of names. -/
theorem parseNames_of_number (areNames : AreNames names) {first : Char} (rest : Text)
    (number : beginsNumber first = true) : parseNames caseMap names (first :: rest) = none := by
  have noComma : (first == ',') = false := by
    rw [beq_eq_false_iff_ne]
    rintro rfl
    revert number
    decide
  obtain ⟨piece, pieces, cut⟩ := List.exists_cons_of_ne_nil (List.splitOn_ne_nil ',' rest)
  have unnamed : names.findIdx? (fun name =>
      Text.equalsIgnoreCase caseMap name (Text.trim (first :: piece))) = none := by
    apply unnamed_of areNames
    rw [head_trim_of_number piece number]
    exact Or.inr (Or.inr (by simpa using number))
  rw [parseNames, Text.split, List.splitOn_cons_eq_if_modifyHead, noComma, cut]
  simp [unnamed]

/-- A text without a comma is a list of one name. -/
theorem parseNames_single (single : ',' ∉ text) :
    parseNames caseMap names text = (namedMember caseMap names text).map Int.ofNat := by
  rw [parseNames, Text.split, List.splitOn_eq_singleton single, namedMember]
  cases found : names.findIdx? (fun name => Text.equalsIgnoreCase caseMap name (Text.trim text)) with
  | none => simp [found]
  | some index => simp [found]

theorem namedMember_dropWhile :
    namedMember caseMap names (text.dropWhile isWhiteSpace) = namedMember caseMap names text := by
  have same : Text.trim (text.dropWhile isWhiteSpace) = Text.trim text :=
    Trimming.trim_dropWhile
  rw [namedMember, namedMember, same]

/-- What is blank, begins a number or has a comma names no member. -/
theorem namedMember_none (areNames : AreNames names)
    (different : text.dropWhile isWhiteSpace = [] ∨ ',' ∈ text ∨
      (text.dropWhile isWhiteSpace).head?.any beginsNumber = true) :
    namedMember caseMap names text = none := by
  apply unnamed_of areNames
  rcases different with blank | list | number
  · exact Or.inl (Trimming.trim_nil blank)
  · exact Or.inr (Or.inl ((Trimming.mem_trim_iff (by decide)).mpr list))
  · cases begins : text.dropWhile isWhiteSpace with
    | nil => simp [begins] at number
    | cons first rest =>
      have numeric : beginsNumber first = true := by simpa [begins] using number
      have same : Text.trim text = Text.trim (first :: rest) := by
        rw [← begins]
        exact Trimming.trim_dropWhile.symm
      rw [same, head_trim_of_number rest numeric]
      exact Or.inr (Or.inr (by simpa using numeric))

/-- The parser takes a name, an integer or a list. -/
theorem tryParse_eq (areNames : AreNames names) :
    tryParse caseMap names text = ((namedMember caseMap names text).map Int.ofNat).or
      ((integerText text).or (listedNames caseMap names text)) := by
  have single : ',' ∉ text → listedNames caseMap names text = none ∧
      parseNames caseMap names (text.dropWhile isWhiteSpace) =
        (namedMember caseMap names text).map Int.ofNat := by
    intro noComma
    have noCommaLeft : ',' ∉ text.dropWhile isWhiteSpace :=
      fun member => noComma ((List.dropWhile_suffix _).subset member)
    rw [listedNames, if_neg noComma, parseNames_single noCommaLeft, namedMember_dropWhile]
    exact ⟨rfl, rfl⟩
  cases begins : text.dropWhile isWhiteSpace with
  | nil =>
    have noComma : ',' ∉ text := by
      intro member
      have blank := List.dropWhile_eq_nil_iff.mp begins ',' member
      revert blank
      decide
    rw [tryParse, begins, namedMember_none areNames (Or.inl begins), (single noComma).1, integerText,
      begins]
    rfl
  | cons first rest =>
    by_cases number : beginsNumber first = true
    · have numeric : (text.dropWhile isWhiteSpace).head?.any beginsNumber = true := by
        simpa [begins] using number
      have unlisted : listedNames caseMap names text = none := by
        rw [listedNames, begins, parseNames_of_number areNames rest number, ite_self]
      rw [tryParse, begins, namedMember_none areNames (Or.inr (Or.inr numeric)), unlisted, integerText,
        begins]
      have taken : (first.isDigit || first == '-' || first == '+') = true := number
      simp [taken]
    · have uncounted : integerText text = none := by
        apply parseInt32_of_not_number
        simpa [begins] using number
      have taken : (first.isDigit || first == '-' || first == '+') = false := by
        simpa [beginsNumber] using number
      have parsed : tryParse caseMap names text =
          parseNames caseMap names (text.dropWhile isWhiteSpace) := by
        rw [tryParse, begins]
        simp [taken]
      rw [parsed, uncounted]
      by_cases list : ',' ∈ text
      · rw [namedMember_none areNames (Or.inr (Or.inl list)), listedNames, if_pos list]
        rfl
      · rw [(single list).1, (single list).2]
        simp

/-- A name is neither an integer nor a list. -/
theorem namedMember_alone (areNames : AreNames names) {index : Nat}
    (named : namedMember caseMap names text = some index) :
    integerText text = none ∧ listedNames caseMap names text = none := by
  constructor
  · apply parseInt32_of_not_number
    by_contra number
    rw [Bool.not_eq_false] at number
    rw [namedMember_none areNames (Or.inr (Or.inr number))] at named
    cases named
  · rw [listedNames, if_neg]
    intro list
    rw [namedMember_none areNames (Or.inr (Or.inl list))] at named
    cases named

end Parsing

/-- The enum fields of the requests for services and endpoints. -/
inductive EnumField where
  | environment
  | loadBalancingPolicy
  | defaultCryptoAlgorithm
  | defaultKeySource
  | defaultIvSource
  | defaultEncoding
  | payloadExpectation
  | cryptoAlgorithm
  | keySource
  | ivSource
  | encoding

namespace EnumField

def table : EnumField → AdminTable
  | .payloadExpectation | .cryptoAlgorithm | .keySource | .ivSource | .encoding => .endpoints
  | _ => .services

def column : (field : EnumField) → field.table.Column
  | .environment => ServiceColumn.environment
  | .loadBalancingPolicy => ServiceColumn.loadBalancingPolicy
  | .defaultCryptoAlgorithm => ServiceColumn.defaultCryptoAlgorithm
  | .defaultKeySource => ServiceColumn.defaultKeySource
  | .defaultIvSource => ServiceColumn.defaultIvSource
  | .defaultEncoding => ServiceColumn.defaultEncoding
  | .payloadExpectation => EndpointColumn.payloadExpectation
  | .cryptoAlgorithm => EndpointColumn.cryptoAlgorithm
  | .keySource => EndpointColumn.keySource
  | .ivSource => EndpointColumn.ivSource
  | .encoding => EndpointColumn.encoding

/-- The handler that creates the row. -/
def post : (field : EnumField) → CreateHandler field.table.Column
  | .environment | .loadBalancingPolicy | .defaultCryptoAlgorithm | .defaultKeySource
  | .defaultIvSource | .defaultEncoding => postService
  | .payloadExpectation | .cryptoAlgorithm | .keySource | .ivSource | .encoding => postEndpoint

def names : EnumField → List Text
  | .environment => environmentTypeNames
  | .loadBalancingPolicy => loadBalancingPolicyNames
  | .defaultCryptoAlgorithm | .cryptoAlgorithm => cryptoAlgorithmNames
  | .defaultKeySource | .keySource => keySourceNames
  | .defaultIvSource | .ivSource => ivSourceNames
  | .defaultEncoding | .encoding => encodingNames
  | .payloadExpectation => payloadExpectationNames

/-- An endpoint's crypto settings may be null. -/
def nullable : EnumField → Bool
  | .cryptoAlgorithm | .keySource | .ivSource | .encoding => true
  | _ => false

/-- The number of the member that a creation falls back to. -/
def fallback : EnumField → Option Int
  | .defaultCryptoAlgorithm => some 2
  | .cryptoAlgorithm | .keySource | .ivSource | .encoding => none
  | _ => some 0

/-- The number of the member that an update falls back to where the column is null. -/
def initial (field : EnumField) : Option Int := if field.nullable then none else some 0

end EnumField

/-- A text as the value of a property. -/
def stringValue (text : Text) : PropertyType.Carrier .string := text

/-- A property that is a text has this one. -/
def Carries {property : PropertyType} (value : Option property.Carrier) (text : Text) : Prop :=
  ∃ string : property = .string,
    value = some (cast (congrArg PropertyType.Carrier string.symm) (stringValue text))

section Handlers

variable {conversions : Conversions} {text : Text} {field : EnumField}

theorem EnumField.areNames (field : EnumField) : AreNames field.names := by
  cases field <;> decide

/-- A property that is parsed as an enumeration. -/
def parsing (names : List Text) (whenAbsent : WhenAbsent) (whenInvalid : WhenInvalid) : Assignment :=
  ⟨.string, fun conversions value => (tryParse conversions.caseMap names value).map Value.member,
    whenAbsent, whenInvalid⟩

/-- What is sent for a text that does not parse. -/
def unparsed (stored : Option Value) : WhenAbsent → WhenInvalid → Option Value
  | _, .null => none
  | .existing initial, .existing => stored.or initial
  | .constant value, .existing => value

/-- Such a property sends what the text parses to. -/
theorem sent_parsing {names : List Text} {whenAbsent : WhenAbsent} {whenInvalid : WhenInvalid}
    {request : Option (parsing names whenAbsent whenInvalid).property.Carrier}
    (carries : Carries request text) (stored : Option Value) :
    (parsing names whenAbsent whenInvalid).sent conversions request stored =
      ((tryParse conversions.caseMap names text).map Value.member).or
        (unparsed stored whenAbsent whenInvalid) := by
  obtain ⟨string, rfl⟩ := carries
  have asked : (parsing names whenAbsent whenInvalid).requested conversions
      (cast (congrArg PropertyType.Carrier string.symm) (stringValue text)) =
        (tryParse conversions.caseMap names text).map Value.member := rfl
  rw [Assignment.sent]
  simp only [asked]
  cases (tryParse conversions.caseMap names text).map Value.member with
  | some number => rfl
  | none => cases whenInvalid <;> cases whenAbsent <;> rfl

theorem sent_post {request : CreateRequest field.post}
    (carries : Carries (request field.column) text) :
    (field.post.assignment field.column).sent conversions (request field.column) none =
      ((tryParse conversions.caseMap field.names text).map Value.member).or
        (field.fallback.map Value.member) := by
  cases field <;> exact sent_parsing carries none

theorem sent_put {request : Request field.table} (carries : Carries (request field.column) text)
    (held : Option Value) :
    (field.table.put.assignment field.column).sent conversions (request field.column) held =
      ((tryParse conversions.caseMap field.names text).map Value.member).or
        (if field.nullable then none else held.or (some (.member 0))) := by
  cases field <;> exact sent_parsing carries held

end Handlers

section Storing

variable {Others : Type}

/-- The number of a text that is no name. -/
def unnamedNumber (caseMap : CaseMap) (names : List Text) (text : Text) : Option Int :=
  (integerText text).or (listedNames caseMap names text)

/-- What the server makes of the number of a member. -/
def EnumField.number (field : EnumField) (postgres : Postgres Others) (number : Int) : Value :=
  postgres.convert field.table field.column (.member number)

/-- What a column should hold: the member that is named, else what the handler falls
back to. -/
def intended (field : EnumField) (postgres : Postgres Others) (conversions : Conversions)
    (text : Text) (otherwise : Option Value) : Option Value :=
  ((namedMember conversions.caseMap field.names text).map
    (fun index => field.number postgres (Int.ofNat index))).or otherwise

/-- What a creation falls back to. -/
def EnumField.created (field : EnumField) (postgres : Postgres Others) : Option Value :=
  field.fallback.map (field.number postgres)

/-- What an update falls back to: the value that the column holds. -/
def EnumField.kept (field : EnumField) (postgres : Postgres Others) (held : Option Value) :
    Option Value :=
  held.or (field.initial.map (field.number postgres))

/-- What a column holds in the row of an identifier. -/
def stored (field : EnumField) (tables : Tables Others) (id : Guid) : Option Value :=
  (tables.rows field.table id).bind (fun row => row field.column)

variable {conversions : Conversions} {text : Text} {field : EnumField} {id : Guid}
  {tables : Tables Others}

theorem stored_setRow (row : Row field.table) :
    stored field (tables.setRow id row) id = row field.column := by
  rw [stored, setRow_rows_self, Option.bind_some]

/-- A creation stores what the text parses to, else what it falls back to. -/
theorem stored_create {postgres : InsertingPostgres Others} {request : CreateRequest field.post}
    (carries : Carries (request field.column) text)
    (creates : Creates field.post postgres conversions id request tables) :
    stored field (createAsync field.post postgres conversions id request tables).2 id =
      ((tryParse conversions.caseMap field.names text).map (field.number postgres.toPostgres)).or
        (field.created postgres.toPostgres) := by
  have listed : field.post.unlisted field.column = none := by
    cases field <;> rfl
  have literal : field.post.replacesNull field.column = none := by
    cases field <;> rfl
  rw [createAsync_run creates, stored_setRow, createdRow, listed]
  simp only [inserted, sent_post carries, literal, Option.or_none, Option.map_or, Option.map_map,
    EnumField.created]
  rfl

/-- An update stores what the text parses to, else what the column holds. -/
theorem stored_put {postgres : Postgres Others} {request : Request field.table}
    {row : Row field.table} (carries : Carries (request field.column) text)
    (present : tables.rows field.table id = some row)
    (settled : ∀ value, row field.column = some value →
      postgres.convert field.table field.column value = value)
    (accepts : Accepts postgres conversions field.table id request tables row) :
    stored field (put postgres conversions field.table id request tables).2 id =
      ((tryParse conversions.caseMap field.names text).map (field.number postgres)).or
        (field.kept postgres (row field.column)) := by
  have unstamped : field.table.put.stamped field.column = false := by
    cases field <;> rfl
  have loads : field.table.put.loadsExisting = true := by
    cases field <;> rfl
  rw [put_accepted present accepts, stored_setRow, coalesced, unstamped, parameters, loaded,
    if_pos loads, sent_put carries]
  cases tryParse conversions.caseMap field.names text with
  | some number => rfl
  | none =>
    cases held : row field.column with
    | none => cases nullable : field.nullable <;> simp [EnumField.kept, EnumField.initial, nullable,
        EnumField.number]
    | some value => cases field.nullable <;> simp [EnumField.kept, settled value held]

/-- Storing what the text parses to is as intended exactly if a number that it has
without being a name is the one that is fallen back to. -/
theorem intended_iff (postgres : Postgres Others) (otherwise : Option Value) :
    ((tryParse conversions.caseMap field.names text).map (field.number postgres)).or otherwise =
        intended field postgres conversions text otherwise ↔
      ∀ number, unnamedNumber conversions.caseMap field.names text = some number →
        otherwise = some (field.number postgres number) := by
  rw [intended, tryParse_eq field.areNames]
  cases named : namedMember conversions.caseMap field.names text with
  | some index =>
    obtain ⟨noInteger, noList⟩ := namedMember_alone field.areNames named
    simp [unnamedNumber, noInteger, noList]
  | none =>
    change ((unnamedNumber conversions.caseMap field.names text).map _).or otherwise = otherwise ↔ _
    cases unnamedNumber conversions.caseMap field.names text with
    | none => simp
    | some number => simp [eq_comm]

end Storing

/-- A create or an update request stores the member that its text names, else what
the handler falls back to, exactly if an integer or a list of names that the text
is stands for what is fallen back to. -/
theorem enumField_stored_iff {Others : Type} (postgres : InsertingPostgres Others)
    (conversions : Conversions) (field : EnumField) (text : Text) (id : Guid)
    (tables : Tables Others) :
    (∀ request : CreateRequest field.post, Carries (request field.column) text →
      Creates field.post postgres conversions id request tables →
        (stored field (createAsync field.post postgres conversions id request tables).2 id =
            intended field postgres.toPostgres conversions text (field.created postgres.toPostgres) ↔
          ∀ number, unnamedNumber conversions.caseMap field.names text = some number →
            field.created postgres.toPostgres = some (field.number postgres.toPostgres number))) ∧
      ∀ (request : Request field.table) (row : Row field.table),
        Carries (request field.column) text → tables.rows field.table id = some row →
        (∀ value, row field.column = some value →
          postgres.convert field.table field.column value = value) →
        Accepts postgres.toPostgres conversions field.table id request tables row →
          (stored field (put postgres.toPostgres conversions field.table id request tables).2 id =
              intended field postgres.toPostgres conversions text
                (field.kept postgres.toPostgres (row field.column)) ↔
            ∀ number, unnamedNumber conversions.caseMap field.names text = some number →
              field.kept postgres.toPostgres (row field.column) =
                some (field.number postgres.toPostgres number)) := by
  constructor
  · intro request carries creates
    rw [stored_create carries creates]
    exact intended_iff postgres.toPostgres _
  · intro request row carries present settled accepts
    rw [stored_put carries present settled accepts]
    exact intended_iff postgres.toPostgres _

/-- A service whose environment is the number of no member. -/
def numberedEnvironment : CreateRequest postService := fun (column : ServiceColumn) =>
  match column with
  | .environment => some "7".toList
  | _ => none

/-- An endpoint under a list of two algorithms. -/
def listedAlgorithms : CreateRequest postEndpoint := fun (column : EndpointColumn) =>
  match column with
  | .cryptoAlgorithm => some "AES_128_CBC, AES_256_GCM".toList
  | _ => none

/-- Tables without rows. -/
def noRows : Tables Unit where
  rows := fun _ _ => none
  others := ()

/-- The environment that the first of them stores. -/
def numberedStored : Option Value :=
  stored .environment (createAsync (EnumField.post .environment) lenientInserting plainConversions
    (Guid.numbered 1) numberedEnvironment noRows).2 (Guid.numbered 1)

/-- The algorithm that the second of them stores. -/
def listedStored : Option Value :=
  stored .cryptoAlgorithm (createAsync (EnumField.post .cryptoAlgorithm) lenientInserting
    plainConversions (Guid.numbered 1) listedAlgorithms noRows).2 (Guid.numbered 1)

theorem enumField_stored_iff_numbered :
    numberedStored = intended .environment lenientInserting.toPostgres plainConversions "7".toList
        (EnumField.created .environment lenientInserting.toPostgres) ↔
    ∀ number, unnamedNumber asciiCase environmentTypeNames "7".toList = some number →
      EnumField.created .environment lenientInserting.toPostgres =
        some (EnumField.number .environment lenientInserting.toPostgres number) :=
  (enumField_stored_iff lenientInserting plainConversions .environment "7".toList (Guid.numbered 1)
    noRows).1 numberedEnvironment ⟨rfl, rfl⟩ ⟨rfl, rfl⟩

/-- The environment becomes a number outside the enumeration, and the list of two
algorithms a third one. -/
theorem numbers_stored :
    (numberedStored = some (.member 7) ∧
        numberedStored ≠ intended .environment lenientInserting.toPostgres plainConversions
          "7".toList (EnumField.created .environment lenientInserting.toPostgres)) ∧
      (listedStored = some (.member 3) ∧
        listedStored ≠ intended .cryptoAlgorithm lenientInserting.toPostgres plainConversions
          "AES_128_CBC, AES_256_GCM".toList
          (EnumField.created .cryptoAlgorithm lenientInserting.toPostgres)) := by
  constructor
  · have parsed := @stored_create _ plainConversions "7".toList .environment (Guid.numbered 1) noRows
      lenientInserting numberedEnvironment ⟨rfl, rfl⟩ ⟨rfl, rfl⟩
    have ran : numberedStored = some (.member 7) := parsed.trans (by decide)
    rw [ran]
    decide
  · have parsed := @stored_create _ plainConversions "AES_128_CBC, AES_256_GCM".toList .cryptoAlgorithm
      (Guid.numbered 1) noRows lenientInserting listedAlgorithms ⟨rfl, rfl⟩ ⟨rfl, rfl⟩
    have ran : listedStored = some (.member 3) := parsed.trans (by decide)
    rw [ran]
    decide

end ApiGateway.Admin
