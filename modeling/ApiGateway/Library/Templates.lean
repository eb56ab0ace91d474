import ApiGateway.Library.Literals

/-!
# Templates with named fields

A template is text with the names of fields in braces, where two braces stand for one.
It is cut into its pieces before any value is put in, so that braces in a value stay as
they are.

Where all values are literals, the filled template is read as the template is, with the
values in place of the fields.
-/

namespace ApiGateway.Templates

open Literals

inductive Piece where
  | text (letters : List Char)
  | field (name : List Char)

/-- Put a letter before the pieces. -/
def addLetter (letter : Char) : List Piece → List Piece
  | .text letters :: rest => .text (letter :: letters) :: rest
  | pieces => .text [letter] :: pieces

/-- The pieces from a place within or outside of a field's name on. A name that is not
closed and a closing brace that closes none are errors. -/
def parseFrom : Option (List Char) → List Char → Option (List Piece)
  | none, [] => some []
  | some _, [] => none
  | none, [last] => if last = '{' ∨ last = '}' then none else some [.text [last]]
  | none, first :: second :: rest =>
    if first = '{' then
      if second = '{' then (parseFrom none rest).map (addLetter '{')
      else parseFrom (some []) (second :: rest)
    else if first = '}' then
      if second = '}' then (parseFrom none rest).map (addLetter '}') else none
    else (parseFrom none (second :: rest)).map (addLetter first)
  | some name, first :: rest =>
    if first = '}' then (parseFrom none rest).map (.field name :: ·)
    else if first = '{' then none
    else parseFrom (some (name ++ [first])) rest

def parse (template : List Char) : Option (List Piece) := parseFrom none template

def fill (fields : List (List Char × List Char)) : Piece → Option (List Char)
  | .text letters => some letters
  | .field name => fields.lookup name

def fillAll (fields : List (List Char × List Char)) (pieces : List Piece) : Option (List Char) :=
  (pieces.mapM (fill fields)).map List.flatten

/-- A letter or an underscore and then letters, digits and underscores. -/
def isIdentifier : List Char → Bool
  | [] => false
  | first :: rest =>
    (first.isAlpha || first == '_') && rest.all (fun letter => letter.isAlphanum || letter == '_')

/-- The template with the values of its fields, which are all named by identifiers, with
neither conversions nor formats of their own. A field without a value is an error. -/
def format (fields : List (List Char × List Char)) (template : List Char) : Option (List Char) :=
  (parse template).bind (fillAll fields)

section Formatting

variable {fields : List (List Char × List Char)} {name value : List Char}

/-- Without braces. -/
def Braceless (text : List Char) : Prop := '{' ∉ text ∧ '}' ∉ text

theorem braceless_cons {first : Char} {rest : List Char} (plain : Braceless (first :: rest)) :
    (first ≠ '{' ∧ first ≠ '}') ∧ Braceless rest := by
  obtain ⟨opens, closes⟩ := plain
  rw [List.mem_cons, not_or] at opens closes
  exact ⟨⟨Ne.symm opens.1, Ne.symm closes.1⟩, opens.2, closes.2⟩

theorem braceless_of_identifier (named : isIdentifier name = true) : Braceless name := by
  have letters : ∀ letter ∈ name, (letter.isAlphanum || letter == '_') = true := by
    cases name with
    | nil => cases named
    | cons first rest =>
      rw [isIdentifier, Bool.and_eq_true, List.all_eq_true] at named
      refine List.forall_mem_cons.mpr ⟨?_, named.2⟩
      rw [Char.isAlphanum, Bool.or_right_comm, named.1, Bool.true_or]
  exact ⟨fun opens => absurd (letters _ opens) (by decide),
    fun closes => absurd (letters _ closes) (by decide)⟩

theorem fillAll_nil : fillAll fields [] = some [] := rfl

theorem fillAll_cons (piece : Piece) (pieces : List Piece) :
    fillAll fields (piece :: pieces) =
      (fill fields piece).bind (fun filled => (fillAll fields pieces).map (filled ++ ·)) := by
  rw [fillAll, List.mapM_cons]
  cases fill fields piece with
  | none => rfl
  | some filled =>
    rw [fillAll]
    cases pieces.mapM (fill fields) with
    | none => simp
    | some others => simp

theorem fillAll_addLetter (letter : Char) (pieces : List Piece) :
    fillAll fields (addLetter letter pieces) = (fillAll fields pieces).map (letter :: ·) := by
  cases pieces with
  | nil => rfl
  | cons piece rest =>
    cases piece with
    | text letters =>
      rw [addLetter, fillAll_cons, fillAll_cons, fill, fill, Option.bind_some, Option.bind_some,
        Option.map_map]
      rfl
    | field name =>
      rw [addLetter, fillAll_cons, fill, Option.bind_some]
      · rfl
      · simp

/-- A letter that is no brace is copied. -/
theorem format_cons {letter : Char} (plain : letter ≠ '{' ∧ letter ≠ '}') (rest : List Char) :
    format fields (letter :: rest) = (format fields rest).map (letter :: ·) := by
  have parsed : parse (letter :: rest) = (parse rest).map (addLetter letter) := by
    cases rest with
    | nil =>
      rw [parse, parseFrom, if_neg (by rw [not_or]; exact plain)]
      rfl
    | cons second others =>
      rw [parse, parseFrom, if_neg plain.1, if_neg plain.2]
      rfl
  rw [format, parsed, format]
  cases parse rest with
  | none => rfl
  | some pieces => exact fillAll_addLetter letter pieces

theorem format_append {before : List Char} (plain : Braceless before) (rest : List Char) :
    format fields (before ++ rest) = (format fields rest).map (before ++ ·) := by
  induction before with
  | nil => simp
  | cons first others ih =>
    obtain ⟨letter, later⟩ := braceless_cons plain
    rw [List.cons_append, format_cons letter, ih later, Option.map_map]
    rfl

theorem format_braceless {text : List Char} (plain : Braceless text) :
    format fields text = some text := by
  have copied := @format_append fields text plain []
  rw [List.append_nil] at copied
  rw [copied]
  simp [format, parse, parseFrom, fillAll_nil]

theorem parseFrom_name (plain : Braceless name) (former rest : List Char) :
    parseFrom (some former) (name ++ '}' :: rest) =
      (parse rest).map (.field (former ++ name) :: ·) := by
  induction name generalizing former with
  | nil => rw [List.nil_append, parseFrom, if_pos rfl, List.append_nil, parse]
  | cons first others ih =>
    obtain ⟨letter, later⟩ := braceless_cons plain
    rw [List.cons_append, parseFrom, if_neg letter.2, if_neg letter.1, ih later, List.append_assoc]
    rfl

/-- A field is replaced by its value as it stands. -/
theorem format_field (plain : Braceless name) (given : fields.lookup name = some value)
    (rest : List Char) :
    format fields ('{' :: (name ++ '}' :: rest)) = (format fields rest).map (value ++ ·) := by
  have parsed : parse ('{' :: (name ++ '}' :: rest)) = (parse rest).map (.field name :: ·) := by
    have named := parseFrom_name plain [] rest
    rw [List.nil_append] at named
    rw [← named]
    cases name with
    | nil => rfl
    | cons first others =>
      obtain ⟨letter, _⟩ := braceless_cons plain
      rw [parse, List.cons_append, parseFrom, if_pos rfl, if_neg letter.1]
  rw [format, parsed, format]
  cases parse rest with
  | none => rfl
  | some pieces =>
    rw [Option.map_some, Option.bind_some, fillAll_cons, fill, given, Option.bind_some,
      Option.bind_some]

end Formatting

section Readings

/-- Where the value of a literal comes from. -/
inductive Source where
  | constant (value : List Char)
  | field (name : List Char)
deriving DecidableEq

def Source.value (values : List (List Char × List Char)) : Source → List Char
  | .constant value => value
  | .field name => (values.lookup name).getD []

def Piece.reading (quote : Char) : Piece → Option (List (Token Char Source))
  | .text letters => (read quote letters).map (List.map (Token.map .constant))
  | .field name => some [.literal (.field name)]

/-- The tokens of a template whose fields are literals. -/
def reading (quote : Char) (template : List Char) : Option (List (Token Char Source)) :=
  (parse template).bind (fun pieces => (pieces.mapM (Piece.reading quote)).map List.flatten)

/-- The tokens of a template, none if it has no reading. -/
def tokens (quote : Char) (template : List Char) : List (Token Char Source) :=
  (reading quote template).getD []

/-- The tokens with the values of the fields. -/
def filled (values : List (List Char × List Char)) (template : List (Token Char Source)) :
    List (Token Char (List Char)) :=
  template.map (Token.map (Source.value values))

def quotedFields (quote : Char) (values : List (List Char × List Char)) :
    List (List Char × List Char) :=
  values.map (fun field => (field.1, quoted quote field.2))

/-- The template has a reading with literals apart, and its fields have some of the
names. -/
def Readable (quote : Char) (names : List (List Char)) (template : List Char) : Bool :=
  (reading quote template).any (fun tokens =>
    decide (Apart quote (tokens.map Token.shape)) &&
      (tokens.filterMap Token.content).all (fun source =>
        match source with
        | .constant _ => true
        | .field name => names.contains name))

variable {quote : Char} {values : List (List Char × List Char)}

theorem lookup_quotedFields (name : List Char) :
    (quotedFields quote values).lookup name = (values.lookup name).map (quoted quote) := by
  induction values with
  | nil => rfl
  | cons field rest ih =>
    rw [quotedFields, List.map_cons, List.lookup_cons, List.lookup_cons]
    cases name == field.1 with
    | true => rfl
    | false => exact ih

theorem lookup_isSome {name : List Char} (named : name ∈ values.map Prod.fst) :
    ∃ value, values.lookup name = some value := by
  induction values with
  | nil => cases named
  | cons field rest ih =>
    rw [List.lookup_cons]
    cases same : name == field.1 with
    | true => exact ⟨field.2, rfl⟩
    | false =>
      rw [List.map_cons, List.mem_cons] at named
      exact ih (named.resolve_left (beq_eq_false_iff_ne.mp same))

theorem filled_constant (tokens : List (Token Char (List Char))) :
    filled values (tokens.map (Token.map Source.constant)) = tokens := by
  rw [filled, List.map_map]
  refine (List.map_congr_left fun token _ => ?_).trans (List.map_id tokens)
  cases token <;> rfl

/-- A piece is filled with what its tokens are written as. -/
theorem fill_piece {piece : Piece} {part : List (Token Char Source)}
    (found : piece.reading quote = some part)
    (known : ∀ name, Source.field name ∈ part.filterMap Token.content →
      name ∈ values.map Prod.fst) :
    fill (quotedFields quote values) piece = some (written quote (filled values part)) := by
  cases piece with
  | text letters =>
    obtain ⟨tokens, read, rfl⟩ := Option.map_eq_some_iff.mp found
    rw [filled_constant, (read_eq_some_iff.mp read).1, fill]
  | field name =>
    cases found
    obtain ⟨value, given⟩ := lookup_isSome (known name List.mem_cons_self)
    rw [fill, lookup_quotedFields, given]
    simp [filled, Token.map, Source.value, given, written, Token.written]

theorem fillAll_reading {pieces : List Piece} {parts : List (List (Token Char Source))}
    (found : pieces.mapM (Piece.reading quote) = some parts)
    (known : ∀ name, Source.field name ∈ parts.flatten.filterMap Token.content →
      name ∈ values.map Prod.fst) :
    fillAll (quotedFields quote values) pieces =
      some (written quote (filled values parts.flatten)) := by
  induction pieces generalizing parts with
  | nil =>
    cases found
    rfl
  | cons piece rest ih =>
    rw [List.mapM_cons] at found
    obtain ⟨part, first, continued⟩ := Option.bind_eq_some_iff.mp found
    obtain ⟨others, later, same⟩ := Option.bind_eq_some_iff.mp continued
    cases same
    rw [List.flatten_cons, List.filterMap_append] at known
    rw [fillAll_cons,
      fill_piece first (fun name member => known name (List.mem_append_left _ member)),
      ih later (fun name member => known name (List.mem_append_right _ member))]
    simp [filled, written]

/-- A readable template is filled, and what it is filled with is read as the template. -/
theorem format_readable {template : List Char}
    (readable : Readable quote (values.map Prod.fst) template = true) :
    format (quotedFields quote values) template =
        some (written quote (filled values (tokens quote template))) ∧
      Apart quote ((tokens quote template).map Token.shape) := by
  cases given : reading quote template with
  | none =>
    rw [Readable, given] at readable
    cases readable
  | some found =>
    rw [Readable, given, Option.any_some, Bool.and_eq_true, decide_eq_true_eq,
      List.all_eq_true] at readable
    have spelled : tokens quote template = found := by
      rw [tokens, given, Option.getD_some]
    have known : ∀ name, Source.field name ∈ found.filterMap Token.content →
        name ∈ values.map Prod.fst :=
      fun name member => List.contains_iff_mem.mp (readable.2 _ member)
    rw [spelled]
    refine ⟨?_, readable.1⟩
    obtain ⟨pieces, parsed, continued⟩ := Option.bind_eq_some_iff.mp given
    obtain ⟨parts, mapped, rfl⟩ := Option.map_eq_some_iff.mp continued
    rw [format, parsed, Option.bind_some, fillAll_reading mapped known]

/-- The outline of a template's tokens. -/
def outlineOf (quote : Char) (template : List Char) : List (Option Char) :=
  (tokens quote template).map Token.shape

/-- Where the literals of a template come from. -/
def sourcesOf (quote : Char) (template : List Char) : List Source :=
  (tokens quote template).filterMap Token.content

/-- All templates are readable, and their literals come from some sources. -/
def ReadAs (quote : Char) (names : List (List Char)) (sources : List Source)
    (templates : List (List Char)) : Prop :=
  templates.all (Readable quote names) = true ∧ templates.flatMap (sourcesOf quote) = sources

instance (quote : Char) (names : List (List Char)) (sources : List Source)
    (templates : List (List Char)) : Decidable (ReadAs quote names sources templates) :=
  inferInstanceAs (Decidable (_ ∧ _))

/-- Readable templates are filled one by one, and each is read as itself. -/
theorem formats_readable {sources : List Source} {templates : List (List Char)}
    (readAs : ReadAs quote (values.map Prod.fst) sources templates) :
    ∃ texts, templates.mapM (format (quotedFields quote values)) = some texts ∧
      ReadsEach quote texts (templates.map (outlineOf quote))
        (sources.map (Source.value values)) := by
  obtain ⟨readable, rfl⟩ := readAs
  induction templates with
  | nil => exact ⟨[], rfl, .nil⟩
  | cons template rest ih =>
    rw [List.all_cons, Bool.and_eq_true] at readable
    obtain ⟨formatted, apart⟩ := format_readable readable.1
    obtain ⟨texts, others, each⟩ := ih readable.2
    have shapes : (filled values (tokens quote template)).map Token.shape =
        outlineOf quote template := by
      rw [filled, List.map_map, outlineOf]
      exact List.map_congr_left (fun token _ => Token.shape_map _ token)
    have contents : (filled values (tokens quote template)).filterMap Token.content =
        (sourcesOf quote template).map (Source.value values) := by
      rw [filled, List.filterMap_map, sourcesOf, List.map_filterMap]
      exact List.filterMap_congr (fun token _ => Token.content_map _ token)
    refine ⟨_ :: texts, by rw [List.mapM_cons, formatted, others]; rfl, ?_⟩
    rw [List.map_cons, List.flatMap_cons, List.map_append, ← shapes, ← contents]
    exact .cons (reads_written (by rw [shapes]; exact apart)) each

end Readings

section Spelling

/-- Strings and their letters. -/
inductive Spelled : List (List Char) → List (List Char) → Prop where
  | nil : Spelled [] []
  | cons (letters : List Char) {texts spellings : List (List Char)}
      (rest : Spelled texts spellings) :
      Spelled ((String.ofList letters).toList :: texts) (letters :: spellings)

theorem Spelled.eq {texts spellings : List (List Char)} (spelled : Spelled texts spellings) :
    texts = spellings := by
  induction spelled with
  | nil => rfl
  | cons letters _ ih => rw [ih, String.toList_ofList]

/-- What is to hold of strings may be checked on their letters, which saves decoding
them. -/
theorem Spelled.elim {texts spellings : List (List Char)} (property : List (List Char) → Prop)
    (spelled : Spelled texts spellings) (holds : property spellings) : property texts := by
  rw [spelled.eq]
  exact holds

end Spelling

end ApiGateway.Templates
