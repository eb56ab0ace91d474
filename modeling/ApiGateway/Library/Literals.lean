import Mathlib.Data.List.Chain

/-!
# Texts with quoted literals

A literal stands between two quotes, and a doubled quote within it stands for one. A
scanner reads one literal from its opening quote on. Reading a whole text gives its
literals and the symbols outside of them.

A text has a reading exactly if it is written from it. Then no literal follows another
at once and no symbol is a quote.
-/

namespace ApiGateway.Literals

universe u v w
variable {α : Type u} {β : Type v} {γ : Type w}

/-- A symbol outside of literals, or a literal. -/
inductive Token (α : Type u) (β : Type v) where
  | symbol (item : α)
  | literal (value : β)
deriving DecidableEq

namespace Token

/-- What is seen of a token when the values of literals are not. -/
def shape : Token α β → Option α
  | .symbol item => some item
  | .literal _ => none

/-- The value of a literal. -/
def content : Token α β → Option β
  | .symbol _ => none
  | .literal value => some value

def map (change : β → γ) : Token α β → Token α γ
  | .symbol item => .symbol item
  | .literal value => .literal (change value)

theorem shape_map (change : β → γ) (token : Token α β) :
    (token.map change).shape = token.shape := by
  cases token <;> rfl

theorem content_map (change : β → γ) (token : Token α β) :
    (token.map change).content = token.content.map change := by
  cases token <;> rfl

end Token

variable [DecidableEq α] {quote : α}

/-- A value with every quote doubled. -/
def doubled (quote : α) (value : List α) : List α :=
  value.flatMap (fun item => if item = quote then [quote, quote] else [item])

/-- The literal of a value. -/
def quoted (quote : α) (value : List α) : List α := quote :: (doubled quote value ++ [quote])

/-- The value of a literal and what follows it, from behind the opening quote on. -/
def scanRest (quote : α) : List α → Option (List α × List α)
  | [] => none
  | [last] => if last = quote then some ([], []) else none
  | first :: next :: rest =>
    if first = quote then
      if next = quote then (scanRest quote rest).map (fun read => (quote :: read.1, read.2))
      else some ([], next :: rest)
    else (scanRest quote (next :: rest)).map (fun read => (first :: read.1, read.2))

/-- The value of the literal at the start of a text, and what follows it. -/
def scanLiteral (quote : α) : List α → Option (List α × List α)
  | [] => none
  | first :: rest => if first = quote then scanRest quote rest else none

/-- Reading with a bound on the number of tokens. -/
def readWithin (quote : α) : Nat → List α → Option (List (Token α (List α)))
  | _, [] => some []
  | 0, _ :: _ => none
  | bound + 1, first :: rest =>
    if first = quote then
      (scanRest quote rest).bind (fun literal =>
        (readWithin quote bound literal.2).map (Token.literal literal.1 :: ·))
    else (readWithin quote bound rest).map (Token.symbol first :: ·)

/-- The tokens of a text. There are none if a literal is not closed. -/
def read (quote : α) (text : List α) : Option (List (Token α (List α))) :=
  readWithin quote text.length text

def Token.written (quote : α) : Token α (List α) → List α
  | .symbol item => [item]
  | .literal value => quoted quote value

def written (quote : α) (reading : List (Token α (List α))) : List α :=
  reading.flatMap (Token.written quote)

/-- Literals have symbols between them, and no symbol is a quote. -/
def Apart (quote : α) (outline : List (Option α)) : Prop :=
  outline.IsChain (fun former latter => former = none → latter ≠ none) ∧ some quote ∉ outline

instance (quote : α) (outline : List (Option α)) : Decidable (Apart quote outline) :=
  inferInstanceAs (Decidable (_ ∧ _))

section Scanning

theorem doubled_cons (item : α) (rest : List α) :
    doubled quote (item :: rest) =
      (if item = quote then [quote, quote] else [item]) ++ doubled quote rest :=
  List.flatMap_cons

theorem scanRest_cons {item : α} (other : item ≠ quote) (rest : List α) :
    scanRest quote (item :: rest) =
      (scanRest quote rest).map (fun read => (item :: read.1, read.2)) := by
  cases rest with
  | nil => simp [scanRest, other]
  | cons next others => rw [scanRest, if_neg other]

theorem scanRest_pair (rest : List α) :
    scanRest quote (quote :: quote :: rest) =
      (scanRest quote rest).map (fun read => (quote :: read.1, read.2)) := by
  rw [scanRest, if_pos rfl, if_pos rfl]

theorem scanRest_close {following : List α} (free : following.head? ≠ some quote) :
    scanRest quote (quote :: following) = some ([], following) := by
  cases following with
  | nil => rw [scanRest, if_pos rfl]
  | cons next others =>
    rw [scanRest, if_pos rfl, if_neg]
    rintro rfl
    exact free rfl

/-- The scanner reads back what was doubled and stops behind the closing quote. -/
theorem scanRest_doubled (value : List α) {following : List α}
    (free : following.head? ≠ some quote) :
    scanRest quote (doubled quote value ++ quote :: following) = some (value, following) := by
  induction value with
  | nil => exact scanRest_close free
  | cons item rest ih =>
    rw [doubled_cons]
    by_cases same : item = quote
    · rw [if_pos same, List.append_assoc, List.cons_append, List.cons_append, List.nil_append,
        scanRest_pair, ih, same, Option.map_some]
    · rw [if_neg same, List.append_assoc, List.cons_append, List.nil_append, scanRest_cons same, ih,
        Option.map_some]

theorem scanLiteral_quoted (value : List α) {following : List α}
    (free : following.head? ≠ some quote) :
    scanLiteral quote (quoted quote value ++ following) = some (value, following) := by
  rw [quoted, List.cons_append, List.append_assoc, List.cons_append, List.nil_append, scanLiteral,
    if_pos rfl, scanRest_doubled value free]

/-- Whatever the scanner reads was doubled. -/
theorem doubled_of_scanRest {text value following : List α}
    (scanned : scanRest quote text = some (value, following)) :
    text = doubled quote value ++ quote :: following ∧ following.head? ≠ some quote := by
  fun_induction scanRest quote text generalizing value with
  | case1 => cases scanned
  | case2 =>
    cases scanned
    exact ⟨rfl, by simp⟩
  | case3 => cases scanned
  | case4 rest ih =>
    obtain ⟨⟨inner, after⟩, found, same⟩ := Option.map_eq_some_iff.mp scanned
    cases same
    obtain ⟨whole, free⟩ := ih found
    rw [doubled_cons, if_pos rfl, whole]
    exact ⟨rfl, free⟩
  | case5 next rest other =>
    cases scanned
    refine ⟨rfl, fun same => other ?_⟩
    simpa using same
  | case6 first next rest other ih =>
    obtain ⟨⟨inner, after⟩, found, same⟩ := Option.map_eq_some_iff.mp scanned
    cases same
    obtain ⟨whole, free⟩ := ih found
    rw [doubled_cons, if_neg other, whole]
    exact ⟨rfl, free⟩

end Scanning

section Readings

variable {reading : List (Token α (List α))} {text : List α}

/-- A written reading begins with a quote only if it begins with a literal. -/
theorem head_written (apart : Apart quote (reading.map Token.shape))
    (begins : (written quote reading).head? = some quote) :
    (reading.map Token.shape).head? = some none := by
  cases reading with
  | nil => cases begins
  | cons token rest =>
    cases token with
    | symbol item =>
      obtain rfl : item = quote := Option.some.inj begins
      exact absurd List.mem_cons_self apart.2
    | literal value => rfl

theorem readWithin_written (apart : Apart quote (reading.map Token.shape)) {bound : Nat}
    (enough : (written quote reading).length ≤ bound) :
    readWithin quote bound (written quote reading) = some reading := by
  induction reading generalizing bound with
  | nil => cases bound <;> rfl
  | cons token rest ih =>
    obtain ⟨chain, plain⟩ := apart
    rw [List.map_cons, List.isChain_cons] at chain
    rw [List.map_cons, List.mem_cons, not_or] at plain
    have later : Apart quote (rest.map Token.shape) := ⟨chain.2, plain.2⟩
    cases token with
    | symbol item =>
      have other : item ≠ quote := fun same => plain.1 (congrArg some same.symm)
      have spelled : written quote (.symbol item :: rest) = item :: written quote rest := rfl
      rw [spelled] at enough ⊢
      cases bound with
      | zero => cases enough
      | succ bound =>
        rw [readWithin, if_neg other, ih later (Nat.le_of_succ_le_succ enough), Option.map_some]
    | literal value =>
      have free : (written quote rest).head? ≠ some quote :=
        fun begins => chain.1 none (head_written later begins) rfl rfl
      have spelled : written quote (.literal value :: rest) =
          quote :: (doubled quote value ++ quote :: written quote rest) := by
        simp [written, Token.written, quoted]
      rw [spelled] at enough ⊢
      cases bound with
      | zero => cases enough
      | succ bound =>
        have shorter : (written quote rest).length ≤ bound := by
          simp only [List.length_cons, List.length_append] at enough
          omega
        rw [readWithin, if_pos rfl, scanRest_doubled value free, Option.bind_some, ih later shorter,
          Option.map_some]

theorem written_of_readWithin {bound : Nat} (found : readWithin quote bound text = some reading) :
    written quote reading = text ∧ Apart quote (reading.map Token.shape) := by
  induction bound generalizing text reading with
  | zero =>
    cases text with
    | nil =>
      cases found
      exact ⟨rfl, List.IsChain.nil, List.not_mem_nil⟩
    | cons first rest => cases found
  | succ bound ih =>
    cases text with
    | nil =>
      cases found
      exact ⟨rfl, List.IsChain.nil, List.not_mem_nil⟩
    | cons first rest =>
      rw [readWithin] at found
      by_cases opens : first = quote
      · rw [if_pos opens] at found
        obtain ⟨⟨value, following⟩, scanned, continued⟩ := Option.bind_eq_some_iff.mp found
        obtain ⟨others, readOn, rfl⟩ := Option.map_eq_some_iff.mp continued
        obtain ⟨whole, free⟩ := doubled_of_scanRest scanned
        obtain ⟨(spelled : written quote others = following), chain, plain⟩ := ih readOn
        constructor
        · rw [opens, whole, ← spelled]
          simp [written, Token.written, quoted]
        · refine ⟨List.isChain_cons.mpr ⟨fun next follows _ absent => free ?_, chain⟩, ?_⟩
          · -- A literal behind this one would begin with a quote.
            rw [← spelled]
            cases others with
            | nil => cases follows
            | cons token rest =>
              cases token with
              | symbol item =>
                rw [← Option.some.inj follows] at absent
                cases absent
              | literal inner => rfl
          · rw [List.map_cons, List.mem_cons, not_or]
            exact ⟨nofun, plain⟩
      · rw [if_neg opens] at found
        obtain ⟨others, readOn, rfl⟩ := Option.map_eq_some_iff.mp found
        obtain ⟨spelled, chain, plain⟩ := ih readOn
        constructor
        · rw [← spelled]
          rfl
        · refine ⟨List.isChain_cons.mpr ⟨fun _ _ => nofun, chain⟩, ?_⟩
          rw [List.map_cons, List.mem_cons, not_or]
          exact ⟨fun same => opens (Option.some.inj same).symm, plain⟩

/-- A text has a reading exactly if it is written from it. -/
theorem read_eq_some_iff :
    read quote text = some reading ↔
      written quote reading = text ∧ Apart quote (reading.map Token.shape) := by
  constructor
  · exact written_of_readWithin
  · rintro ⟨rfl, apart⟩
    exact readWithin_written apart (Nat.le_refl _)

end Readings

section Joining

omit [DecidableEq α] in
/-- Outlines may be put together where no two literals meet. -/
theorem Apart.append {left right : List (Option α)} (former : Apart quote left)
    (latter : Apart quote right) (meet : left.getLast? = some none → right.head? ≠ some none) :
    Apart quote (left ++ right) := by
  refine ⟨List.isChain_append.mpr ⟨former.1, latter.1, ?_⟩, ?_⟩
  · rintro last ends next begins rfl rfl
    exact meet ends begins
  · rw [List.mem_append, not_or]
    exact ⟨former.2, latter.2⟩

omit [DecidableEq α] in
theorem apart_symbols {symbols : List α} (plain : quote ∉ symbols) :
    Apart quote (symbols.map some) := by
  refine ⟨List.Pairwise.isChain (List.pairwise_of_forall_mem_list ?_), ?_⟩
  · rintro former member latter _ rfl
    obtain ⟨symbol, _, same⟩ := List.mem_map.mp member
    cases same
  · intro member
    obtain ⟨symbol, listed, same⟩ := List.mem_map.mp member
    exact plain (Option.some.inj same ▸ listed)

/-- What is read of a text: the outline and the values of the literals. -/
def Reads (quote : α) (text : List α) (outline : List (Option α)) (contents : List (List α)) :
    Prop :=
  ∃ reading, read quote text = some reading ∧ reading.map Token.shape = outline ∧
    reading.filterMap Token.content = contents

/-- What is read of each of some texts. -/
inductive ReadsEach (quote : α) :
    List (List α) → List (List (Option α)) → List (List α) → Prop where
  | nil : ReadsEach quote [] [] []
  | cons {text : List α} {outline : List (Option α)} {contents : List (List α)}
      {texts : List (List α)} {outlines : List (List (Option α))} {others : List (List α)}
      (first : Reads quote text outline contents) (rest : ReadsEach quote texts outlines others) :
      ReadsEach quote (text :: texts) (outline :: outlines) (contents ++ others)

variable {text other symbols : List α} {outline otherOutline : List (Option α)}
  {contents otherContents : List (List α)}

theorem reads_written {reading : List (Token α (List α))}
    (apart : Apart quote (reading.map Token.shape)) :
    Reads quote (written quote reading) (reading.map Token.shape)
      (reading.filterMap Token.content) :=
  ⟨reading, read_eq_some_iff.mpr ⟨rfl, apart⟩, rfl, rfl⟩

theorem Reads.append (former : Reads quote text outline contents)
    (latter : Reads quote other otherOutline otherContents)
    (meet : outline.getLast? = some none → otherOutline.head? ≠ some none) :
    Reads quote (text ++ other) (outline ++ otherOutline) (contents ++ otherContents) := by
  obtain ⟨left, readLeft, rfl, rfl⟩ := former
  obtain ⟨right, readRight, rfl, rfl⟩ := latter
  obtain ⟨spelledLeft, apartLeft⟩ := read_eq_some_iff.mp readLeft
  obtain ⟨spelledRight, apartRight⟩ := read_eq_some_iff.mp readRight
  refine ⟨left ++ right, read_eq_some_iff.mpr ⟨?_, ?_⟩, List.map_append, List.filterMap_append⟩
  · rw [written, List.flatMap_append]
    exact congrArg₂ (· ++ ·) spelledLeft spelledRight
  · rw [List.map_append]
    exact apartLeft.append apartRight meet

theorem reads_symbols (plain : quote ∉ symbols) : Reads quote symbols (symbols.map some) [] := by
  have shapes : (symbols.map (Token.symbol : α → Token α (List α))).map Token.shape =
      symbols.map some := by
    rw [List.map_map]
    rfl
  refine ⟨symbols.map .symbol, read_eq_some_iff.mpr ⟨?_, ?_⟩, shapes, ?_⟩
  · rw [written, List.flatMap_map]
    exact List.flatMap_singleton' symbols
  · rw [shapes]
    exact apart_symbols plain
  · rw [List.filterMap_map, List.filterMap_eq_nil_iff]
    exact fun _ _ => rfl

theorem reads_quoted (value : List α) : Reads quote (quoted quote value) [none] [value] := by
  refine ⟨[.literal value], read_eq_some_iff.mpr ⟨?_, ?_⟩, rfl, rfl⟩
  · exact List.append_nil _
  · exact ⟨List.isChain_singleton _, by simp [Token.shape]⟩

/-- Symbols between literals keep them apart. -/
theorem Reads.symbols_append (former : Reads quote text outline contents) (filled : symbols ≠ [])
    (plain : quote ∉ symbols) (latter : Reads quote other otherOutline otherContents) :
    Reads quote (text ++ (symbols ++ other)) (outline ++ (symbols.map some ++ otherOutline))
      (contents ++ otherContents) := by
  obtain ⟨first, rest, rfl⟩ := List.exists_cons_of_ne_nil filled
  have behind : Reads quote (first :: rest ++ other) ((first :: rest).map some ++ otherOutline)
      otherContents := by
    refine (reads_symbols plain).append latter fun ends => ?_
    rw [List.getLast?_map] at ends
    cases found : (first :: rest).getLast? with
    | none => cases List.getLast?_eq_none_iff.mp found
    | some last =>
      rw [found] at ends
      cases ends
  refine former.append behind fun _ begins => ?_
  cases begins

theorem ReadsEach.append {texts others : List (List α)}
    {outlines otherOutlines : List (List (Option α))} (former : ReadsEach quote texts outlines contents)
    (latter : ReadsEach quote others otherOutlines otherContents) :
    ReadsEach quote (texts ++ others) (outlines ++ otherOutlines) (contents ++ otherContents) := by
  induction former with
  | nil => exact latter
  | cons first rest ih =>
    rw [List.append_assoc]
    exact .cons first ih

/-- Texts joined by symbols are read one after another. -/
theorem ReadsEach.joined {texts : List (List α)} {outlines : List (List (Option α))}
    (each : ReadsEach quote texts outlines contents) (filled : symbols ≠ [])
    (plain : quote ∉ symbols) :
    Reads quote (symbols.intercalate texts) ((symbols.map some).intercalate outlines) contents := by
  induction each with
  | nil => exact reads_symbols List.not_mem_nil
  | cons first rest ih =>
    cases rest with
    | nil =>
      rw [List.intercalate_singleton, List.intercalate_singleton, List.append_nil]
      exact first
    | cons second others =>
      rw [List.intercalate_cons_cons, List.intercalate_cons_cons, List.append_assoc,
        List.append_assoc]
      exact first.symbols_append filled plain ih

end Joining

end ApiGateway.Literals
