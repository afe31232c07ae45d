import AnnotatedTests.Proofs.Acceptance

/-! Decoding JSON. A text is read by the whole grammar of JSON, whatever its layout: blanks between
tokens, characters of strings as they are or by their UTF-16 units, numbers and truth values. What
is rendered from a value is read back as that value, so a manifest tells all paths and names as they
are. -/
namespace AnnotatedTests

/-- The values that JSON texts have. Numbers are kept as they are written. -/
inductive JsonTree where
  | null
  | bool (truth : Bool)
  | number (numeral : List Char)
  | text (s : String)
  | list (items : List JsonTree)
  | object (members : List (String × JsonTree))

section Units

/-- The UTF-16 units of a character: its code point, or a high and a low surrogate. -/
def utf16Units (c : Char) : List Nat :=
  if c.toNat < 0x10000 then [c.toNat]
  else [0xD800 + (c.toNat - 0x10000) / 0x400, 0xDC00 + (c.toNat - 0x10000) % 0x400]

/-- The characters that some UTF-16 units stand for, if each surrogate among them is one of a
pair. -/
def ofUtf16? : List Nat → Option (List Char)
  | [] => some []
  | unit :: rest =>
    if unit < 0xD800 ∨ (0xE000 ≤ unit ∧ unit < 0x10000) then
      (ofUtf16? rest).map (Char.ofNat unit :: ·)
    else
      match rest with
      | [] => none
      | low :: behind =>
        if (0xD800 ≤ unit ∧ unit < 0xDC00) ∧ 0xDC00 ≤ low ∧ low < 0xE000 then
          (ofUtf16? behind).map
            (Char.ofNat (0x10000 + (unit - 0xD800) * 0x400 + (low - 0xDC00)) :: ·)
        else none

theorem ofUtf16?_utf16Units_append (c : Char) (rest : List Nat) :
    ofUtf16? (utf16Units c ++ rest) = (ofUtf16? rest).map (c :: ·) := by
  have valid : c.toNat < 0xD800 ∨ (0xDFFF < c.toNat ∧ c.toNat < 0x110000) := c.valid
  unfold utf16Units
  -- a code point that fits one unit is no surrogate, as it is that of a character
  split_ifs with small
  · have unit : c.toNat < 0xD800 ∨ (0xE000 ≤ c.toNat ∧ c.toNat < 0x10000) := by omega
    rw [List.singleton_append, ofUtf16?.eq_def]
    simp only [if_pos unit, Char.ofNat_toNat]
  · have high : ¬ (0xD800 + (c.toNat - 0x10000) / 0x400 < 0xD800 ∨
        (0xE000 ≤ 0xD800 + (c.toNat - 0x10000) / 0x400 ∧
          0xD800 + (c.toNat - 0x10000) / 0x400 < 0x10000)) := by
      omega
    have pair : (0xD800 ≤ 0xD800 + (c.toNat - 0x10000) / 0x400 ∧
        0xD800 + (c.toNat - 0x10000) / 0x400 < 0xDC00) ∧
        0xDC00 ≤ 0xDC00 + (c.toNat - 0x10000) % 0x400 ∧
          0xDC00 + (c.toNat - 0x10000) % 0x400 < 0xE000 := by
      omega
    have joined : 0x10000 + (0xD800 + (c.toNat - 0x10000) / 0x400 - 0xD800) * 0x400 +
        (0xDC00 + (c.toNat - 0x10000) % 0x400 - 0xDC00) = c.toNat := by
      omega
    rw [List.cons_append, List.cons_append, List.nil_append, ofUtf16?.eq_def]
    simp only [if_neg high, if_pos pair, joined, Char.ofNat_toNat]

theorem ofUtf16?_flatMap_utf16Units (text : List Char) :
    ofUtf16? (text.flatMap utf16Units) = some text := by
  induction text with
  | nil => rfl
  | cons c text ih => rw [List.flatMap_cons, ofUtf16?_utf16Units_append, ih, Option.map_some]

end Units

section Strings

def hexValue? (c : Char) : Option Nat :=
  if '0' ≤ c ∧ c ≤ '9' then some (c.toNat - 48)
  else if 'a' ≤ c ∧ c ≤ 'f' then some (c.toNat - 87)
  else if 'A' ≤ c ∧ c ≤ 'F' then some (c.toNat - 55)
  else none

def hexNumber? (digits : List Char) : Option Nat :=
  digits.foldlM (fun value c => (hexValue? c).map fun digit => 16 * value + digit) 0

/-- The character that a backslash makes of the one behind it. -/
def unescaped? : Char → Option Char
  | '"' => some '"'
  | '\\' => some '\\'
  | '/' => some '/'
  | 'b' => some '\x08'
  | 'f' => some '\x0c'
  | 'n' => some '\n'
  | 'r' => some '\r'
  | 't' => some '\t'
  | _ => none

/-- The units that a string stands for, and what comes behind its closing quote. -/
def jsonUnits? : List Char → Option (List Nat × List Char)
  | [] => none
  | c :: rest =>
    if c = '"' then some ([], rest)
    else if c = '\\' then
      match rest with
      | 'u' :: d₃ :: d₂ :: d₁ :: d₀ :: behind =>
        (hexNumber? [d₃, d₂, d₁, d₀]).bind fun unit =>
          (jsonUnits? behind).map (Prod.map (unit :: ·) id)
      | e :: behind =>
        (unescaped? e).bind fun d => (jsonUnits? behind).map (Prod.map (utf16Units d ++ ·) id)
      | [] => none
    else if c.toNat < 0x20 then none
    else (jsonUnits? rest).map (Prod.map (utf16Units c ++ ·) id)

/-- The string whose opening quote has been read, and what comes behind it. -/
def jsonString? (text : List Char) : Option (String × List Char) :=
  (jsonUnits? text).bind fun read =>
    (ofUtf16? read.1).map fun chars => (String.ofList chars, read.2)

theorem hexNumber?_hexPadded {n : Nat} (small : n < 0x10000) :
    hexNumber? (hexPadded 4 n) = some n := by
  have digit (m : Nat) : hexValue? (hexDigit (m % 16)) = some (m % 16) := by
    have all : ∀ d < 16, hexValue? (hexDigit d) = some d := by decide
    exact all (m % 16) (Nat.mod_lt m (by decide))
  have digits : hexPadded 4 n = [hexDigit (n / 4096 % 16), hexDigit (n / 256 % 16),
      hexDigit (n / 16 % 16), hexDigit (n % 16)] := by
    simp [hexPadded, List.range_succ]
  rw [digits]
  simp only [hexNumber?, List.foldlM_cons, List.foldlM_nil, digit, Option.map_some,
    Option.bind_eq_bind, Option.bind_some, Option.pure_def, Option.some.injEq]
  omega

theorem jsonUnits?_unitEscape_append {n : Nat} (small : n < 0x10000) (rest : List Char) :
    jsonUnits? (unitEscape n ++ rest) = (jsonUnits? rest).map (Prod.map (n :: ·) id) := by
  have number := hexNumber?_hexPadded small
  have width := length_hexPadded 4 n
  unfold unitEscape
  generalize hexPadded 4 n = digits at number width ⊢
  obtain ⟨d₃, d₂, d₁, d₀, rfl⟩ : ∃ d₃ d₂ d₁ d₀, digits = [d₃, d₂, d₁, d₀] := by
    match digits, width with
    | [d₃, d₂, d₁, d₀], _ => exact ⟨d₃, d₂, d₁, d₀, rfl⟩
  simp only [List.cons_append, List.nil_append]
  rw [jsonUnits?.eq_def]
  simp [number]

/-- A character that is escaped as texts do it is read as its units. -/
theorem jsonUnits?_jsonChar_append (c : Char) (rest : List Char) :
    jsonUnits? (jsonChar c ++ rest) = (jsonUnits? rest).map (Prod.map (utf16Units c ++ ·) id) := by
  have valid : c.toNat < 0xD800 ∨ (0xDFFF < c.toNat ∧ c.toNat < 0x110000) := c.valid
  have escape (e d : Char) (known : unescaped? e = some d) (other : e ≠ 'u') :
      jsonUnits? ('\\' :: e :: rest) = (jsonUnits? rest).map (Prod.map (utf16Units d ++ ·) id) := by
    have noQuote : '\\' ≠ '"' := by decide
    rw [jsonUnits?.eq_def]
    simp only [if_neg noQuote, if_true]
    split
    next same => exact absurd (List.cons.inj same).1 other
    next same =>
      obtain ⟨rfl, rfl⟩ := List.cons.inj same
      rw [known]
      rfl
    next same => cases same
  unfold jsonChar
  dsimp only
  split_ifs with quote backslash newline return' tab backspace feed plain small
  · subst quote
    exact escape '"' '"' rfl (by decide)
  · subst backslash
    exact escape '\\' '\\' rfl (by decide)
  · subst newline
    exact escape 'n' '\n' rfl (by decide)
  · subst return'
    exact escape 'r' '\r' rfl (by decide)
  · subst tab
    exact escape 't' '\t' rfl (by decide)
  -- two more controls have an escape of their own, all others are written by their units
  · obtain rfl : c = '\x08' := Char.toNat_inj.mp backspace
    exact escape 'b' '\x08' rfl (by decide)
  · obtain rfl : c = '\x0c' := Char.toNat_inj.mp feed
    exact escape 'f' '\x0c' rfl (by decide)
  · rw [List.singleton_append, jsonUnits?.eq_def]
    simp only
    rw [if_neg quote, if_neg backslash, if_neg (by omega)]
  · rw [jsonUnits?_unitEscape_append small, utf16Units, if_pos small]
    rfl
  · rw [List.append_assoc, jsonUnits?_unitEscape_append (by omega),
      jsonUnits?_unitEscape_append (by omega), utf16Units, if_neg small]
    cases jsonUnits? rest <;> rfl

theorem jsonUnits?_flatMap_append (text rest : List Char) :
    jsonUnits? (text.flatMap jsonChar ++ '"' :: rest) = some (text.flatMap utf16Units, rest) := by
  induction text with
  | nil =>
    rw [List.flatMap_nil, List.nil_append, jsonUnits?.eq_def]
    rfl
  | cons c text ih =>
    rw [List.flatMap_cons, List.append_assoc, jsonUnits?_jsonChar_append, ih]
    rfl

theorem jsonString?_append (s : String) (rest : List Char) :
    jsonString? (s.toList.flatMap jsonChar ++ '"' :: rest) = some (s, rest) := by
  rw [jsonString?, jsonUnits?_flatMap_append]
  simp [ofUtf16?_flatMap_utf16Units]

end Strings

section Values

/-- The characters that may stand between the tokens of a JSON text. -/
def isJsonBlank (c : Char) : Bool := c ∈ [' ', '\t', '\n', '\r']

def skipBlanks (text : List Char) : List Char := text.dropWhile isJsonBlank

/-- What comes behind a word, if a text begins with it. -/
def behindWord? (word : String) (text : List Char) : Option (List Char) :=
  if word.toList.isPrefixOf text then some (text.drop word.toList.length) else none

def behindDigits? (text : List Char) : Option (List Char) :=
  if (text.takeWhile Char.isDigit).isEmpty then none else some (text.dropWhile Char.isDigit)

/-- What comes behind a number: a whole part without needless zeros, then perhaps a fraction and an
exponent. -/
def behindNumber? (text : List Char) : Option (List Char) := do
  let whole ← match (behindWord? "-" text).getD text with
    | '0' :: rest => some rest
    | other => behindDigits? other
  let fraction ← match whole with
    | '.' :: rest => behindDigits? rest
    | other => some other
  match fraction with
    | 'e' :: '+' :: rest | 'e' :: '-' :: rest | 'E' :: '+' :: rest | 'E' :: '-' :: rest
    | 'e' :: rest | 'E' :: rest => behindDigits? rest
    | other => some other

/-- A value that is neither a string nor a list nor an object, and what comes behind it. -/
def jsonScalar? (text : List Char) : Option (JsonTree × List Char) :=
  ((behindWord? "null" text).map fun rest => (.null, rest)) <|>
    ((behindWord? "true" text).map fun rest => (.bool true, rest)) <|>
    ((behindWord? "false" text).map fun rest => (.bool false, rest)) <|>
    (behindNumber? text).map fun rest => (.number (text.take (text.length - rest.length)), rest)

mutual

/-- The value that a text begins with, and what comes behind it. -/
def jsonValue? : Nat → List Char → Option (JsonTree × List Char)
  | 0, _ => none
  | fuel + 1, text =>
    match skipBlanks text with
    | '"' :: rest => (jsonString? rest).map (Prod.map .text id)
    | '[' :: rest =>
      match skipBlanks rest with
      | ']' :: behind => some (.list [], behind)
      | _ => (jsonItems? fuel rest).map (Prod.map .list id)
    | '\x7b' :: rest =>
      match skipBlanks rest with
      | '\x7d' :: behind => some (.object [], behind)
      | _ => (jsonMembers? fuel rest).map (Prod.map .object id)
    | other => jsonScalar? other

/-- The items of a list up to its end, at least one, and what comes behind the list. -/
def jsonItems? : Nat → List Char → Option (List JsonTree × List Char)
  | 0, _ => none
  | fuel + 1, text =>
    (jsonValue? fuel text).bind fun item =>
      match skipBlanks item.2 with
      | ']' :: behind => some ([item.1], behind)
      | ',' :: rest => (jsonItems? fuel rest).map (Prod.map (item.1 :: ·) id)
      | _ => none

/-- The members of an object up to its end, at least one, and what comes behind the object. -/
def jsonMembers? : Nat → List Char → Option (List (String × JsonTree) × List Char)
  | 0, _ => none
  | fuel + 1, text =>
    match skipBlanks text with
    | '"' :: inside =>
      (jsonString? inside).bind fun key =>
        match skipBlanks key.2 with
        | ':' :: value =>
          (jsonValue? fuel value).bind fun value =>
            match skipBlanks value.2 with
            | '\x7d' :: behind => some ([(key.1, value.1)], behind)
            | ',' :: rest =>
              (jsonMembers? fuel rest).map (Prod.map ((key.1, value.1) :: ·) id)
            | _ => none
        | _ => none
    | _ => none

end

/-- The value of a JSON text, which has nothing but blanks behind it. Steps that are made inside one
another belong to the first character of a value, to a comma, or to the end of a list or an object,
so there are no more of them than the text is long. -/
def decodeJson? (text : List Char) : Option JsonTree :=
  (jsonValue? (text.length + 1) text).bind fun read =>
    if read.2.all isJsonBlank then some read.1 else none

example : decodeJson? "[ -0.5e1,\"\\uD834\\udd1e\"]".toList =
    some (.list [.number "-0.5e1".toList, .text "𝄞"]) := by
  cbv

end Values

section Rendered

mutual

/-- A value as the value of a text. -/
def Json.tree : Json → JsonTree
  | .null => .null
  | .text s => .text s
  | .list items => .list (treesOf items)
  | .object fields => .object (membersOf fields)

def treesOf : List Json → List JsonTree
  | [] => []
  | item :: rest => item.tree :: treesOf rest

def membersOf : List (String × Json) → List (String × JsonTree)
  | [] => []
  | (key, value) :: rest => (key, value.tree) :: membersOf rest

end

theorem skipBlanks_newLine_append (level : Nat) (text : List Char) :
    skipBlanks (newLine level ++ text) = skipBlanks text := by
  have blank : ∀ c ∈ newLine level, isJsonBlank c = true := by
    intro c hc
    rcases List.mem_cons.mp hc with rfl | hc
    · decide
    · obtain rfl := List.eq_of_mem_replicate hc
      decide
  exact List.dropWhile_append_of_pos blank

theorem skipBlanks_cons {c : Char} (token : isJsonBlank c = false) (text : List Char) :
    skipBlanks (c :: text) = c :: text := by
  simp [skipBlanks, token]

theorem jsonValue?_newLine_append (fuel level : Nat) (text : List Char) :
    jsonValue? fuel (newLine level ++ text) = jsonValue? fuel text := by
  cases fuel with
  | zero => simp only [jsonValue?]
  | succ fuel => simp only [jsonValue?, skipBlanks_newLine_append]

theorem jsonValue?_space_append (fuel : Nat) (text : List Char) :
    jsonValue? fuel (' ' :: text) = jsonValue? fuel text := by
  have blank : skipBlanks (' ' :: text) = skipBlanks text := rfl
  cases fuel with
  | zero => simp only [jsonValue?]
  | succ fuel => simp only [jsonValue?, blank]

/-- What is rendered begins with a token, which ends no list. -/
theorem exists_render_eq_cons (json : Json) (level : Nat) :
    ∃ c text, json.render level = c :: text ∧ isJsonBlank c = false ∧ c ≠ ']' := by
  match json with
  | .null => exact ⟨'n', "ull".toList, rfl, by decide, by decide⟩
  | .text s => exact ⟨'"', _, rfl, by decide, by decide⟩
  | .list [] => exact ⟨'[', "]".toList, rfl, by decide, by decide⟩
  | .list (item :: rest) => exact ⟨'[', _, rfl, by decide, by decide⟩
  | .object [] => exact ⟨'\x7b', "\x7d".toList, rfl, by decide, by decide⟩
  | .object ((key, value) :: rest) => exact ⟨'\x7b', _, rfl, by decide, by decide⟩

mutual

/-- A value is read from the text that is rendered from it, whatever comes behind. -/
theorem jsonValue?_render_append (json : Json) (level fuel : Nat) (rest : List Char)
    (enough : (json.render level).length ≤ fuel) :
    jsonValue? fuel (json.render level ++ rest) = some (json.tree, rest) := by
  -- the induction is on the steps: all that is read inside a value is shorter than it by at least
  -- as many characters as there are steps down to it
  obtain ⟨c, text, rendered, -⟩ := exists_render_eq_cons json level
  obtain ⟨fuel, rfl⟩ : ∃ n, fuel = n + 1 := by
    refine Nat.exists_eq_add_one_of_ne_zero ?_
    rintro rfl
    simp [rendered] at enough
  match json with
  | .null =>
    have token : isJsonBlank 'n' = false := by decide
    simp [Json.render, Json.tree, jsonValue?, skipBlanks_cons token, jsonScalar?, behindWord?]
  | .text s =>
    have token : isJsonBlank '"' = false := by decide
    simp only [Json.render, Json.tree, jsonText, jsonValue?, List.cons_append, List.append_assoc,
      List.nil_append, skipBlanks_cons token, jsonString?_append]
    rfl
  | .list [] =>
    have token : isJsonBlank '[' = false := by decide
    have close : isJsonBlank ']' = false := by decide
    simp [Json.render, Json.tree, jsonValue?, skipBlanks_cons token, skipBlanks_cons close, treesOf]
  | .list (item :: items) =>
    have token : isJsonBlank '[' = false := by decide
    obtain ⟨d, more, first, inside, noEnd⟩ := exists_render_eq_cons item (level + 1)
    have read := jsonItems?_render_append item items (level + 1) level fuel rest (by
      simp only [Json.render, newLine, List.length_append, List.length_cons, List.length_nil]
        at enough
      omega)
    have text : (Json.list (item :: items)).render level ++ rest =
        '[' :: (newLine (level + 1) ++ item.render (level + 1) ++ renderItems (level + 1) items ++
          newLine level ++ ']' :: rest) := by
      simp [Json.render]
    -- the first item does not close the list, so the list is not taken for an empty one
    have start : ∃ behind, skipBlanks (newLine (level + 1) ++ item.render (level + 1) ++
        renderItems (level + 1) items ++ newLine level ++ ']' :: rest) = d :: behind := by
      simp only [List.append_assoc, skipBlanks_newLine_append, first, List.cons_append,
        skipBlanks_cons inside]
      exact ⟨_, rfl⟩
    obtain ⟨behind, start⟩ := start
    simp only [text, jsonValue?, skipBlanks_cons token, start]
    split
    next same => exact absurd (List.cons.inj same).1 noEnd
    next => rw [read, Json.tree, treesOf]; rfl
  | .object [] =>
    have token : isJsonBlank '\x7b' = false := by decide
    have close : isJsonBlank '\x7d' = false := by decide
    simp [Json.render, Json.tree, jsonValue?, skipBlanks_cons token, skipBlanks_cons close,
      membersOf]
  | .object ((key, value) :: fields) =>
    have token : isJsonBlank '\x7b' = false := by decide
    have read := jsonMembers?_render_append key value fields (level + 1) level fuel rest (by
      simp only [Json.render, newLine, List.length_append, List.length_cons, List.length_nil]
        at enough
      omega)
    have text : (Json.object ((key, value) :: fields)).render level ++ rest =
        '\x7b' :: (newLine (level + 1) ++ jsonText key.toList ++ ": ".toList ++
          value.render (level + 1) ++ renderFields (level + 1) fields ++ newLine level ++
            '\x7d' :: rest) := by
      simp [Json.render, jsonText]
    have start : ∃ behind, skipBlanks (newLine (level + 1) ++ jsonText key.toList ++ ": ".toList ++
        value.render (level + 1) ++ renderFields (level + 1) fields ++ newLine level ++
          '\x7d' :: rest) = '"' :: behind := by
      have quote : isJsonBlank '"' = false := by decide
      simp only [List.append_assoc, skipBlanks_newLine_append, jsonText, List.cons_append,
        skipBlanks_cons quote]
      exact ⟨_, rfl⟩
    obtain ⟨behind, start⟩ := start
    simp only [text, jsonValue?, skipBlanks_cons token, start]
    rw [read, Json.tree, membersOf]
    rfl
termination_by fuel

theorem jsonItems?_render_append (item : Json) (items : List Json) (level under fuel : Nat)
    (rest : List Char)
    (enough : (item.render level).length + (renderItems level items).length < fuel) :
    jsonItems? fuel (newLine level ++ item.render level ++ renderItems level items ++
      newLine under ++ ']' :: rest) = some (item.tree :: treesOf items, rest) := by
  obtain ⟨fuel, rfl⟩ := Nat.exists_eq_add_one_of_ne_zero (Nat.ne_zero_of_lt enough)
  have first := jsonValue?_render_append item level fuel
    (renderItems level items ++ (newLine under ++ ']' :: rest)) (by omega)
  simp only [List.append_assoc, jsonItems?, jsonValue?_newLine_append, first, Option.bind_some]
  cases items with
  | nil =>
    have token : isJsonBlank ']' = false := by decide
    simp [renderItems, skipBlanks_newLine_append, skipBlanks_cons token, treesOf]
  | cons next items =>
    have token : isJsonBlank ',' = false := by decide
    have behind := jsonItems?_render_append next items level under fuel rest (by
      simp only [renderItems, List.length_append, List.length_cons] at enough
      omega)
    simp only [List.append_assoc] at behind
    simp only [renderItems, List.cons_append, List.append_assoc, skipBlanks_cons token, behind]
    simp [treesOf]
termination_by fuel

theorem jsonMembers?_render_append (key : String) (value : Json) (fields : List (String × Json))
    (level under fuel : Nat) (rest : List Char)
    (enough : (value.render level).length + (renderFields level fields).length < fuel) :
    jsonMembers? fuel (newLine level ++ jsonText key.toList ++ ": ".toList ++ value.render level ++
      renderFields level fields ++ newLine under ++ '\x7d' :: rest) =
        some ((key, value.tree) :: membersOf fields, rest) := by
  obtain ⟨fuel, rfl⟩ := Nat.exists_eq_add_one_of_ne_zero (Nat.ne_zero_of_lt enough)
  have quote : isJsonBlank '"' = false := by decide
  have colon : isJsonBlank ':' = false := by decide
  have first := jsonValue?_render_append value level fuel
    (renderFields level fields ++ (newLine under ++ '\x7d' :: rest)) (by omega)
  have spaced := jsonValue?_space_append fuel (value.render level ++
    (renderFields level fields ++ (newLine under ++ '\x7d' :: rest)))
  have separator : ": ".toList = [':', ' '] := by decide
  simp only [separator, List.append_assoc, jsonMembers?, skipBlanks_newLine_append, jsonText,
    List.cons_append, List.nil_append, skipBlanks_cons quote, jsonString?_append, Option.bind_some,
    skipBlanks_cons colon, spaced, first]
  cases fields with
  | nil =>
    have token : isJsonBlank '\x7d' = false := by decide
    simp [renderFields, skipBlanks_newLine_append, skipBlanks_cons token, membersOf]
  | cons next fields =>
    obtain ⟨nextKey, nextValue⟩ := next
    have token : isJsonBlank ',' = false := by decide
    have behind := jsonMembers?_render_append nextKey nextValue fields level under fuel rest (by
      simp only [renderFields, List.length_append, List.length_cons] at enough
      omega)
    simp only [separator, List.append_assoc, List.cons_append, List.nil_append] at behind
    simp only [separator, renderFields, List.cons_append, List.nil_append, List.append_assoc,
      skipBlanks_cons token, behind]
    simp [membersOf]
termination_by fuel

end

/-- What is rendered is decoded as it was, with a line end behind it. -/
theorem decodeJson?_render (json : Json) (level : Nat) :
    decodeJson? (json.render level ++ ['\n']) = some json.tree := by
  have read := jsonValue?_render_append json level ((json.render level ++ ['\n']).length + 1) ['\n']
    (by rw [List.length_append]; omega)
  rw [decodeJson?, read]
  rfl

end Rendered

/-- The value that a manifest should have for an entry. -/
def Entry.tree (e : Entry) : JsonTree :=
  .object [("file", .text e.file), ("symbol", .text e.symbol), ("role", .text e.role.label)]

theorem treesOf_map_json (entries : List Entry) :
    treesOf (entries.map Entry.json) = entries.map Entry.tree := by
  induction entries with
  | nil => rfl
  | cons e entries ih =>
    rw [List.map_cons, List.map_cons, treesOf, ih]
    rfl

/-- A registry without problems gives a manifest in JSON. It is decoded as the path of the runner,
or null, and the entries in their order, whatever characters are in the names of files. -/
theorem decodeJson?_renderManifest {registry : Registry} (clean : registry.problems = [])
    (path : Option String) :
    ∃ text, renderManifest registry "json" (path.map Given.value) = .ok text ∧
      decodeJson? text.toList = some (.object
        [("runner", path.elim .null .text),
          ("symbols", .list (registry.entries.map fun e => .object
            [("file", .text e.file), ("symbol", .text e.symbol), ("role", .text e.role.label)]))]) := by
  refine ⟨_, renderManifest_of_clean clean .json _, ?_⟩
  have runner : (runnerJson (path.map Given.value)).tree = path.elim .null .text := by
    cases path <;> rfl
  rw [manifestText, jsonManifest, String.toList_ofList, decodeJson?_render, manifestJson, Json.tree,
    membersOf, membersOf, membersOf, runner, Json.tree, treesOf_map_json]
  rfl

/-- A test in a file whose name has a quote, a backslash, a control and a character beyond the basic
plane in it. -/
def oddlyNamedRegistry : Registry where
  groups := []
  symbols :=
    [⟨⟨"grows", stateParams, "void", ⟨"a\"\\\n\x01é𝄞.c", 2⟩, true, false⟩,
      some ⟨.test, ⟨"a\"\\\n\x01é𝄞.c", 1⟩⟩⟩]
  problems := []
  files := ["a\"\\\n\x01é𝄞.c"]

theorem decodeJson?_renderManifest_oddlyNamedRegistry :
    ∃ text, renderManifest oddlyNamedRegistry "json" (some (.value "out/ü 𝄞.c")) = .ok text ∧
      decodeJson? text.toList = some (.object
        [("runner", .text "out/ü 𝄞.c"),
          ("symbols", .list [.object [("file", .text "a\"\\\n\x01é𝄞.c"),
            ("symbol", .text "grows"), ("role", .text "test")]])]) := by
  have entries : oddlyNamedRegistry.entries = [⟨"a\"\\\n\x01é𝄞.c", "grows", .test⟩] := by
    simp [oddlyNamedRegistry, Registry.entries, Registry.usedSymbols, Symbol.entry?, Symbol.role]
  have clean : oddlyNamedRegistry.problems = [] := rfl
  obtain ⟨text, rendered, decoded⟩ := decodeJson?_renderManifest clean (some "out/ü 𝄞.c")
  rw [entries] at decoded
  exact ⟨text, rendered, decoded⟩

end AnnotatedTests
