import AnnotatedTests.Proofs.Words
import AnnotatedTests.Registry.Role
import Mathlib.Data.List.Basic
import Mathlib.Tactic.SplitIfs

/-! The signatures of tests and fixtures, told from the tokens of a declaration. Tokens may be laid
out in any way; their one spelling has the same tokens again, so that it tells them apart. A
function can play a role just when its tokens are those that the role asks for. -/
namespace AnnotatedTests

/-- Whether a text is a token other than a star. -/
structure PlainToken (token : List Char) : Prop where
  nonempty : token ≠ []
  solid : IsSolid token
  unstarred : '*' ∉ token

/-- Whether a text consists of some tokens in their order. Any blanks may stand around a token, and
some must stand between two tokens unless one of them is a star. -/
inductive TokenLayout : List (List Char) → List Char → Prop
  | blank {gap : List Char} : IsGap gap → TokenLayout [] gap
  | star {gap rest : List Char} {tokens : List (List Char)} :
    IsGap gap → TokenLayout tokens rest → TokenLayout (['*'] :: tokens) (gap ++ '*' :: rest)
  | plain {gap token rest : List Char} {tokens : List (List Char)} :
    IsGap gap → PlainToken token → (∀ c ∈ rest.head?, isBlank c = true ∨ c = '*') →
    TokenLayout tokens rest → TokenLayout (token :: tokens) (gap ++ (token ++ rest))

section TypeTokens

theorem flatMap_isolateStar {text : List Char} (unstarred : '*' ∉ text) :
    text.flatMap isolateStar = text := by
  have kept : ∀ c ∈ text, isolateStar c = [c] := by
    intro c hc
    refine if_neg ?_
    rintro rfl
    exact unstarred hc
  rw [List.flatMap_congr kept, List.flatMap_singleton']

theorem IsGap.star_notMem {gap : List Char} (blank : IsGap gap) : '*' ∉ gap := by
  intro inside
  exact absurd (blank '*' inside) (by decide)

theorem typeTokens_gap_append {gap : List Char} (blank : IsGap gap) (rest : List Char) :
    typeTokens (gap ++ rest) = typeTokens rest := by
  rw [typeTokens, List.flatMap_append, flatMap_isolateStar blank.star_notMem,
    words_gap_append blank, typeTokens]

theorem typeTokens_star (rest : List Char) :
    typeTokens ('*' :: rest) = star :: typeTokens rest := by
  -- the star is isolated, so that it is a word of its own
  have isolated : ('*' :: rest).flatMap isolateStar =
      [' '] ++ (['*'] ++ ' ' :: rest.flatMap isolateStar) := rfl
  have solid : words ['*'] = [star] := words_solid (by decide) (by decide)
  rw [typeTokens, isolated, words_gap_append (by decide), words_append_cons isBlank_space, solid]
  rfl

theorem typeTokens_plain_append {token rest : List Char} (plain : PlainToken token)
    (ends : ∀ c ∈ rest.head?, isBlank c = true ∨ c = '*') :
    typeTokens (token ++ rest) = token :: typeTokens rest := by
  have separated : ∀ c ∈ (rest.flatMap isolateStar).head?, isBlank c = true := by
    cases rest with
    | nil => simp
    | cons d rest =>
      rcases ends d rfl with blank | rfl
      · intro c hc
        have kept : isolateStar d = [d] := if_neg (by rintro rfl; exact absurd blank (by decide))
        simp only [List.flatMap_cons, kept, List.singleton_append, List.head?_cons,
          Option.mem_some_iff] at hc
        exact hc ▸ blank
      · intro c hc
        have first : c = ' ' := (Option.mem_some_iff.mp hc).symm
        exact first ▸ isBlank_space
  rw [typeTokens, List.flatMap_append, flatMap_isolateStar plain.unstarred,
    words_solid_append plain.solid plain.nonempty separated, typeTokens]

theorem TokenLayout.typeTokens_eq {tokens : List (List Char)} {text : List Char}
    (layout : TokenLayout tokens text) : typeTokens text = tokens := by
  induction layout with
  | blank gap => rw [typeTokens, flatMap_isolateStar gap.star_notMem, words_gap gap]
  | star gap _ ih =>
    rw [typeTokens_gap_append gap, typeTokens_star, ih]
    rfl
  | plain gap token ends _ ih =>
    rw [typeTokens_gap_append gap, typeTokens_plain_append token ends, ih]

/-- A plain token reaches from any character that can begin it to the next blank or star. -/
theorem exists_plainToken_append {c : Char} (solid : isBlank c = false) (unstarred : c ≠ '*')
    (rest : List Char) :
    ∃ token behind, c :: rest = token ++ behind ∧ PlainToken token ∧
      (∀ d ∈ behind.head?, isBlank d = true ∨ d = '*') ∧ behind.length ≤ rest.length := by
  let inToken (d : Char) : Bool := !isBlank d && d != '*'
  have first : inToken c = true := by simp [inToken, solid, unstarred]
  have inside : ∀ d ∈ (c :: rest).takeWhile inToken, isBlank d = false ∧ d ≠ '*' := by
    intro d hd
    simpa [inToken] using List.mem_takeWhile_imp hd
  refine ⟨(c :: rest).takeWhile inToken, (c :: rest).dropWhile inToken, ?_, ?_, ?_, ?_⟩
  · exact (List.takeWhile_append_dropWhile).symm
  · refine ⟨?_, fun d hd => (inside d hd).1, fun hd => (inside '*' hd).2 rfl⟩
    rw [List.takeWhile_cons_of_pos first]
    exact List.cons_ne_nil _ _
  · intro d hd
    have stops := List.head?_dropWhile_not inToken (c :: rest)
    rw [Option.mem_def.mp hd] at stops
    simpa [inToken, or_iff_not_imp_left] using stops
  · rw [List.dropWhile_cons_of_pos first]
    exact List.length_dropWhile_le _ _

/-- Every text is a layout of its tokens: behind its first blanks it is empty, or a star comes
first, or a plain token. -/
theorem tokenLayout_typeTokens (text : List Char) : TokenLayout (typeTokens text) text := by
  induction hn : text.length using Nat.strong_induction_on generalizing text with
  | _ n ih =>
    obtain ⟨gap, visible, rfl, blank, solid⟩ := exists_gap_append text
    rw [List.length_append] at hn
    cases visible with
    | nil =>
      rw [List.append_nil, typeTokens, flatMap_isolateStar blank.star_notMem, words_gap blank]
      exact .blank blank
    | cons c rest =>
      rw [List.length_cons] at hn
      rw [typeTokens_gap_append blank]
      by_cases starred : c = '*'
      · subst starred
        rw [typeTokens_star]
        exact .star blank (ih rest.length (by omega) rest rfl)
      · obtain ⟨token, behind, split, plain, ends, less⟩ :=
          exists_plainToken_append (solid c rfl) starred rest
        rw [split, typeTokens_plain_append plain ends]
        exact .plain blank plain ends (ih behind.length (by omega) behind rfl)

/-- The tokens of a text are the ones that it is a layout of. -/
theorem typeTokens_eq_iff {text : List Char} {tokens : List (List Char)} :
    typeTokens text = tokens ↔ TokenLayout tokens text := by
  refine ⟨?_, TokenLayout.typeTokens_eq⟩
  rintro rfl
  exact tokenLayout_typeTokens text

end TypeTokens

/-- Whether a text is a token of a type. -/
def IsTypeToken (token : List Char) : Prop := token = star ∨ PlainToken token

section Spelling

theorem TokenLayout.gap_append {gap text : List Char} {tokens : List (List Char)}
    (blank : IsGap gap) (layout : TokenLayout tokens text) : TokenLayout tokens (gap ++ text) := by
  have joined {inner : List Char} (inside : IsGap inner) : IsGap (gap ++ inner) := by
    intro c hc
    rcases List.mem_append.mp hc with hc | hc
    · exact blank c hc
    · exact inside c hc
  cases layout with
  | blank inner => exact .blank (joined inner)
  | star inner rest =>
    rw [← List.append_assoc]
    exact .star (joined inner) rest
  | plain inner token ends rest =>
    rw [← List.append_assoc]
    exact .plain (joined inner) token ends rest

theorem TokenLayout.isTypeToken {tokens : List (List Char)} {text : List Char}
    (layout : TokenLayout tokens text) : ∀ token ∈ tokens, IsTypeToken token := by
  induction layout with
  | blank _ => simp
  | star _ _ ih => exact List.forall_mem_cons.mpr ⟨.inl rfl, ih⟩
  | plain _ token _ _ ih => exact List.forall_mem_cons.mpr ⟨.inr token, ih⟩

theorem isTypeToken_of_mem_typeTokens {text token : List Char} (h : token ∈ typeTokens text) :
    IsTypeToken token :=
  (tokenLayout_typeTokens text).isTypeToken token h

/-- What stands in a layout is a blank or stands in one of the tokens. -/
theorem TokenLayout.exists_token_of_mem {tokens : List (List Char)} {text : List Char}
    (layout : TokenLayout tokens text) {c : Char} (hc : c ∈ text) :
    isBlank c = true ∨ ∃ token ∈ tokens, c ∈ token := by
  induction layout with
  | blank gap => exact .inl (gap c hc)
  | star gap _ ih =>
    rcases List.mem_append.mp hc with hc | hc
    · exact .inl (gap c hc)
    · rcases List.mem_cons.mp hc with rfl | hc
      · exact .inr ⟨_, List.mem_cons_self, List.mem_singleton_self _⟩
      · exact (ih hc).imp_right fun ⟨token, ht, inside⟩ =>
          ⟨token, List.mem_cons_of_mem _ ht, inside⟩
  | plain gap _ _ _ ih =>
    rcases List.mem_append.mp hc with hc | hc
    · exact .inl (gap c hc)
    · rcases List.mem_append.mp hc with hc | hc
      · exact .inr ⟨_, List.mem_cons_self, hc⟩
      · exact (ih hc).imp_right fun ⟨token, ht, inside⟩ =>
          ⟨token, List.mem_cons_of_mem _ ht, inside⟩

/-- A token, and then a layout of others that can follow it. -/
theorem IsTypeToken.layout_append {token rest : List Char} {tokens : List (List Char)}
    (h : IsTypeToken token) (ends : token = star ∨ ∀ c ∈ rest.head?, isBlank c = true ∨ c = '*')
    (layout : TokenLayout tokens rest) : TokenLayout (token :: tokens) (token ++ rest) := by
  have none : IsGap [] := by decide
  rcases h with rfl | plain
  · exact .star none layout
  · rcases ends with rfl | ends
    · exact absurd List.mem_cons_self plain.unstarred
    · exact .plain none plain ends layout

/-- The one spelling of some tokens is a layout of them. -/
theorem tokenLayout_canonicalType {tokens : List (List Char)}
    (h : ∀ token ∈ tokens, IsTypeToken token) : TokenLayout tokens (canonicalType tokens) := by
  induction tokens using canonicalType.induct with
  | case1 => exact .blank (by decide)
  | case2 token =>
    have behind : TokenLayout [] [] := .blank (by decide)
    have alone := (h token List.mem_cons_self).layout_append (.inr (by simp)) behind
    rwa [List.append_nil] at alone
  | case3 token next rest touching ih =>
    have others := ih fun t ht => h t (List.mem_cons_of_mem _ ht)
    rw [canonicalType, if_pos touching]
    refine (h token List.mem_cons_self).layout_append ?_ others
    refine touching.imp_right ?_
    -- behind a plain token stands a star, with which the spelling of the rest begins
    rintro rfl c hc
    have first : (canonicalType (star :: rest)).head? = some '*' := by
      cases rest with
      | nil => rfl
      | cons t rest => rw [canonicalType, if_pos (.inl rfl)]; rfl
    rw [first, Option.mem_some_iff] at hc
    exact .inr hc.symm
  | case4 token next rest apart ih =>
    have others := ih fun t ht => h t (List.mem_cons_of_mem _ ht)
    rw [canonicalType, if_neg apart]
    have space : IsGap [' '] := by decide
    refine (h token List.mem_cons_self).layout_append (.inr ?_) (others.gap_append space)
    intro c hc
    exact .inl (Option.mem_some_iff.mp hc ▸ isBlank_space)

/-- The spelling of tokens has the same tokens again. -/
theorem typeTokens_canonicalType {tokens : List (List Char)}
    (h : ∀ token ∈ tokens, IsTypeToken token) : typeTokens (canonicalType tokens) = tokens :=
  (tokenLayout_canonicalType h).typeTokens_eq

/-- So different tokens are spelled differently. -/
theorem canonicalType_inj {tokens others : List (List Char)}
    (h : ∀ token ∈ tokens, IsTypeToken token) (ho : ∀ token ∈ others, IsTypeToken token) :
    canonicalType tokens = canonicalType others ↔ tokens = others := by
  refine ⟨fun same => ?_, fun same => same ▸ rfl⟩
  calc
    tokens = typeTokens (canonicalType tokens) := (typeTokens_canonicalType h).symm
    _ = typeTokens (canonicalType others) := by rw [same]
    _ = others := typeTokens_canonicalType ho

end Spelling

section Parameters

/-- The tokens of the one parameter of a test or a fixture, less its name. -/
def stateTokens : List (List Char) := ["void".toList, star, star]

theorem isTypeToken_stateTokens : ∀ token ∈ stateTokens, IsTypeToken token := by
  have void : PlainToken "void".toList := ⟨by decide, by decide, by decide⟩
  intro token ht
  rcases List.mem_cons.mp ht with rfl | ht
  · exact .inr void
  · exact .inl (by simpa using ht)

/-- Less the name of the parameter, tokens are those of a state just when they are these and then
one name at most. -/
theorem dropParameterName_eq_stateTokens_iff {tokens : List (List Char)} :
    dropParameterName tokens = stateTokens ↔
      ∃ name : Option (List Char), tokens = stateTokens ++ name.toList ∧
        ∀ x ∈ name, isIdentifier x = true ∧ x ∉ typeWords := by
  constructor
  · intro dropped
    unfold dropParameterName at dropped
    split at dropped
    · next last before others reversed =>
      split_ifs at dropped with named
      · refine ⟨some last, ?_, ?_⟩
        · rw [← dropped, Option.toList_some]
          exact List.reverse_eq_cons_iff.mp reversed
        · rintro x ⟨⟩
          simp only [namesParameter, Bool.and_eq_true, Bool.not_eq_true', List.contains_eq_mem,
            decide_eq_false_iff_not] at named
          exact named.1
      · exact ⟨none, by simpa using dropped, by simp⟩
    · exact ⟨none, by simpa using dropped, by simp⟩
  · intro cut
    obtain ⟨name, rfl, named⟩ := cut
    cases name with
    | none => rfl
    | some x =>
      obtain ⟨identifier, other⟩ := named x rfl
      have names : namesParameter star x = true := by
        simp [namesParameter, identifier, other, star, tagWords]
      simp [dropParameterName, stateTokens, names]

theorem isTypeToken_of_mem_dropParameterName {tokens : List (List Char)}
    (h : ∀ token ∈ tokens, IsTypeToken token) :
    ∀ token ∈ dropParameterName tokens, IsTypeToken token := by
  unfold dropParameterName
  split
  · next last before others reversed =>
    split_ifs
    · intro token ht
      apply h
      rw [← List.mem_reverse, reversed]
      exact List.mem_cons_of_mem _ (List.mem_reverse.mp ht)
    · exact h
  · exact h

theorem parameterShape_eq_state_iff {parameter : List Char} :
    parameterShape parameter = "void**".toList ↔
      ∃ name : Option (List Char), TokenLayout (stateTokens ++ name.toList) parameter ∧
        ∀ x ∈ name, isIdentifier x = true ∧ x ∉ typeWords := by
  have tokens : ∀ token ∈ dropParameterName (typeTokens parameter), IsTypeToken token :=
    isTypeToken_of_mem_dropParameterName fun _ => isTypeToken_of_mem_typeTokens
  have spelled : "void**".toList = canonicalType stateTokens := by decide
  rw [parameterShape, spelled, canonicalType_inj tokens isTypeToken_stateTokens,
    dropParameterName_eq_stateTokens_iff]
  simp only [typeTokens_eq_iff]

example : parameterShape "void\t* *\nstate".toList = "void**".toList ∧
    parameterShape "void **int".toList ≠ "void**".toList := by
  decide +kernel

/-- Only a text without commas is cut into one piece. -/
theorem comma_notMem_of_splitOn_eq {text piece : List Char} (h : text.splitOn ',' = [piece]) :
    ',' ∉ text := by
  intro inside
  obtain ⟨before, behind, rfl⟩ := List.append_of_mem inside
  rw [List.splitOn_append_cons_self] at h
  have some := List.length_pos_of_ne_nil (List.splitOn_ne_nil ',' before)
  have more := List.length_pos_of_ne_nil (List.splitOn_ne_nil ',' behind)
  have one := congrArg List.length h
  rw [List.length_append, List.length_singleton] at one
  omega

/-- A layout of a state has no comma in it. -/
theorem TokenLayout.comma_notMem {name : Option (List Char)} {params : List Char}
    (layout : TokenLayout (stateTokens ++ name.toList) params)
    (named : ∀ x ∈ name, isIdentifier x = true) : ',' ∉ params := by
  intro inside
  rcases layout.exists_token_of_mem inside with blank | ⟨token, ht, hc⟩
  · exact absurd blank (by decide)
  · rcases List.mem_append.mp ht with ht | ht
    · have none : ∀ token ∈ stateTokens, ',' ∉ token := by decide
      exact none token ht hc
    · have word := isWordChar_of_mem_identifier (named token (Option.mem_toList.mp ht)) ',' hc
      exact absurd word (by decide +kernel)

theorem map_parameterShape_eq_stateParams_iff_spelled {params : List Char} :
    ((parameterTexts params).map fun text => String.ofList (parameterShape text)) = stateParams ↔
      ',' ∉ params ∧ parameterShape params = "void**".toList := by
  have state : stateParams = [String.ofList "void**".toList] := by decide
  unfold parameterTexts
  split_ifs with absent
  · -- without parameters there is nothing that could spell a state
    refine iff_of_false (by simp [stateParams]) ?_
    rintro ⟨-, spelled⟩
    rcases absent with rfl | rfl
    · exact absurd spelled (by decide +kernel)
    · exact absurd spelled (by decide +kernel)
  · constructor
    · intro same
      obtain ⟨piece, pieces, spelled⟩ := List.map_eq_singleton_iff.mp (same.trans state)
      have whole := comma_notMem_of_splitOn_eq pieces
      rw [List.splitOn_eq_singleton whole, List.singleton_inj] at pieces
      exact ⟨whole, pieces ▸ String.ofList_injective spelled⟩
    · rintro ⟨whole, spelled⟩
      rw [List.splitOn_eq_singleton whole, List.map_singleton, spelled, state]

/-- The parameters of a declaration are those of a test or a fixture just when they are a layout of
a state's tokens, with or without a name. -/
theorem map_parameterShape_eq_stateParams_iff {params : List Char} :
    ((parameterTexts params).map fun text => String.ofList (parameterShape text)) = stateParams ↔
      ∃ name : Option (List Char), TokenLayout (stateTokens ++ name.toList) params ∧
        ∀ x ∈ name, isIdentifier x = true ∧ x ∉ typeWords := by
  rw [map_parameterShape_eq_stateParams_iff_spelled, parameterShape_eq_state_iff,
    and_iff_right_iff_imp]
  rintro ⟨name, layout, named⟩
  apply layout.comma_notMem
  intro x hx
  exact (named x hx).1

end Parameters

section Head

theorem plainToken_returnKind (role : Role) : PlainToken role.returnKind.toList := by
  cases role <;> exact ⟨by decide, by decide, by decide⟩

theorem returnKind_notMem_statementWords (role : Role) :
    role.returnKind.toList ∉ statementWords := by
  cases role <;> decide

/-- The tokens of a type are spelled as the one word that a role returns just when they are it. -/
theorem ofList_canonicalType_eq_returnKind_iff {tokens : List (List Char)} {role : Role}
    (h : ∀ token ∈ tokens, IsTypeToken token) :
    String.ofList (canonicalType tokens) = role.returnKind ↔
      tokens = [role.returnKind.toList] := by
  have one : ∀ token ∈ [role.returnKind.toList], IsTypeToken token := by
    intro token ht
    exact List.mem_singleton.mp ht ▸ .inr (plainToken_returnKind role)
  have spelled : canonicalType [role.returnKind.toList] = role.returnKind.toList := rfl
  rw [← canonicalType_inj h one, spelled, ← String.toList_inj, String.toList_ofList]

/-- A head declares a function if its last token can name one and some tokens remain of those
before it that are neither storage words nor a statement's words. -/
theorem declaration?_eq_some_iff {shape : Shape} {place : Place} {d : Declaration} :
    shape.declaration? place = some d ↔
      ∃ before name, typeTokens shape.head = before ++ [name] ∧ isIdentifier name = true ∧
        name ∉ typeWords ∧ name ∉ statementWords ∧
        (before.filter fun token => token ∉ storageWords) ≠ [] ∧
        (∀ token ∈ before, token ∉ storageWords → token ∉ statementWords) ∧
        d = { identifier := String.ofList name
              params := (parameterTexts shape.params).map fun text =>
                String.ofList (parameterShape text)
              returnKind := String.ofList
                (canonicalType (before.filter fun token => token ∉ storageWords))
              place
              defined := shape.defined
              isStatic := before.contains "static".toList } := by
  have returned (before : List (List Char)) :
      (before.filter fun token => !storageWords.contains token) =
        before.filter fun token => token ∉ storageWords :=
    List.filter_congr (by simp)
  unfold Shape.declaration?
  cases reversed : (typeTokens shape.head).reverse with
  | nil => simp [List.reverse_eq_nil_iff.mp reversed]
  | cons last others =>
    have tokens : typeTokens shape.head = others.reverse ++ [last] :=
      List.reverse_eq_cons_iff.mp reversed
    simp only [returned]
    constructor
    · intro h
      split_ifs at h with unnamed unreturned
      obtain rfl := Option.some.inj h
      obtain ⟨⟨identifier, noType⟩, noStatement⟩ : (isIdentifier last = true ∧ last ∉ typeWords) ∧
          last ∉ statementWords := by
        simpa using unnamed
      obtain ⟨some, plain⟩ : (others.reverse.filter fun token => token ∉ storageWords) ≠ [] ∧
          ∀ token ∈ others.reverse, token ∉ storageWords → token ∉ statementWords := by
        simpa using unreturned
      exact ⟨others.reverse, last, tokens, identifier, noType, noStatement, some, plain, rfl⟩
    · rintro ⟨before, name, split, identifier, noType, noStatement, some, plain, rfl⟩
      obtain ⟨rfl, same⟩ := List.append_inj' (tokens.symm.trans split) rfl
      obtain rfl : last = name := List.singleton_inj.mp same
      have named : (!isIdentifier last || typeWords.contains last ||
          statementWords.contains last) = false := by
        simp [identifier, noType, noStatement]
      have kept : ((others.reverse.filter fun token => token ∉ storageWords).isEmpty ||
          (others.reverse.filter fun token => token ∉ storageWords).any
            statementWords.contains) = false := by
        rw [Bool.or_eq_false_iff, List.isEmpty_eq_false_iff]
        exact ⟨some, by simpa using plain⟩
      rw [named, kept]
      rfl

end Head

theorem fits_iff {d : Declaration} {role : Role} :
    d.fits role = true ↔ d.returnKind = role.returnKind ∧ d.params = stateParams := by
  rw [Declaration.fits, Bool.and_eq_true, beq_iff_eq, beq_iff_eq]

/-- A declaration gives a function that can play a role just when its head is a layout of tokens
that end in a name, storage words apart, behind the one word that the role returns, and its
parameters are a layout of those of a state, with or without a name. -/
theorem exists_declaration?_fits_iff {shape : Shape} {place : Place} {role : Role} :
    (∃ d, shape.declaration? place = some d ∧ d.fits role = true) ↔
      (∃ before name, TokenLayout (before ++ [name]) shape.head ∧ isIdentifier name = true ∧
        name ∉ typeWords ∧ name ∉ statementWords ∧
        (before.filter fun token => token ∉ storageWords) =
          [(if role = .test then "void" else "int").toList]) ∧
      ∃ name : Option (List Char),
        TokenLayout (["void".toList, ['*'], ['*']] ++ name.toList) shape.params ∧
          ∀ x ∈ name, isIdentifier x = true ∧ x ∉ typeWords := by
  have kind : (if role = .test then "void" else "int") = role.returnKind := by
    cases role <;> rfl
  rw [kind]
  constructor
  · rintro ⟨d, declares, fits⟩
    obtain ⟨before, name, tokens, identifier, noType, noStatement, -, -, rfl⟩ :=
      declaration?_eq_some_iff.mp declares
    have layout := typeTokens_eq_iff.mp tokens
    have own : ∀ token ∈ before.filter fun token => token ∉ storageWords, IsTypeToken token :=
      fun token ht =>
        layout.isTypeToken token (List.mem_append_left _ (List.mem_of_mem_filter ht))
    obtain ⟨returnKind, params⟩ := fits_iff.mp fits
    exact ⟨⟨before, name, layout, identifier, noType, noStatement,
      (ofList_canonicalType_eq_returnKind_iff own).mp returnKind⟩,
      map_parameterShape_eq_stateParams_iff.mp params⟩
  · rintro ⟨⟨before, name, layout, identifier, noType, noStatement, returned⟩, state⟩
    have some : (before.filter fun token => token ∉ storageWords) ≠ [] := by
      rw [returned]
      exact List.cons_ne_nil _ _
    have plain : ∀ token ∈ before, token ∉ storageWords → token ∉ statementWords := by
      intro token ht kept
      have only : token ∈ before.filter fun token => token ∉ storageWords :=
        List.mem_filter.mpr ⟨ht, by simpa using kept⟩
      rw [returned, List.mem_singleton] at only
      exact only ▸ returnKind_notMem_statementWords role
    have spelled : String.ofList (canonicalType (before.filter fun token => token ∉ storageWords)) =
        role.returnKind := by
      rw [returned]
      exact String.ofList_toList
    refine ⟨_, declaration?_eq_some_iff.mpr ⟨before, name, layout.typeTokens_eq, identifier, noType,
      noStatement, some, plain, rfl⟩, ?_⟩
    exact fits_iff.mpr ⟨spelled, map_parameterShape_eq_stateParams_iff.mpr state⟩

end AnnotatedTests
