import SqlFacts.Proofs.Facts.FormatColumn
import SqlFacts.Proofs.Facts.Positions
import SqlFacts.Proofs.Lexeme.Statements
import SqlFacts.Proofs.Lexeme.WordText

/-!
# Uses of `FORMAT`

Two scans look for the word `FORMAT`. The one for places goes by what shows the name of a column: a
point in front of the word, or `AS`, `FROM`, a comma, an equals sign or a point behind it. The one
for the format goes by whether what follows names a format. They part where a point stands in front
of the word and the name of a format behind it, and where neither shows a column nor a format is
named, as in a call of the function `format`. The main statement says exactly when a descriptor
holds the place of `FORMAT` without a format, or a format without the place.
-/

namespace SqlFacts

open Lexeme

/-! ### What stands around `FORMAT` -/

/-- How the word `FORMAT` is used, told by what stands around it. -/
inductive FormatUse where
  /-- A format is named, with no point in front. -/
  | clause
  /-- The name of a format stands behind a column with a point in front. -/
  | qualified
  /-- The neighbours show a column. -/
  | column
  /-- Neither is a format named nor a column shown. -/
  | unnamed
  deriving DecidableEq, Repr

/-- The use of `FORMAT` between the lexeme in front of it and those behind it. -/
def FormatUse.between (previous : Option Lexeme) (after : List Lexeme) : FormatUse :=
  if namesFormat after then if previous.any (isSymbol ".") then .qualified else .clause
  else if isColumnName previous after.head? then .column else .unnamed

/-- A statement uses `FORMAT` in a way, at or above the depth of its body. -/
def UsesFormat (statement : List Lexeme) (use : FormatUse) : Prop :=
  ∃ before word after, statement = before ++ word :: after ∧
    word.isWordWithin [Keyword.format.name] (bodyDepth statement (leadingWord? statement)) = true ∧
    FormatUse.between before.getLast? after = use

section Between

variable {previous : Option Lexeme} {after : List Lexeme}

/-- What names a format is an identifier. -/
theorem isIdentifier_of_namesFormat {name : Lexeme} (h : namesFormat (name :: after) = true) :
    name.isIdentifier = true := by
  rw [namesFormat, Bool.or_eq_true, Bool.and_eq_true, Bool.and_eq_true] at h
  rcases h with hvalues | ⟨⟨hidentifier, -⟩, -⟩
  · exact isIdentifier_of_isWord hvalues
  · exact hidentifier

/-- What names a format does not show a column. -/
theorem showsColumn_of_namesFormat (h : namesFormat after = true) : showsColumn after = false := by
  cases after with
  | nil => rfl
  | cons name rest =>
    have hidentifier := isIdentifier_of_namesFormat h
    rw [namesFormat, Bool.or_eq_true, Bool.and_eq_true, Bool.and_eq_true, Bool.not_eq_true',
      Bool.not_eq_true'] at h
    have hword : name.isWord ["AS", "FROM"] = false := by
      rcases h with hvalues | ⟨-, hstop⟩
      · exact isWord_of_disjoint hvalues (by decide)
      · rw [← Bool.not_eq_true]
        intro hword
        rw [isWord_of_subset hword (by decide)] at hstop
        cases hstop
    have hsymbol (symbol : String) : name.isSymbol symbol = false :=
      isSymbol_eq_false isIdentifier_of_isSymbol hidentifier
    rw [showsColumn, startsWith_cons, hword, hsymbol, hsymbol, hsymbol]
    rfl

/-- The place of `FORMAT` is recorded for a clause, and where no format is named nor a column
shown. -/
theorem isColumnName_eq_false_iff :
    isColumnName previous after.head? = false ↔
      FormatUse.between previous after = .clause ∨ FormatUse.between previous after = .unnamed := by
  rw [FormatUse.between]
  by_cases hnames : namesFormat after = true
  · rw [if_pos hnames, isColumnName_eq, showsColumn_of_namesFormat hnames, Bool.or_false]
    cases previous.any (isSymbol ".") <;> simp
  · rw [if_neg hnames]
    cases isColumnName previous after.head? <;> simp

/-- A format is named in a clause, and behind a column with a point in front. -/
theorem namesFormat_iff :
    namesFormat after = true ↔
      FormatUse.between previous after = .clause ∨
        FormatUse.between previous after = .qualified := by
  rw [FormatUse.between]
  cases namesFormat after
  · cases isColumnName previous after.head? <;> simp
  · cases previous.any (isSymbol ".") <;> simp

/-- In a call no format is named, and only a point in front shows a column. -/
theorem FormatUse.between_of_call (h : startsWith (isSymbol "(") after = true) :
    FormatUse.between previous after =
      if previous.any (isSymbol ".") then .column else .unnamed := by
  cases after with
  | nil => cases h
  | cons paren rest =>
    have hparen : paren.isSymbol "(" = true := h
    have hnames : namesFormat (paren :: rest) = false := by
      rw [namesFormat, isWord_of_isSymbol hparen, isIdentifier_of_isSymbol hparen]
      rfl
    rw [FormatUse.between, hnames, isColumnName_eq, showsColumn_of_paren hparen, Bool.or_false]
    rfl

/-- Behind a point a column is shown, whether or not a format is named. -/
theorem FormatUse.between_of_point (h : previous.any (isSymbol ".") = true) :
    FormatUse.between previous after = if namesFormat after then .qualified else .column := by
  rw [FormatUse.between, isColumnName_eq, h, Bool.true_or]
  rfl

end Between

/-! ### Statements -/

section Statement

variable {statement : List Lexeme}

/-- Statements with two ways to use `FORMAT` are told by one look at each word. -/
theorem usesFormat_or_iff {use other : FormatUse} :
    UsesFormat statement use ∨ UsesFormat statement other ↔
      ∃ before word after, statement = before ++ word :: after ∧
        word.isWordWithin [Keyword.format.name]
          (bodyDepth statement (leadingWord? statement)) = true ∧
        (FormatUse.between before.getLast? after = use ∨
          FormatUse.between before.getLast? after = other) := by
  simp only [UsesFormat, and_or_left, exists_or]

/-- A descriptor holds the place of `FORMAT` exactly if the statement has a clause or a use that
names no format and shows no column. -/
theorem hasKeyword_format_iff (sql : String) :
    (Descriptor.ofFacts sql (Facts.ofLexemes sql statement)).hasKeyword .format = true ↔
      UsesFormat statement .clause ∨ UsesFormat statement .unnamed := by
  have hused : ∀ isObjectWord inData previous next,
      Keyword.format.isUsed isObjectWord inData previous next = true := fun _ _ _ _ => rfl
  rw [hasKeyword_ofLexemes_iff, usesFormat_or_iff]
  simp only [Keyword.usedIn, usedAt_iff_of_isUsed hused, isColumnName_eq_false_iff]

/-- A format that is read is the text of an identifier. -/
theorem exists_identifier_of_format? {limit : Int} {name : String}
    (h : format? limit statement = some name) :
    ∃ lx ∈ statement, lx.isIdentifier = true ∧ lx.text = name := by
  rw [format?_eq_getLast?] at h
  obtain ⟨after, hafter, htext⟩ := List.mem_filterMap.mp (List.mem_of_getLast? h)
  obtain ⟨hbehind, hnames⟩ := List.mem_filter.mp hafter
  obtain ⟨before, word, rfl, -⟩ := mem_behindFormats_iff.mp hbehind
  cases after with
  | nil => cases htext
  | cons lx rest => exact ⟨lx, by simp, isIdentifier_of_namesFormat hnames, Option.some.inj htext⟩

/-- A descriptor holds a format exactly if the statement has a clause or names a format behind a
column with a point in front. -/
theorem format?_ne_none_iff :
    format? (bodyDepth statement (leadingWord? statement)) statement ≠ none ↔
      UsesFormat statement .clause ∨ UsesFormat statement .qualified := by
  have htext : ∀ after, namesFormat after = true → firstText? after ≠ none := by
    rintro (_ | ⟨lx, rest⟩) h
    · cases h
    · exact fun hnone => nomatch hnone
  rw [usesFormat_or_iff, format?_eq_getLast?, Ne, List.getLast?_eq_none_iff,
    List.filterMap_eq_nil_iff]
  simp only [List.mem_filter, mem_behindFormats_iff, ← namesFormat_iff]
  constructor
  · intro h
    push Not at h
    obtain ⟨after, ⟨⟨before, word, hsplit, hword⟩, hnames⟩, -⟩ := h
    exact ⟨before, word, after, hsplit, hword, hnames⟩
  · rintro ⟨before, word, after, hsplit, hword, hnames⟩ hnone
    exact htext after hnames (hnone after ⟨⟨before, word, hsplit, hword⟩, hnames⟩)

/-- If every `FORMAT` is that of a call, then no format is named. -/
theorem UsesFormat.of_calls {use : FormatUse}
    (hcalls : ∀ after ∈ behindFormats (bodyDepth statement (leadingWord? statement)) statement,
      startsWith (isSymbol "(") after = true)
    (h : UsesFormat statement use) : use = .column ∨ use = .unnamed := by
  obtain ⟨before, word, after, hsplit, hword, rfl⟩ := h
  have hcall := hcalls after (mem_behindFormats_iff.mpr ⟨before, word, hsplit, hword⟩)
  rw [FormatUse.between_of_call hcall]
  cases before.getLast?.any (isSymbol ".")
  · exact .inr rfl
  · exact .inl rfl

/-- If a point stands in front of every `FORMAT`, then each is a column, or a format is named behind
it all the same. -/
theorem UsesFormat.of_points {use : FormatUse}
    (hpoints : ∀ before word after, statement = before ++ word :: after →
      word.isWordWithin [Keyword.format.name]
        (bodyDepth statement (leadingWord? statement)) = true →
      before.getLast?.any (isSymbol ".") = true)
    (h : UsesFormat statement use) : use = .qualified ∨ use = .column := by
  obtain ⟨before, word, after, hsplit, hword, rfl⟩ := h
  rw [FormatUse.between_of_point (hpoints before word after hsplit hword)]
  cases namesFormat after
  · exact .inr rfl
  · exact .inl rfl

/-- A call without a point in front is a use that names no format and shows no column. -/
theorem usesFormat_unnamed_of_call {before after : List Lexeme} {word : Lexeme}
    (hsplit : statement = before ++ word :: after)
    (hword : word.isWordWithin [Keyword.format.name]
      (bodyDepth statement (leadingWord? statement)) = true)
    (hpoint : before.getLast?.any (isSymbol ".") = false)
    (hcall : startsWith (isSymbol "(") after = true) : UsesFormat statement .unnamed := by
  refine ⟨before, word, after, hsplit, hword, ?_⟩
  rw [FormatUse.between_of_call hcall, hpoint]
  rfl

/-- If every `FORMAT` is that of a call, then no format is read. -/
theorem format?_eq_none_of_calls
    (hcalls : ∀ after ∈ behindFormats (bodyDepth statement (leadingWord? statement)) statement,
      startsWith (isSymbol "(") after = true) :
    format? (bodyDepth statement (leadingWord? statement)) statement = none := by
  by_contra hnamed
  rcases format?_ne_none_iff.mp hnamed with huses | huses
  · rcases huses.of_calls hcalls with huse | huse <;> cases huse
  · rcases huses.of_calls hcalls with huse | huse <;> cases huse

/-- If a point stands in front of every `FORMAT`, then there is neither a clause nor a use that
names no format and shows no column. -/
theorem not_usesFormat_of_points
    (hpoints : ∀ before word after, statement = before ++ word :: after →
      word.isWordWithin [Keyword.format.name]
        (bodyDepth statement (leadingWord? statement)) = true →
      before.getLast?.any (isSymbol ".") = true) :
    ¬ UsesFormat statement .clause ∧ ¬ UsesFormat statement .unnamed := by
  constructor
  · intro huses
    rcases huses.of_points hpoints with huse | huse <;> cases huse
  · intro huses
    rcases huses.of_points hpoints with huse | huse <;> cases huse

end Statement

/-! ### Descriptors -/

/-- If no quoted name of a text is empty, then no format that is read is. -/
theorem format_ne_empty {sql : String} {lexemes statement : List Lexeme}
    (hlex : lex sql = .ok lexemes) (hsublist : statement.Sublist lexemes)
    (hnames : ∀ lx ∈ statement, lx.kind = .name → lx.text ≠ "") {limit : Int} {name : String}
    (h : format? limit statement = some name) : name ≠ "" := by
  obtain ⟨lx, hlx, hidentifier, rfl⟩ := exists_identifier_of_format? h
  rw [isIdentifier, Bool.or_eq_true, beq_iff_eq, beq_iff_eq] at hidentifier
  rcases hidentifier with hword | hquoted
  · exact text_ne_empty_of_lex hlex (hsublist.subset hlx) hword
  · exact hnames lx hlx hquoted

/-- A descriptor whose format is not empty reports one exactly if it holds one. -/
theorem Descriptor.hasFormat_iff_of_ne_empty {d : Descriptor}
    (h : ∀ name, d.format = some name → name ≠ "") : d.hasFormat = true ↔ d.format ≠ none := by
  rw [hasFormat, isGiven]
  cases hname : d.format with
  | none => simp
  | some name => simpa using h name hname

/-- The descriptor of a text that can be read holds the place of `FORMAT` for a clause, and where no
format is named nor a column shown, as in any call without a point in front. It holds a format for a
clause, and where one is named behind a column with a point in front. So the two agree exactly if
there is a clause, or if uses of the other two ways are both there or both missing. -/
theorem format_place_agrees_iff {sql : String} {lexemes : List Lexeme}
    (hlex : lex sql = .ok lexemes) :
    let statement := (statements lexemes).headD []
    let limit := bodyDepth statement (leadingWord? statement)
    let d := (describeStatement sql).result
    (d.hasKeyword .format = true ↔ UsesFormat statement .clause ∨ UsesFormat statement .unnamed) ∧
      (d.format ≠ none ↔ UsesFormat statement .clause ∨ UsesFormat statement .qualified) ∧
      ((d.hasKeyword .format = true ↔ d.format ≠ none) ↔
        UsesFormat statement .clause ∨
          (UsesFormat statement .unnamed ↔ UsesFormat statement .qualified)) ∧
      ((∀ lx ∈ statement, lx.kind = .name → lx.text ≠ "") →
        (d.hasFormat = true ↔ d.format ≠ none)) ∧
      (∀ before word after, statement = before ++ word :: after →
        word.isWordWithin [Keyword.format.name] limit = true →
        before.getLast?.any (isSymbol ".") = false → startsWith (isSymbol "(") after = true →
        d.hasKeyword .format = true) ∧
      ((∀ after ∈ behindFormats limit statement, startsWith (isSymbol "(") after = true) →
        d.format = none) ∧
      ((∀ before word after, statement = before ++ word :: after →
          word.isWordWithin [Keyword.format.name] limit = true →
          before.getLast?.any (isSymbol ".") = true) →
        d.hasKeyword .format = false ∧ (d.format ≠ none ↔ UsesFormat statement .qualified)) := by
  intro statement limit d
  have hd : d = .ofFacts sql (Facts.ofLexemes sql statement) := result_describeStatement hlex
  have hplace := @hasKeyword_format_iff statement sql
  rw [← hd] at hplace
  have hread : d.format = format? limit statement := by
    rw [hd]
    rfl
  have hformat : d.format ≠ none ↔
      UsesFormat statement .clause ∨ UsesFormat statement .qualified := by
    rw [hread]
    exact format?_ne_none_iff
  refine ⟨hplace, hformat, ?agree, ?given, ?call, ?calls, ?points⟩
  case agree =>
    rw [hplace, hformat]
    by_cases hclause : UsesFormat statement .clause
    · simp only [hclause, true_or]
    · simp only [hclause, false_or]
  case given =>
    intro hnames
    apply Descriptor.hasFormat_iff_of_ne_empty
    intro name hname
    exact format_ne_empty hlex (headD_statements_sublist lexemes) hnames (hread ▸ hname)
  case call =>
    intro before word after hsplit hword hpoint hcall
    exact hplace.mpr (.inr (usesFormat_unnamed_of_call hsplit hword hpoint hcall))
  case calls =>
    intro hcalls
    rw [hread]
    exact format?_eq_none_of_calls hcalls
  case points =>
    intro hpoints
    obtain ⟨hclause, hunnamed⟩ := not_usesFormat_of_points hpoints
    rw [← Bool.not_eq_true, hplace, hformat]
    exact ⟨not_or.mpr ⟨hclause, hunnamed⟩, or_iff_right hclause⟩

/-- The lexemes of a query that calls the function `format`. -/
def calledFormat : List Lexeme :=
  [⟨.word, "SELECT", 0, 6, 0⟩, ⟨.word, "format", 7, 13, 0⟩, ⟨.symbol, "(", 13, 14, 0⟩,
    ⟨.string, "\x7b\x7d", 14, 18, 1⟩, ⟨.symbol, ",", 18, 19, 1⟩, ⟨.word, "a", 20, 21, 1⟩,
    ⟨.symbol, ")", 21, 22, 0⟩, ⟨.word, "FROM", 23, 27, 0⟩, ⟨.word, "t", 28, 29, 0⟩]

/-- A call of the function `format` is recorded as the place of a clause, without a format. -/
theorem hasKeyword_calledFormat :
    let sql := "SELECT format('\x7b\x7d', a) FROM t"
    let d := (describeStatement sql).result
    lex sql = .ok calledFormat ∧ d.hasKeyword .format = true ∧ d.format = none := by
  intro sql d
  have hlex : lex sql = .ok calledFormat := Token.eq_ok_of_toOption (by decide +kernel)
  have hstatement : (statements calledFormat).headD [] = calledFormat := by decide +kernel
  obtain ⟨-, -, -, -, hcall, hcalls, -⟩ := format_place_agrees_iff hlex
  rw [hstatement] at hcall hcalls
  refine ⟨hlex, hcall (calledFormat.take 1) ⟨.word, "format", 7, 13, 0⟩ (calledFormat.drop 2) rfl
    (by decide) (by decide) (by decide), hcalls (by decide)⟩

end SqlFacts
