import SqlFacts.Description
import SqlFacts.Proofs.Aligned.Verb
import SqlFacts.Proofs.Token.Order

/-!
# Columns called `format`

A column may be called `format`. What follows it tells it from a `FORMAT` clause: the end of the
statement, a symbol, or a word of an expression or a sort key. Operators and sort directions are
not among the words that name no format, so behind such a column they are taken for one. The main
statement says exactly when this happens, and what the format is then.
-/

namespace SqlFacts

open Lexeme

/-! ### What stands behind `FORMAT` -/

/-- What stands behind each word `FORMAT` that is nested no deeper than the limit. -/
def behindFormats (limit : Int) : List Lexeme → List (List Lexeme)
  | [] => []
  | lx :: rest =>
    if lx.isWordWithin [Keyword.format.name] limit then rest :: behindFormats limit rest
    else behindFormats limit rest

/-- The text of the first lexeme. -/
def firstText? (lexemes : List Lexeme) : Option String := lexemes.head?.map text

section Behind

variable {limit : Int}

theorem mem_behindFormats_iff {lexemes after : List Lexeme} :
    after ∈ behindFormats limit lexemes ↔
      ∃ before word, lexemes = before ++ word :: after ∧
        word.isWordWithin [Keyword.format.name] limit = true := by
  induction lexemes with
  | nil => simp [behindFormats]
  | cons lx rest ih =>
    have hbehind : after ∈ behindFormats limit (lx :: rest) ↔
        (lx.isWordWithin [Keyword.format.name] limit = true ∧ after = rest) ∨
          after ∈ behindFormats limit rest := by
      rw [behindFormats]
      split <;> simp_all
    rw [hbehind, ih]
    constructor
    · rintro (⟨hword, rfl⟩ | ⟨before, word, rfl, hword⟩)
      · exact ⟨[], lx, rfl, hword⟩
      · exact ⟨lx :: before, word, rfl, hword⟩
    · rintro ⟨before, word, hsplit, hword⟩
      cases before with
      | nil =>
        cases hsplit
        exact .inl ⟨hword, rfl⟩
      | cons _ before =>
        cases hsplit
        exact .inr ⟨before, word, rfl, hword⟩

/-- The format of a clause is the first text behind `FORMAT`, if it names a format. -/
theorem formatHere?_cons (lx : Lexeme) (rest : List Lexeme) :
    formatHere? limit (lx :: rest) =
      if lx.isWordWithin [Keyword.format.name] limit && namesFormat rest then
        firstText? rest
      else none := by
  cases rest with
  | nil => simp [formatHere?, namesFormat]
  | cons name rest => rfl

/-- The format of a statement is the text behind the last `FORMAT` that names one. -/
theorem format?_eq_getLast? (lexemes : List Lexeme) :
    format? limit lexemes =
      (((behindFormats limit lexemes).filter namesFormat).filterMap firstText?).getLast? := by
  induction lexemes with
  | nil => rfl
  | cons lx rest ih =>
    rw [format?] at ih ⊢
    rw [lastSome, ih, formatHere?_cons, behindFormats]
    by_cases hword : lx.isWordWithin [Keyword.format.name] limit = true
    · rw [if_pos hword, hword, List.filter_cons, Bool.true_and]
      by_cases hnames : namesFormat rest = true
      · obtain ⟨name, others, rfl⟩ : ∃ name others, rest = name :: others :=
          List.exists_cons_of_ne_nil (by rintro rfl; cases hnames)
        have htext : firstText? (name :: others) = some name.text := rfl
        rw [if_pos hnames, if_pos hnames, List.filterMap_cons_some htext, List.getLast?_cons]
        cases List.getLast? _ <;> rfl
      · rw [if_neg hnames, if_neg hnames]
        cases List.getLast? _ <;> rfl
    · rw [if_neg hword, Bool.eq_false_iff.mpr hword]
      cases List.getLast? _ <;> rfl

end Behind

/-! ### Words behind a column -/

/-- The operators and sort directions, which may follow a column of any name. -/
def operatorWords : List String :=
  ["AND", "OR", "NOT", "IS", "IN", "LIKE", "ILIKE", "BETWEEN", "ASC", "DESC"]

/-- The words that may follow a column in an expression or a sort key. -/
def columnFollowers : List String :=
  operatorWords ++ ["AS", "FROM", "WHERE", "GROUP", "ORDER", "HAVING", "LIMIT"]

/-- Tests whether a list may follow a column in an expression or a sort key: it is empty or begins
with a symbol or such a word. -/
def followsColumn (lexemes : List Lexeme) : Bool :=
  lexemes.head?.all fun lx => lx.kind == .symbol || lx.isWord columnFollowers

/-- Tests for an operator or a sort direction that is not followed by a parenthesis. -/
def beginsWithOperator : List Lexeme → Bool
  | [] => false
  | lx :: rest => lx.isWord operatorWords && !startsWith (isSymbol "(") rest

/-- Of the words that may follow a column, those that are no operators name no format. -/
theorem isWord_formatStopWords {lx : Lexeme} (h : lx.isWord columnFollowers = true) :
    lx.isWord formatStopWords = !lx.isWord operatorWords := by
  have hstop : ∀ word ∈ columnFollowers,
      formatStopWords.contains word = !operatorWords.contains word := by decide
  rw [isWord, Bool.and_eq_true, List.contains_iff_mem] at h
  rw [isWord, isWord, h.1, hstop lx.capitals h.2, Bool.true_and, Bool.true_and]

/-- What may follow a column names a format exactly if it begins with an operator that is not
followed by a parenthesis. -/
theorem namesFormat_of_followsColumn {lexemes : List Lexeme} (h : followsColumn lexemes = true) :
    namesFormat lexemes = beginsWithOperator lexemes := by
  cases lexemes with
  | nil => rfl
  | cons lx rest =>
    rw [followsColumn, List.head?_cons, Option.all_some, Bool.or_eq_true] at h
    rcases h with hsymbol | hword
    · rw [beq_iff_eq] at hsymbol
      rw [namesFormat, beginsWithOperator, isWord, isWord, isWord, isIdentifier, hsymbol]
      rfl
    · have hkind : lx.kind = .word := kind_of_isWord hword
      have hvalues : lx.isWord [Keyword.values.name] = false := by
        rw [← Bool.not_eq_true]
        intro hvalues
        rw [isWord_of_disjoint hvalues (by decide)] at hword
        cases hword
      rw [namesFormat, beginsWithOperator, hvalues, isWord_formatStopWords hword, isIdentifier,
        hkind]
      simp [Bool.and_comm]

/-- If each `FORMAT` of a statement is followed by what may follow a column, then the statement has
no format exactly if none is followed by an operator or a sort direction that has no parenthesis
behind it. Otherwise its format is the last such word. -/
theorem format_of_columns_iff (sql : String) {statement : List Lexeme}
    (hcolumns : ∀ after ∈ behindFormats (Facts.ofLexemes sql statement).depth statement,
      followsColumn after = true) :
    let facts := Facts.ofLexemes sql statement
    let behind := behindFormats facts.depth statement
    (facts.format = none ↔ ∀ after ∈ behind, beginsWithOperator after = false) ∧
      facts.format =
        ((behind.filter beginsWithOperator).filterMap firstText?).getLast? := by
  intro facts behind
  have hfilter : behind.filter namesFormat = behind.filter beginsWithOperator :=
    List.filter_congr fun after hafter => namesFormat_of_followsColumn (hcolumns after hafter)
  have hformat : facts.format =
      ((behind.filter beginsWithOperator).filterMap firstText?).getLast? := by
    rw [← hfilter]
    exact format?_eq_getLast? statement
  have hnamed : ∀ after, beginsWithOperator after = true → firstText? after ≠ none := by
    rintro (_ | ⟨lx, rest⟩) h
    · cases h
    · exact fun hnone => nomatch hnone
  refine ⟨?_, hformat⟩
  rw [hformat, List.getLast?_eq_none_iff, List.filterMap_eq_nil_iff]
  simp only [List.mem_filter, and_imp]
  constructor
  · intro h after hafter
    rw [← Bool.not_eq_true]
    exact fun hoperator => hnamed after hoperator (h after hafter hoperator)
  · intro h after hafter hoperator
    rw [h after hafter] at hoperator
    cases hoperator

/-- The lexemes of a query sorted by a column called `format`. -/
def sortedByFormat : List Lexeme :=
  [⟨.word, "SELECT", 0, 6, 0⟩, ⟨.word, "a", 7, 8, 0⟩, ⟨.word, "FROM", 9, 13, 0⟩,
    ⟨.word, "t", 14, 15, 0⟩, ⟨.word, "ORDER", 16, 21, 0⟩, ⟨.word, "BY", 22, 24, 0⟩,
    ⟨.word, "format", 25, 31, 0⟩, ⟨.word, "DESC", 32, 36, 0⟩]

/-- The direction of a sort key called `format` is taken for a format. -/
theorem format_sortedByFormat :
    let sql := "SELECT a FROM t ORDER BY format DESC"
    let facts := Facts.ofLexemes sql sortedByFormat
    lex sql = .ok sortedByFormat ∧ facts.kind = .select ∧
      (∀ after ∈ behindFormats facts.depth sortedByFormat, followsColumn after = true) ∧
      (describeStatement sql).result.format = some "DESC" := by
  intro sql facts
  have hlex : lex sql = .ok sortedByFormat := Token.eq_ok_of_toOption (by decide +kernel)
  have hcolumns : ∀ after ∈ behindFormats facts.depth sortedByFormat,
      followsColumn after = true := by decide
  have hstatement : (statements sortedByFormat).headD [] = sortedByFormat := by decide
  have hdescribed : (describeStatement sql).result.format = facts.format := by
    rw [describeStatement_of_lex_ok hlex]
    show (Facts.ofLexemes sql ((statements sortedByFormat).headD [])).format = facts.format
    rw [hstatement]
  refine ⟨hlex, rfl, hcolumns, ?_⟩
  rw [hdescribed, (format_of_columns_iff sql hcolumns).2]
  decide

end SqlFacts
