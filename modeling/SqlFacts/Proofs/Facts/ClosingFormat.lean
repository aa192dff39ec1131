import SqlFacts.Proofs.Facts.FormatColumn
import SqlFacts.Proofs.Lexeme.Reading

/-!
# Closing `FORMAT` clauses

Each `FORMAT` in front of the name of a format takes the place of those before it, so the format of
a statement is the one that no other follows. The main statement says that a closing clause wins:
behind columns, calls and subqueries of whatever sort, its format is the one that is read.
-/

namespace SqlFacts

open Lexeme

/-! ### Names of formats -/

/-- What names a format behind `FORMAT`, with the given lexemes behind it. `VALUES` does so whatever
follows. A quoted name, and a bare word that may not follow a column called `format`, do so unless
they are called. -/
inductive FormatName (name : Lexeme) (rest : List Lexeme) : Prop where
  | values : name.isWord ["VALUES"] = true → FormatName name rest
  | quoted : name.kind = .name → startsWith (isSymbol "(") rest = false → FormatName name rest
  | bare : name.kind = .word → name.isWord formatStopWords = false →
      startsWith (isSymbol "(") rest = false → FormatName name rest

section Names

variable {name : Lexeme} {rest : List Lexeme}

/-- Of the lexemes behind `FORMAT`, the first one names a format by what it is and what follows. -/
theorem namesFormat_cons_iff : namesFormat (name :: rest) = true ↔ FormatName name rest := by
  rw [namesFormat, Bool.or_eq_true, Bool.and_eq_true, Bool.and_eq_true, Bool.not_eq_true',
    Bool.not_eq_true', isIdentifier, Bool.or_eq_true, beq_iff_eq, beq_iff_eq]
  constructor
  · rintro (hvalues | ⟨⟨hword | hquoted, huncalled⟩, hname⟩)
    · exact .values hvalues
    · exact .bare hword hname huncalled
    · exact .quoted hquoted huncalled
  · intro h
    cases h with
    | values hvalues => exact .inl hvalues
    | quoted hquoted huncalled =>
      have hbare : name.isWord formatStopWords = false := by
        rw [isWord, hquoted]
        rfl
      exact .inr ⟨⟨.inr hquoted, huncalled⟩, hbare⟩
    | bare hword hname huncalled => exact .inr ⟨⟨.inl hword, huncalled⟩, hname⟩

/-- The name of a format is not the word `FORMAT`. -/
theorem FormatName.isWord_format (h : FormatName name rest) : name.isWord ["FORMAT"] = false := by
  cases h with
  | values hvalues => exact isWord_of_disjoint hvalues (by decide)
  | quoted hquoted =>
    rw [isWord, hquoted]
    rfl
  | bare _ hname =>
    rw [← Bool.not_eq_true]
    intro hformat
    rw [isWord_of_subset hformat (by decide)] at hname
    cases hname

end Names

/-! ### The last name -/

section Last

variable {limit : Int} {lexemes : List Lexeme} {text : String}

/-- A clause in front of a list is the word `FORMAT` with the name of a format behind it. -/
theorem formatHere?_eq_some_iff :
    formatHere? limit lexemes = some text ↔
      ∃ word name rest, lexemes = word :: name :: rest ∧
        word.isWordWithin ["FORMAT"] limit = true ∧ FormatName name rest ∧ name.text = text := by
  rcases lexemes with _ | ⟨word, _ | ⟨name, rest⟩⟩
  · simp [formatHere?]
  · simp [formatHere?]
  · rw [formatHere?]
    constructor
    · intro h
      split at h
      · next hclause =>
        rw [Bool.and_eq_true, namesFormat_cons_iff] at hclause
        exact ⟨word, name, rest, rfl, hclause.1, hclause.2, Option.some.inj h⟩
      · cases h
    · rintro ⟨_, _, _, hsplit, hword, hname, rfl⟩
      cases hsplit
      exact if_pos (Bool.and_eq_true_iff.mpr ⟨hword, namesFormat_cons_iff.mpr hname⟩)

/-- The format of a list is that of a clause behind which there is no other. -/
theorem format?_eq_some_iff :
    format? limit lexemes = some text ↔
      ∃ front word name rest, lexemes = front ++ word :: name :: rest ∧
        word.isWordWithin ["FORMAT"] limit = true ∧ FormatName name rest ∧ name.text = text ∧
        format? limit (name :: rest) = none := by
  rw [format?, lastSome_eq_some_iff]
  constructor
  · rintro ⟨front, lx, behind, rfl, hread, hnone⟩
    obtain ⟨word, name, rest, hsplit, hword, hname, htext⟩ := formatHere?_eq_some_iff.mp hread
    cases hsplit
    exact ⟨front, lx, name, rest, rfl, hword, hname, htext, hnone⟩
  · rintro ⟨front, word, name, rest, rfl, hword, hname, htext, hnone⟩
    exact ⟨front, word, name :: rest, rfl,
      formatHere?_eq_some_iff.mpr ⟨word, name, rest, rfl, hword, hname, htext⟩, hnone⟩

/-- Without the word `FORMAT` there is no format. -/
theorem format?_eq_none_of_absent (h : ∀ lx ∈ lexemes, lx.isWordWithin ["FORMAT"] limit = false) :
    format? limit lexemes = none := by
  rw [Option.eq_none_iff_forall_ne_some]
  intro text htext
  obtain ⟨front, word, name, rest, rfl, hword, -⟩ := format?_eq_some_iff.mp htext
  rw [h word List.mem_append_cons_self] at hword
  cases hword

/-- Behind a clause whose name of a format no other `FORMAT` follows, its name is the format that is
read, whatever stands in front of it. -/
theorem format_of_closing_clause (front : List Lexeme) {rest : List Lexeme} {word name : Lexeme}
    (hword : word.isWordWithin ["FORMAT"] limit = true) (hname : FormatName name rest)
    (hrest : ∀ lx ∈ rest, lx.isWordWithin ["FORMAT"] limit = false) :
    format? limit (front ++ word :: name :: rest) = some name.text := by
  have hother : name.isWordWithin ["FORMAT"] limit = false :=
    isWordWithin_eq_false hname.isWord_format limit
  have hnone : format? limit (name :: rest) = none :=
    format?_eq_none_of_absent (List.forall_mem_cons.mpr ⟨hother, hrest⟩)
  exact format?_eq_some_iff.mpr ⟨front, word, name, rest, rfl, hword, hname, rfl, hnone⟩

end Last

/-- The lexemes of a query with a column, a call and a subquery that read like clauses, up to the
closing clause. -/
def earlierFormats : List Lexeme :=
  [⟨.word, "SELECT", 0, 6, 0⟩, ⟨.word, "format", 7, 13, 0⟩, ⟨.word, "a", 14, 15, 0⟩,
    ⟨.symbol, ",", 15, 16, 0⟩, ⟨.word, "format", 17, 23, 0⟩, ⟨.symbol, "(", 23, 24, 0⟩,
    ⟨.word, "b", 24, 25, 1⟩, ⟨.symbol, ")", 25, 26, 0⟩, ⟨.word, "FROM", 27, 31, 0⟩,
    ⟨.symbol, "(", 32, 33, 0⟩, ⟨.word, "SELECT", 33, 39, 1⟩, ⟨.number, "1", 40, 41, 1⟩,
    ⟨.word, "FORMAT", 42, 48, 1⟩, ⟨.word, "CSV", 49, 52, 1⟩, ⟨.symbol, ")", 52, 53, 0⟩,
    ⟨.word, "FORMAT", 54, 60, 0⟩]

/-- A closing clause wins over a column, a call, a subquery and a `FORMAT` directly in front of it,
and over the rows behind it. -/
theorem format_earlierFormats :
    let sql := "SELECT format a, format(b) FROM (SELECT 1 FORMAT CSV) FORMAT format values (2)"
    let word : Lexeme := ⟨.word, "format", 61, 67, 0⟩
    let name : Lexeme := ⟨.word, "values", 68, 74, 0⟩
    let rest : List Lexeme :=
      [⟨.symbol, "(", 75, 76, 0⟩, ⟨.number, "2", 76, 77, 1⟩, ⟨.symbol, ")", 77, 78, 0⟩]
    let facts := Facts.ofLexemes sql (earlierFormats ++ word :: name :: rest)
    lex sql = .ok (earlierFormats ++ word :: name :: rest) ∧
      word.isWordWithin ["FORMAT"] facts.depth = true ∧ FormatName name rest ∧
      (∀ lx ∈ rest, lx.isWordWithin ["FORMAT"] facts.depth = false) ∧
      facts.format = some "values" := by
  intro sql word name rest facts
  have hlex : lex sql = .ok (earlierFormats ++ word :: name :: rest) :=
    Token.eq_ok_of_toOption (by decide +kernel)
  have hword : word.isWordWithin ["FORMAT"] facts.depth = true := by decide
  have hname : FormatName name rest := .values (by decide)
  have hrest : ∀ lx ∈ rest, lx.isWordWithin ["FORMAT"] facts.depth = false := by decide
  exact ⟨hlex, hword, hname, hrest, format_of_closing_clause earlierFormats hword hname hrest⟩

end SqlFacts
