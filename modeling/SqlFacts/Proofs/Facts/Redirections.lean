import SqlFacts.Proofs.Facts.Positions
import SqlFacts.Proofs.Lexeme.Level
import SqlFacts.Proofs.Lexeme.Reading

/-!
# Redirections

A file is read or written by a clause of two words and a literal, of which only the first word has
to be nested no deeper than the statement, while a word is recorded only if it is itself no deeper.
Neighbours without a parenthesis are equally deep, so the second word is recorded wherever a clause
is read. The main statement says what both redirections tell about a text.
-/

namespace SqlFacts

open Lexeme

/-! ### Clauses of two words and a literal -/

/-- A redirection, two words and a literal with the given text, begins a list. Its first word is
nested no deeper than the limit. -/
inductive Redirection (first second : Keyword) (limit : Int) (text : String) :
    List Lexeme → Prop where
  | intro {word follow literal : Lexeme} {rest : List Lexeme} :
      word.isWordWithin [first.name] limit = true → follow.isWord [second.name] = true →
      literal.isString = true → literal.text = text →
        Redirection first second limit text (word :: follow :: literal :: rest)

/-- A statement holds a redirection by the two words. -/
def HoldsRedirection (first second : Keyword) (limit : Int) (statement : List Lexeme) : Prop :=
  ∃ text front rest, statement = front ++ rest ∧ Redirection first second limit text rest

/-- The first redirection of a statement by the two words has a literal with the given text. -/
def FirstRedirection (first second : Keyword) (limit : Int) (statement : List Lexeme)
    (text : String) : Prop :=
  ∃ front rest, statement = front ++ rest ∧ Redirection first second limit text rest ∧
    ∀ later, later <:+ front → later ≠ [] →
      ∀ other, ¬ Redirection first second limit other (later ++ rest)

section Reading

variable {first second : Keyword} {limit : Int} {lexemes statement : List Lexeme} {text : String}

/-- A literal is read exactly from the beginning of its redirection. -/
theorem literalHere?_eq_some_iff :
    literalHere? first second limit lexemes = some text ↔
      Redirection first second limit text lexemes := by
  constructor
  · intro h
    rcases lexemes with _ | ⟨word, _ | ⟨follow, _ | ⟨literal, rest⟩⟩⟩
    · cases h
    · cases h
    · cases h
    · rw [literalHere?, Option.ite_none_right_eq_some, Bool.and_eq_true, Bool.and_eq_true,
        Option.some_inj] at h
      obtain ⟨⟨⟨hword, hfollow⟩, hliteral⟩, htext⟩ := h
      exact .intro hword hfollow hliteral htext
  · rintro (⟨hword, hfollow, hliteral, htext⟩)
    rw [literalHere?, hword, hfollow, hliteral, htext]
    rfl

/-- Along a statement, the literal of the first redirection is read. -/
theorem firstSome_literalHere?_eq_some_iff :
    firstSome (literalHere? first second limit) statement = some text ↔
      FirstRedirection first second limit statement text := by
  rw [firstSome_eq_some_iff rfl]
  simp only [literalHere?_eq_some_iff, Option.eq_none_iff_forall_ne_some, ne_eq]
  rfl

/-- A statement that holds a redirection has a first one. -/
theorem holdsRedirection_iff :
    HoldsRedirection first second limit statement ↔
      ∃ text, FirstRedirection first second limit statement text := by
  constructor
  · rintro ⟨text, front, rest, rfl, hredirection⟩
    have hanswered : firstSome (literalHere? first second limit) (front ++ rest) ≠ none := by
      intro hnone
      rw [firstSome_eq_findSome?_tails rfl, List.findSome?_eq_none_iff] at hnone
      have hhere := hnone rest ((List.mem_tails _ _).mpr (List.suffix_append _ _))
      rw [literalHere?_eq_some_iff.mpr hredirection] at hhere
      cases hhere
    obtain ⟨found, hfound⟩ := Option.ne_none_iff_exists'.mp hanswered
    exact ⟨found, firstSome_literalHere?_eq_some_iff.mp hfound⟩
  · rintro ⟨text, front, rest, hsplit, hredirection, -⟩
    exact ⟨text, front, rest, hsplit, hredirection⟩

end Reading

/-! ### Recorded redirections -/

/-- A word between another word and a literal is no name of a column. -/
theorem isColumnName_between {front rest : List Lexeme} {word literal : Lexeme}
    {words : List String} (hword : word.isWord words = true) (hliteral : literal.isString = true) :
    isColumnName (front ++ [word]).getLast? (literal :: rest).head? = false := by
  have hnext (others : List String) : literal.isWord others = false := by
    rw [isString, beq_iff_eq] at hliteral
    rw [isWord, hliteral]
    rfl
  have hsymbol (symbol : String) : literal.isSymbol symbol = false :=
    isSymbol_eq_false isString_of_isSymbol hliteral
  rw [isColumnName_eq, List.getLast?_concat, Option.any_some,
    isSymbol_eq_false (fun h => isWord_of_isSymbol h words) hword, showsColumn, startsWith_cons,
    hnext, hsymbol, hsymbol, hsymbol]
  rfl

/-- Where its parentheses tell the depths of a statement, the second word of a redirection is
recorded. -/
theorem hasKeyword_of_holdsRedirection {first second : Keyword} {statement : List Lexeme}
    (sql : String) (heverywhere : ∀ isObjectWord inData previous next,
      second.isUsed isObjectWord inData previous next = true)
    (hleveled : Leveled 0 statement)
    (h : HoldsRedirection first second (bodyDepth statement (leadingWord? statement)) statement) :
    (Descriptor.ofFacts sql (Facts.ofLexemes sql statement)).hasKeyword second = true := by
  obtain ⟨text, front, _, hsplit, @⟨word, follow, literal, rest, hword, hfollow, hliteral, -⟩⟩ := h
  have hnamed := isWord_of_isWordWithin hword
  have hdepth : follow.depth = word.depth := by
    rw [hsplit] at hleveled
    exact hleveled.depth_eq (isParen_of_isWord hnamed) (isParen_of_isWord hfollow)
  have hwithin : follow.isWordWithin [second.name]
      (bodyDepth statement (leadingWord? statement)) = true := by
    rw [isWordWithin, Bool.and_eq_true] at hword ⊢
    exact ⟨hdepth ▸ hword.1, hfollow⟩
  rw [hasKeyword_ofLexemes_iff]
  refine ⟨front ++ [word], follow, literal :: rest, ?_, ?_⟩
  · rw [hsplit, List.append_assoc]
    rfl
  · exact (usedAt_iff_of_isUsed heverywhere).mpr ⟨hwithin, isColumnName_between hnamed hliteral⟩

/-- What an output file that is given makes of a statement: it changes something and yields no
result, and only a definition or removal with a recorded guard can be run again. -/
theorem effect_of_hasOutfile {d : Descriptor} (h : d.hasOutfile = true) :
    d.isMutation = true ∧ d.isQuery = false ∧
      (d.isIdempotent = true ↔
        [Kind.attach, .create, .detach, .drop].contains d.kind = true ∧
          (d.hasKeyword .exists = true ∨ d.hasKeyword .replace = true)) := by
  have hguarded : d.kind.isGuarded = [Kind.attach, .create, .detach, .drop].contains d.kind := by
    cases d.kind <;> rfl
  refine ⟨?_, ?_, ?_⟩
  · rw [Descriptor.isMutation, h, Bool.or_true]
  · rw [Descriptor.isQuery, h, Bool.not_true, Bool.and_false]
  · rw [Descriptor.isIdempotent, h, Bool.not_true, Bool.and_false, Bool.false_or, hguarded,
      Bool.and_eq_true, Bool.or_eq_true]

/-- The output file of a text is the literal of the first `INTO OUTFILE` clause of its statement,
if there is one. The keyword is then recorded, and if the file has a name, then the text is a
mutation and no query, and is idempotent only under a recorded guard. Where the statement holds a
`FROM INFILE` clause, the input is the literal of the first one, whatever calls of `input` the
statement holds, and the keyword is recorded. -/
theorem redirections_recorded {sql : String} {lexemes : List Lexeme}
    (hlex : lex sql = .ok lexemes) :
    let statement := (statements lexemes).headD []
    let limit := bodyDepth statement (leadingWord? statement)
    let d := (describeStatement sql).result
    (d.outfile.isSome = true ↔ HoldsRedirection .into .outfile limit statement) ∧
      (∀ file, d.outfile = some file ↔ FirstRedirection .into .outfile limit statement file) ∧
      (∀ file, d.outfile = some file → d.hasKeyword .outfile = true ∧
        (file ≠ "" → d.isMutation = true ∧ d.isQuery = false ∧
          (d.isIdempotent = true ↔
            [Kind.attach, .create, .detach, .drop].contains d.kind = true ∧
              (d.hasKeyword .exists = true ∨ d.hasKeyword .replace = true)))) ∧
      (HoldsRedirection .from .infile limit statement →
        ∃ file, FirstRedirection .from .infile limit statement file ∧ d.input = some file ∧
          d.hasKeyword .infile = true) := by
  intro statement limit d
  have hleveled : Leveled 0 statement := leveled_headD_statements hlex
  have hd : d = .ofFacts sql (Facts.ofLexemes sql statement) := result_describeStatement hlex
  have hfile (file : String) :
      d.outfile = some file ↔ FirstRedirection .into .outfile limit statement file := by
    rw [hd]
    exact firstSome_literalHere?_eq_some_iff
  have hpresent : d.outfile.isSome = true ↔ HoldsRedirection .into .outfile limit statement := by
    rw [Option.isSome_iff_exists, holdsRedirection_iff]
    exact exists_congr hfile
  refine ⟨hpresent, hfile, fun file houtfile => ⟨?_, fun hnamed => ?_⟩, fun hinfile => ?_⟩
  · rw [hd]
    exact hasKeyword_of_holdsRedirection sql (fun _ _ _ _ => rfl) hleveled
      (hpresent.mp (Option.isSome_of_eq_some houtfile))
  · apply effect_of_hasOutfile
    rw [Descriptor.hasOutfile, Descriptor.isGiven, houtfile, Option.any_some, Bool.not_eq_true']
    simpa using hnamed
  · obtain ⟨file, hfirst⟩ := holdsRedirection_iff.mp hinfile
    have hread : infile? limit statement = some file :=
      firstSome_literalHere?_eq_some_iff.mpr hfirst
    have hinput : d.input = input? limit statement := by
      rw [hd]
      rfl
    refine ⟨file, hfirst, ?_, ?_⟩
    · rw [hinput, input?, hread]
    · rw [hd]
      exact hasKeyword_of_holdsRedirection sql (fun _ _ _ _ => rfl) hleveled hinfile

/-- The lexemes of a query with both redirections and a call of `input`. -/
def redirectedQuery : List Lexeme :=
  [⟨.word, "SELECT", 0, 6, 0⟩, ⟨.word, "input", 7, 12, 0⟩, ⟨.symbol, "(", 12, 13, 0⟩,
    ⟨.string, "b", 13, 16, 1⟩, ⟨.symbol, ")", 16, 17, 0⟩, ⟨.word, "FROM", 18, 22, 0⟩,
    ⟨.word, "INFILE", 23, 29, 0⟩, ⟨.string, "a", 30, 33, 0⟩, ⟨.word, "INTO", 34, 38, 0⟩,
    ⟨.word, "OUTFILE", 39, 46, 0⟩, ⟨.string, "c", 47, 50, 0⟩]

/-- A query that reads one file and writes another counts as a mutation that cannot be run again,
and the call does not tell its input. -/
theorem redirections_recorded_query :
    let sql := "SELECT input('b') FROM INFILE 'a' INTO OUTFILE 'c'"
    let d := (describeStatement sql).result
    lex sql = .ok redirectedQuery ∧ d.kind = .select ∧
      FirstRedirection .into .outfile 0 redirectedQuery "c" ∧ d.hasKeyword .outfile = true ∧
      d.isMutation = true ∧ d.isQuery = false ∧ d.isIdempotent = false ∧
      FirstRedirection .from .infile 0 redirectedQuery "a" ∧ d.input = some "a" ∧
      d.hasKeyword .infile = true := by
  intro sql d
  have hlex : lex sql = .ok redirectedQuery := Token.eq_ok_of_toOption (by decide +kernel)
  have hstatement : (statements redirectedQuery).headD [] = redirectedQuery := by decide +kernel
  have hlimit : bodyDepth redirectedQuery (leadingWord? redirectedQuery) = 0 := by decide
  have hd : d = .ofFacts sql (Facts.ofLexemes sql redirectedQuery) := by
    rw [← hstatement]
    exact result_describeStatement hlex
  have hkind : d.kind = .select := by
    rw [hd]
    rfl
  have houtfile : d.outfile = some "c" := by
    rw [hd]
    rfl
  have hinput : d.input = some "a" := by
    rw [hd]
    rfl
  obtain ⟨-, hfile, heffect, hread⟩ := redirections_recorded hlex
  rw [hstatement, hlimit] at hfile hread
  obtain ⟨hrecorded, hnamed⟩ := heffect "c" houtfile
  obtain ⟨hmutation, hquery, hidempotent⟩ := hnamed (by decide)
  have hredirection : Redirection .from .infile 0 "a" (redirectedQuery.drop 5) :=
    .intro (by decide) (by decide) (by decide) rfl
  obtain ⟨file, hfirst, hsame, hinfile⟩ :=
    hread ⟨"a", redirectedQuery.take 5, redirectedQuery.drop 5, rfl, hredirection⟩
  cases Option.some.inj (hsame.symm.trans hinput)
  refine ⟨hlex, hkind, (hfile "c").mp houtfile, hrecorded, hmutation, hquery, ?_, hfirst, hinput,
    hinfile⟩
  rw [← Bool.not_eq_true]
  intro hrun
  have hguarded := (hidempotent.mp hrun).1
  rw [show (describeStatement sql).result.kind = .select from hkind] at hguarded
  cases hguarded

end SqlFacts
