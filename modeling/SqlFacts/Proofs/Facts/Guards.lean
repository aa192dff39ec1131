import Mathlib.Data.List.Infix
import SqlFacts.Proofs.Aligned.Lists
import SqlFacts.Proofs.Facts.Positions
import SqlFacts.Proofs.Token.Order

/-!
# Guards of definitions

An attachment, a creation, a detachment or a removal can be run again if it is guarded by
`OR REPLACE`, `IF EXISTS` or `IF NOT EXISTS`. A descriptor goes by the recorded places of `EXISTS`
and `REPLACE` alone. So a stray word outside a guard may count as one: an operand called `exists`,
or a call of the function `replace` behind `OR`. The main statement says exactly which do, and that
a guard in front of the name of an object always counts, whatever else the statement holds.
-/

namespace SqlFacts

open Lexeme

namespace Lexeme

/-! ### Guards and words that count as one -/

/-- Tests whether a list begins with lexemes that pass the tests, one each. -/
def beginsAs : List (Lexeme → Bool) → List Lexeme → Bool
  | [], _ => true
  | _ :: _, [] => false
  | test :: tests, lx :: rest => test lx && beginsAs tests rest

/-- Tests whether a list ends in lexemes that pass the tests, one each. -/
def endsAs (tests : List (Lexeme → Bool)) (lexemes : List Lexeme) : Bool :=
  lexemes.tails.any fun last => last.length == tests.length && beginsAs tests last

/-- Tests for a guard in a statement: `OR REPLACE` directly behind the verb, or `IF EXISTS` or
`IF NOT EXISTS` nested no deeper than the statement. -/
def hasGuard (statement : List Lexeme) : Bool :=
  let head := leadingWord? statement
  let word (text : String) := isWordWithin [text] (bodyDepth statement head)
  (head.any fun verb => beginsAs [isWord ["OR"], isWord ["REPLACE"]] (statement.drop (verb + 1))) ||
    statement.tails.any fun rest =>
      beginsAs [word "IF", word "EXISTS"] rest ||
        beginsAs [word "IF", word "NOT", word "EXISTS"] rest

/-- Tests whether a lexeme, between those in front of it and those behind, counts as a word of a
guard: `EXISTS` that opens no subquery test, or `REPLACE` behind `OR`, unless the neighbours show
that it is a name. -/
def countsAsGuard (limit : Int) (before : List Lexeme) (lx : Lexeme) (after : List Lexeme) : Bool :=
  !isColumnName before.getLast? after.head? &&
    ((lx.isWordWithin ["EXISTS"] limit && !after.head?.any (isSymbol "(")) ||
      (lx.isWordWithin ["REPLACE"] limit && before.getLast?.any (isWord ["OR"])))

/-- Tests whether a lexeme behind others is the last word of a guard. -/
def closesGuard (limit : Int) (head : Option Nat) (before : List Lexeme) (lx : Lexeme) : Bool :=
  let word (text : String) := isWordWithin [text] limit
  (word "EXISTS" lx && (endsAs [word "IF"] before || endsAs [word "IF", word "NOT"] before)) ||
    (lx.isWord ["REPLACE"] && endsAs [isWord ["OR"]] before && head.any (before.length == · + 2))

/-- A statement has a word that counts as one of a guard, outside any guard. -/
def HasStrayGuardWord (statement : List Lexeme) : Prop :=
  let head := leadingWord? statement
  let limit := bodyDepth statement head
  ∃ before lx after, statement = before ++ lx :: after ∧
    countsAsGuard limit before lx after = true ∧ closesGuard limit head before lx = false

/-- A list that ends in some words, with more words behind it, has them all in a row. -/
theorem beginsAs_append {tests more : List (Lexeme → Bool)} {last rest : List Lexeme}
    (hlength : last.length = tests.length) :
    beginsAs (tests ++ more) (last ++ rest) = (beginsAs tests last && beginsAs more rest) := by
  induction tests generalizing last with
  | nil =>
    rw [List.eq_nil_of_length_eq_zero hlength]
    rfl
  | cons test tests ih =>
    cases last with
    | nil => cases hlength
    | cons lx last =>
      rw [List.cons_append, List.cons_append, beginsAs, beginsAs, ih (Nat.succ.inj hlength),
        Bool.and_assoc]

/-- What ends a list and what follows it stand in a row at the end of the whole. -/
theorem exists_suffix_of_endsAs {tests more : List (Lexeme → Bool)} {before rest : List Lexeme}
    (hbefore : endsAs tests before = true) (hrest : beginsAs more rest = true) :
    ∃ front last, before = front ++ last ∧ last.length = tests.length ∧
      beginsAs (tests ++ more) (last ++ rest) = true := by
  obtain ⟨last, hlast, htests⟩ := List.any_eq_true.mp hbefore
  rw [Bool.and_eq_true, beq_iff_eq] at htests
  obtain ⟨front, rfl⟩ := (List.mem_tails _ _).mp hlast
  refine ⟨front, last, rfl, htests.1, ?_⟩
  rw [beginsAs_append htests.1, htests.2, hrest]
  rfl

/-- The last word of a guard belongs to a guard of the statement. -/
theorem hasGuard_of_closesGuard {statement before after : List Lexeme} {lx : Lexeme}
    (hstatement : statement = before ++ lx :: after)
    (h : closesGuard (bodyDepth statement (leadingWord? statement)) (leadingWord? statement)
      before lx = true) : hasGuard statement = true := by
  simp only [closesGuard, Bool.or_eq_true, Bool.and_eq_true] at h
  rw [hasGuard, Bool.or_eq_true]
  rcases h with ⟨hexists, hif⟩ | ⟨⟨hreplace, hor⟩, hhead⟩
  · right
    have hrest : beginsAs
        [isWordWithin ["EXISTS"] (bodyDepth statement (leadingWord? statement))]
        (lx :: after) = true := by rw [beginsAs, hexists]; rfl
    have hrow {tests : List (Lexeme → Bool)} (htests : endsAs tests before = true) :
        ∃ rest ∈ statement.tails, beginsAs
          (tests ++ [isWordWithin ["EXISTS"] (bodyDepth statement (leadingWord? statement))])
            rest = true := by
      obtain ⟨front, last, hbefore, -, hwords⟩ := exists_suffix_of_endsAs htests hrest
      refine ⟨last ++ lx :: after, ?_, hwords⟩
      rw [List.mem_tails, hstatement, hbefore, List.append_assoc]
      exact List.suffix_append _ _
    rcases hif with hif | hif
    · obtain ⟨rest, hmem, hwords⟩ := hrow hif
      exact List.any_eq_true.mpr ⟨rest, hmem, (Bool.or_eq_true _ _).mpr (.inl hwords)⟩
    · obtain ⟨rest, hmem, hwords⟩ := hrow hif
      exact List.any_eq_true.mpr ⟨rest, hmem, (Bool.or_eq_true _ _).mpr (.inr hwords)⟩
  · left
    obtain ⟨verb, hverb, hlength⟩ := (Option.any_eq_true _ _).mp hhead
    have hrest : beginsAs [isWord ["REPLACE"]] (lx :: after) = true := by
      rw [beginsAs, hreplace]
      rfl
    obtain ⟨front, last, rfl, hlast, hwords⟩ := exists_suffix_of_endsAs hor hrest
    rw [beq_iff_eq, List.length_append, hlast] at hlength
    have hfront : verb + 1 = front.length := by
      simp only [List.length_singleton] at hlength
      omega
    rw [hverb, Option.any_some, hstatement, List.append_assoc, hfront, List.drop_left]
    exact hwords

end Lexeme

/-! ### Guards and descriptors -/

/-- A statement that begins with `REPLACE` is no definition. -/
theorem not_isGuarded_of_replace {sql : String} {lx : Lexeme} {after : List Lexeme}
    (h : lx.isWord ["REPLACE"] = true) :
    (Facts.ofLexemes sql (lx :: after)).kind.isGuarded = false := by
  simp only [isWord, Bool.and_eq_true, beq_iff_eq, List.contains_cons, List.contains_nil,
    Bool.or_false] at h
  have hverb : Kind.ofVerb lx.capitals = .unknown := by
    rw [h.2]
    rfl
  have hstart : lx.capitals ≠ "START" := by
    rw [h.2]
    decide
  rw [Facts.ofLexemes, leadingWord?, if_pos h.1, Kind.ofStatement, List.drop_zero, Kind.ofBeginning,
    if_neg hstart, hverb]
  rfl

private theorem not_idempotent_of_isGuarded {kind : Kind} (h : kind.isGuarded = true) :
    kind.axes.idempotent = false := by
  cases kind <;> first | rfl | cases h

section Use

variable {statement before after : List Lexeme} {lx : Lexeme}

private theorem usedIn_exists_iff :
    Keyword.exists.usedIn statement before lx after = true ↔
      isColumnName before.getLast? after.head? = false ∧
        lx.isWordWithin ["EXISTS"] (bodyDepth statement (leadingWord? statement)) = true ∧
        after.head?.any (isSymbol "(") = false := by
  rw [Keyword.usedIn, Keyword.usedAt, Bool.and_eq_true, Bool.and_eq_true, beq_iff_eq,
    keywordWithin?_eq_some_iff, Bool.not_eq_true', Keyword.isUsed, Bool.not_eq_true', Keyword.name,
    and_comm (a := lx.isWordWithin _ _ = true), and_assoc]

private theorem usedIn_replace_iff :
    Keyword.replace.usedIn statement before lx after = true ↔
      isColumnName before.getLast? after.head? = false ∧
        lx.isWordWithin ["REPLACE"] (bodyDepth statement (leadingWord? statement)) = true ∧
        before.getLast?.all (isWord ["OR"]) = true := by
  rw [Keyword.usedIn, Keyword.usedAt, Bool.and_eq_true, Bool.and_eq_true, beq_iff_eq,
    keywordWithin?_eq_some_iff, Bool.not_eq_true', Keyword.isUsed, Keyword.name,
    and_comm (a := lx.isWordWithin _ _ = true), and_assoc]

end Use

/-- A definition is idempotent exactly if a word of the statement counts as one of a guard. -/
theorem isIdempotent_ofLexemes_iff (sql : String) (statement : List Lexeme)
    (h : (Facts.ofLexemes sql statement).kind.isGuarded = true) :
    (Descriptor.ofFacts sql (Facts.ofLexemes sql statement)).isIdempotent = true ↔
      ∃ before lx after, statement = before ++ lx :: after ∧
        countsAsGuard (bodyDepth statement (leadingWord? statement)) before lx after = true := by
  have hkind : (Descriptor.ofFacts sql (Facts.ofLexemes sql statement)).kind =
    (Facts.ofLexemes sql statement).kind := rfl
  rw [Descriptor.isIdempotent, hkind, h, not_idempotent_of_isGuarded h, Bool.false_and,
    Bool.false_or, Bool.true_and, Bool.or_eq_true, hasKeyword_ofLexemes_iff,
    hasKeyword_ofLexemes_iff]
  constructor
  · rintro (⟨before, lx, after, hstatement, hused⟩ | ⟨before, lx, after, hstatement, hused⟩)
    · obtain ⟨hname, hwithin, hnext⟩ := usedIn_exists_iff.mp hused
      refine ⟨before, lx, after, hstatement, ?_⟩
      rw [countsAsGuard, hname, hwithin, hnext]
      rfl
    · obtain ⟨hname, hwithin, hprevious⟩ := usedIn_replace_iff.mp hused
      refine ⟨before, lx, after, hstatement, ?_⟩
      have hor : before.getLast?.any (isWord ["OR"]) = true := by
        cases hlast : before.getLast? with
        | none =>
          -- Then the statement begins with the word, and is no definition.
          rw [List.getLast?_eq_none_iff.mp hlast, List.nil_append] at hstatement
          rw [hstatement, not_isGuarded_of_replace (isWord_of_isWordWithin hwithin)] at h
          cases h
        | some previous =>
          rw [hlast] at hprevious
          exact hprevious
      simp [countsAsGuard, hname, hwithin, hor]
  · rintro ⟨before, lx, after, hstatement, hcounts⟩
    simp only [countsAsGuard, Bool.and_eq_true, Bool.or_eq_true, Bool.not_eq_true'] at hcounts
    obtain ⟨hname, ⟨hwithin, hnext⟩ | ⟨hwithin, hor⟩⟩ := hcounts
    · left
      exact ⟨before, lx, after, hstatement, usedIn_exists_iff.mpr ⟨hname, hwithin, hnext⟩⟩
    · right
      have hprevious : before.getLast?.all (isWord ["OR"]) = true := by
        obtain ⟨previous, hlast, hword⟩ := (Option.any_eq_true _ _).mp hor
        rw [hlast]
        exact hword
      exact ⟨before, lx, after, hstatement, usedIn_replace_iff.mpr ⟨hname, hwithin, hprevious⟩⟩

/-- A definition is described as idempotent exactly if one of its words counts as a guard word.
It is so only with a guard under the exact condition that it has a guard or no stray guard word. -/
theorem isIdempotent_imp_hasGuard_iff {sql : String}
    (h : (describeStatement sql).result.kind.isGuarded = true) :
    ∃ lexemes, lex sql = .ok lexemes ∧
      let statement := (statements lexemes).headD []
      let limit := bodyDepth statement (leadingWord? statement)
      ((describeStatement sql).result.isIdempotent = true ↔
          ∃ before lx after, statement = before ++ lx :: after ∧
            countsAsGuard limit before lx after = true) ∧
        (((describeStatement sql).result.isIdempotent = true → hasGuard statement = true) ↔
          hasGuard statement = true ∨ ¬ HasStrayGuardWord statement) := by
  cases hlex : lex sql with
  | error e =>
    simp only [describeStatement_of_lex_error hlex] at h
    cases h
  | ok lexemes =>
    refine ⟨lexemes, rfl, ?_⟩
    intro statement limit
    simp only [describeStatement_of_lex_ok hlex] at h ⊢
    have hcounts := isIdempotent_ofLexemes_iff sql statement h
    refine ⟨hcounts, ?_⟩
    constructor
    · intro hsound
      by_cases hguard : hasGuard statement = true
      · exact .inl hguard
      · right
        rintro ⟨before, lx, after, hstatement, hword, -⟩
        exact hguard (hsound (hcounts.mpr ⟨before, lx, after, hstatement, hword⟩))
    · rintro (hguard | hstray) hidempotent
      · exact hguard
      · obtain ⟨before, lx, after, hstatement, hword⟩ := hcounts.mp hidempotent
        -- A word that counts is stray unless it is the last one of a guard.
        by_contra hguard
        apply hstray
        refine ⟨before, lx, after, hstatement, hword, ?_⟩
        rw [← Bool.not_eq_true]
        exact fun hcloses => hguard (hasGuard_of_closesGuard hstatement hcloses)

/-- A call of a function in the query of a view counts as a guard that the view does not have. -/
theorem isIdempotent_without_guard :
    let sql := "CREATE VIEW v AS SELECT a FROM s WHERE b OR replace(c, 'x', 'y') = 'z'"
    (describeStatement sql).result.kind.isGuarded = true ∧
      (describeStatement sql).result.isIdempotent = true ∧
      ∃ lexemes, lex sql = .ok lexemes ∧
        hasGuard ((statements lexemes).headD []) = false ∧
        HasStrayGuardWord ((statements lexemes).headD []) := by
  intro sql
  have hdescribed : (describeStatement sql).result.kind.isGuarded = true ∧
      (describeStatement sql).result.isIdempotent = true := by decide +kernel
  obtain ⟨hguarded, hidempotent⟩ := hdescribed
  refine ⟨hguarded, hidempotent, ?_⟩
  obtain ⟨lexemes, hlex, -, hsound⟩ := isIdempotent_imp_hasGuard_iff hguarded
  have hnone : hasGuard ((statements ((lex sql).toOption.getD [])).headD []) = false := by
    decide +kernel
  rw [hlex] at hnone
  refine ⟨lexemes, hlex, hnone, ?_⟩
  by_contra hstray
  have hguard := hsound.mpr (.inr hstray) hidempotent
  exact absurd hguard (Bool.eq_false_iff.mp hnone)

/-! ### Guards in front of names -/

namespace Lexeme

/-- Tests for an identifier that is not one of the bare words behind which a word is the name of a
column. -/
def isObjectName (lx : Lexeme) : Bool := lx.isIdentifier && !lx.isWord ["AS", Keyword.from.name]

/-- Tests for `IF EXISTS` or `IF NOT EXISTS` in front of a name, with `EXISTS` nested no deeper than
the limit. -/
def guardsName (limit : Int) (lexemes : List Lexeme) : Bool :=
  let guarded := [isWordWithin ["EXISTS"] limit, isObjectName]
  beginsAs (isWord ["IF"] :: guarded) lexemes ||
    beginsAs (isWord ["IF"] :: isWord ["NOT"] :: guarded) lexemes

/-- Tests for `OR REPLACE` in front of an object word or more of a prelude, with `REPLACE` nested no
deeper than the limit. -/
def replacesObject (limit : Int) (lexemes : List Lexeme) : Bool :=
  beginsAs [isWord ["OR"], isWordWithin ["REPLACE"] limit, isWord (objectWords ++ preludeWords)]
    lexemes

/-- Tests for a guard of an object in a statement: `IF EXISTS` or `IF NOT EXISTS` in front of a name
at any place, or `OR REPLACE` between the verb and the object. -/
def guardsObject (statement : List Lexeme) : Bool :=
  let head := leadingWord? statement
  let limit := bodyDepth statement head
  statement.tails.any (guardsName limit) ||
    head.any fun verb => replacesObject limit (statement.drop (verb + 1))

/-- A list begins with lexemes that pass the tests if the first one passes the first test and the
others follow. -/
theorem beginsAs_cons_iff {test : Lexeme → Bool} {tests : List (Lexeme → Bool)}
    {lexemes : List Lexeme} :
    beginsAs (test :: tests) lexemes = true ↔
      ∃ lx rest, lexemes = lx :: rest ∧ test lx = true ∧ beginsAs tests rest = true := by
  cases lexemes with
  | nil => simp [beginsAs]
  | cons lx rest => simp [beginsAs]

/-- Between a word and the name of an object no word is the name of a column. -/
theorem isColumnName_of_isObjectName {previous next : Lexeme} {words : List String}
    (hprevious : previous.isWord words = true) (hnext : next.isObjectName = true) :
    isColumnName (some previous) (some next) = false := by
  rw [isObjectName, Bool.and_eq_true, Bool.not_eq_true'] at hnext
  have hsymbol := isSymbol_of_isIdentifier hnext.1
  have hpoint := isSymbol_of_isWord hprevious "."
  simp only [isColumnName, Option.any_some, hpoint, hnext.2, hsymbol, Bool.or_false]

/-- A word that opens or goes on with an object is one that a name may be. -/
theorem isObjectName_of_isWord {lx : Lexeme} (h : lx.isWord (objectWords ++ preludeWords) = true) :
    lx.isObjectName = true := by
  rw [isWord, Bool.and_eq_true, beq_iff_eq, List.contains_iff_mem] at h
  have hcapitals : ¬ lx.capitals ∈ ["AS", Keyword.from.name] := by
    intro hmem
    have hapart : ∀ word ∈ ["AS", Keyword.from.name], word ∉ objectWords ++ preludeWords := by
      decide
    exact hapart _ hmem h.2
  simp [isObjectName, isIdentifier, isWord, h.1, hcapitals]

section Counted

variable {limit : Int} {before after : List Lexeme} {previous lx next : Lexeme}

/-- `EXISTS` between a word and a name counts as a word of a guard. -/
theorem countsAsGuard_exists {words : List String} (hprevious : previous.isWord words = true)
    (hlx : lx.isWordWithin ["EXISTS"] limit = true) (hnext : next.isObjectName = true) :
    countsAsGuard limit (before ++ [previous]) lx (next :: after) = true := by
  have hcolumn := isColumnName_of_isObjectName hprevious hnext
  have hparen : next.isSymbol "(" = false := by
    rw [isObjectName, Bool.and_eq_true] at hnext
    exact isSymbol_eq_false isIdentifier_of_isSymbol hnext.1
  simp [countsAsGuard, hcolumn, hlx, hparen]

/-- `REPLACE` between `OR` and an object counts as a word of a guard. -/
theorem countsAsGuard_replace (hprevious : previous.isWord ["OR"] = true)
    (hlx : lx.isWordWithin ["REPLACE"] limit = true) (hnext : next.isObjectName = true) :
    countsAsGuard limit (before ++ [previous]) lx (next :: after) = true := by
  have hcolumn := isColumnName_of_isObjectName hprevious hnext
  simp [countsAsGuard, hcolumn, hlx, hprevious]

end Counted

/-- `IF EXISTS` or `IF NOT EXISTS` in front of a name holds a word that counts as one of a guard. -/
theorem exists_countsAsGuard_of_guardsName {limit : Int} {rest : List Lexeme}
    (h : guardsName limit rest = true) (front : List Lexeme) :
    ∃ before lx after, front ++ rest = before ++ lx :: after ∧
      countsAsGuard limit before lx after = true := by
  rw [guardsName, Bool.or_eq_true] at h
  rcases h with h | h
  · obtain ⟨previous, _, rfl, hprevious, h⟩ := beginsAs_cons_iff.mp h
    obtain ⟨lx, _, rfl, hlx, h⟩ := beginsAs_cons_iff.mp h
    obtain ⟨next, after, rfl, hnext, -⟩ := beginsAs_cons_iff.mp h
    exact ⟨front ++ [previous], lx, next :: after, by simp,
      countsAsGuard_exists hprevious hlx hnext⟩
  · obtain ⟨word, _, rfl, -, h⟩ := beginsAs_cons_iff.mp h
    obtain ⟨previous, _, rfl, hprevious, h⟩ := beginsAs_cons_iff.mp h
    obtain ⟨lx, _, rfl, hlx, h⟩ := beginsAs_cons_iff.mp h
    obtain ⟨next, after, rfl, hnext, -⟩ := beginsAs_cons_iff.mp h
    exact ⟨front ++ [word] ++ [previous], lx, next :: after, by simp,
      countsAsGuard_exists hprevious hlx hnext⟩

/-- `OR REPLACE` in front of an object holds a word that counts as one of a guard. -/
theorem exists_countsAsGuard_of_replacesObject {limit : Int} {rest : List Lexeme}
    (h : replacesObject limit rest = true) (front : List Lexeme) :
    ∃ before lx after, front ++ rest = before ++ lx :: after ∧
      countsAsGuard limit before lx after = true := by
  obtain ⟨previous, _, rfl, hprevious, h⟩ := beginsAs_cons_iff.mp h
  obtain ⟨lx, _, rfl, hlx, h⟩ := beginsAs_cons_iff.mp h
  obtain ⟨next, after, rfl, hnext, -⟩ := beginsAs_cons_iff.mp h
  exact ⟨front ++ [previous], lx, next :: after, by simp,
    countsAsGuard_replace hprevious hlx (isObjectName_of_isWord hnext)⟩

end Lexeme

/-- A definition with a guard of its object can be run again, whatever else the statement holds: an
output file does not change that. -/
theorem isIdempotent_of_guardsObject {sql : String} {statement : List Lexeme}
    (hkind : (Facts.ofLexemes sql statement).kind.isGuarded = true)
    (hguard : guardsObject statement = true) :
    (Descriptor.ofFacts sql (Facts.ofLexemes sql statement)).isIdempotent = true := by
  apply (isIdempotent_ofLexemes_iff sql statement hkind).mpr
  rw [guardsObject, Bool.or_eq_true] at hguard
  rcases hguard with hname | hobject
  · obtain ⟨rest, hrest, hname⟩ := List.any_eq_true.mp hname
    obtain ⟨front, hsplit⟩ := (List.mem_tails _ _).mp hrest
    obtain ⟨before, lx, after, hwhole, hcounts⟩ :=
      exists_countsAsGuard_of_guardsName hname front
    exact ⟨before, lx, after, hsplit.symm.trans hwhole, hcounts⟩
  · obtain ⟨verb, -, hobject⟩ := (Option.any_eq_true _ _).mp hobject
    obtain ⟨before, lx, after, hwhole, hcounts⟩ :=
      exists_countsAsGuard_of_replacesObject hobject (statement.take (verb + 1))
    rw [List.take_append_drop] at hwhole
    exact ⟨before, lx, after, hwhole, hcounts⟩

/-- The lexemes of a view that is created under a guard and written to a file. -/
def guardedView : List Lexeme :=
  [⟨.word, "CREATE", 0, 6, 0⟩, ⟨.word, "VIEW", 7, 11, 0⟩, ⟨.word, "IF", 12, 14, 0⟩,
    ⟨.word, "NOT", 15, 18, 0⟩, ⟨.word, "EXISTS", 19, 25, 0⟩, ⟨.word, "v", 26, 27, 0⟩,
    ⟨.word, "AS", 28, 30, 0⟩, ⟨.word, "SELECT", 31, 37, 0⟩, ⟨.number, "1", 38, 39, 0⟩,
    ⟨.word, "INTO", 40, 44, 0⟩, ⟨.word, "OUTFILE", 45, 52, 0⟩, ⟨.string, "f", 53, 56, 0⟩]

/-- An output file does not make a guarded creation unsafe to run again. -/
theorem isIdempotent_guardedView :
    let sql := "CREATE VIEW IF NOT EXISTS v AS SELECT 1 INTO OUTFILE 'f'"
    lex sql = .ok guardedView ∧ (Facts.ofLexemes sql guardedView).kind.isGuarded = true ∧
      guardsObject guardedView = true ∧
      (Descriptor.ofFacts sql (Facts.ofLexemes sql guardedView)).hasOutfile = true ∧
      (Descriptor.ofFacts sql (Facts.ofLexemes sql guardedView)).isIdempotent = true := by
  intro sql
  have hlex : lex sql = .ok guardedView := Token.eq_ok_of_toOption (by decide +kernel)
  have hkind : (Facts.ofLexemes sql guardedView).kind.isGuarded = true := by decide +kernel
  have hguard : guardsObject guardedView = true := by decide +kernel
  exact ⟨hlex, hkind, hguard, by decide +kernel, isIdempotent_of_guardsObject hkind hguard⟩

end SqlFacts
