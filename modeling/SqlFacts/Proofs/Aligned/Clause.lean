import SqlFacts.Facts.Clause
import SqlFacts.Proofs.Aligned.Readers

/-!
# Clauses of statements that read alike

Formats, files and the structures of inputs come from alike lexemes of aligned lists, and the
placeholders are at the fixed distance. Placeholders and the structure of an input are read inside
groups too, so no group is replaced there.
-/

namespace SqlFacts

open Lexeme

namespace Difference

variable {d : Difference} {lexemes lexemes' : List Lexeme}

/-- The reader of a literal behind two words expects three lexemes. -/
theorem literalHere?_eq_expect (first second : Keyword) (limit : Int) :
    literalHere? first second limit =
      expect (isWordWithin [first.name] limit) fun _ => expect (isWord [second.name]) fun _ =>
        expect isString fun literal _ => some literal.text := by
  funext lexemes
  match lexemes with
  | [] => rfl
  | [_] => simp [literalHere?, expect]
  | [_, _] => simp [literalHere?, expect]
  | a :: b :: literal :: _ =>
    simp only [literalHere?, expect]
    cases a.isWordWithin [first.name] limit <;> cases b.isWord [second.name] <;> rfl

/-- The reader of a call of `input` expects three lexemes. -/
theorem inputCallHere?_eq_expect :
    inputCallHere? = expect (isWord ["INPUT"]) fun _ =>
      expect (isSymbol "(") fun _ => expect isString fun literal _ => some literal.text := by
  funext lexemes
  match lexemes with
  | [] => rfl
  | [_] => simp [inputCallHere?, expect]
  | [_, _] => simp [inputCallHere?, expect]
  | word :: paren :: literal :: _ =>
    simp only [inputCallHere?, expect]
    cases word.isWord ["INPUT"] <;> cases paren.isSymbol "(" <;> rfl

/-- The reader of a format expects a word in front of the name of a format. -/
theorem formatHere?_eq_expect (limit : Int) :
    formatHere? limit = expect (isWordWithin [Keyword.format.name] limit) fun _ rest =>
      if namesFormat rest then rest.head?.map text else none := by
  funext lexemes
  match lexemes with
  | [] => rfl
  | [_] => simp [formatHere?, expect, namesFormat]
  | word :: name :: rest =>
    simp only [formatHere?, expect]
    cases word.isWordWithin [Keyword.format.name] limit <;> cases namesFormat (name :: rest) <;> rfl

namespace Aligned

theorem relates_literalHere? (first second : Keyword) :
    d.Relates d.copied (literalHere? first second d.limit)
      (literalHere? first second (d.limit + d.rise)) := by
  rw [literalHere?_eq_expect, literalHere?_eq_expect]
  refine relates_expect_word fun hrest => ?_
  refine hrest.expect (agree_isWord _) (fun _ _ hopens => isWord_of_isSymbol hopens _) ?_
  intro _ _ _ _ _ _ hrest
  exact hrest.expect_text agree_isString fun _ => isString_of_isSymbol

theorem outfile? (h : d.Aligned lexemes lexemes') :
    Option.Rel d.copied (SqlFacts.outfile? d.limit lexemes)
      (SqlFacts.outfile? (d.limit + d.rise) lexemes') :=
  (relates_literalHere? .into .outfile).firstSome h

theorem infile? (h : d.Aligned lexemes lexemes') :
    Option.Rel d.copied (SqlFacts.infile? d.limit lexemes)
      (SqlFacts.infile? (d.limit + d.rise) lexemes') :=
  (relates_literalHere? .from .infile).firstSome h

/-- The structure of an input is read inside groups too, so these must not be replaced. -/
theorem input? (h : d.Aligned lexemes lexemes') (hkept : ¬ d.regroups) :
    Option.Rel d.copied (SqlFacts.input? d.limit lexemes)
      (SqlFacts.input? (d.limit + d.rise) lexemes') := by
  have hcall : d.Relates d.copied inputCallHere? inputCallHere? := by
    rw [inputCallHere?_eq_expect]
    refine ⟨fun h => ?_, fun lx hlx rest => ?_, fun hreplaced => absurd hreplaced.allowed hkept⟩
    · refine h.expect (agree_isWord _) (fun _ _ hopens => isWord_of_isSymbol hopens _) ?_
      intro _ _ _ _ _ _ hrest
      refine hrest.expect (agree_isSymbol _ (by decide))
        (fun hregroups => absurd hregroups hkept) ?_
      intro _ _ _ _ _ _ hrest
      exact hrest.expect_text agree_isString fun _ => isString_of_isSymbol
    · rw [Difference.expect, isWord_of_isSymbol (d.isSymbol_closing lx hlx)]
      rfl
  have hfile := h.infile?
  rw [SqlFacts.input?, SqlFacts.input?]
  generalize SqlFacts.infile? d.limit lexemes = file at hfile ⊢
  generalize SqlFacts.infile? (d.limit + d.rise) lexemes' = file' at hfile ⊢
  cases hfile with
  | some hrelated => exact .some hrelated
  | none => exact hcall.firstSome h

theorem namesFormat (h : d.Aligned lexemes lexemes') :
    SqlFacts.namesFormat lexemes' = SqlFacts.namesFormat lexemes := by
  rcases h.uncons with ⟨rfl, rfl⟩ | ⟨a, b, rest, rest', rfl, rfl, halike, hrest⟩
  · cases hclosing : d.closing with
    | nil => rfl
    | cons lx more =>
      have hlx := isSymbol_of_closing_eq hclosing
      simp [SqlFacts.namesFormat, isWord_of_isSymbol hlx, isIdentifier_of_isSymbol hlx]
  · rw [SqlFacts.namesFormat, SqlFacts.namesFormat, halike.isWord, halike.isIdentifier,
      halike.isWord]
    cases hidentifier : a.isIdentifier with
    | false => rw [Bool.false_and, Bool.false_and, Bool.false_and, Bool.false_and]
    | true =>
      have haligned := hrest fun _ => isSymbol_eq_false isIdentifier_of_isSymbol hidentifier
      have hcall : startsWith (isSymbol "(") rest' = startsWith (isSymbol "(") rest :=
        haligned.head?_any (agree_isSymbol _ (by decide))
      rw [hcall]

theorem format? (h : d.Aligned lexemes lexemes') :
    Option.Rel d.copied (SqlFacts.format? d.limit lexemes)
      (SqlFacts.format? (d.limit + d.rise) lexemes') := by
  refine Relates.lastSome ?_ h
  rw [formatHere?_eq_expect, formatHere?_eq_expect]
  refine relates_expect_word fun hrest => ?_
  rw [hrest.namesFormat]
  split
  · next hnames =>
    rcases hrest.uncons with ⟨rfl, -⟩ | ⟨a, b, _, _, rfl, rfl, halike, -⟩
    · cases hnames
    · exact .some halike.copied
  · exact .none

end Aligned

/-- Placeholders are read inside groups too, so these must not be replaced. -/
theorem Aligned.placeholders (h : d.Aligned lexemes lexemes') (hkept : ¬ d.regroups) :
    SqlFacts.placeholders lexemes' = (SqlFacts.placeholders lexemes).map (· + d.offset) := by
  induction h with
  | nil =>
    have hnone : d.closing.filter (·.kind == .parameter) = [] := by
      rw [List.filter_eq_nil_iff]
      intro lx hlx
      rw [kind_of_isSymbol (d.isSymbol_closing lx hlx)]
      decide
    rw [SqlFacts.placeholders, hnone]
    rfl
  | cons alike _ ih =>
    rw [SqlFacts.placeholders, SqlFacts.placeholders] at ih ⊢
    rw [List.filter_cons, List.filter_cons, alike.kind]
    split
    · rw [List.map_cons, List.map_cons, List.map_cons, ih, alike.start]
    · exact ih
  | group replaced _ _ => exact absurd replaced.allowed hkept

end Difference

end SqlFacts
