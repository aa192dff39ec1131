import Mathlib.Data.List.Infix
import SqlFacts.Proofs.Aligned.Lists

/-!
# Words and names in front of a list

What is skipped, looked for or read as a name splits a list in two. A name is spelled by identifiers
with dots between them and is read as far as it goes: what is left does not continue it with a dot
and one more identifier. An opening parenthesis behind a name makes it the name of a call, which is
the name of no object.
-/

namespace SqlFacts.Lexeme

variable {lexemes rest : List Lexeme} {parts : List String} {lx dot : Lexeme}

/-! ### What is skipped or looked for -/

/-- What is none of some words within a limit is none of fewer words. -/
theorem isWordWithin_of_subset {words others : List String} {limit : Int}
    (h : lx.isWordWithin others limit = false) (hsubset : words ⊆ others) :
    lx.isWordWithin words limit = false := by
  rw [← Bool.not_eq_true]
  intro hword
  rw [isWordWithin, Bool.and_eq_true] at hword
  rw [isWordWithin, hword.1, isWord_of_subset hword.2 hsubset] at h
  cases h

/-- A list that begins with none of some words begins with none of fewer words. -/
theorem startsWith_isWord_of_subset {words others : List String}
    (h : startsWith (isWord others) lexemes = false) (hsubset : words ⊆ others) :
    startsWith (isWord words) lexemes = false := by
  cases lexemes with
  | nil => rfl
  | cons lx rest =>
    rw [startsWith_cons] at h ⊢
    rw [← Bool.not_eq_true]
    intro hword
    rw [isWord_of_subset hword hsubset] at h
    cases h

/-- Words that are skipped end at the first other lexeme. -/
theorem skipWords_append {words : List String} {front : List Lexeme}
    (hfront : ∀ lx ∈ front, lx.isWord words = true)
    (hrest : startsWith (isWord words) rest = false) :
    skipWords words (front ++ rest) = rest := by
  rw [skipWords, List.dropWhile_append_of_pos hfront]
  cases rest with
  | nil => rfl
  | cons lx rest =>
    rw [startsWith_cons] at hrest
    rw [List.dropWhile_cons_of_neg (Bool.eq_false_iff.mp hrest)]

/-- A list is what is skipped of it, with what is left behind. -/
theorem exists_append_skipWords (words : List String) (lexemes : List Lexeme) :
    ∃ front, lexemes = front ++ skipWords words lexemes ∧
      (∀ lx ∈ front, lx.isWord words = true) ∧
      startsWith (isWord words) (skipWords words lexemes) = false := by
  refine ⟨lexemes.takeWhile (isWord words), List.takeWhile_append_dropWhile.symm, ?_, ?_⟩
  · exact List.all_eq_true.mp List.all_takeWhile
  · have hhead := List.head?_dropWhile_not (isWord words) lexemes
    rw [startsWith, skipWords]
    cases h : (lexemes.dropWhile (isWord words)).head? with
    | none => rfl
    | some lx =>
      rw [h] at hhead
      simpa using hhead

/-- A word that is found has none like it in front. -/
theorem exists_append_of_afterWord? {words : List String} {limit : Int}
    (h : afterWord? words limit lexemes = some rest) :
    ∃ front word, lexemes = front ++ word :: rest ∧
      (∀ lx ∈ front, lx.isWordWithin words limit = false) ∧
      word.isWordWithin words limit = true := by
  induction lexemes with
  | nil => cases h
  | cons lx lexemes ih =>
    by_cases hword : lx.isWordWithin words limit = true
    · rw [afterWord?_cons_of_pos hword, Option.some_inj] at h
      subst h
      exact ⟨[], lx, rfl, List.forall_mem_nil _, hword⟩
    · rw [Bool.not_eq_true] at hword
      rw [afterWord?_cons_of_neg hword] at h
      obtain ⟨front, word, rfl, hfront, hfound⟩ := ih h
      exact ⟨lx :: front, word, rfl, List.forall_mem_cons.mpr ⟨hword, hfront⟩, hfound⟩

/-- The first answer of a reader along a list is its first answer on the ends of the list. -/
theorem firstSome_eq_findSome?_tails {α : Type} {read : List Lexeme → Option α}
    (hnil : read [] = none) (lexemes : List Lexeme) :
    firstSome read lexemes = lexemes.tails.findSome? read := by
  induction lexemes with
  | nil => simp [firstSome, hnil]
  | cons lx rest ih =>
    rw [firstSome, List.tails_cons, List.findSome?_cons, ih]
    rfl

/-- The first answer of a reader along a list is one with no other answer in front of it. -/
theorem firstSome_eq_some_iff {α : Type} {read : List Lexeme → Option α} {answer : α}
    (hnil : read [] = none) :
    firstSome read lexemes = some answer ↔
      ∃ front rest, lexemes = front ++ rest ∧ read rest = some answer ∧
        ∀ later, later <:+ front → later ≠ [] → read (later ++ rest) = none := by
  induction lexemes with
  | nil =>
    constructor
    · intro h
      cases h
    · rintro ⟨front, rest, hsplit, hread, -⟩
      obtain ⟨rfl, rfl⟩ := List.append_eq_nil_iff.mp hsplit.symm
      rw [hnil] at hread
      cases hread
  | cons lx lexemes ih =>
    rw [firstSome]
    cases hhere : read (lx :: lexemes) with
    | some found =>
      constructor
      · intro h
        refine ⟨[], lx :: lexemes, rfl, hhere.trans h, fun later hlater hne => ?_⟩
        exact absurd (List.suffix_nil.mp hlater) hne
      · rintro ⟨front, rest, hsplit, hread, hnone⟩
        cases front with
        | nil => rw [← hhere, hsplit, List.nil_append, hread]
        | cons first front =>
          have hfirst := hnone (first :: front) List.suffix_rfl (List.cons_ne_nil _ _)
          rw [← hsplit, hhere] at hfirst
          cases hfirst
    | none =>
      refine ih.trans ⟨?_, ?_⟩
      · rintro ⟨front, rest, rfl, hread, hnone⟩
        refine ⟨lx :: front, rest, rfl, hread, fun later hlater hne => ?_⟩
        rcases List.suffix_cons_iff.mp hlater with rfl | hlater
        · exact hhere
        · exact hnone later hlater hne
      · rintro ⟨front, rest, hsplit, hread, hnone⟩
        cases front with
        | nil =>
          rw [List.nil_append] at hsplit
          rw [← hsplit, hhere] at hread
          cases hread
        | cons first front =>
          obtain ⟨rfl, rfl⟩ := List.cons.inj hsplit
          refine ⟨front, rest, rfl, hread, fun later hlater => ?_⟩
          exact hnone later (hlater.trans (List.suffix_cons _ _))

/-- The last answer of a reader along a list is one that no other answer follows. -/
theorem lastSome_eq_some_iff {α : Type} {read : List Lexeme → Option α} {answer : α} :
    lastSome read lexemes = some answer ↔
      ∃ front lx behind, lexemes = front ++ lx :: behind ∧ read (lx :: behind) = some answer ∧
        lastSome read behind = none := by
  constructor
  · intro h
    induction lexemes with
    | nil => cases h
    | cons lx behind ih =>
      rw [lastSome] at h
      cases hlater : lastSome read behind with
      | none =>
        rw [hlater] at h
        exact ⟨[], lx, behind, rfl, h, hlater⟩
      | some later =>
        rw [hlater] at h ih
        obtain ⟨front, other, rest, rfl, hread, hnone⟩ := ih h
        exact ⟨lx :: front, other, rest, rfl, hread, hnone⟩
  · rintro ⟨front, lx, behind, rfl, hread, hnone⟩
    induction front with
    | nil =>
      rw [List.nil_append, lastSome, hnone]
      exact hread
    | cons first front ih => rw [List.cons_append, lastSome, ih]

/-! ### Names -/

/-- The parts of a name, with the lexemes that spell it. -/
inductive Spells : List String → List Lexeme → Prop where
  | single {part : Lexeme} : part.isIdentifier = true → Spells [part.text] [part]
  | dotted {part dot : Lexeme} {parts : List String} {lexemes : List Lexeme} :
      part.isIdentifier = true → dot.isSymbol "." = true → Spells parts lexemes →
        Spells (part.text :: parts) (part :: dot :: lexemes)

/-- Tests whether a list behind a name continues it. -/
def continuesName : List Lexeme → Bool
  | dot :: part :: _ => dot.isSymbol "." && part.isIdentifier
  | _ => false

theorem Spells.parts_ne_nil (h : Spells parts lexemes) : parts ≠ [] := by
  cases h <;> exact List.cons_ne_nil _ _

/-- What follows a name does not change how it begins. -/
theorem Spells.startsWith_append (h : Spells parts lexemes) (test : Lexeme → Bool)
    (rest : List Lexeme) : startsWith test (lexemes ++ rest) = startsWith test lexemes := by
  cases h <;> rfl

/-- A name that begins with none of some words begins with none of fewer words, whatever follows. -/
theorem Spells.startsWith_isWord_append {words others : List String} (h : Spells parts lexemes)
    (hname : startsWith (isWord others) lexemes = false) (hsubset : words ⊆ others)
    (rest : List Lexeme) : startsWith (isWord words) (lexemes ++ rest) = false := by
  rw [h.startsWith_append]
  exact startsWith_isWord_of_subset hname hsubset

/-- Without a dot in front a list continues no name. -/
theorem continuesName_of_startsWith (h : startsWith (isSymbol ".") rest = false) :
    continuesName rest = false := by
  rcases rest with _ | ⟨lx, _ | ⟨part, rest⟩⟩
  · rfl
  · rfl
  · rw [startsWith_cons] at h
    rw [continuesName, h, Bool.false_and]

/-- A symbol that is no dot continues no name. -/
theorem continuesName_of_isSymbol {symbol : String} (h : lx.isSymbol symbol = true)
    (hother : symbol ≠ ".") : continuesName (lx :: rest) = false :=
  continuesName_of_startsWith ((isSymbol_of_isSymbol h ".").trans (beq_eq_false_iff_ne.mpr hother))

theorem dottedName?_cons (h : lx.isIdentifier = true) :
    dottedName? (lx :: rest) =
      some ⟨lx.text :: (furtherParts rest).parts, (furtherParts rest).rest⟩ := if_pos h

/-- Behind a dot, the further parts of a name are a name of their own. -/
theorem furtherParts_of_dot (hdot : dot.isSymbol "." = true) :
    furtherParts (dot :: lexemes) = (dottedName? lexemes).getD ⟨[], dot :: lexemes⟩ := by
  cases lexemes with
  | nil => rfl
  | cons part rest =>
    rw [furtherParts, dottedName?, hdot, Bool.true_and]
    split
    · rfl
    · rfl

/-- Nothing is joined to a name that is not continued. -/
theorem furtherParts_of_not_continuesName (h : continuesName lexemes = false) :
    furtherParts lexemes = ⟨[], lexemes⟩ := by
  cases lexemes with
  | nil => rfl
  | cons dot rest =>
    cases rest with
    | nil => rfl
    | cons part rest => exact if_neg (Bool.eq_false_iff.mp h)

/-- A name that is not continued is read from the lexemes that spell it. -/
theorem Spells.dottedName?_append (h : Spells parts lexemes) (hrest : continuesName rest = false) :
    dottedName? (lexemes ++ rest) = some ⟨parts, rest⟩ := by
  induction h with
  | single hpart =>
    rw [List.singleton_append, dottedName?_cons hpart, furtherParts_of_not_continuesName hrest]
  | dotted hpart hdot _ ih =>
    rw [List.cons_append, List.cons_append, dottedName?_cons hpart, furtherParts_of_dot hdot, ih]
    rfl

/-- The parts that are joined to an identifier spell a name with it, as far as the name goes. -/
theorem exists_spells_furtherParts {part : Lexeme} (hpart : part.isIdentifier = true)
    (lexemes : List Lexeme) :
    ∃ front, lexemes = front ++ (furtherParts lexemes).rest ∧
      Spells (part.text :: (furtherParts lexemes).parts) (part :: front) ∧
      continuesName (furtherParts lexemes).rest = false := by
  induction lexemes using furtherParts.induct generalizing part with
  | case1 dot next rest hcontinues ih =>
    rw [furtherParts, if_pos hcontinues]
    rw [Bool.and_eq_true] at hcontinues
    obtain ⟨hdot, hnext⟩ := hcontinues
    obtain ⟨front, hfront, hspells, hrest⟩ := ih hnext
    refine ⟨dot :: next :: front, ?_, .dotted hpart hdot hspells, hrest⟩
    rw [List.cons_append, List.cons_append, ← hfront]
  | case2 dot next rest hcontinues =>
    rw [furtherParts, if_neg hcontinues]
    exact ⟨[], rfl, .single hpart, Bool.eq_false_iff.mpr hcontinues⟩
  | case3 rest hshort =>
    have hcontinues : continuesName rest = false := by
      rcases rest with _ | ⟨dot, _ | ⟨next, rest⟩⟩
      · rfl
      · rfl
      · exact absurd rfl (hshort dot next rest)
    rw [furtherParts_of_not_continuesName hcontinues]
    exact ⟨[], rfl, .single hpart, hcontinues⟩

/-- A name is read from the front of a list exactly if it is spelled there and what is left does not
continue it. -/
theorem dottedName?_eq_some_iff {name : DottedName} :
    dottedName? lexemes = some name ↔
      ∃ front, lexemes = front ++ name.rest ∧ Spells name.parts front ∧
        continuesName name.rest = false := by
  constructor
  · intro h
    cases lexemes with
    | nil => cases h
    | cons part rest =>
      by_cases hpart : part.isIdentifier = true
      · rw [dottedName?_cons hpart, Option.some_inj] at h
        subst h
        obtain ⟨front, hfront, hspells, hrest⟩ := exists_spells_furtherParts hpart rest
        refine ⟨part :: front, ?_, hspells, hrest⟩
        rw [List.cons_append, ← hfront]
      · rw [dottedName?, if_neg hpart] at h
        cases h
  · rintro ⟨front, rfl, hspells, hrest⟩
    exact hspells.dottedName?_append hrest

/-- No name is read exactly where no identifier stands. -/
theorem dottedName?_eq_none_iff :
    dottedName? lexemes = none ↔ startsWith isIdentifier lexemes = false := by
  cases lexemes with
  | nil => simp [dottedName?, startsWith]
  | cons lx rest => by_cases h : lx.isIdentifier = true <;> simp [dottedName?, startsWith, h]

/-- A name that is not called is the name of an object. -/
theorem Spells.objectName?_append (h : Spells parts lexemes) (hrest : continuesName rest = false)
    (huncalled : startsWith (isSymbol "(") rest = false) :
    objectName? (lexemes ++ rest) = some ⟨parts, rest⟩ := by
  have hcall : DottedName.isCall ⟨parts, rest⟩ = false := huncalled
  rw [objectName?, h.dottedName?_append hrest, Option.filter_some, hcall]
  rfl

/-- A symbol names no object. -/
theorem objectName?_of_isSymbol {symbol : String} (h : lx.isSymbol symbol = true) :
    objectName? (lx :: rest) = none := by
  rw [objectName?, dottedName?, isIdentifier_of_isSymbol h]
  rfl

/-- The name of a call is the name of no object. -/
theorem Spells.objectName?_of_call (h : Spells parts lexemes) (hopens : lx.isSymbol "(" = true) :
    objectName? (lexemes ++ lx :: rest) = none := by
  have hcontinues : continuesName (lx :: rest) = false :=
    continuesName_of_isSymbol hopens (by decide)
  have hcall : DottedName.isCall ⟨parts, lx :: rest⟩ = true := hopens
  rw [objectName?, h.dottedName?_append hcontinues, Option.filter_some, hcall]
  rfl

end SqlFacts.Lexeme
