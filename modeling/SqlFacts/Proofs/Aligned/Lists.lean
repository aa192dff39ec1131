import Mathlib.Data.List.Forall2
import SqlFacts.Lexeme.Reading
import SqlFacts.Lexeme.Script

/-!
# Lists of lexemes that read alike

Two lists of lexemes are aligned if they agree, lexeme by lexeme, in all that a reader goes by:
the kind, the words in capitals, the symbols, and the span and the depth up to a fixed distance.
Groups deeper than the statement may hold anything, if that is allowed, and closing parentheses may
follow in the second list. The moves that statements are read with agree on aligned lists.
-/

namespace SqlFacts

open Lexeme

universe u v

namespace Lexeme

variable {lx : Lexeme}

/-- A symbol has the kind of symbols. -/
theorem kind_of_isSymbol {symbol : String} (h : lx.isSymbol symbol = true) : lx.kind = .symbol := by
  rw [isSymbol, Bool.and_eq_true, beq_iff_eq] at h
  exact h.1

/-- A word has the kind of words. -/
theorem kind_of_isWord {words : List String} (h : lx.isWord words = true) : lx.kind = .word := by
  rw [isWord, Bool.and_eq_true, beq_iff_eq] at h
  exact h.1

/-- One of some words reads as one of them. -/
theorem capitals_mem_of_isWord {words : List String} (h : lx.isWord words = true) :
    lx.capitals ∈ words := by
  rw [isWord, Bool.and_eq_true, List.contains_iff_mem] at h
  exact h.2

/-- A word reads as the only one that it is tested for. -/
theorem capitals_of_isWord {word : String} (h : lx.isWord [word] = true) : lx.capitals = word :=
  List.mem_singleton.mp (capitals_mem_of_isWord h)

/-- A word is an identifier. -/
theorem isIdentifier_of_isWord {words : List String} (h : lx.isWord words = true) :
    lx.isIdentifier = true := by
  rw [isIdentifier, kind_of_isWord h]
  rfl

/-- A word within a limit is a word. -/
theorem isWord_of_isWordWithin {words : List String} {limit : Int}
    (h : lx.isWordWithin words limit = true) : lx.isWord words = true := by
  rw [isWordWithin, Bool.and_eq_true] at h
  exact h.2

/-- One of some words is one of more words. -/
theorem isWord_of_subset {words others : List String} (h : lx.isWord words = true)
    (hsubset : words ⊆ others) : lx.isWord others = true := by
  rw [isWord, Bool.and_eq_true, List.contains_iff_mem] at h ⊢
  exact ⟨h.1, hsubset h.2⟩

/-- One of some words is none of others, if no word is in both. -/
theorem isWord_of_disjoint {words others : List String} (h : lx.isWord words = true)
    (hdisjoint : ∀ word ∈ words, others.contains word = false) : lx.isWord others = false := by
  rw [isWord, Bool.and_eq_true, List.contains_iff_mem] at h
  rw [isWord, hdisjoint lx.capitals h.2, Bool.and_false]

/-- A symbol is only itself. -/
theorem isSymbol_of_isSymbol {symbol : String} (h : lx.isSymbol symbol = true) (other : String) :
    lx.isSymbol other = (symbol == other) := by
  rw [isSymbol, Bool.and_eq_true, beq_iff_eq, beq_iff_eq] at h
  rw [isSymbol, h.1, h.2]
  rfl

/-- A symbol is no word. -/
theorem isWord_of_isSymbol {symbol : String} (h : lx.isSymbol symbol = true) (words : List String) :
    lx.isWord words = false := by
  rw [isWord, kind_of_isSymbol h]
  rfl

/-- What is none of some words is none of them within a limit. -/
theorem isWordWithin_eq_false {words : List String} (h : lx.isWord words = false) (limit : Int) :
    lx.isWordWithin words limit = false := by
  rw [isWordWithin, h, Bool.and_false]

/-- A symbol is no word of a statement. -/
theorem isWordWithin_of_isSymbol {symbol : String} (h : lx.isSymbol symbol = true)
    (words : List String) (limit : Int) : lx.isWordWithin words limit = false :=
  isWordWithin_eq_false (isWord_of_isSymbol h words) limit

/-- A symbol is no identifier. -/
theorem isIdentifier_of_isSymbol {symbol : String} (h : lx.isSymbol symbol = true) :
    lx.isIdentifier = false := by
  rw [isIdentifier, kind_of_isSymbol h]
  rfl

/-- A symbol is no literal. -/
theorem isString_of_isSymbol {symbol : String} (h : lx.isSymbol symbol = true) :
    lx.isString = false := by
  rw [isString, kind_of_isSymbol h]
  rfl

/-- A lexeme that passes a test which a symbol fails is not the symbol. -/
theorem isSymbol_eq_false {symbol : String} {test : Lexeme → Bool}
    (hfails : lx.isSymbol symbol = true → test lx = false) (h : test lx = true) :
    lx.isSymbol symbol = false := by
  rw [← Bool.not_eq_true]
  intro hsymbol
  rw [hfails hsymbol] at h
  cases h

/-- A word is no symbol. -/
theorem isSymbol_of_isWord {words : List String} (h : lx.isWord words = true) (symbol : String) :
    lx.isSymbol symbol = false :=
  isSymbol_eq_false (fun hsymbol => isWord_of_isSymbol hsymbol words) h

/-- An identifier is no symbol. -/
theorem isSymbol_of_isIdentifier (h : lx.isIdentifier = true) (symbol : String) :
    lx.isSymbol symbol = false := isSymbol_eq_false isIdentifier_of_isSymbol h

/-- A lexeme that cannot be a word of a statement: a symbol, or one below the limit. -/
def Quiet (limit : Int) (lx : Lexeme) : Prop := lx.kind = .symbol ∨ limit < lx.depth

/-- A quiet lexeme is no word of a statement. -/
theorem Quiet.isWordWithin {limit : Int} (h : lx.Quiet limit) (words : List String) :
    lx.isWordWithin words limit = false := by
  rcases h with hsymbol | hdeep
  · rw [Lexeme.isWordWithin, isWord, hsymbol]
    exact Bool.and_false _
  · rw [Lexeme.isWordWithin, decide_eq_false (by omega), Bool.false_and]

section Scan

variable {words : List String} {limit : Int} {front rest : List Lexeme}

/-- A word that is looked for is found at once in front of a list. -/
theorem afterWord?_cons_of_pos (h : lx.isWordWithin words limit = true) :
    afterWord? words limit (lx :: rest) = some rest := by
  rw [afterWord?, seek, List.dropWhile_cons_of_neg (by rw [h]; exact Bool.false_ne_true)]

/-- A lexeme that is not the word looked for is passed over. -/
theorem afterWord?_cons_of_neg (h : lx.isWordWithin words limit = false) :
    afterWord? words limit (lx :: rest) = afterWord? words limit rest := by
  rw [afterWord?, seek, List.dropWhile_cons_of_pos (by rw [h]; rfl)]
  rfl

/-- A word is found in the first of two lists that has one. -/
theorem afterWord?_append : afterWord? words limit (front ++ rest) =
    ((afterWord? words limit front).map (· ++ rest)).or (afterWord? words limit rest) := by
  induction front with
  | nil => rfl
  | cons lx front ih =>
    by_cases hword : lx.isWordWithin words limit = true
    · rw [List.cons_append, afterWord?_cons_of_pos hword, afterWord?_cons_of_pos hword]
      rfl
    · rw [Bool.not_eq_true] at hword
      rw [List.cons_append, afterWord?_cons_of_neg hword, afterWord?_cons_of_neg hword, ih]

/-- No word is found exactly if there is none. -/
theorem afterWord?_eq_none_iff : afterWord? words limit front = none ↔
    ∀ lx ∈ front, lx.isWordWithin words limit = false := by
  induction front with
  | nil => simp [afterWord?, seek]
  | cons lx front ih =>
    by_cases hword : lx.isWordWithin words limit = true
    · simp [afterWord?_cons_of_pos hword, hword]
    · rw [Bool.not_eq_true] at hword
      simp [afterWord?_cons_of_neg hword, ih, hword]

/-- Quiet lexemes are passed over when a word is looked for. -/
theorem afterWord?_append_of_quiet (h : ∀ lx ∈ front, lx.Quiet limit) :
    afterWord? words limit (front ++ rest) = afterWord? words limit rest := by
  rw [afterWord?_append, afterWord?_eq_none_iff.mpr fun lx hlx => (h lx hlx).isWordWithin words]
  rfl

/-- A word is found at the same place of other lexemes that pass the test where these do. -/
theorem afterWord?_map {limit' : Int} {f : Lexeme → Lexeme}
    (h : ∀ lx, (f lx).isWordWithin words limit' = lx.isWordWithin words limit)
    (lexemes : List Lexeme) :
    afterWord? words limit' (lexemes.map f) =
      (afterWord? words limit lexemes).map (List.map f) := by
  induction lexemes with
  | nil => rfl
  | cons lx lexemes ih =>
    by_cases hword : lx.isWordWithin words limit = true
    · rw [List.map_cons, afterWord?_cons_of_pos ((h lx).trans hword), afterWord?_cons_of_pos hword]
      rfl
    · rw [Bool.not_eq_true] at hword
      rw [List.map_cons, afterWord?_cons_of_neg ((h lx).trans hword), afterWord?_cons_of_neg hword,
        ih]

/-- A reader does not answer at some lexemes, whatever follows. -/
def Unanswered {α : Type u} (read : List Lexeme → Option α) (lexemes : List Lexeme) : Prop :=
  ∀ lx ∈ lexemes, ∀ rest, read (lx :: rest) = none

/-- Lexemes without an answer are passed over when the first answer is looked for. -/
theorem firstSome_append_of_unanswered {α : Type u} {read : List Lexeme → Option α}
    (h : Unanswered read front) : firstSome read (front ++ rest) = firstSome read rest := by
  induction front with
  | nil => rfl
  | cons lx front ih =>
    rw [List.cons_append, firstSome, h lx List.mem_cons_self]
    exact ih fun l hl => h l (List.mem_cons_of_mem _ hl)

/-- Lexemes without an answer are passed over when the last answer is looked for. -/
theorem lastSome_append_of_unanswered {α : Type u} {read : List Lexeme → Option α}
    (h : Unanswered read front) : lastSome read (front ++ rest) = lastSome read rest := by
  induction front with
  | nil => rfl
  | cons lx front ih =>
    rw [List.cons_append, lastSome, h lx List.mem_cons_self,
      ih fun l hl => h l (List.mem_cons_of_mem _ hl)]
    cases lastSome read rest <;> rfl

end Scan

end Lexeme

/-- How a list of lexemes may differ from another one: how their texts are related, how far the
second is moved and how much deeper it lies, whether groups deeper than the limit may be replaced,
and which closing parentheses follow. -/
structure Difference where
  copied : String → String → Prop
  offset : Nat
  rise : Int
  limit : Int
  regroups : Prop
  closing : List Lexeme
  isSymbol_closing : ∀ lx ∈ closing, lx.isSymbol ")" = true

namespace Difference

/-- The difference between lists that are equal but for groups deeper than the limit. -/
def nested (limit : Int) : Difference where
  copied := Eq
  offset := 0
  rise := 0
  limit
  regroups := True
  closing := []
  isSymbol_closing := List.forall_mem_nil _

/-- The difference between lexemes and the same lexemes moved to the right. -/
def moved (distance : Nat) (limit : Int) : Difference where
  copied := Eq
  offset := distance
  rise := 0
  limit
  regroups := False
  closing := []
  isSymbol_closing := List.forall_mem_nil _

variable {d : Difference}

/-- Two lexemes that no reader tells apart. -/
structure Alike (d : Difference) (a b : Lexeme) : Prop where
  kind : b.kind = a.kind
  start : b.start = a.start + d.offset
  stop : b.stop = a.stop + d.offset
  depth : b.depth = a.depth + d.rise
  symbol : a.kind = .symbol → b.text = a.text
  word : a.kind = .word → b.capitals = a.capitals
  copied : d.copied a.text b.text

/-- A group and another one in its place, each with its parentheses and nothing in it that could be
a word of the statement. -/
structure Replaced (d : Difference) (group group' : List Lexeme) : Prop where
  allowed : d.regroups
  opening : ∃ a b rest rest', group = a :: rest ∧ group' = b :: rest' ∧ a.isSymbol "(" = true ∧
    d.Alike a b
  closing : ∃ a b front front', group = front ++ [a] ∧ group' = front' ++ [b] ∧ d.Alike a b
  quiet : ∀ lx ∈ group, lx.Quiet d.limit
  quiet' : ∀ lx ∈ group', lx.Quiet (d.limit + d.rise)

/-- Two lists of lexemes that no reader of a statement tells apart. -/
inductive Aligned (d : Difference) : List Lexeme → List Lexeme → Prop where
  | nil : Aligned d [] d.closing
  | cons {a b : Lexeme} {rest rest' : List Lexeme} (alike : d.Alike a b)
      (aligned : Aligned d rest rest') : Aligned d (a :: rest) (b :: rest')
  | group {group group' rest rest' : List Lexeme} (replaced : d.Replaced group group')
      (aligned : Aligned d rest rest') : Aligned d (group ++ rest) (group' ++ rest')

/-! ### Lexemes -/

namespace Alike

variable {a b : Lexeme}

theorem isWord (h : d.Alike a b) (words : List String) : b.isWord words = a.isWord words := by
  rw [Lexeme.isWord, Lexeme.isWord, h.kind]
  by_cases hword : a.kind = .word
  · rw [h.word hword]
  · rw [beq_eq_false_iff_ne.mpr hword, Bool.false_and, Bool.false_and]

theorem isSymbol (h : d.Alike a b) (symbol : String) : b.isSymbol symbol = a.isSymbol symbol := by
  rw [Lexeme.isSymbol, Lexeme.isSymbol, h.kind]
  by_cases hsymbol : a.kind = .symbol
  · rw [h.symbol hsymbol]
  · rw [beq_eq_false_iff_ne.mpr hsymbol, Bool.false_and, Bool.false_and]

theorem isIdentifier (h : d.Alike a b) : b.isIdentifier = a.isIdentifier := by
  rw [Lexeme.isIdentifier, Lexeme.isIdentifier, h.kind]

theorem isString (h : d.Alike a b) : b.isString = a.isString := by
  rw [Lexeme.isString, Lexeme.isString, h.kind]

theorem isWordWithin (h : d.Alike a b) (words : List String) (limit : Int) :
    b.isWordWithin words (limit + d.rise) = a.isWordWithin words limit := by
  rw [Lexeme.isWordWithin, Lexeme.isWordWithin, h.isWord, h.depth]
  simp

end Alike

/-! ### Tests -/

/-- Two tests have the same outcome on alike lexemes, and the second fails on what may follow. -/
structure Agree (d : Difference) (test test' : Lexeme → Bool) : Prop where
  alike : ∀ {a b : Lexeme}, d.Alike a b → test' b = test a
  closing : ∀ {lx : Lexeme}, lx.isSymbol ")" = true → test' lx = false

theorem agree_isWord (words : List String) : d.Agree (isWord words) (isWord words) :=
  ⟨fun h => h.isWord words, fun h => isWord_of_isSymbol h words⟩

theorem agree_isWordWithin (words : List String) :
    d.Agree (isWordWithin words d.limit) (isWordWithin words (d.limit + d.rise)) :=
  ⟨fun h => h.isWordWithin words d.limit, fun h => isWordWithin_of_isSymbol h words _⟩

theorem agree_isIdentifier : d.Agree isIdentifier isIdentifier :=
  ⟨Alike.isIdentifier, isIdentifier_of_isSymbol⟩

theorem agree_isString : d.Agree isString isString := ⟨Alike.isString, isString_of_isSymbol⟩

theorem agree_isSymbol (symbol : String) (h : (")" == symbol) = false) :
    d.Agree (isSymbol symbol) (isSymbol symbol) :=
  ⟨fun halike => halike.isSymbol symbol, fun hlx => by rw [isSymbol_of_isSymbol hlx, h]⟩

theorem agree_or {test test' other other' : Lexeme → Bool} (h : d.Agree test test')
    (h' : d.Agree other other') :
    d.Agree (fun lx => test lx || other lx) (fun lx => test' lx || other' lx) :=
  ⟨fun halike => by rw [h.alike halike, h'.alike halike],
    fun hlx => by rw [h.closing hlx, h'.closing hlx]; rfl⟩

/-- The first of the lexemes that may follow is a closing parenthesis. -/
theorem isSymbol_of_closing_eq {lx : Lexeme} {rest : List Lexeme} (h : d.closing = lx :: rest) :
    lx.isSymbol ")" = true := by
  apply d.isSymbol_closing
  rw [h]
  exact List.mem_cons_self

/-- The lexemes that may follow are quiet. -/
theorem quiet_closing {limit : Int} : ∀ lx ∈ d.closing, lx.Quiet limit :=
  fun lx hlx => .inl (kind_of_isSymbol (d.isSymbol_closing lx hlx))

/-! ### Moves -/

section Moves

variable {lexemes lexemes' : List Lexeme}

/-- Aligned lists are at their ends, or have alike lexemes in front. Behind these they are aligned
unless a group was replaced. -/
theorem Aligned.uncons (h : d.Aligned lexemes lexemes') :
    (lexemes = [] ∧ lexemes' = d.closing) ∨
      ∃ a b rest rest', lexemes = a :: rest ∧ lexemes' = b :: rest' ∧ d.Alike a b ∧
        ((d.regroups → a.isSymbol "(" = false) → d.Aligned rest rest') := by
  cases h with
  | nil => exact .inl ⟨rfl, rfl⟩
  | cons alike aligned => exact .inr ⟨_, _, _, _, rfl, rfl, alike, fun _ => aligned⟩
  | group replaced _ =>
    obtain ⟨a, b, rest, rest', rfl, rfl, hopens, halike⟩ := replaced.opening
    refine .inr ⟨a, b, _, _, rfl, rfl, halike, fun hplain => ?_⟩
    rw [hplain replaced.allowed] at hopens
    cases hopens

/-- The lexemes that may follow fail a test that fails on closing parentheses. -/
theorem Agree.head?_closing {test test' : Lexeme → Bool} (h : d.Agree test test') :
    d.closing.head?.any test' = false := by
  cases hclosing : d.closing with
  | nil => rfl
  | cons lx rest =>
    exact h.closing (isSymbol_of_closing_eq hclosing)

/-- Aligned lists begin alike. -/
theorem Aligned.head?_any {test test' : Lexeme → Bool} (h : d.Aligned lexemes lexemes')
    (htest : d.Agree test test') : lexemes'.head?.any test' = lexemes.head?.any test := by
  rcases h.uncons with ⟨rfl, rfl⟩ | ⟨a, b, rest, rest', rfl, rfl, halike, -⟩
  · exact htest.head?_closing
  · exact htest.alike halike

theorem Aligned.skipWords (h : d.Aligned lexemes lexemes') (words : List String) :
    d.Aligned (Lexeme.skipWords words lexemes) (Lexeme.skipWords words lexemes') := by
  induction h with
  | nil =>
    have hskip : Lexeme.skipWords words d.closing = d.closing := by
      have hhead := (agree_isWord (d := d) words).head?_closing
      cases hclosing : d.closing with
      | nil => rfl
      | cons lx rest =>
        rw [hclosing, List.head?_cons, Option.any_some] at hhead
        exact List.dropWhile_cons_of_neg (by rw [hhead]; exact Bool.false_ne_true)
    rw [hskip]
    exact .nil
  | cons alike aligned ih =>
    rw [Lexeme.skipWords, Lexeme.skipWords, List.dropWhile_cons, List.dropWhile_cons,
      alike.isWord words]
    split
    · exact ih
    · exact .cons alike aligned
  | group replaced aligned _ =>
    have haligned := Aligned.group replaced aligned
    obtain ⟨a, b, rest, rest', rfl, rfl, hopens, halike⟩ := replaced.opening
    rw [Lexeme.skipWords, Lexeme.skipWords, List.cons_append, List.cons_append, List.dropWhile_cons,
      List.dropWhile_cons, halike.isWord words, isWord_of_isSymbol hopens]
    exact haligned

theorem Aligned.countWords (h : d.Aligned lexemes lexemes') (words : List String) :
    Lexeme.countWords words lexemes' = Lexeme.countWords words lexemes := by
  induction h with
  | nil =>
    have hhead := (agree_isWord (d := d) words).head?_closing
    cases hclosing : d.closing with
    | nil => rfl
    | cons lx rest =>
      rw [hclosing, List.head?_cons, Option.any_some] at hhead
      rw [Lexeme.countWords, List.takeWhile_cons, hhead]
      rfl
  | cons alike aligned ih =>
    rw [Lexeme.countWords, Lexeme.countWords, List.takeWhile_cons, List.takeWhile_cons,
      alike.isWord words]
    split
    · exact congrArg (· + 1) ih
    · rfl
  | group replaced _ _ =>
    obtain ⟨a, b, rest, rest', rfl, rfl, hopens, halike⟩ := replaced.opening
    rw [Lexeme.countWords, Lexeme.countWords, List.cons_append, List.cons_append,
      List.takeWhile_cons, List.takeWhile_cons, halike.isWord words, isWord_of_isSymbol hopens]
    rfl

theorem Aligned.afterWord? (h : d.Aligned lexemes lexemes') (words : List String) :
    Option.Rel d.Aligned (Lexeme.afterWord? words d.limit lexemes)
      (Lexeme.afterWord? words (d.limit + d.rise) lexemes') := by
  induction h with
  | nil =>
    rw [← List.append_nil d.closing, afterWord?_append_of_quiet quiet_closing]
    exact .none
  | @cons a b rest rest' alike aligned ih =>
    have hword := alike.isWordWithin words d.limit
    by_cases htest : a.isWordWithin words d.limit = true
    · rw [htest] at hword
      rw [afterWord?_cons_of_pos htest, afterWord?_cons_of_pos hword]
      exact .some aligned
    · rw [Bool.not_eq_true] at htest
      rw [htest] at hword
      rw [afterWord?_cons_of_neg htest, afterWord?_cons_of_neg hword]
      exact ih
  | group replaced _ ih =>
    rw [afterWord?_append_of_quiet replaced.quiet, afterWord?_append_of_quiet replaced.quiet']
    exact ih

theorem Aligned.startsWith_isWord (h : d.Aligned lexemes lexemes') (words : List String) :
    startsWith (isWord words) lexemes' = startsWith (isWord words) lexemes :=
  h.head?_any (agree_isWord words)

/-- Behind a word in front, aligned lists are aligned. -/
theorem Aligned.drop_one (h : d.Aligned lexemes lexemes') {words : List String}
    (hword : startsWith (isWord words) lexemes = true) :
    d.Aligned (lexemes.drop 1) (lexemes'.drop 1) := by
  rcases h.uncons with ⟨rfl, -⟩ | ⟨a, b, rest, rest', rfl, rfl, -, hrest⟩
  · cases hword
  · rw [startsWith_cons] at hword
    exact hrest fun _ => isSymbol_eq_false (fun hopens => isWord_of_isSymbol hopens _) hword

/-- Parts of aligned lists from the same index on are aligned, if no group is replaced. -/
theorem Aligned.drop (h : d.Aligned lexemes lexemes') (hkept : ¬ d.regroups) {index : Nat}
    (hindex : index ≤ lexemes.length) : d.Aligned (lexemes.drop index) (lexemes'.drop index) := by
  induction index generalizing lexemes lexemes' with
  | zero => exact h
  | succ index ih =>
    rcases h.uncons with ⟨rfl, -⟩ | ⟨a, b, rest, rest', rfl, rfl, -, hrest⟩
    · exact absurd hindex (Nat.not_succ_le_zero index)
    · exact ih (hrest fun hregroups => absurd hregroups hkept) (Nat.le_of_succ_le_succ hindex)

/-- Lexemes that agree one by one may stand in front of aligned lists. -/
theorem Aligned.append {front front' : List Lexeme} (hfront : List.Forall₂ d.Alike front front')
    (h : d.Aligned lexemes lexemes') : d.Aligned (front ++ lexemes) (front' ++ lexemes') := by
  induction hfront with
  | nil => exact h
  | cons alike _ ih => exact .cons alike ih

/-! ### Leading words -/

theorem Aligned.leadingWord? (h : d.Aligned lexemes lexemes') (hkept : ¬ d.regroups) :
    Lexeme.leadingWord? lexemes' = Lexeme.leadingWord? lexemes := by
  induction h with
  | nil =>
    cases hclosing : d.closing with
    | nil => rfl
    | cons lx rest =>
      have hlx := isSymbol_of_closing_eq hclosing
      simp [Lexeme.leadingWord?, kind_of_isSymbol hlx, isSymbol_of_isSymbol hlx]
  | cons alike _ ih =>
    rw [Lexeme.leadingWord?, Lexeme.leadingWord?, alike.kind, alike.isSymbol, ih]
  | group replaced _ _ => exact absurd replaced.allowed hkept

/-- Two statements whose leading words are alike and lie at the limit, with aligned lists behind. -/
structure Begins (d : Difference) (lexemes lexemes' : List Lexeme) (head head' : Nat)
    (verb verb' : Lexeme) (rest rest' : List Lexeme) : Prop where
  drop : lexemes.drop head = verb :: rest
  drop' : lexemes'.drop head' = verb' :: rest'
  alike : d.Alike verb verb'
  word : verb.kind = .word
  depth : verb.depth = d.limit
  aligned : d.Aligned rest rest'

namespace Begins

variable {head head' : Nat} {verb verb' : Lexeme} {rest rest' : List Lexeme}

theorem bodyDepth (h : d.Begins lexemes lexemes' head head' verb verb' rest rest') :
    Lexeme.bodyDepth lexemes (some head) = d.limit ∧
      Lexeme.bodyDepth lexemes' (some head') = d.limit + d.rise := by
  have hget : lexemes[head]? = some verb := by rw [← List.head?_drop, h.drop]; rfl
  have hget' : lexemes'[head']? = some verb' := by rw [← List.head?_drop, h.drop']; rfl
  simp [Lexeme.bodyDepth, hget, hget', h.depth, h.alike.depth]

end Begins

end Moves

end Difference

end SqlFacts
