import SqlFacts.Proofs.Facts.CalledName

/-!
# Objects of definitions

A definition names its object behind the verb: a prelude such as `OR REPLACE`, the word for the sort
of the object, a guard such as `IF NOT EXISTS`, and a name with dots between its parts. Some verbs
take the name without the word and the guard as well. The main statement says which database and
table are read from a statement of this form, whatever follows the name: the last part names the
object, and the one in front of it the database. None of the words is taken for a part of the name,
nor a part of the name for one of the words.
-/

namespace SqlFacts

open Lexeme

/-! ### Verbs -/

/-- The verbs behind which the object word may be missing. -/
def bareObjectVerbs : List String := ["DESC", "DESCRIBE", "EXISTS", "TRUNCATE"]

/-- The verbs behind which an object is named. -/
def objectVerbs : List String :=
  ["ATTACH", "CHECK", "CREATE", "DETACH", "DROP", "OPTIMIZE", "RENAME"] ++ bareObjectVerbs

/-- Behind such a verb an object is read, with or without its word as the verb has it. -/
theorem location_of_objectVerb {verb : Lexeme} (h : verb.isWord objectVerbs = true)
    (rest : List Lexeme) :
    Location.ofBeginning (Kind.ofBeginning (verb :: rest)) verb rest =
      objectLocation (verb.isWord bareObjectVerbs) rest := by
  rw [isWord, Bool.and_eq_true, List.contains_iff_mem] at h
  obtain ⟨hword, hverb⟩ := h
  rw [Kind.ofBeginning, isWord, hword, Bool.true_and]
  generalize verb.capitals = capitals at hverb
  simp only [objectVerbs, bareObjectVerbs, List.cons_append, List.nil_append, List.mem_cons,
    List.not_mem_nil, or_false] at hverb
  rcases hverb with rfl | rfl | rfl | rfl | rfl | rfl | rfl | rfl | rfl | rfl | rfl <;> rfl

/-! ### Phrases in front of names -/

/-- What stands between a verb and the name of its object. `NamePhrase verb name object phrase` says
that the lexemes of `phrase` introduce those of `name` behind `verb`, with `object` as the object
word among them. -/
inductive NamePhrase (verb : Lexeme) (name : List Lexeme) : Option Lexeme → List Lexeme → Prop where
  /-- A prelude, an object word and a guard; the name does not begin as a guard goes on. -/
  | withWord {prelude guards : List Lexeme} {object : Lexeme} :
      verb.isWord objectVerbs = true →
      (∀ lx ∈ prelude, lx.isWord preludeWords = true) →
      object.isWord objectWords = true →
      (∀ lx ∈ guards, lx.isWord guardWords = true) →
      startsWith (isWord guardWords) name = false →
        NamePhrase verb name (some object) (prelude ++ object :: guards)
  /-- A prelude alone; the name begins neither as a prelude goes on nor with an object word. -/
  | withoutWord {prelude : List Lexeme} :
      verb.isWord bareObjectVerbs = true →
      (∀ lx ∈ prelude, lx.isWord preludeWords = true) →
      startsWith (isWord preludeWords) name = false →
      startsWith (isWord objectWords) name = false →
        NamePhrase verb name none prelude

/-- A verb that takes a name without an object word takes one with it. -/
theorem isWord_objectVerbs {verb : Lexeme} (h : verb.isWord bareObjectVerbs = true) :
    verb.isWord objectVerbs = true := isWord_of_subset h (by decide)

namespace NamePhrase

variable {verb : Lexeme} {name phrase : List Lexeme} {object : Option Lexeme}

theorem isWord_verb (h : NamePhrase verb name object phrase) : verb.isWord objectVerbs = true := by
  cases h with
  | withWord hverb => exact hverb
  | withoutWord hverb => exact isWord_objectVerbs hverb

/-- Behind a phrase that introduces a name, the object is the one with the name. -/
theorem objectLocation_append (h : NamePhrase verb name object phrase) {parts : List String}
    (hname : Spells parts name) {rest : List Lexeme} (hrest : continuesName rest = false) :
    objectLocation (verb.isWord bareObjectVerbs) (phrase ++ (name ++ rest)) =
      (Location.ofParts parts).behindWord object := by
  have hread : Location.ofName (dottedName? (name ++ rest)) = Location.ofParts parts := by
    rw [hname.dottedName?_append hrest]
    rfl
  cases h with
  | withWord _ hprelude hobject hguards hfirst =>
    rw [← hname.startsWith_append _ rest] at hfirst
    rw [List.append_assoc, List.cons_append,
      objectLocation_of_objectWord _ hprelude hobject hguards hfirst, hread]
  | withoutWord hverb hprelude hfirst hobject =>
    rw [← hname.startsWith_append _ rest] at hfirst hobject
    rw [hverb, objectLocation_of_prelude hprelude hfirst hobject, hread]
    rfl

end NamePhrase

/-! ### Definitions -/

/-- Behind an object verb and a phrase that introduces a name, the last part of the name is the
table, and the part in front of it, if there is one, the database. Behind the word `DATABASE` the
last part is the database, and there is no table. -/
theorem location_of_definition (sql : String) {opening phrase name rest : List Lexeme}
    {verb : Lexeme} {object : Option Lexeme} {front : List String} {last : String}
    (hopening : ∀ lx ∈ opening, lx.isSymbol "(" = true)
    (hphrase : NamePhrase verb name object phrase) (hname : Spells (front ++ [last]) name)
    (hrest : continuesName rest = false) :
    (Facts.ofLexemes sql (opening ++ verb :: (phrase ++ (name ++ rest)))).target.location =
      if object.any (isWord ["DATABASE"]) then ⟨some last, none⟩
      else ⟨front.getLast?, some last⟩ := by
  have hverb : verb.kind = .word := kind_of_isWord hphrase.isWord_verb
  obtain ⟨hkind, hlocation⟩ := ofLexemes_of_opening hopening hverb sql (phrase ++ (name ++ rest))
  rw [hlocation, hkind, location_of_objectVerb hphrase.isWord_verb,
    hphrase.objectLocation_append hname hrest, Location.ofParts_concat]
  rfl

/-- The prelude, the object word and the guard of a table that is created. -/
def createdPhrase : List Lexeme :=
  [⟨.word, "or", 7, 9, 0⟩, ⟨.word, "replace", 10, 17, 0⟩, ⟨.word, "table", 18, 23, 0⟩,
    ⟨.word, "if", 24, 26, 0⟩, ⟨.word, "not", 27, 30, 0⟩, ⟨.word, "exists", 31, 37, 0⟩]

/-- The name of a table that is created, in three parts that read as words of a phrase. -/
def createdName : List Lexeme :=
  [⟨.word, "table", 38, 43, 0⟩, ⟨.symbol, ".", 43, 44, 0⟩, ⟨.name, "if", 44, 48, 0⟩,
    ⟨.symbol, ".", 48, 49, 0⟩, ⟨.word, "exists", 49, 55, 0⟩]

/-- A list of columns does not continue the name of a table, whatever its parts read as. -/
theorem location_createdTable :
    let sql := "create or replace table if not exists table.`if`.exists (a Int8)"
    let verb : Lexeme := ⟨.word, "create", 0, 6, 0⟩
    let columns : List Lexeme :=
      [⟨.symbol, "(", 56, 57, 0⟩, ⟨.word, "a", 57, 58, 1⟩, ⟨.word, "Int8", 59, 63, 1⟩,
        ⟨.symbol, ")", 63, 64, 0⟩]
    lex sql = .ok (verb :: (createdPhrase ++ (createdName ++ columns))) ∧
      NamePhrase verb createdName createdPhrase[2]? createdPhrase ∧
      Spells ["table", "if", "exists"] createdName ∧ continuesName columns = false ∧
      (Facts.ofLexemes sql
        (verb :: (createdPhrase ++ (createdName ++ columns)))).target.location =
          ⟨some "if", some "exists"⟩ := by
  intro sql verb columns
  have hlex : lex sql = .ok (verb :: (createdPhrase ++ (createdName ++ columns))) :=
    Token.eq_ok_of_toOption (by decide +kernel)
  have hphrase : NamePhrase verb createdName createdPhrase[2]? createdPhrase :=
    @NamePhrase.withWord verb createdName (createdPhrase.take 2) (createdPhrase.drop 3)
      ⟨.word, "table", 18, 23, 0⟩ (by decide) (by decide) (by decide) (by decide) (by decide)
  have hname : Spells ["table", "if", "exists"] createdName :=
    @Spells.dotted ⟨.word, "table", 38, 43, 0⟩ ⟨.symbol, ".", 43, 44, 0⟩ _ _ rfl rfl
      (@Spells.dotted ⟨.name, "if", 44, 48, 0⟩ ⟨.symbol, ".", 48, 49, 0⟩ _ _ rfl rfl
        (@Spells.single ⟨.word, "exists", 49, 55, 0⟩ rfl))
  have hcolumns : continuesName columns = false := by decide
  exact ⟨hlex, hphrase, hname, hcolumns,
    @location_of_definition sql [] createdPhrase createdName columns verb createdPhrase[2]?
      ["table", "if"] "exists" (List.forall_mem_nil _) hphrase hname hcolumns⟩

end SqlFacts
