import SqlFacts.Proofs.Facts.CalledName

/-!
# Searched targets

A query, a deletion and a `SHOW` name their object behind a clause word, which is looked for from
the verb on. Words of nested statements lie deeper and do not count, however long the body in front
of the clause is. The main statement says that the object is the one named directly behind the first
clause word of the statement itself, and that there is none if a parenthesis opens there instead, or
right behind the name: no later clause word is tried.
-/

namespace SqlFacts

open Lexeme

/-! ### Searches -/

/-- The words that the object of a statement is named behind. `SearchesBehind verb body words` says
that a statement with this verb, and this body behind it, looks for the first of the words. -/
inductive SearchesBehind (verb : Lexeme) (body : List Lexeme) : List String → Prop where
  /-- A query looks for a table. -/
  | query : verb.isWord ["SELECT", "WITH"] = true → SearchesBehind verb body ["FROM"]
  /-- A deletion looks for a table. -/
  | deletion : verb.isWord ["DELETE"] = true → SearchesBehind verb body ["FROM"]
  /-- A `SHOW` looks for a database, unless it shows how an object is created. -/
  | listing : verb.isWord ["SHOW"] = true → startsWith (isWord ["CREATE"]) body = false →
      SearchesBehind verb body ["FROM", "IN"]

namespace SearchesBehind

variable {verb clause : Lexeme} {body : List Lexeme} {words : List String}

theorem kind_verb (h : SearchesBehind verb body words) : verb.kind = .word := by
  cases h with
  | query hverb => exact kind_of_isWord hverb
  | deletion hverb => exact kind_of_isWord hverb
  | listing hverb => exact kind_of_isWord hverb

/-- Such a statement works on the object named behind the first of the words: a `SHOW` on the
database of that name, the others on the table. -/
theorem ofBeginning_eq (h : SearchesBehind verb body words)
    (hbody : ∀ lx ∈ body, lx.isWordWithin words verb.depth = false)
    (hclause : clause.isWordWithin words verb.depth = true) (place : List Lexeme) :
    let rest := body ++ clause :: place
    let named := Location.ofName (objectName? place)
    Location.ofBeginning (Kind.ofBeginning (verb :: rest)) verb rest =
      if verb.isWord ["SHOW"] then named.asDatabase else named := by
  intro rest named
  have hread : locationAfter words verb.depth rest = named := locationAfter_append hbody hclause
  cases h with
  | query hverb =>
    have hkind : Kind.ofBeginning (verb :: rest) = .select := by
      have hcapitals := capitals_mem_of_isWord hverb
      rw [Kind.ofBeginning]
      generalize verb.capitals = capitals at hcapitals
      simp only [List.mem_cons, List.not_mem_nil, or_false] at hcapitals
      rcases hcapitals with rfl | rfl
      · rfl
      · rfl
    rw [isWord_of_disjoint hverb (by decide), if_neg Bool.false_ne_true, hkind,
      ofBeginning_select hkind, hread]
  | deletion hverb =>
    have hkind : Kind.ofBeginning (verb :: rest) = .delete := by
      rw [Kind.ofBeginning, capitals_of_isWord hverb]
      rfl
    rw [isWord_of_disjoint hverb (by decide), if_neg Bool.false_ne_true, hkind]
    exact hread
  | listing hverb hcreate =>
    have hkind : Kind.ofBeginning (verb :: rest) = .show := by
      rw [Kind.ofBeginning, capitals_of_isWord hverb]
      rfl
    have hother : startsWith (isWord ["CREATE"]) rest = false := by
      cases body with
      | nil => exact isWord_of_disjoint (isWord_of_isWordWithin hclause) (by decide)
      | cons lx body => exact hcreate
    rw [if_pos hverb, hkind, Location.ofBeginning, showLocation, hother,
      if_neg Bool.false_ne_true, hread]

/-- The object of a whole statement is the one named behind the first of the words. -/
theorem location_eq (h : SearchesBehind verb body words) (sql : String) {opening : List Lexeme}
    (hopening : ∀ lx ∈ opening, lx.isSymbol "(" = true)
    (hbody : ∀ lx ∈ body, lx.isWordWithin words verb.depth = false)
    (hclause : clause.isWordWithin words verb.depth = true) (place : List Lexeme) :
    (Facts.ofLexemes sql (opening ++ verb :: (body ++ clause :: place))).target.location =
      if verb.isWord ["SHOW"] then (Location.ofName (objectName? place)).asDatabase
      else Location.ofName (objectName? place) := by
  obtain ⟨hkind, hread⟩ := ofLexemes_of_opening hopening h.kind_verb sql (body ++ clause :: place)
  rw [hread, hkind]
  exact h.ofBeginning_eq hbody hclause place

end SearchesBehind

/-! ### Objects of searches -/

/-- The object of a query, a deletion or a `SHOW` is named directly behind the first clause word at
or above the depth of the verb: the last part of the name is the table, and the part in front of it
the database, while for a `SHOW` the last part is the database. If a parenthesis opens behind the
clause word or behind the name, there is no object, whatever follows. -/
theorem location_of_search (sql : String) {opening body : List Lexeme} {verb clause : Lexeme}
    {words : List String} (hopening : ∀ lx ∈ opening, lx.isSymbol "(" = true)
    (hsearch : SearchesBehind verb body words)
    (hbody : ∀ lx ∈ body, lx.isWordWithin words verb.depth = false)
    (hclause : clause.isWordWithin words verb.depth = true) :
    let location (place : List Lexeme) : Location :=
      (Facts.ofLexemes sql (opening ++ verb :: (body ++ clause :: place))).target.location
    (∀ (front : List String) (last : String) (name rest : List Lexeme),
      Spells (front ++ [last]) name → continuesName rest = false →
      startsWith (isSymbol "(") rest = false →
        location (name ++ rest) =
          if verb.isWord ["SHOW"] then ⟨some last, none⟩ else ⟨front.getLast?, some last⟩) ∧
      ∀ (paren : Lexeme) (rest : List Lexeme), paren.isSymbol "(" = true →
        location (paren :: rest) = .none ∧
          ∀ parts name, Spells parts name → location (name ++ paren :: rest) = .none := by
  intro location
  have hlocation (place : List Lexeme) : location place =
      if verb.isWord ["SHOW"] then (Location.ofName (objectName? place)).asDatabase
      else Location.ofName (objectName? place) :=
    hsearch.location_eq sql hopening hbody hclause place
  have hnone {place : List Lexeme} (h : objectName? place = none) : location place = .none := by
    rw [hlocation, h]
    exact ite_self _
  constructor
  · intro front last name rest hname hrest huncalled
    have hparts : Location.ofName (some ⟨front ++ [last], rest⟩) =
        ⟨front.getLast?, some last⟩ := Location.ofParts_concat front last
    rw [hlocation, hname.objectName?_append hrest huncalled, hparts]
    rfl
  · intro paren rest hparen
    refine ⟨hnone (objectName?_of_isSymbol hparen), ?_⟩
    intro parts name hname
    exact hnone (hname.objectName?_of_call hparen)

/-- The body of a query in front of its own `FROM`: a subquery with a `FROM` of its own, and a
column. -/
def queryBody : List Lexeme :=
  [⟨.word, "c", 5, 6, 0⟩, ⟨.word, "AS", 7, 9, 0⟩, ⟨.symbol, "(", 10, 11, 0⟩,
    ⟨.word, "SELECT", 11, 17, 1⟩, ⟨.word, "a", 18, 19, 1⟩, ⟨.word, "FROM", 20, 24, 1⟩,
    ⟨.word, "x", 25, 26, 1⟩, ⟨.symbol, ")", 26, 27, 0⟩, ⟨.word, "SELECT", 28, 34, 0⟩,
    ⟨.word, "b", 35, 36, 0⟩]

/-- The table of a query is the one behind its own `FROM`, even with a name that reads as a clause
word. -/
theorem location_queryBody :
    let sql := "WITH c AS (SELECT a FROM x) SELECT b FROM db.`from`, y"
    let verb : Lexeme := ⟨.word, "WITH", 0, 4, 0⟩
    let clause : Lexeme := ⟨.word, "FROM", 37, 41, 0⟩
    let name : List Lexeme :=
      [⟨.word, "db", 42, 44, 0⟩, ⟨.symbol, ".", 44, 45, 0⟩, ⟨.name, "from", 45, 51, 0⟩]
    let rest : List Lexeme := [⟨.symbol, ",", 51, 52, 0⟩, ⟨.word, "y", 53, 54, 0⟩]
    let statement := verb :: (queryBody ++ clause :: (name ++ rest))
    lex sql = .ok statement ∧ SearchesBehind verb queryBody ["FROM"] ∧
      (∀ lx ∈ queryBody, lx.isWordWithin ["FROM"] verb.depth = false) ∧
      clause.isWordWithin ["FROM"] verb.depth = true ∧ Spells ["db", "from"] name ∧
      (Facts.ofLexemes sql statement).target.location = ⟨some "db", some "from"⟩ := by
  intro sql verb clause name rest statement
  have hlex : lex sql = .ok statement := Token.eq_ok_of_toOption (by decide +kernel)
  have hsearch : SearchesBehind verb queryBody ["FROM"] := .query (by decide)
  have hbody : ∀ lx ∈ queryBody, lx.isWordWithin ["FROM"] verb.depth = false := by decide
  have hclause : clause.isWordWithin ["FROM"] verb.depth = true := by decide
  have hname : Spells ["db", "from"] name :=
    @Spells.dotted ⟨.word, "db", 42, 44, 0⟩ ⟨.symbol, ".", 44, 45, 0⟩ _ _ rfl rfl
      (@Spells.single ⟨.name, "from", 45, 51, 0⟩ rfl)
  obtain ⟨hnamed, -⟩ :=
    @location_of_search sql [] queryBody verb clause ["FROM"] (List.forall_mem_nil _) hsearch
      hbody hclause
  refine ⟨hlex, hsearch, hbody, hclause, hname, ?_⟩
  exact (hnamed ["db"] "from" name rest hname (by decide) (by decide)).trans (if_neg (by decide))

end SqlFacts
