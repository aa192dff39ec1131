import SqlFacts.Proofs.Facts.ObjectWord

/-!
# Recorded objects

The object word of a statement is found twice: once to record its place, and once to read the name
behind it. Both skip a word that joins the object to the verb, and a prelude, but neither in the
same way. The main statement says that they meet at the same word: where a statement names its
object behind the verb, or a `SHOW` behind `CREATE`, the target is the name behind the recorded
`TABLE` or `DATABASE` and its guards.
-/

namespace SqlFacts

open Lexeme

/-! ### Statements that name an object behind the verb -/

/-- Tests for a kind of statements that name their object behind the verb. -/
def Kind.namesObject (kind : Kind) : Bool :=
  [.alter, .alterDelete, .alterUpdate, .attach, .check, .create, .describe, .detach, .drop,
    .exists, .optimize, .rename, .truncate].contains kind

/-- Tests whether a statement of a kind names its object in the place of the object word, given
what is behind the verb. A `SHOW` does so behind `CREATE`, and the others unless `INTO` or `CREATE`
is behind the verb. -/
def Kind.namesObjectBefore (kind : Kind) (rest : List Lexeme) : Bool :=
  if kind = .show then startsWith (isWord ["CREATE"]) rest
  else kind.namesObject && !startsWith (isWord ["INTO", "CREATE"]) rest

/-- What is behind the leading word of a statement. -/
def Lexeme.behindHead (statement : List Lexeme) : List Lexeme :=
  match leadingWord? statement with
  | none => []
  | some head => statement.drop (head + 1)

theorem behindHead_of_opening {opening rest : List Lexeme} {verb : Lexeme}
    (hopening : ∀ lx ∈ opening, lx.isSymbol "(" = true) (hverb : verb.kind = .word) :
    behindHead (opening ++ verb :: rest) = rest := by
  rw [behindHead, leadingWord?_of_opening hopening hverb]
  simp [List.drop_append]

/-- The object of such a statement is read behind the verb, and the word that joins it to the verb
if there is one. -/
theorem ofBeginning_eq_objectLocation {kind : Kind} {rest : List Lexeme}
    (h : kind.namesObjectBefore rest = true) (verb : Lexeme) :
    ∃ wordOptional, Location.ofBeginning kind verb rest = objectLocation wordOptional
      (rest.drop (if startsWith (isWord ["INTO", "CREATE"]) rest then 1 else 0)) := by
  by_cases hshow : kind = .show
  · subst hshow
    have hcreate : startsWith (isWord ["CREATE"]) rest = true := h
    have hjoined : startsWith (isWord ["INTO", "CREATE"]) rest = true := by
      by_contra hnot
      rw [startsWith_isWord_of_subset (Bool.not_eq_true _ ▸ hnot) (by decide)] at hcreate
      cases hcreate
    refine ⟨true, ?_⟩
    rw [hjoined, Location.ofBeginning, showLocation, hcreate]
    rfl
  · rw [Kind.namesObjectBefore, if_neg hshow, Bool.and_eq_true, Bool.not_eq_true'] at h
    obtain ⟨hkind, hjoined⟩ := h
    rw [hjoined]
    cases kind with
    | alter | alterDelete | alterUpdate | attach | check | create | detach | drop | optimize
    | rename => exact ⟨false, rfl⟩
    | describe | «exists» | truncate => exact ⟨true, rfl⟩
    | _ => cases hkind

/-- Behind the lexemes that reach up to its place, the object word follows a prelude. -/
theorem ReachesObject.location {before after : List Lexeme} {word : Lexeme}
    (h : ReachesObject before) (hword : word.isWord objectWords = true) (sql : String)
    (hreads : (Facts.ofLexemes sql (before ++ word :: after)).kind.namesObjectBefore
      (behindHead (before ++ word :: after)) = true) :
    ∃ wordOptional prelude, (∀ lx ∈ prelude, lx.isWord preludeWords = true) ∧
      (Facts.ofLexemes sql (before ++ word :: after)).target.location =
        objectLocation wordOptional (prelude ++ word :: after) := by
  cases h with
  | @behindVerb opening prelude verb hopening hverb hprelude =>
    rw [List.append_assoc, List.cons_append] at hreads ⊢
    rw [behindHead_of_opening hopening hverb] at hreads
    obtain ⟨wordOptional, hlocation⟩ := ofBeginning_eq_objectLocation hreads verb
    refine ⟨wordOptional, prelude, hprelude, ?_⟩
    rw [(ofLexemes_of_opening hopening hverb sql _).2, hlocation,
      startsWith_joined_of_prelude hprelude hword]
    rfl
  | @behindJoined opening prelude verb joined hopening hverb hjoined hprelude =>
    rw [List.append_assoc, List.cons_append, List.cons_append] at hreads ⊢
    rw [behindHead_of_opening hopening hverb] at hreads
    obtain ⟨wordOptional, hlocation⟩ := ofBeginning_eq_objectLocation hreads verb
    refine ⟨wordOptional, prelude, hprelude, ?_⟩
    rw [(ofLexemes_of_opening hopening hverb sql _).2, hlocation, startsWith_cons, hjoined]
    rfl

/-! ### Recorded object words -/

/-- A recorded `TABLE` or `DATABASE` is the object word of the statement. -/
theorem exists_objectWord_of_recorded {sql : String} {statement : List Lexeme} {keyword : Keyword}
    {offset : Nat} (hkeyword : keyword = .table ∨ keyword = .database)
    (hplace : (Facts.ofLexemes sql statement).positions.lookup keyword = some offset) :
    ∃ before word after, statement = before ++ word :: after ∧ word.start = offset ∧
      word.isWord [keyword.name] = true ∧ ReachesObject before := by
  rw [Facts.ofLexemes, lookup_keywordPositions] at hplace
  obtain ⟨word, hfirst, hstart⟩ := Option.map_eq_some_iff.mp hplace
  obtain ⟨before, after, hsplit, hused, -⟩ := firstUse?_eq_some_iff.mp hfirst
  obtain ⟨hreaches, hword, -⟩ := (usedIn_objectWord_iff hkeyword hsplit).mp hused
  exact ⟨before, word, after, hsplit, hstart, isWord_of_isWordWithin hword, hreaches⟩

/-- Behind an object word no object is read where no identifier stands, else the last part of the
name, for a table with the part in front of it. -/
theorem location_behindWord {keyword : Keyword} {word : Lexeme}
    (hkeyword : keyword = .table ∨ keyword = .database) (hword : word.isWord [keyword.name] = true)
    (place : List Lexeme) :
    let location := Location.behindWord (some word) (.ofName (dottedName? place))
    startsWith isIdentifier place = false ∧ location = .none ∨
      ∃ front last name rest, place = name ++ rest ∧ Spells (front ++ [last]) name ∧
        continuesName rest = false ∧
        location =
          if keyword = .database then ⟨some last, none⟩ else ⟨front.getLast?, some last⟩ := by
  intro location
  cases hname : dottedName? place with
  | none =>
    left
    refine ⟨dottedName?_eq_none_iff.mp hname, ?_⟩
    simp only [location, hname]
    exact Location.none_behindWord (some word)
  | some name =>
    right
    obtain ⟨lexemes, hsplit, hspells, hcontinues⟩ := dottedName?_eq_some_iff.mp hname
    obtain ⟨front, last, hparts⟩ :=
      (List.eq_nil_or_concat name.parts).resolve_left hspells.parts_ne_nil
    rw [List.concat_eq_append] at hparts
    refine ⟨front, last, lexemes, name.rest, hsplit, hparts ▸ hspells, hcontinues, ?_⟩
    have hofName : Location.ofName (some name) = ⟨front.getLast?, some last⟩ := by
      rw [← Location.ofParts_concat, ← hparts]
      rfl
    simp only [location, hname, hofName, Location.behindWord, Option.any_some]
    rcases hkeyword with rfl | rfl
    · rw [isWord_of_disjoint hword (by decide)]
      rfl
    · rw [show word.isWord ["DATABASE"] = true from hword]
      rfl

/-- Where a statement names its object in the place of the object word, a recorded `TABLE` or
`DATABASE` is that word, and the object is named behind it and its guards: the last part of the name
is the table, and the part in front of it the database, while behind `DATABASE` the last part is the
database. If no name stands there, then there is no object. -/
theorem location_of_recorded {sql : String} {statement : List Lexeme} {keyword : Keyword}
    {offset : Nat} (hkeyword : keyword = .table ∨ keyword = .database)
    (hreads : (Facts.ofLexemes sql statement).kind.namesObjectBefore (behindHead statement) = true)
    (hplace : (Facts.ofLexemes sql statement).positions.lookup keyword = some offset) :
    let facts := Facts.ofLexemes sql statement
    ∃ before word guards place, statement = before ++ word :: (guards ++ place) ∧
      word.start = offset ∧ word.isWord [keyword.name] = true ∧
      facts.objectWord = some before.length ∧
      (∀ lx ∈ guards, lx.isWord guardWords = true) ∧
      startsWith (isWord guardWords) place = false ∧
      (startsWith isIdentifier place = false ∧ facts.target.location = .none ∨
        ∃ front last name rest, place = name ++ rest ∧ Spells (front ++ [last]) name ∧
          continuesName rest = false ∧
          facts.target.location =
            if keyword = .database then ⟨some last, none⟩ else ⟨front.getLast?, some last⟩) := by
  intro facts
  obtain ⟨before, word, after, rfl, hstart, hword, hreaches⟩ :=
    exists_objectWord_of_recorded hkeyword hplace
  have hobject : word.isWord objectWords = true := by
    apply isWord_of_subset hword
    rcases hkeyword with rfl | rfl <;> decide
  have hindex : facts.objectWord = some before.length :=
    objectWordIndex?_eq_length_iff.mpr ⟨hreaches, hobject⟩
  obtain ⟨guards, hguards, hguard, hrest⟩ := exists_append_skipWords guardWords after
  obtain ⟨wordOptional, prelude, hprelude, hlocation⟩ := hreaches.location hobject sql hreads
  generalize skipWords guardWords after = place at hguards hrest
  subst hguards
  rw [objectLocation_of_objectWord wordOptional hprelude hobject hguard hrest] at hlocation
  refine ⟨before, word, guards, place, rfl, hstart, hword, hindex, hguard, hrest, ?_⟩
  rw [hlocation]
  exact location_behindWord hkeyword hword place

/-- The lexemes of a statement that shows how a table is created. -/
def shownCreation : List Lexeme :=
  [⟨.word, "SHOW", 0, 4, 0⟩, ⟨.word, "CREATE", 5, 11, 0⟩, ⟨.word, "TEMPORARY", 12, 21, 0⟩,
    ⟨.word, "TABLE", 22, 27, 0⟩, ⟨.word, "IF", 28, 30, 0⟩, ⟨.word, "EXISTS", 31, 37, 0⟩,
    ⟨.word, "db", 38, 40, 0⟩, ⟨.symbol, ".", 40, 41, 0⟩, ⟨.word, "t", 41, 42, 0⟩]

/-- The object of a `SHOW` is named behind the recorded object word and its guards. -/
theorem location_of_recorded_shownCreation :
    let sql := "SHOW CREATE TEMPORARY TABLE IF EXISTS db.t"
    let facts := Facts.ofLexemes sql shownCreation
    facts.kind.namesObjectBefore (behindHead shownCreation) = true ∧
      facts.positions.lookup .table = some 22 ∧
      facts.objectWord = some 3 ∧
      facts.target.location = ⟨some "db", some "t"⟩ ∧
      ∃ front last name, Spells (front ++ [last]) name ∧
        facts.target.location = ⟨front.getLast?, some last⟩ := by
  intro sql facts
  have hreads : facts.kind.namesObjectBefore (behindHead shownCreation) = true := by
    decide +kernel
  have hplace : facts.positions.lookup .table = some 22 := by decide +kernel
  have hlocation : facts.target.location = ⟨some "db", some "t"⟩ := by decide +kernel
  refine ⟨hreads, hplace, by decide +kernel, hlocation, ?_⟩
  obtain ⟨_, _, _, _, -, -, -, -, -, -, hnamed⟩ := location_of_recorded (.inl rfl) hreads hplace
  rcases hnamed with ⟨-, hnone⟩ | ⟨front, last, name, _, -, hspells, -, hfound⟩
  · rw [hlocation] at hnone
    cases hnone
  · exact ⟨front, last, name, hspells, hfound⟩

end SqlFacts
