import SqlFacts.Facts.Basic
import SqlFacts.Lexeme.OfTokens
import SqlFacts.Proofs.Lexeme.Reading
import SqlFacts.Proofs.Token.Order

/-!
# Called names

A name in front of an opening parenthesis is that of a table function, which is no table. In a
query, a deletion, an update or a watch, which name their target behind `FROM` or directly behind
the verb, such a name is not reported. A description reads its target as a definition does, where a
list of columns may follow the name, and so it reports the function that it describes as a table.
-/

namespace SqlFacts

open Lexeme

/-! ### Leading words -/

section Beginning

variable {opening rest : List Lexeme} {verb : Lexeme}

/-- A word behind opening parentheses leads the statement. -/
theorem leadingWord?_of_opening (hopening : ∀ lx ∈ opening, lx.isSymbol "(" = true)
    (hverb : verb.kind = .word) :
    leadingWord? (opening ++ verb :: rest) = some opening.length := by
  induction opening with
  | nil => exact if_pos hverb
  | cons lx opening ih =>
    obtain ⟨hopens, hothers⟩ := List.forall_mem_cons.mp hopening
    have hword : lx.kind ≠ .word := by
      rw [kind_of_isSymbol hopens]
      exact LexemeKind.noConfusion
    rw [List.cons_append, leadingWord?, if_neg hword, if_pos hopens, ih hothers]
    rfl

/-- The body of a statement has the depth of its leading word. -/
theorem bodyDepth_of_opening (hopening : ∀ lx ∈ opening, lx.isSymbol "(" = true)
    (hverb : verb.kind = .word) :
    bodyDepth (opening ++ verb :: rest) (leadingWord? (opening ++ verb :: rest)) = verb.depth := by
  rw [leadingWord?_of_opening hopening hverb, bodyDepth, Option.bind_some,
    List.getElem?_append_right (Nat.le_refl _), Nat.sub_self]
  rfl

/-- A leading word stands behind opening parentheses alone. -/
theorem exists_opening_of_leadingWord? {statement : List Lexeme} {head : Nat}
    (h : leadingWord? statement = some head) :
    ∃ opening verb rest, statement = opening ++ verb :: rest ∧
      (∀ lx ∈ opening, lx.isSymbol "(" = true) ∧ verb.kind = .word := by
  induction statement generalizing head with
  | nil => cases h
  | cons lx statement ih =>
    rw [leadingWord?] at h
    split at h
    · next hword => exact ⟨[], lx, statement, rfl, List.forall_mem_nil _, hword⟩
    · split at h
      · next hopens =>
        obtain ⟨index, hindex, -⟩ := Option.map_eq_some_iff.mp h
        obtain ⟨opening, verb, rest, rfl, hopening, hverb⟩ := ih hindex
        exact ⟨lx :: opening, verb, rest, rfl, List.forall_mem_cons.mpr ⟨hopens, hopening⟩, hverb⟩
      · cases h

/-- A statement of a known kind has a leading word. -/
theorem exists_opening_of_kind {sql : String} {statement : List Lexeme}
    (h : (Facts.ofLexemes sql statement).kind ≠ .unknown) :
    ∃ opening verb rest, statement = opening ++ verb :: rest ∧
      (∀ lx ∈ opening, lx.isSymbol "(" = true) ∧ verb.kind = .word := by
  cases hhead : leadingWord? statement with
  | none =>
    have hunknown : (Facts.ofLexemes sql statement).kind = .unknown := by
      simp only [Facts.ofLexemes, hhead, Kind.ofStatement]
    exact absurd hunknown h
  | some head => exact exists_opening_of_leadingWord? hhead

/-- The kind and the object of a statement are told by its verb and what is behind it. -/
theorem ofLexemes_of_opening (hopening : ∀ lx ∈ opening, lx.isSymbol "(" = true)
    (hverb : verb.kind = .word) (sql : String) (rest : List Lexeme) :
    let facts := Facts.ofLexemes sql (opening ++ verb :: rest)
    facts.kind = Kind.ofBeginning (verb :: rest) ∧
      facts.target.location = Location.ofBeginning facts.kind verb rest := by
  have hhead : leadingWord? (opening ++ verb :: rest) = some opening.length :=
    leadingWord?_of_opening hopening hverb
  simp only [Facts.ofLexemes, Target.ofStatement, Location.ofStatement, hhead, Kind.ofStatement,
    Option.map_some, List.drop_left, and_self]

/-- A word that leads a query is not `FROM`. -/
theorem isWord_from_of_select (h : Kind.ofBeginning (verb :: rest) = .select) :
    verb.isWord ["FROM"] = false := by
  rw [← Bool.not_eq_true]
  intro hfrom
  have hcapitals : verb.capitals = "FROM" := capitals_of_isWord hfrom
  have hunknown : Kind.ofBeginning (verb :: rest) = .unknown := by
    rw [Kind.ofBeginning, hcapitals]
    rfl
  rw [hunknown] at h
  cases h

end Beginning

/-! ### Objects -/

namespace Location

/-- The object with a name of the given parts. -/
def ofParts (parts : List String) : Location := ⟨parts.dropLast.getLast?, parts.getLast?⟩

/-- The object of a name behind an object word, if there is one. -/
def behindWord (object : Option Lexeme) (location : Location) : Location :=
  if object.any (isWord ["DATABASE"]) then location.asDatabase else location

theorem ofParts_behindWord_ne_none (object : Option Lexeme) {parts : List String}
    (h : parts ≠ []) : (ofParts parts).behindWord object ≠ .none := by
  have hlast : parts.getLast? ≠ .none := by
    rw [ne_eq, List.getLast?_eq_none_iff]
    exact h
  rw [behindWord]
  split
  · exact fun hnone => hlast (congrArg database hnone)
  · exact fun hnone => hlast (congrArg table hnone)

/-- The last of some parts names the table, and the one in front of it the database. -/
theorem ofParts_concat (front : List String) (last : String) :
    ofParts (front ++ [last]) = ⟨front.getLast?, some last⟩ := by
  rw [ofParts, List.dropLast_concat, List.getLast?_concat]

theorem none_behindWord (object : Option Lexeme) : Location.none.behindWord object = .none :=
  ite_self _

end Location

section Object

variable {prelude guards place : List Lexeme} {object : Lexeme}

/-- An object word is no word of a prelude. -/
theorem isWord_preludeWords (h : object.isWord objectWords = true) :
    object.isWord preludeWords = false := isWord_of_disjoint h (by decide)

/-- Behind a prelude, an object word and a guard stands the name of the object. -/
theorem objectLocation_of_objectWord (wordOptional : Bool)
    (hprelude : ∀ lx ∈ prelude, lx.isWord preludeWords = true)
    (hobject : object.isWord objectWords = true)
    (hguards : ∀ lx ∈ guards, lx.isWord guardWords = true)
    (hplace : startsWith (isWord guardWords) place = false) :
    objectLocation wordOptional (prelude ++ object :: (guards ++ place)) =
      (Location.ofName (dottedName? place)).behindWord (some object) := by
  have hskip : skipWords preludeWords (prelude ++ object :: (guards ++ place)) =
      object :: (guards ++ place) := skipWords_append hprelude (isWord_preludeWords hobject)
  rw [objectLocation, hskip]
  simp only [hobject, if_true, skipWords_append hguards hplace]
  rfl

/-- Behind a prelude alone stands the name of the object, if the object word may be missing. -/
theorem objectLocation_of_prelude
    (hprelude : ∀ lx ∈ prelude, lx.isWord preludeWords = true)
    (hplace : startsWith (isWord preludeWords) place = false)
    (hobject : startsWith (isWord objectWords) place = false) :
    objectLocation true (prelude ++ place) = Location.ofName (dottedName? place) := by
  rw [objectLocation, skipWords_append hprelude hplace]
  cases place with
  | nil => rfl
  | cons lx place =>
    rw [startsWith_cons] at hobject
    simp only [hobject, Bool.false_eq_true, if_false, if_true]

end Object

/-! ### Names in target position -/

/-- Where the name of the target stands in a statement of a kind in which no list of columns follows
the name. `NamePlace limit kind rest object place` says that the name stands in front of `place`, a
part of the rest of the statement behind its verb, with `object` as the object word in front. -/
inductive NamePlace (limit : Int) : Kind → List Lexeme → Option Lexeme → List Lexeme → Prop where
  /-- A query or a deletion has the name behind its first `FROM`. -/
  | behindFrom {kind : Kind} {front place : List Lexeme} {word : Lexeme} :
      kind = .select ∨ kind = .delete →
      (∀ lx ∈ front, lx.isWordWithin ["FROM"] limit = false) →
      word.isWordWithin ["FROM"] limit = true →
        NamePlace limit kind (front ++ word :: place) none place
  /-- An update or a watch has the name behind the verb. -/
  | behindVerb {kind : Kind} {place : List Lexeme} :
      kind = .update ∨ kind = .watch → NamePlace limit kind place none place
  /-- A description may have the name behind a prelude, an object word and a guard. -/
  | behindObjectWord {prelude guards place : List Lexeme} {object : Lexeme} :
      (∀ lx ∈ prelude, lx.isWord preludeWords = true) →
      object.isWord objectWords = true →
      (∀ lx ∈ guards, lx.isWord guardWords = true) →
      startsWith (isWord guardWords) place = false →
        NamePlace limit .describe (prelude ++ object :: (guards ++ place)) (some object) place
  /-- A description may have the name behind a prelude alone. -/
  | behindPrelude {prelude place : List Lexeme} :
      (∀ lx ∈ prelude, lx.isWord preludeWords = true) →
      startsWith (isWord preludeWords) place = false →
      startsWith (isWord objectWords) place = false →
        NamePlace limit .describe (prelude ++ place) none place

section Place

variable {kind : Kind} {verb : Lexeme} {rest place : List Lexeme} {object : Option Lexeme}

/-- The object behind the first of some words is the one named there, unless the name is called. -/
theorem locationAfter_append {words : List String} {limit : Int} {front place : List Lexeme}
    {word : Lexeme} (hfront : ∀ lx ∈ front, lx.isWordWithin words limit = false)
    (hword : word.isWordWithin words limit = true) :
    locationAfter words limit (front ++ word :: place) = Location.ofName (objectName? place) := by
  have hafter : afterWord? words limit (front ++ word :: place) = some place := by
    rw [afterWord?_append, afterWord?_eq_none_iff.mpr hfront, afterWord?_cons_of_pos hword]
    rfl
  rw [locationAfter, hafter]

/-- A query looks for `FROM` behind its verb. -/
theorem ofBeginning_select (hkind : Kind.ofBeginning (verb :: rest) = .select) :
    Location.ofBeginning .select verb rest = locationAfter ["FROM"] verb.depth rest := by
  have hverb : verb.isWordWithin ["FROM"] verb.depth = false :=
    isWordWithin_eq_false (isWord_from_of_select hkind) verb.depth
  rw [Location.ofBeginning, locationAfter, afterWord?_cons_of_neg hverb, locationAfter]

/-- All routes to the name of a target read it alike, save that a description does not ask whether
the name is called. -/
theorem NamePlace.location_eq (h : NamePlace verb.depth kind rest object place)
    (hkind : Kind.ofBeginning (verb :: rest) = kind) :
    Location.ofBeginning kind verb rest =
      (Location.ofName (if kind = .describe then dottedName? place
        else objectName? place)).behindWord object := by
  cases h with
  | behindFrom hsearched hfront hword =>
    rcases hsearched with rfl | rfl
    · rw [ofBeginning_select hkind, locationAfter_append hfront hword]
      rfl
    · exact locationAfter_append hfront hword
  | behindVerb hdirect =>
    rcases hdirect with rfl | rfl
    · rfl
    · rfl
  | behindObjectWord hprelude hobject hguards hplace =>
    rw [if_pos rfl]
    exact objectLocation_of_objectWord true hprelude hobject hguards hplace
  | behindPrelude hprelude hplace hobject =>
    rw [if_pos rfl]
    exact objectLocation_of_prelude hprelude hplace hobject

/-- The kinds of statements in which no list of columns follows the name of the target. -/
def Kind.namesWithoutColumns (kind : Kind) : Bool :=
  [.select, .describe, .delete, .update, .watch].contains kind

/-- A statement of such a kind has a place for the name of its target, unless it is a query or a
deletion without `FROM`, which has no object. -/
theorem exists_namePlace (hkind : Kind.ofBeginning (verb :: rest) = kind)
    (hnames : kind.namesWithoutColumns = true) :
    (∃ object place, NamePlace verb.depth kind rest object place) ∨
      Location.ofBeginning kind verb rest = .none := by
  have hsearched (hfrom : kind = .select ∨ kind = .delete) :
      (∃ object place, NamePlace verb.depth kind rest object place) ∨
        locationAfter ["FROM"] verb.depth rest = .none := by
    cases hafter : afterWord? ["FROM"] verb.depth rest with
    | none =>
      right
      rw [locationAfter, hafter]
    | some place =>
      left
      obtain ⟨front, word, rfl, hfront, hword⟩ := exists_append_of_afterWord? hafter
      exact ⟨none, place, .behindFrom hfrom hfront hword⟩
  cases kind with
  | select =>
    rw [ofBeginning_select hkind]
    exact hsearched (.inl rfl)
  | delete => exact hsearched (.inr rfl)
  | update => exact .inl ⟨none, rest, .behindVerb (.inl rfl)⟩
  | watch => exact .inl ⟨none, rest, .behindVerb (.inr rfl)⟩
  | describe =>
    left
    obtain ⟨prelude, hsplit, hprelude, hplace⟩ := exists_append_skipWords preludeWords rest
    generalize skipWords preludeWords rest = behind at hsplit hplace
    subst hsplit
    cases hobject : startsWith (isWord objectWords) behind with
    | false => exact ⟨none, behind, .behindPrelude hprelude hplace hobject⟩
    | true =>
      cases behind with
      | nil => cases hobject
      | cons object behind =>
        obtain ⟨guards, hsplit, hguards, hname⟩ := exists_append_skipWords guardWords behind
        generalize skipWords guardWords behind = place at hsplit hname
        subst hsplit
        exact ⟨some object, place, .behindObjectWord hprelude hobject hguards hname⟩
  | _ => cases hnames

/-- What is reported behind the verb of such a statement is a name in target position, and if the
name is called, then the statement is a description. -/
theorem exists_namePlace_of_ne_none (hkind : Kind.ofBeginning (verb :: rest) = kind)
    (hnames : kind.namesWithoutColumns = true)
    (hreported : Location.ofBeginning kind verb rest ≠ .none) :
    ∃ object place name, NamePlace verb.depth kind rest object place ∧
      dottedName? place = some name ∧ (name.isCall = true → kind = .describe) := by
  rcases exists_namePlace hkind hnames with ⟨object, place, hplace⟩ | hnone
  · rw [hplace.location_eq hkind] at hreported
    cases hname : if kind = .describe then dottedName? place else objectName? place with
    | none =>
      rw [hname] at hreported
      exact absurd (Location.none_behindWord object) hreported
    | some name =>
      refine ⟨object, place, name, hplace, ?_⟩
      split at hname
      · next hdescribe => exact ⟨hname, fun _ => hdescribe⟩
      · obtain ⟨hdotted, huncalled⟩ := Option.filter_eq_some_iff.mp hname
        refine ⟨hdotted, fun hcall => ?_⟩
        rw [hcall] at huncalled
        cases huncalled
  · exact absurd hnone hreported

end Place

/-! ### Calls in target position -/

/-- A called name in target position is reported exactly in a description, which reports its parts
as those of any other name. -/
theorem location_of_call (sql : String) {opening rest place nameLexemes behind : List Lexeme}
    {verb paren : Lexeme} {object : Option Lexeme} {parts : List String}
    (hopening : ∀ lx ∈ opening, lx.isSymbol "(" = true) (hverb : verb.kind = .word)
    (hplace : NamePlace verb.depth (Facts.ofLexemes sql (opening ++ verb :: rest)).kind rest
      object place)
    (hspells : Spells parts nameLexemes) (hparen : paren.isSymbol "(" = true)
    (hcall : place = nameLexemes ++ paren :: behind) :
    let facts := Facts.ofLexemes sql (opening ++ verb :: rest)
    (facts.target.location = .none ↔ facts.kind ≠ .describe) ∧
      (facts.kind = .describe →
        facts.target.location = (Location.ofParts parts).behindWord object) := by
  intro facts
  obtain ⟨hkind, hlocation⟩ := ofLexemes_of_opening hopening hverb sql rest
  have hdotted : dottedName? place = some ⟨parts, paren :: behind⟩ := by
    rw [hcall]
    exact hspells.dottedName?_append (continuesName_of_isSymbol hparen (by decide))
  have hobject : objectName? place = none := by
    rw [hcall]
    exact hspells.objectName?_of_call hparen
  rw [hlocation, hplace.location_eq hkind.symm, hdotted, hobject]
  by_cases hdescribe : facts.kind = .describe
  · have hreported := Location.ofParts_behindWord_ne_none object hspells.parts_ne_nil
    rw [if_pos hdescribe]
    exact ⟨iff_of_false hreported (not_not_intro hdescribe), fun _ => rfl⟩
  · rw [if_neg hdescribe]
    exact ⟨iff_of_true (Location.none_behindWord object) hdescribe,
      fun h => absurd h hdescribe⟩

/-- The object that a statement of such a kind reports has a name in target position, which nothing
continues. If the name is called, then the statement is a description. -/
theorem exists_spells_of_reported (sql : String) {statement : List Lexeme}
    (hnames : (Facts.ofLexemes sql statement).kind.namesWithoutColumns = true)
    (hreported : (Facts.ofLexemes sql statement).target.location ≠ .none) :
    ∃ opening verb rest object nameLexemes behind parts,
      statement = opening ++ verb :: rest ∧
      NamePlace verb.depth (Facts.ofLexemes sql statement).kind rest object
        (nameLexemes ++ behind) ∧
      Spells parts nameLexemes ∧ continuesName behind = false ∧
      (startsWith (isSymbol "(") behind = true →
        (Facts.ofLexemes sql statement).kind = .describe) := by
  have hknown : (Facts.ofLexemes sql statement).kind ≠ .unknown := by
    intro hunknown
    rw [hunknown] at hnames
    cases hnames
  obtain ⟨opening, verb, rest, rfl, hopening, hverb⟩ := exists_opening_of_kind hknown
  obtain ⟨hkind, hlocation⟩ := ofLexemes_of_opening hopening hverb sql rest
  rw [hlocation] at hreported
  obtain ⟨object, place, name, hplace, hname, hcall⟩ :=
    exists_namePlace_of_ne_none hkind.symm hnames hreported
  obtain ⟨nameLexemes, rfl, hspells, hbehind⟩ := dottedName?_eq_some_iff.mp hname
  exact ⟨opening, verb, rest, object, nameLexemes, name.rest, name.parts, rfl, hplace, hspells,
    hbehind, hcall⟩

/-- The lexemes of a description of a table function, behind the verb. -/
def describedFunction : List Lexeme :=
  [⟨.word, "TABLE", 9, 14, 0⟩, ⟨.word, "numbers", 15, 22, 0⟩, ⟨.symbol, "(", 22, 23, 0⟩,
    ⟨.number, "10", 23, 25, 1⟩, ⟨.symbol, ")", 25, 26, 0⟩]

/-- The function of a description is reported as a table. -/
theorem location_describedFunction :
    let sql := "DESCRIBE TABLE numbers(10)"
    let verb : Lexeme := ⟨.word, "DESCRIBE", 0, 8, 0⟩
    let facts := Facts.ofLexemes sql (verb :: describedFunction)
    lex sql = .ok (verb :: describedFunction) ∧ facts.kind = .describe ∧
      NamePlace verb.depth facts.kind describedFunction describedFunction.head?
        (describedFunction.drop 1) ∧
      facts.target.location = ⟨none, some "numbers"⟩ := by
  intro sql verb facts
  have hlex : lex sql = .ok (verb :: describedFunction) :=
    Token.eq_ok_of_toOption (by decide +kernel)
  have hkind : facts.kind = .describe := by decide
  have hplace : NamePlace verb.depth facts.kind describedFunction describedFunction.head?
      (describedFunction.drop 1) := by
    rw [hkind]
    exact @NamePlace.behindObjectWord verb.depth [] [] (describedFunction.drop 1)
      ⟨.word, "TABLE", 9, 14, 0⟩ (List.forall_mem_nil _) (by decide) (List.forall_mem_nil _)
      (by decide)
  have hspells : Spells ["numbers"] [⟨.word, "numbers", 15, 22, 0⟩] :=
    @Spells.single ⟨.word, "numbers", 15, 22, 0⟩ rfl
  have hcall := @location_of_call sql [] describedFunction (describedFunction.drop 1)
    [⟨.word, "numbers", 15, 22, 0⟩] (describedFunction.drop 3) verb ⟨.symbol, "(", 22, 23, 0⟩
    describedFunction.head? ["numbers"] (List.forall_mem_nil _) rfl hplace hspells rfl rfl
  exact ⟨hlex, hkind, hplace, hcall.2 hkind⟩

end SqlFacts
