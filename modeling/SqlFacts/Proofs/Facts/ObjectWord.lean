import SqlFacts.Proofs.Facts.CalledName
import SqlFacts.Proofs.Facts.Nested
import SqlFacts.Proofs.Facts.Positions
import SqlFacts.Proofs.Lexeme.Statements

/-!
# Object words

The object word of a statement is told by its place alone: behind the verb, perhaps `INTO` or
`CREATE`, and the words of a prelude. So the first item that a query selects stands in the place of
an object word, and if it begins with a column or a function called `table` or `database`, only what
follows it can tell that no object is meant. The main statement says exactly when a query records
one of the two as a keyword: whenever neither `AS`, `FROM`, a comma, an equals sign nor a point
follows the first such item.
-/

namespace SqlFacts

open Lexeme

/-! ### Places of object words -/

/-- The lexemes in front of the place of an object word: opening parentheses, the verb, perhaps
`INTO` or `CREATE`, and a prelude. -/
inductive ReachesObject : List Lexeme → Prop where
  | behindVerb {opening prelude : List Lexeme} {verb : Lexeme} :
      (∀ lx ∈ opening, lx.isSymbol "(" = true) → verb.kind = .word →
      (∀ lx ∈ prelude, lx.isWord preludeWords = true) →
        ReachesObject (opening ++ verb :: prelude)
  | behindJoined {opening prelude : List Lexeme} {verb joined : Lexeme} :
      (∀ lx ∈ opening, lx.isSymbol "(" = true) → verb.kind = .word →
      joined.isWord ["INTO", "CREATE"] = true →
      (∀ lx ∈ prelude, lx.isWord preludeWords = true) →
        ReachesObject (opening ++ verb :: joined :: prelude)

section Place

variable {front after : List Lexeme} {word : Lexeme}

/-- An object word stands behind some lexemes exactly if they are all words of a prelude. -/
theorem objectWordOffset?_eq_length_iff :
    objectWordOffset? (front ++ word :: after) = some front.length ↔
      (∀ lx ∈ front, lx.isWord preludeWords = true) ∧ word.isWord objectWords = true := by
  induction front with
  | nil =>
    rw [List.nil_append, objectWordOffset?_cons, List.length_nil]
    by_cases hobject : word.isWord objectWords = true
    · simp [isWord_preludeWords hobject, hobject]
    · by_cases hprelude : word.isWord preludeWords = true <;> simp [hprelude, hobject]
  | cons lx front ih =>
    rw [List.cons_append, objectWordOffset?_cons, List.length_cons, List.forall_mem_cons]
    by_cases hprelude : lx.isWord preludeWords = true
    · simp [hprelude, ih]
    · by_cases hobject : lx.isWord objectWords = true <;> simp [hprelude, hobject]

/-- A prelude and an object word do not begin with a word that joins them to the verb. -/
theorem startsWith_joined_of_prelude (hfront : ∀ lx ∈ front, lx.isWord preludeWords = true)
    (hword : word.isWord objectWords = true) :
    startsWith (isWord ["INTO", "CREATE"]) (front ++ word :: after) = false := by
  cases front with
  | nil => exact isWord_of_disjoint hword (by decide)
  | cons lx front => exact isWord_of_disjoint (hfront lx List.mem_cons_self) (by decide)

/-- Behind a verb, and a word that joins the object to it, the object word has its offset there. -/
theorem objectWordIndex?_behind {opening rest : List Lexeme} {verb : Lexeme}
    (hopening : ∀ lx ∈ opening, lx.isSymbol "(" = true) (hverb : verb.kind = .word) :
    let joined := if startsWith (isWord ["INTO", "CREATE"]) rest then 1 else 0
    objectWordIndex? (opening ++ verb :: rest) (leadingWord? (opening ++ verb :: rest)) =
      (objectWordOffset? (rest.drop joined)).map (opening.length + 1 + joined + ·) := by
  have hdrop : (opening ++ verb :: rest).drop (opening.length + 1) = rest := by
    rw [← List.drop_drop, List.drop_left]
    rfl
  rw [leadingWord?_of_opening hopening hverb, objectWordIndex?, Option.bind_some, hdrop]

/-- A lexeme of a list that does not lie in front of the list lies in what is left behind it. -/
private theorem exists_front_of_append {stem rest before : List Lexeme}
    (h : before ++ word :: after = stem ++ rest) (hlength : stem.length ≤ before.length) :
    ∃ front, before = stem ++ front ∧ rest = front ++ word :: after := by
  rcases List.append_eq_append_iff.mp h with ⟨front, hstem, hrest⟩ | ⟨front, hbefore, hrest⟩
  · have hnil : front = [] := by
      rw [hstem, List.length_append] at hlength
      exact List.eq_nil_of_length_eq_zero (by omega)
    subst hnil
    exact ⟨[], by simpa using hstem.symm, hrest.symm⟩
  · exact ⟨front, hbefore, hrest⟩

/-- The object word of a statement stands behind the lexemes that reach up to its place. -/
theorem objectWordIndex?_eq_length_iff {before : List Lexeme} :
    objectWordIndex? (before ++ word :: after) (leadingWord? (before ++ word :: after)) =
        some before.length ↔
      ReachesObject before ∧ word.isWord objectWords = true := by
  constructor
  · intro h
    obtain ⟨head, hhead, -⟩ := Option.bind_eq_some_iff.mp h
    obtain ⟨opening, verb, rest, hsplit, hopening, hverb⟩ := exists_opening_of_leadingWord? hhead
    rw [hsplit, objectWordIndex?_behind hopening hverb] at h
    obtain ⟨offset, hoffset, hlength⟩ := Option.map_eq_some_iff.mp h
    cases hstarts : startsWith (isWord ["INTO", "CREATE"]) rest with
    | false =>
      rw [hstarts] at hoffset hlength
      have hstem : before ++ word :: after = (opening ++ [verb]) ++ rest := by
        rw [hsplit, List.append_assoc, List.singleton_append]
      simp only [Bool.false_eq_true, if_false, List.drop_zero, Nat.add_zero] at hoffset hlength
      obtain ⟨front, rfl, rfl⟩ := exists_front_of_append hstem (by simp; omega)
      have hfront : front.length = offset := by
        simp only [List.length_append, List.length_singleton] at hlength
        omega
      obtain ⟨hprelude, hword⟩ := objectWordOffset?_eq_length_iff.mp (hfront ▸ hoffset)
      rw [List.append_assoc, List.singleton_append]
      exact ⟨.behindVerb hopening hverb hprelude, hword⟩
    | true =>
      rw [hstarts] at hoffset hlength
      cases rest with
      | nil => cases hstarts
      | cons joined rest =>
        have hstem : before ++ word :: after = (opening ++ [verb, joined]) ++ rest := by
          rw [hsplit, List.append_assoc]
          rfl
        simp only [if_true, List.drop_one, List.tail_cons] at hoffset hlength
        obtain ⟨front, rfl, rfl⟩ := exists_front_of_append hstem (by simp; omega)
        have hfront : front.length = offset := by
          simp only [List.length_append, List.length_cons, List.length_nil] at hlength
          omega
        obtain ⟨hprelude, hword⟩ := objectWordOffset?_eq_length_iff.mp (hfront ▸ hoffset)
        rw [List.append_assoc]
        exact ⟨.behindJoined hopening hverb hstarts hprelude, hword⟩
  · rintro ⟨hreaches, hword⟩
    cases hreaches with
    | @behindVerb opening prelude verb hopening hverb hprelude =>
      rw [List.append_assoc, List.cons_append, objectWordIndex?_behind hopening hverb,
        startsWith_joined_of_prelude hprelude hword]
      simp only [Bool.false_eq_true, if_false, List.drop_zero,
        objectWordOffset?_eq_length_iff.mpr ⟨hprelude, hword⟩, Option.map_some, List.length_append,
        List.length_cons]
      congr 1
      omega
    | @behindJoined opening prelude verb joined hopening hverb hjoined hprelude =>
      have hstarts : startsWith (isWord ["INTO", "CREATE"])
          (joined :: (prelude ++ word :: after)) = true := hjoined
      rw [List.append_assoc, List.cons_append, List.cons_append,
        objectWordIndex?_behind hopening hverb, hstarts]
      simp only [if_true, List.drop_one, List.tail_cons,
        objectWordOffset?_eq_length_iff.mpr ⟨hprelude, hword⟩, Option.map_some, List.length_append,
        List.length_cons]
      congr 1
      omega

/-- The place of an object word lies directly behind a word. -/
theorem ReachesObject.getLast? {before : List Lexeme} (h : ReachesObject before) :
    ∃ previous, before.getLast? = some previous ∧ previous.kind = .word := by
  have hlast (front : List Lexeme) {first : Lexeme} {prelude : List Lexeme}
      (hfirst : first.kind = .word) (hprelude : ∀ lx ∈ prelude, lx.isWord preludeWords = true) :
      ∃ previous, (front ++ first :: prelude).getLast? = some previous ∧
        previous.kind = .word := by
    refine ⟨prelude.getLast?.getD first, ?_, ?_⟩
    · rw [List.getLast?_append, List.getLast?_cons]
      rfl
    · cases hlast : prelude.getLast? with
      | none => exact hfirst
      | some last => exact kind_of_isWord (hprelude last (List.mem_of_getLast? hlast))
  cases h with
  | behindVerb _ hverb hprelude => exact hlast _ hverb hprelude
  | @behindJoined opening prelude verb joined _ _ hjoined hprelude =>
    have hstem : opening ++ verb :: joined :: prelude = (opening ++ [verb]) ++ joined :: prelude :=
      (List.append_cons opening verb _)
    rw [hstem]
    exact hlast _ (kind_of_isWord hjoined) hprelude

end Place

/-! ### Columns in the place of object words -/

/-- `TABLE` or `DATABASE` is used as a keyword in the place of the object word, unless what follows
shows that it is a column. -/
theorem usedIn_objectWord_iff {keyword : Keyword}
    (hkeyword : keyword = .table ∨ keyword = .database)
    {statement before after : List Lexeme} {word : Lexeme}
    (hsplit : statement = before ++ word :: after) :
    keyword.usedIn statement before word after = true ↔
      ReachesObject before ∧
        word.isWordWithin [keyword.name] (bodyDepth statement (leadingWord? statement)) = true ∧
        showsColumn after = false := by
  subst hsplit
  have hused (isObjectWord inData : Bool) (previous next : Option Lexeme) :
      keyword.isUsed isObjectWord inData previous next = isObjectWord := by
    rcases hkeyword with rfl | rfl <;> rfl
  have hobject {limit : Int} (h : word.isWordWithin [keyword.name] limit = true) :
      word.isWord objectWords = true := by
    apply isWord_of_subset (isWord_of_isWordWithin h)
    rcases hkeyword with rfl | rfl <;> decide
  rw [Keyword.usedIn, Keyword.usedAt, hused, isColumnName_eq, Bool.and_eq_true, Bool.and_eq_true,
    beq_iff_eq, beq_iff_eq, keywordWithin?_eq_some_iff, objectWordIndex?_eq_length_iff]
  constructor
  · rintro ⟨⟨hword, hcolumn⟩, hreaches, -⟩
    rw [Bool.not_eq_true', Bool.or_eq_false_iff] at hcolumn
    exact ⟨hreaches, hword, hcolumn.2⟩
  · rintro ⟨hreaches, hword, hcolumn⟩
    obtain ⟨previous, hlast, hkind⟩ := hreaches.getLast?
    have hpoint : previous.isSymbol "." = false := by
      rw [isSymbol, hkind]
      rfl
    refine ⟨⟨hword, ?_⟩, hreaches, hobject hword⟩
    rw [hlast, Option.any_some, hpoint, hcolumn]
    rfl

/-- `TABLE` or `DATABASE` is recorded exactly if it stands in the place of the object word and what
follows does not show that it is a column. -/
theorem hasKeyword_objectWord_iff (sql : String) (statement : List Lexeme) {keyword : Keyword}
    (hkeyword : keyword = .table ∨ keyword = .database) :
    (Descriptor.ofFacts sql (Facts.ofLexemes sql statement)).hasKeyword keyword = true ↔
      ∃ before word after, statement = before ++ word :: after ∧ ReachesObject before ∧
        word.isWordWithin [keyword.name] (bodyDepth statement (leadingWord? statement)) = true ∧
        showsColumn after = false := by
  rw [hasKeyword_ofLexemes_iff]
  constructor
  · rintro ⟨before, word, after, hsplit, hused⟩
    exact ⟨before, word, after, hsplit, (usedIn_objectWord_iff hkeyword hsplit).mp hused⟩
  · rintro ⟨before, word, after, hsplit, hstands⟩
    exact ⟨before, word, after, hsplit, (usedIn_objectWord_iff hkeyword hsplit).mpr hstands⟩

/-- A query records `TABLE` or `DATABASE` exactly if the word stands in the place of the object word
and what follows does not show that it is a column. It records neither exactly if what follows shows
this wherever one of the two stands in that place. -/
theorem hasKeyword_of_query_iff {sql : String} (h : (describeStatement sql).result.kind = .select) :
    ∃ lexemes, lex sql = .ok lexemes ∧
      let statement := (statements lexemes).headD []
      let limit := bodyDepth statement (leadingWord? statement)
      let d := (describeStatement sql).result
      (∀ keyword, keyword = .table ∨ keyword = .database →
        (d.hasKeyword keyword = true ↔
          ∃ before word after, statement = before ++ word :: after ∧ ReachesObject before ∧
            word.isWordWithin [keyword.name] limit = true ∧ showsColumn after = false)) ∧
      (d.hasKeyword .table = false ∧ d.hasKeyword .database = false ↔
        ∀ before word after, statement = before ++ word :: after → ReachesObject before →
          word.isWordWithin ["TABLE", "DATABASE"] limit = true → showsColumn after = true) := by
  have hkind : (describeStatement sql).result.kind ≠ .unknown := by
    rw [h]
    decide
  obtain ⟨lexemes, hlex⟩ := exists_lex_of_kind hkind
  refine ⟨lexemes, hlex, ?_⟩
  intro statement limit d
  have hd : d = .ofFacts sql (Facts.ofLexemes sql statement) := result_describeStatement hlex
  have hrecorded (keyword : Keyword) (hkeyword : keyword = .table ∨ keyword = .database) :=
    hasKeyword_objectWord_iff sql statement hkeyword
  rw [← hd] at hrecorded
  refine ⟨hrecorded, ?_⟩
  have hword (word : Lexeme) : word.isWordWithin ["TABLE", "DATABASE"] limit = true ↔
      ∃ keyword : Keyword, (keyword = .table ∨ keyword = .database) ∧
        word.isWordWithin [keyword.name] limit = true := by
    simp [isWordWithin, isWord, Keyword.name, and_or_left]
  constructor
  · rintro ⟨htable, hdatabase⟩ before word after hsplit hreaches hstands
    obtain ⟨keyword, hkeyword, hstands⟩ := (hword word).mp hstands
    have hnone : d.hasKeyword keyword = false := by
      rcases hkeyword with rfl | rfl
      · exact htable
      · exact hdatabase
    by_contra hcolumn
    rw [(hrecorded keyword hkeyword).mpr ⟨before, word, after, hsplit, hreaches, hstands,
      Bool.eq_false_iff.mpr hcolumn⟩] at hnone
    cases hnone
  · intro hcolumns
    have hnone (keyword : Keyword) (hkeyword : keyword = .table ∨ keyword = .database) :
        d.hasKeyword keyword = false := by
      rw [← Bool.not_eq_true, hrecorded keyword hkeyword]
      rintro ⟨before, word, after, hsplit, hreaches, hstands, hcolumn⟩
      rw [hcolumns before word after hsplit hreaches
        ((hword word).mpr ⟨keyword, hkeyword, hstands⟩)] at hcolumn
      cases hcolumn
    exact ⟨hnone .table (.inl rfl), hnone .database (.inr rfl)⟩

/-- The lexemes of a query whose first item compares a column called `database`. -/
def comparedDatabase : List Lexeme :=
  [⟨.word, "SELECT", 0, 6, 0⟩, ⟨.word, "database", 7, 15, 0⟩, ⟨.symbol, "!=", 16, 18, 0⟩,
    ⟨.string, "system", 19, 27, 0⟩, ⟨.word, "FROM", 28, 32, 0⟩, ⟨.word, "system", 33, 39, 0⟩,
    ⟨.symbol, ".", 39, 40, 0⟩, ⟨.word, "tables", 40, 46, 0⟩]

/-- A column called `database` in front of a comparison is recorded as the object word. -/
theorem hasKeyword_comparedDatabase :
    let sql := "SELECT database != 'system' FROM system.tables"
    (describeStatement sql).result.kind = .select ∧ lex sql = .ok comparedDatabase ∧
      ReachesObject (comparedDatabase.take 1) ∧
      showsColumn (comparedDatabase.drop 2) = false ∧
      (describeStatement sql).result.hasKeyword .database = true := by
  intro sql
  have hlex : lex sql = .ok comparedDatabase := Token.eq_ok_of_toOption (by decide +kernel)
  have hkind : (describeStatement sql).result.kind = .select := by decide +kernel
  have hreaches : ReachesObject (comparedDatabase.take 1) :=
    @ReachesObject.behindVerb [] [] ⟨.word, "SELECT", 0, 6, 0⟩ (List.forall_mem_nil _) rfl
      (List.forall_mem_nil _)
  have hcolumn : showsColumn (comparedDatabase.drop 2) = false := by decide
  refine ⟨hkind, hlex, hreaches, hcolumn, ?_⟩
  obtain ⟨lexemes, hread, hrecorded, -⟩ := hasKeyword_of_query_iff hkind
  cases Except.ok.inj (hread.symm.trans hlex)
  have hstatement : (statements comparedDatabase).headD [] = comparedDatabase := by decide +kernel
  rw [hstatement] at hrecorded
  exact (hrecorded .database (.inr rfl)).mpr
    ⟨_, ⟨.word, "database", 7, 15, 0⟩, _, rfl, hreaches, by decide, hcolumn⟩

end SqlFacts
