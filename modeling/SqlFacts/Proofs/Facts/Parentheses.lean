import SqlFacts.Proofs.Aligned.Facts
import SqlFacts.Proofs.Facts.Enclosed

/-!
# Statements in parentheses

A recognized statement may stand in parentheses. What is known about it stays: every reader goes by
the depth of the leading word, the opening parenthesis in front is passed over, and the closing one
behind ends nothing. Only the indices of lexemes, the depth and the offsets grow by one.
-/

namespace SqlFacts

open Lexeme

/-! ### An opening parenthesis in front -/

section Opening

variable {lexemes : List Lexeme} {head : Option Nat} {opening : Lexeme} {limit : Int}

/-- The leading word is looked for behind an opening parenthesis. -/
theorem leadingWord?_cons_opening (hopening : opening.isSymbol "(" = true)
    (lexemes : List Lexeme) :
    leadingWord? (opening :: lexemes) = (leadingWord? lexemes).map (· + 1) := by
  simp [leadingWord?, kind_of_isSymbol hopening, hopening]

/-- The body of a statement lies as deep behind one more lexeme. -/
theorem bodyDepth_cons (lx : Lexeme) (lexemes : List Lexeme) (head : Option Nat) :
    bodyDepth (lx :: lexemes) (head.map (· + 1)) = bodyDepth lexemes head := by
  cases head <;> rfl

/-- The kind of a statement is told by what begins at its leading word. -/
theorem ofStatement_cons (lx : Lexeme) (lexemes : List Lexeme) (head : Option Nat) :
    Kind.ofStatement (lx :: lexemes) (head.map (· + 1)) = Kind.ofStatement lexemes head := by
  cases head <;> rfl

/-- The location of a statement is told by what begins at its leading word. -/
theorem location_cons (lx : Lexeme) (lexemes : List Lexeme) (kind : Kind) (head : Option Nat) :
    Location.ofStatement (lx :: lexemes) kind (head.map (· + 1)) =
      Location.ofStatement lexemes kind head := by
  cases head <;> rfl

/-- The object word moves with the leading word. -/
theorem objectWordIndex?_cons (lx : Lexeme) (lexemes : List Lexeme) (head : Option Nat) :
    objectWordIndex? (lx :: lexemes) (head.map (· + 1)) =
      (objectWordIndex? lexemes head).map (· + 1) := by
  cases head with
  | none => rfl
  | some head =>
    simp only [objectWordIndex?, Option.map_some, Option.bind_some, List.drop_succ_cons,
      Option.map_map]
    congr 1
    funext offset
    simp only [Function.comp_apply]
    omega

/-- A reader that expects a lexeme has no answer where the lexeme is none of those. -/
theorem unanswered_expect {α : Type} {test : Lexeme → Bool}
    {read : Lexeme → List Lexeme → Option α} {lexemes : List Lexeme}
    (h : ∀ lx ∈ lexemes, test lx = false) : Unanswered (Difference.expect test read) lexemes := by
  intro lx hlx rest
  rw [Difference.expect, h lx hlx]
  rfl

/-- An opening parenthesis is passed over by a reader that looks for the first word of a clause. -/
theorem firstSome_cons_opening {α : Type} {test : Lexeme → Bool}
    {read : Lexeme → List Lexeme → Option α} (h : test opening = false) (lexemes : List Lexeme) :
    firstSome (Difference.expect test read) (opening :: lexemes) =
      firstSome (Difference.expect test read) lexemes :=
  firstSome_append_of_unanswered (unanswered_expect (List.forall_mem_singleton.mpr h))

/-- An opening parenthesis is passed over by a reader that looks for the last word of a clause. -/
theorem lastSome_cons_opening {α : Type} {test : Lexeme → Bool}
    {read : Lexeme → List Lexeme → Option α} (h : test opening = false) (lexemes : List Lexeme) :
    lastSome (Difference.expect test read) (opening :: lexemes) =
      lastSome (Difference.expect test read) lexemes :=
  lastSome_append_of_unanswered (unanswered_expect (List.forall_mem_singleton.mpr h))

theorem cluster?_cons_opening (hopening : opening.isSymbol "(" = true) (limit : Int)
    (lexemes : List Lexeme) : cluster? limit (opening :: lexemes) = cluster? limit lexemes := by
  rw [cluster?, cluster?, Difference.clusterHere?_eq_expect]
  exact firstSome_cons_opening (isWordWithin_of_isSymbol hopening _ limit) lexemes

theorem firstSome_literalHere?_cons_opening (hopening : opening.isSymbol "(" = true)
    (first second : Keyword) (limit : Int) (lexemes : List Lexeme) :
    firstSome (literalHere? first second limit) (opening :: lexemes) =
      firstSome (literalHere? first second limit) lexemes := by
  rw [Difference.literalHere?_eq_expect]
  exact firstSome_cons_opening (isWordWithin_of_isSymbol hopening _ limit) lexemes

theorem input?_cons_opening (hopening : opening.isSymbol "(" = true) (limit : Int)
    (lexemes : List Lexeme) : input? limit (opening :: lexemes) = input? limit lexemes := by
  have hcall :
      firstSome inputCallHere? (opening :: lexemes) = firstSome inputCallHere? lexemes := by
    rw [Difference.inputCallHere?_eq_expect]
    exact firstSome_cons_opening (isWord_of_isSymbol hopening _) lexemes
  rw [input?, input?, infile?, infile?, firstSome_literalHere?_cons_opening hopening, hcall]

theorem format?_cons_opening (hopening : opening.isSymbol "(" = true) (limit : Int)
    (lexemes : List Lexeme) : format? limit (opening :: lexemes) = format? limit lexemes := by
  rw [format?, format?, Difference.formatHere?_eq_expect]
  exact lastSome_cons_opening (isWordWithin_of_isSymbol hopening _ limit) lexemes

theorem placeholders_cons_opening (hopening : opening.isSymbol "(" = true)
    (lexemes : List Lexeme) : placeholders (opening :: lexemes) = placeholders lexemes := by
  simp [placeholders, kind_of_isSymbol hopening]

theorem readSettings_cons_opening (hopening : opening.isSymbol "(" = true) (sql : String)
    (lexemes : List Lexeme) (kind : Kind) (head : Option Nat) :
    readSettings sql (opening :: lexemes) kind (head.map (· + 1)) =
      readSettings sql lexemes kind head := by
  have hlist : settingsLexemes (opening :: lexemes) kind (head.map (· + 1)) =
      settingsLexemes lexemes kind head := by
    have hafter : (afterWord? [Keyword.settings.name]
          (bodyDepth (opening :: lexemes) (head.map (· + 1))) (opening :: lexemes)).getD [] =
        (afterWord? [Keyword.settings.name] (bodyDepth lexemes head) lexemes).getD [] := by
      rw [bodyDepth_cons, afterWord?_cons_of_neg (isWordWithin_of_isSymbol hopening _ _)]
    by_cases hset : kind = .set
    · subst hset
      cases head with
      | none => exact hafter
      | some head => rfl
    · rw [settingsLexemes_of_ne_set hset, settingsLexemes_of_ne_set hset, hafter]
  rw [readSettings_eq, readSettings_eq, hlist]

/-! ### Places behind an opening parenthesis -/

/-- Behind an opening parenthesis a keyword is used as in front of everything, save for
`REPLACE`. -/
theorem recorded?_behind_opening (hopening : opening.isSymbol "(" = true) {lx : Lexeme}
    (hreplace : keywordWithin? limit lx ≠ some .replace) (objectWord : Option Nat) (index : Nat)
    (inData : Bool) (found : List Keyword) (next : Option Lexeme) :
    ScanState.recorded? limit objectWord ⟨index, some opening, inData, found⟩ lx next =
      ScanState.recorded? limit objectWord ⟨index, none, inData, found⟩ lx next := by
  have hcolumn : isColumnName (some opening) next = isColumnName none next := by
    rw [isColumnName, isColumnName, Option.any_some, isSymbol_of_isSymbol hopening]
    rfl
  rw [ScanState.recorded?, ScanState.recorded?]
  cases hread : keywordWithin? limit lx with
  | none => rfl
  | some keyword =>
    have hused (isObjectWord data : Bool) :
        keyword.isUsed isObjectWord data (some opening) next =
          keyword.isUsed isObjectWord data none next := by
      cases keyword <;> try rfl
      case totals => exact isWord_of_isSymbol hopening _
      case replace => exact absurd hread hreplace
    rw [Option.filter_some, Option.filter_some, hcolumn, hused]

/-- A scan that begins behind an opening parenthesis finds what one finds that begins in front of
everything, unless the first word is `REPLACE`. -/
theorem positionsFrom_behind_opening (hopening : opening.isSymbol "(" = true)
    (hreplace : ∀ lx ∈ lexemes.head?, keywordWithin? limit lx ≠ some .replace)
    (objectWord : Option Nat) (index : Nat) (inData : Bool) (found : List Keyword) :
    positionsFrom limit objectWord ⟨index, some opening, inData, found⟩ lexemes =
      positionsFrom limit objectWord ⟨index, none, inData, found⟩ lexemes := by
  cases lexemes with
  | nil => rfl
  | cons lx rest =>
    rw [positionsFrom_cons (recorded?_behind_opening hopening (hreplace lx rfl) objectWord index
      inData found rest.head?), positionsFrom_cons rfl]
    rfl

/-- A scan finds the same places when it counts all lexemes from one more on. -/
theorem positionsFrom_succ (objectWord : Option Nat) (index : Nat) (previous : Option Lexeme)
    (inData : Bool) (found : List Keyword) (lexemes : List Lexeme) :
    positionsFrom limit (objectWord.map (· + 1)) ⟨index + 1, previous, inData, found⟩ lexemes =
      positionsFrom limit objectWord ⟨index, previous, inData, found⟩ lexemes := by
  induction lexemes generalizing index previous inData found with
  | nil => rfl
  | cons lx rest ih =>
    have hindex : (objectWord.map (· + 1) == some (index + 1)) = (objectWord == some index) := by
      cases objectWord with
      | none => rfl
      | some place => simp
    have hrecorded :
        ScanState.recorded? limit (objectWord.map (· + 1)) ⟨index + 1, previous, inData, found⟩ lx
            rest.head? =
          ScanState.recorded? limit objectWord ⟨index, previous, inData, found⟩ lx rest.head? := by
      rw [ScanState.recorded?, ScanState.recorded?, hindex]
    rw [positionsFrom_cons hrecorded, positionsFrom_cons rfl]
    exact congrArg _ (ih _ _ _ _)

/-- The first word of a recognized statement is not `REPLACE`. -/
theorem keywordWithin?_ne_replace
    (h : Kind.ofStatement lexemes (leadingWord? lexemes) ≠ .unknown) (limit : Int) :
    ∀ lx ∈ lexemes.head?, keywordWithin? limit lx ≠ some .replace := by
  cases lexemes with
  | nil => exact fun _ hlx => nomatch hlx
  | cons first rest =>
    rintro lx ⟨⟩ hreplace
    rw [keywordWithin?_eq_some_iff] at hreplace
    have hword : first.isWord [Keyword.replace.name] = true := isWord_of_isWordWithin hreplace
    apply h
    rw [leadingWord?, if_pos (kind_of_isWord hword), Kind.ofStatement, List.drop_zero,
      Kind.ofBeginning, capitals_of_isWord hword]
    rfl

/-- The places in a recognized statement do not change behind an opening parenthesis. -/
theorem keywordPositions_cons_opening (hopening : opening.isSymbol "(" = true)
    (h : Kind.ofStatement lexemes (leadingWord? lexemes) ≠ .unknown) (kind : Kind) :
    keywordPositions (opening :: lexemes) kind ((leadingWord? lexemes).map (· + 1)) =
      keywordPositions lexemes kind (leadingWord? lexemes) := by
  have hquiet : ∀ lx ∈ [opening], lx.Quiet (bodyDepth lexemes (leadingWord? lexemes)) :=
    List.forall_mem_singleton.mpr (.inl (kind_of_isSymbol hopening))
  rw [keywordPositions, keywordPositions, bodyDepth_cons, objectWordIndex?_cons,
    ← List.singleton_append, Difference.positionsFrom_append_of_quiet hquiet]
  refine (positionsFrom_behind_opening hopening (keywordWithin?_ne_replace h _) _ _ _ _).trans ?_
  exact positionsFrom_succ _ 0 _ _ _ _

/-- An opening parenthesis in front of a recognized statement changes nothing that is known about
it, save for the indices of its lexemes. -/
theorem ofLexemes_cons_opening {sql : String} (hopening : opening.isSymbol "(" = true)
    (h : (Facts.ofLexemes sql lexemes).kind ≠ .unknown) :
    Facts.ofLexemes sql (opening :: lexemes) =
      let facts := Facts.ofLexemes sql lexemes
      { facts with
        head := facts.head.map (· + 1)
        objectWord := facts.objectWord.map (· + 1) } := by
  simp only [Facts.ofLexemes, Target.ofStatement, leadingWord?_cons_opening hopening,
    ofStatement_cons, bodyDepth_cons, objectWordIndex?_cons, location_cons,
    cluster?_cons_opening hopening, input?_cons_opening hopening, format?_cons_opening hopening,
    outfile?, firstSome_literalHere?_cons_opening hopening, placeholders_cons_opening hopening,
    keywordPositions_cons_opening hopening h, readSettings_cons_opening hopening]

end Opening

/-! ### Both parentheses -/

section Both

/-- The difference between the lexemes of a statement and the same lexemes one group deeper, with
the parenthesis that closes the group. -/
def Difference.enclosed (length : Nat) (limit : Int) : Difference where
  copied := Eq
  offset := 1
  rise := 1
  limit
  regroups := False
  closing := [closingParen length]
  isSymbol_closing := List.forall_mem_singleton.mpr rfl

variable {lexemes : List Lexeme}

theorem aligned_nest (length : Nat) (limit : Int) (lexemes : List Lexeme) :
    (Difference.enclosed length limit).Aligned lexemes
      (lexemes.map nest ++ [closingParen length]) := by
  induction lexemes with
  | nil => exact .nil
  | cons lx lexemes ih => exact .cons ⟨rfl, rfl, rfl, rfl, fun _ => rfl, fun _ => rfl, rfl⟩ ih

/-- Parentheses around a recognized statement change neither its kind nor its target, input, format
or output file. The leading word and the object word have the next index, the body lies one group
deeper, and the placeholders and the keywords, in the same order, have the next offset. -/
theorem ofLexemes_enclose {sql : String} (h : (Facts.ofLexemes sql lexemes).kind ≠ .unknown)
    (sql' : String) (length : Nat) :
    let facts := Facts.ofLexemes sql lexemes
    let enclosed := Facts.ofLexemes sql' (enclose length lexemes [])
    enclosed = { facts with
      head := facts.head.map (· + 1)
      depth := facts.depth + 1
      objectWord := facts.objectWord.map (· + 1)
      parameters := facts.parameters.map (· + 1)
      positions := facts.positions.map fun entry => (entry.1, entry.2 + 1)
      settings := enclosed.settings } := by
  intro facts enclosed
  have hdescribed : (Descriptor.ofFacts sql facts).isRecognized = true := bne_iff_ne.mpr h
  obtain ⟨head, hhead⟩ := exists_leadingWord? hdescribed
  have halike := (aligned_nest length (bodyDepth lexemes (leadingWord? lexemes)) lexemes).facts id
    rfl (fun hnone => nomatch hhead.symm.trans hnone) sql sql'
  have hopening : (⟨.symbol, "(", 0, 1, 0⟩ : Lexeme).isSymbol "(" = true := rfl
  have hinside : enclosed = _ := ofLexemes_cons_opening hopening (by rw [halike.kind]; exact h)
  rw [hinside, halike.eq rfl]
  rfl

end Both

/-- The lexemes of a query with a placeholder and a format. -/
def formattedQuery : List Lexeme :=
  [⟨.word, "SELECT", 0, 6, 0⟩, ⟨.word, "a", 7, 8, 0⟩, ⟨.word, "FROM", 9, 13, 0⟩,
    ⟨.word, "d", 14, 15, 0⟩, ⟨.symbol, ".", 15, 16, 0⟩, ⟨.word, "t", 16, 17, 0⟩,
    ⟨.word, "WHERE", 18, 23, 0⟩, ⟨.word, "b", 24, 25, 0⟩, ⟨.symbol, "=", 26, 27, 0⟩,
    ⟨.parameter, "?", 28, 29, 0⟩, ⟨.word, "FORMAT", 30, 36, 0⟩, ⟨.word, "JSON", 37, 41, 0⟩]

/-- The query is read in parentheses as it is read alone, with the next offsets. -/
theorem ofLexemes_enclose_formattedQuery :
    let sql := "SELECT a FROM d.t WHERE b = ? FORMAT JSON"
    let whole := "(SELECT a FROM d.t WHERE b = ? FORMAT JSON)"
    let facts := Facts.ofLexemes whole (enclose 41 formattedQuery [])
    lex sql = .ok formattedQuery ∧ lex whole = .ok (enclose 41 formattedQuery []) ∧
      (Facts.ofLexemes sql formattedQuery).kind ≠ .unknown ∧ facts.kind = .select ∧
      facts.target = ⟨none, ⟨some "d", some "t"⟩⟩ ∧ facts.format = some "JSON" ∧
      facts.parameters = [29] ∧
      facts.positions = [(.select, 1), (.from, 10), (.where, 19), (.format, 31)] := by
  intro sql whole facts
  have hrecognized : (Facts.ofLexemes sql formattedQuery).kind ≠ .unknown := by decide
  have hfacts : facts = _ := ofLexemes_enclose hrecognized whole 41
  refine ⟨Token.eq_ok_of_toOption (by decide +kernel), Token.eq_ok_of_toOption (by decide +kernel),
    hrecognized, ?_⟩
  rw [hfacts]
  decide +kernel

end SqlFacts
