import SqlFacts.Proofs.Aligned.Facts

/-!
# Nested text

What stands inside a group of a statement tells nothing about the statement: replacing it leaves
the target, the format, the output file and the places of keywords as they are, whatever takes its
place as long as it lies inside the group. The kind stays too, unless the statement alters a table:
there the name of a cluster is skipped without regard to groups.
-/

namespace SqlFacts

open Lexeme Difference

/-! ### Words in front of a symbol -/

section Words

variable {front back : List Lexeme} {symbol : Lexeme}

/-- A leading word in front of a group is the leading word whatever follows. -/
theorem leadingWord?_append {rest rest' : List Lexeme} {head : Nat}
    (h : leadingWord? (front ++ rest) = some head) (hfront : head < front.length) :
    leadingWord? (front ++ rest') = some head := by
  induction front generalizing head with
  | nil => exact absurd hfront (Nat.not_lt_zero head)
  | cons lx front ih =>
    rw [List.cons_append, leadingWord?] at h ⊢
    split
    · next hword => rwa [if_pos hword] at h
    · next hword =>
      rw [if_neg hword] at h
      split
      · next hopens =>
        rw [if_pos hopens] at h
        obtain ⟨index, hindex, rfl⟩ := Option.map_eq_some_iff.mp h
        rw [ih hindex (Nat.lt_of_succ_lt_succ hfront)]
        rfl
      · next hopens =>
        rw [if_neg hopens] at h
        cases h

/-- The object word is looked for behind the words of a prelude. -/
theorem objectWordOffset?_cons (lx : Lexeme) (rest : List Lexeme) :
    objectWordOffset? (lx :: rest) =
      if lx.isWord preludeWords then (objectWordOffset? rest).map (· + 1)
      else if lx.isWord objectWords then some 0 else none := by
  rw [objectWordOffset?, skipWords, countWords, List.dropWhile_cons, List.takeWhile_cons]
  by_cases hprelude : lx.isWord preludeWords = true
  · rw [if_pos hprelude, if_pos hprelude, if_pos hprelude, objectWordOffset?, skipWords]
    split
    · rfl
    · rfl
  · rw [if_neg hprelude, if_neg hprelude, if_neg hprelude]
    rfl

/-- An object word stands in front of every symbol. -/
theorem lt_of_objectWordOffset? (hsymbol : symbol.kind = .symbol) {offset : Nat}
    (h : objectWordOffset? (front ++ symbol :: back) = some offset) : offset < front.length := by
  induction front generalizing offset with
  | nil =>
    have hword (words : List String) : ¬ symbol.isWord words = true := by
      rw [isWord, hsymbol]
      exact Bool.false_ne_true
    rw [List.nil_append, objectWordOffset?_cons, if_neg (hword _), if_neg (hword _)] at h
    cases h
  | cons lx front ih =>
    rw [List.cons_append, objectWordOffset?_cons] at h
    split at h
    · obtain ⟨later, hlater, rfl⟩ := Option.map_eq_some_iff.mp h
      exact Nat.succ_lt_succ (ih hlater)
    · split at h
      · cases h
        exact Nat.succ_pos front.length
      · cases h

/-- The object word of a statement stands in front of every symbol behind its leading word. -/
theorem lt_of_objectWordIndex? (hsymbol : symbol.kind = .symbol) {head index : Nat}
    (hfront : head < front.length)
    (h : objectWordIndex? (front ++ symbol :: back) (some head) = some index) :
    index < front.length := by
  have hdrop : (front ++ symbol :: back).drop (head + 1) =
      front.drop (head + 1) ++ symbol :: back := List.drop_append_of_le_length hfront
  have hlength : (front.drop (head + 1)).length = front.length - (head + 1) := List.length_drop
  simp only [objectWordIndex?, Option.bind_some, hdrop] at h
  generalize front.drop (head + 1) = behind at h hlength
  obtain ⟨offset, hoffset, rfl⟩ := Option.map_eq_some_iff.mp h
  split at hoffset
  · next hjoined =>
    cases behind with
    | nil =>
      rw [List.nil_append, startsWith_cons, isWord, hsymbol] at hjoined
      cases hjoined
    | cons lx behind =>
      have := lt_of_objectWordOffset? hsymbol hoffset
      rw [List.length_cons] at hlength
      split
      · omega
      · omega
  · next hjoined =>
    have := lt_of_objectWordOffset? hsymbol hoffset
    rw [if_neg hjoined]
    omega

end Words

/-! ### Replaced groups -/

theorem alike_self (limit : Int) (lx : Lexeme) : (Difference.nested limit).Alike lx lx :=
  ⟨rfl, rfl, rfl, (Int.add_zero lx.depth).symm, fun _ => rfl, fun _ => rfl, rfl⟩

theorem aligned_self (limit : Int) (lexemes : List Lexeme) :
    (Difference.nested limit).Aligned lexemes lexemes := by
  induction lexemes with
  | nil => exact .nil
  | cons lx lexemes ih => exact .cons (alike_self limit lx) ih

section Group

variable {limit : Int} {front after inner inner' : List Lexeme} {opening closing : Lexeme}

theorem quiet_of_group (hopening : opening.isSymbol "(" = true)
    (hclosing : closing.isSymbol ")" = true) (hinner : ∀ lx ∈ inner, limit < lx.depth) :
    ∀ lx ∈ opening :: (inner ++ [closing]), lx.Quiet limit := by
  intro lx hlx
  rcases List.mem_cons.mp hlx with rfl | hlx
  · exact .inl (kind_of_isSymbol hopening)
  · rcases List.mem_append.mp hlx with hlx | hlx
    · exact .inr (hinner lx hlx)
    · rw [List.mem_singleton.mp hlx]
      exact .inl (kind_of_isSymbol hclosing)

/-- A list is aligned with what it becomes when a group deeper than the limit is replaced. -/
theorem aligned_group (hopening : opening.isSymbol "(" = true)
    (hclosing : closing.isSymbol ")" = true) (hinner : ∀ lx ∈ inner, limit < lx.depth)
    (hinner' : ∀ lx ∈ inner', limit < lx.depth) :
    (Difference.nested limit).Aligned (opening :: (inner ++ closing :: after))
      (opening :: (inner' ++ closing :: after)) := by
  have hsplit (inner : List Lexeme) : opening :: (inner ++ closing :: after) =
      (opening :: (inner ++ [closing])) ++ after := by simp
  rw [hsplit inner, hsplit inner']
  refine .group ?_ (aligned_self limit after)
  exact
    { allowed := trivial
      opening := ⟨opening, opening, _, _, rfl, rfl, hopening, alike_self limit opening⟩
      closing := ⟨closing, closing, opening :: inner, opening :: inner', rfl, rfl,
        alike_self limit closing⟩
      quiet := quiet_of_group hopening hclosing hinner
      quiet' := by
        show ∀ lx : Lexeme, _ → lx.Quiet (limit + 0)
        rw [Int.add_zero]
        exact quiet_of_group hopening hclosing hinner' }

end Group

/-! ### Kinds of alterations -/

/-- The sort of an alteration is told by what is behind its verb. -/
theorem ofBeginning_eq_ofAlteration {verb : Lexeme} (h : verb.capitals = "ALTER")
    (rest : List Lexeme) : Kind.ofBeginning (verb :: rest) = Kind.ofAlteration rest := by
  rw [Kind.ofBeginning, if_neg (by rw [h]; decide), h]
  rfl

/-- A statement that begins with `ALTER` is an alteration of one sort or another. -/
theorem ofBeginning_of_alter {verb : Lexeme} (h : verb.capitals = "ALTER") (rest : List Lexeme) :
    Kind.ofBeginning (verb :: rest) ∈ [Kind.alter, .alterDelete, .alterUpdate] := by
  rw [ofBeginning_eq_ofAlteration h, Kind.ofAlteration]
  split
  · decide
  · dsimp only
    split
    · decide
    · split
      · decide
      · decide

/-- Every sort of alteration works on the object behind the verb. -/
theorem location_of_alteration {kind : Kind} (h : kind ∈ [Kind.alter, .alterDelete, .alterUpdate])
    (verb : Lexeme) (rest : List Lexeme) :
    Location.ofBeginning kind verb rest = objectLocation false rest := by
  simp only [List.mem_cons, List.not_mem_nil, or_false] at h
  rcases h with rfl | rfl | rfl
  · rfl
  · rfl
  · rfl

/-- No alteration is an insertion. -/
theorem not_insert_of_alteration {kind : Kind}
    (h : kind ∈ [Kind.alter, .alterDelete, .alterUpdate]) : (kind == .insert) = false := by
  simp only [List.mem_cons, List.not_mem_nil, or_false] at h
  rcases h with rfl | rfl | rfl
  · rfl
  · rfl
  · rfl

namespace Difference.Begins

variable {d : Difference} {lexemes lexemes' rest rest' : List Lexeme} {head head' : Nat}
  {verb verb' : Lexeme}

/-- Statements that begin alike are both insertions or both none, even where an alteration differs
in its sort. -/
theorem insertion_eq (h : d.Begins lexemes lexemes' head head' verb verb' rest rest') :
    (Kind.ofStatement lexemes' (some head') == .insert) =
      (Kind.ofStatement lexemes (some head) == .insert) := by
  by_cases halter : verb.capitals = "ALTER"
  · have halter' : verb'.capitals = "ALTER" := (h.alike.word h.word).trans halter
    rw [Kind.ofStatement, Kind.ofStatement, h.drop, h.drop',
      not_insert_of_alteration (ofBeginning_of_alter halter rest),
      not_insert_of_alteration (ofBeginning_of_alter halter' rest')]
  · rw [h.kind fun _ => halter]

/-- Statements that begin alike work on the same object, even where an alteration differs in its
sort. -/
theorem location_eq (h : d.Begins lexemes lexemes' head head' verb verb' rest rest')
    (hcopied : d.copied = Eq) :
    Location.ofStatement lexemes' (Kind.ofStatement lexemes' (some head')) (some head') =
      Location.ofStatement lexemes (Kind.ofStatement lexemes (some head)) (some head) := by
  by_cases halter : verb.capitals = "ALTER"
  · have halter' : verb'.capitals = "ALTER" := (h.alike.word h.word).trans halter
    rw [Kind.ofStatement, Kind.ofStatement, Location.ofStatement, Location.ofStatement,
      Option.map_some, Option.map_some, h.drop, h.drop']
    dsimp only
    rw [location_of_alteration (ofBeginning_of_alter halter rest),
      location_of_alteration (ofBeginning_of_alter halter' rest')]
    exact (h.aligned.objectLocation false).eq hcopied
  · rw [h.kind fun _ => halter]
    exact (h.location _).eq hcopied

end Difference.Begins

/-! ### Facts about a statement with a group -/

section Facts

variable {before after inner inner' : List Lexeme} {opening closing verb : Lexeme} {head : Nat}

/-- Lexemes in front of a group are aligned with themselves when the group is replaced. -/
theorem aligned_regroup {limit : Int} (front : List Lexeme) (hopening : opening.isSymbol "(" = true)
    (hclosing : closing.isSymbol ")" = true) (hinner : ∀ lx ∈ inner, limit < lx.depth)
    (hinner' : ∀ lx ∈ inner', limit < lx.depth) :
    (Difference.nested limit).Aligned (front ++ opening :: (inner ++ closing :: after))
      (front ++ opening :: (inner' ++ closing :: after)) :=
  .append (List.forall₂_same.mpr fun lx _ => alike_self limit lx)
    (aligned_group hopening hclosing hinner hinner')

/-- A statement begins like the statement that it becomes when a group behind its leading word is
replaced. -/
theorem begins_regroup (hopening : opening.isSymbol "(" = true)
    (hclosing : closing.isSymbol ")" = true)
    (hhead : leadingWord? (before ++ opening :: (inner ++ closing :: after)) = some head)
    (hverb : before[head]? = some verb) (hinner : ∀ lx ∈ inner, verb.depth < lx.depth)
    (hinner' : ∀ lx ∈ inner', verb.depth < lx.depth) :
    (Difference.nested verb.depth).Begins (before ++ opening :: (inner ++ closing :: after))
      (before ++ opening :: (inner' ++ closing :: after)) head head verb verb
      (before.drop (head + 1) ++ opening :: (inner ++ closing :: after))
      (before.drop (head + 1) ++ opening :: (inner' ++ closing :: after)) := by
  obtain ⟨hlength, hget⟩ := List.getElem?_eq_some_iff.mp hverb
  have hdrop (rest : List Lexeme) :
      (before ++ rest).drop head = verb :: (before.drop (head + 1) ++ rest) := by
    rw [List.drop_append_of_le_length (Nat.le_of_lt hlength), List.drop_eq_getElem_cons hlength,
      hget, List.cons_append]
  obtain ⟨lx, rest, hleading, hword⟩ := drop_of_leadingWord? hhead
  rw [hdrop] at hleading
  cases hleading
  exact ⟨hdrop _, hdrop _, alike_self _ verb, hword, rfl,
    aligned_regroup _ hopening hclosing hinner hinner'⟩

/-- The places of keywords do not depend on what stands inside a group behind the leading word. -/
theorem keywordPositions_regroup (hopening : opening.isSymbol "(" = true)
    (hclosing : closing.isSymbol ")" = true)
    (hhead : leadingWord? (before ++ opening :: (inner ++ closing :: after)) = some head)
    (hverb : before[head]? = some verb) (hinner : ∀ lx ∈ inner, verb.depth < lx.depth)
    (hinner' : ∀ lx ∈ inner', verb.depth < lx.depth) {kind kind' : Kind}
    (hkind : (kind' == .insert) = (kind == .insert)) :
    keywordPositions (before ++ opening :: (inner' ++ closing :: after)) kind' (some head) =
      keywordPositions (before ++ opening :: (inner ++ closing :: after)) kind (some head) := by
  have hbegins := begins_regroup hopening hclosing hhead hverb hinner hinner'
  obtain ⟨hlength, -⟩ := List.getElem?_eq_some_iff.mp hverb
  obtain ⟨hlimit, hlimit'⟩ := hbegins.bodyDepth
  obtain ⟨offset, hindex, hindex'⟩ := hbegins.objectWordIndex?
  -- The scan has passed the object word when it comes to the group.
  have hpassed (ahead : Nat) : offset.map (head + ·) ≠ some (0 + before.length + ahead) := by
    rw [← hindex]
    intro hobject
    have := lt_of_objectWordIndex? (kind_of_isSymbol hopening) hlength hobject
    omega
  have hgroup : (Difference.nested verb.depth).Aligned (opening :: (inner ++ closing :: after))
      (opening :: (inner' ++ closing :: after)) := aligned_group hopening hclosing hinner hinner'
  have hsame : List.Forall₂ (Difference.nested verb.depth).Alike before before :=
    List.forall₂_same.mpr fun lx _ => alike_self _ lx
  have hstart : (Difference.nested verb.depth).StatesAlike ⟨0, none, kind == .insert, []⟩
      ⟨0, none, kind == .insert, []⟩ := ⟨.none, rfl, rfl⟩
  have hplaces := hgroup.positionsFrom_append hsame hstart (fun _ => rfl)
    fun ahead => ⟨hpassed ahead, hpassed ahead⟩
  rw [keywordPositions, keywordPositions, hlimit, hlimit', hindex, hindex', hkind]
  exact hplaces.trans (List.map_id _)

/-- Replacing what stands inside a group behind the leading word of a statement, no less deep than
the statement itself, changes neither the target nor the format, the output file or any place of a
keyword. The kind is the same too if the statement does not begin with `ALTER`. -/
theorem ofLexemes_regroup (sql sql' : String) (hopening : opening.isSymbol "(" = true)
    (hclosing : closing.isSymbol ")" = true)
    (hhead : leadingWord? (before ++ opening :: (inner ++ closing :: after)) = some head)
    (hverb : before[head]? = some verb) (hdepth : verb.depth ≤ opening.depth)
    (hinner : ∀ lx ∈ inner, opening.depth < lx.depth)
    (hinner' : ∀ lx ∈ inner', opening.depth < lx.depth) :
    let facts := Facts.ofLexemes sql (before ++ opening :: (inner ++ closing :: after))
    let facts' := Facts.ofLexemes sql' (before ++ opening :: (inner' ++ closing :: after))
    facts'.target = facts.target ∧ facts'.format = facts.format ∧
      facts'.outfile = facts.outfile ∧ facts'.positions = facts.positions ∧
        (verb.capitals ≠ "ALTER" → facts'.kind = facts.kind) := by
  have hdeep : ∀ lx ∈ inner, verb.depth < lx.depth := fun lx hlx =>
    Int.lt_of_le_of_lt hdepth (hinner lx hlx)
  have hdeep' : ∀ lx ∈ inner', verb.depth < lx.depth := fun lx hlx =>
    Int.lt_of_le_of_lt hdepth (hinner' lx hlx)
  obtain ⟨hlength, -⟩ := List.getElem?_eq_some_iff.mp hverb
  have hhead' : leadingWord? (before ++ opening :: (inner' ++ closing :: after)) = some head :=
    leadingWord?_append hhead hlength
  have hbegins := begins_regroup hopening hclosing hhead hverb hdeep hdeep'
  obtain ⟨hlimit, hlimit'⟩ := hbegins.bodyDepth
  have haligned : (Difference.nested verb.depth).Aligned
      (before ++ opening :: (inner ++ closing :: after))
      (before ++ opening :: (inner' ++ closing :: after)) :=
    aligned_regroup before hopening hclosing hdeep hdeep'
  simp only [Facts.ofLexemes, Target.ofStatement, hhead, hhead', hlimit, hlimit',
    hbegins.location_eq rfl]
  refine ⟨?_, eq_of_rel haligned.format?, eq_of_rel haligned.outfile?, ?_, ?_⟩
  · exact congrArg (Target.mk · _) (eq_of_rel haligned.cluster?)
  · exact keywordPositions_regroup hopening hclosing hhead hverb hdeep hdeep' hbegins.insertion_eq
  · exact fun halter => hbegins.kind fun _ => halter

/-- The lexemes of `SELECT f(...) FROM t` with the given ones inside the group. -/
def callFrom (inner : List Lexeme) : List Lexeme :=
  [⟨.word, "SELECT", 0, 6, 0⟩, ⟨.word, "f", 7, 8, 0⟩] ++ ⟨.symbol, "(", 8, 9, 0⟩ ::
    (inner ++ ⟨.symbol, ")", 15, 16, 0⟩ ::
      [⟨.word, "FROM", 17, 21, 0⟩, ⟨.word, "t", 22, 23, 0⟩])

/-- A table named inside a group is not taken for the table of the statement. -/
theorem target_callFrom :
    (Facts.ofLexemes "SELECT f(FROM u) FROM t"
      (callFrom [⟨.word, "FROM", 9, 13, 1⟩, ⟨.word, "u", 14, 15, 1⟩])).target =
        ⟨none, ⟨none, some "t"⟩⟩ := by
  have hhead : leadingWord? (callFrom []) = some 0 := by decide
  have hsame : (Facts.ofLexemes "SELECT f(FROM u) FROM t"
      (callFrom [⟨.word, "FROM", 9, 13, 1⟩, ⟨.word, "u", 14, 15, 1⟩])).target =
        (Facts.ofLexemes "SELECT f()      FROM t" (callFrom [])).target :=
    (ofLexemes_regroup _ _ (by decide) (by decide) hhead rfl (by decide) (by decide) (by decide)).1
  exact hsame.trans (by decide)

end Facts

end SqlFacts
