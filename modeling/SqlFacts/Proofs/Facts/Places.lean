import SqlFacts.Proofs.Facts.Positions
import SqlFacts.Proofs.Lexeme.Statements
import SqlFacts.Proofs.Lexeme.WordText

/-!
# Places of keywords in a text

The map of a descriptor leads from keywords to offsets in the text. The main statement says that a
caller may rely on it: every offset is that of a word of the statement which reads as the keyword
and is used as one, the offsets ascend, and the text between the start and the end position of a
keyword is the keyword, in whatever case it is asked for.
-/

namespace SqlFacts

open Lexeme

/-! ### Uses of keywords -/

/-- A word of a statement is used as a keyword, between the lexemes in front of it and those behind
it. `TOTALS` follows `WITH`, `EXISTS` does not begin a call, `TABLE` and `DATABASE` are the object
word, and `VALUES` belongs to an insertion with no `SELECT` in front of it. -/
structure Keyword.Stands (facts : Facts) (keyword : Keyword) (before : List Lexeme) (word : Lexeme)
    (after : List Lexeme) : Prop where
  kind : word.kind = .word
  capitals : word.capitals = keyword.name
  depth : word.depth ≤ facts.depth
  totals : keyword = .totals → ∃ front last, before = front ++ [last] ∧ last.isWord ["WITH"] = true
  «exists» : keyword = .exists → startsWith (isSymbol "(") after = false
  object : keyword = .table ∨ keyword = .database → facts.objectWord = some before.length
  values : keyword = .values →
    facts.kind = .insert ∧ ∀ lx ∈ before, lx.isWordWithin ["SELECT"] facts.depth = false

/-- The data of an insertion may follow some lexemes only if no `SELECT` is among them. -/
theorem mayHoldData_iff {limit : Int} {insertion : Bool} {lexemes : List Lexeme} :
    mayHoldData limit insertion lexemes = true ↔
      insertion = true ∧ ∀ lx ∈ lexemes, lx.isWordWithin ["SELECT"] limit = false := by
  have hselect (lx : Lexeme) : keywordWithin? limit lx = some .select ↔
      lx.isWordWithin ["SELECT"] limit = true := keywordWithin?_eq_some_iff
  simp [mayHoldData, hselect]

/-- A keyword stands where it is used. -/
theorem Keyword.stands_of_usedIn {sql : String} {statement before after : List Lexeme}
    {word : Lexeme} {keyword : Keyword}
    (h : keyword.usedIn statement before word after = true) :
    keyword.Stands (Facts.ofLexemes sql statement) before word after := by
  simp only [Keyword.usedIn, Keyword.usedAt, Bool.and_eq_true, beq_iff_eq] at h
  obtain ⟨⟨hread, -⟩, hused⟩ := h
  have hword := keywordWithin?_eq_some_iff.mp hread
  simp only [isWordWithin, isWord, Bool.and_eq_true, decide_eq_true_eq, beq_iff_eq,
    List.contains_cons, List.contains_nil, Bool.or_false] at hword
  refine ⟨hword.2.1, hword.2.2, hword.1, ?_, ?_, ?_, ?_⟩
  · rintro rfl
    cases hlast : before.getLast? with
    | none =>
      rw [hlast] at hused
      cases hused
    | some last =>
      rw [hlast] at hused
      obtain ⟨front, rfl⟩ := List.getLast?_eq_some_iff.mp hlast
      exact ⟨front, last, rfl, hused⟩
  · rintro rfl
    exact Bool.not_eq_true' _ ▸ hused
  · rintro (rfl | rfl)
    · exact beq_iff_eq.mp hused
    · exact beq_iff_eq.mp hused
  · rintro rfl
    obtain ⟨hinsert, hselect⟩ := mayHoldData_iff.mp hused
    exact ⟨beq_iff_eq.mp hinsert, fun lx hlx => hselect lx (List.mem_append_left _ hlx)⟩

/-! ### Order of places -/

/-- A scan records offsets of lexemes, in their order. -/
theorem map_snd_positionsFrom_sublist {limit : Int} {objectWord : Option Nat} (state : ScanState)
    (lexemes : List Lexeme) :
    ((positionsFrom limit objectWord state lexemes).map Prod.snd).Sublist
      (lexemes.map Lexeme.start) := by
  induction lexemes generalizing state with
  | nil => exact List.Sublist.refl _
  | cons lx rest ih =>
    rw [positionsFrom_cons rfl, List.map_append, List.map_cons]
    cases state.recorded? limit objectWord lx rest.head? with
    | none => exact (ih _).cons _
    | some keyword => exact (ih _).cons_cons _

/-! ### Places in a descriptor -/

section Statement

variable {sql : String} {statement : List Lexeme}

/-- A descriptor holds the places of a statement, in their order. -/
theorem entries_positions_ofLexemes (sql : String) (statement : List Lexeme) :
    (Descriptor.ofFacts sql (Facts.ofLexemes sql statement)).positions.entries =
      (Facts.ofLexemes sql statement).positions.map fun entry => (entry.1.name, (entry.2 : Int)) :=
  entries_positions_ofFacts sql (nodup_keys_keywordPositions _ _ _)

/-- Where the lexemes of a statement ascend, so do the places of its keywords. -/
theorem pairwise_positions_ofLexemes (hascending : statement.Pairwise (·.start < ·.start)) :
    ((Descriptor.ofFacts sql (Facts.ofLexemes sql statement)).positions.entries.map
      Prod.snd).Pairwise (· < ·) := by
  have hstarts : (statement.map Lexeme.start).Pairwise (· < ·) := List.pairwise_map.mpr hascending
  have hplaces : ((Facts.ofLexemes sql statement).positions.map Prod.snd).Pairwise (· < ·) :=
    hstarts.sublist (map_snd_positionsFrom_sublist _ statement)
  rw [entries_positions_ofLexemes, List.map_map, List.pairwise_map]
  exact (List.pairwise_map.mp hplaces).imp Int.ofNat_lt.mpr

/-- Each entry of the map of a descriptor is that of a keyword where it stands in the statement. -/
theorem exists_stands_of_mem_positions {entry : String × Int}
    (h : entry ∈ (Descriptor.ofFacts sql (Facts.ofLexemes sql statement)).positions.entries) :
    ∃ (keyword : Keyword) (before : List Lexeme) (word : Lexeme) (after : List Lexeme),
      entry = (keyword.name, (word.start : Int)) ∧ statement = before ++ word :: after ∧
        keyword.Stands (Facts.ofLexemes sql statement) before word after := by
  have hentry := h
  rw [entries_positions_ofLexemes] at hentry
  obtain ⟨⟨keyword, place⟩, -, rfl⟩ := List.mem_map.mp hentry
  have hplace := OrderedMap.get?_eq_some_iff.mpr h
  rw [get?_positions_ofLexemes] at hplace
  obtain ⟨word, hfirst, hstart⟩ := Option.map_eq_some_iff.mp hplace
  obtain ⟨before, after, hsplit, hused, -⟩ := firstUse?_eq_some_iff.mp hfirst
  have hstands : keyword.usedIn statement before word after = true := hused
  exact ⟨keyword, before, word, after, by rw [← hstart]; rfl, hsplit,
    Keyword.stands_of_usedIn hstands⟩

end Statement

/-! ### Spellings -/

/-- A text spells a keyword if it is its letters, each small or a capital. -/
def Keyword.IsSpelledBy (keyword : Keyword) (spelling : String) : Prop :=
  spelling.toList.map Char.toUpper = keyword.name.toList

/-- Whether a text spells a keyword can be computed. -/
instance (keyword : Keyword) (spelling : String) : Decidable (keyword.IsSpelledBy spelling) :=
  inferInstanceAs (Decidable (_ = _))

namespace Keyword

/-- Keywords consist of ASCII letters. -/
theorem toNat_lt_of_mem_name (keyword : Keyword) : ∀ c ∈ keyword.name.toList, c.toNat < 128 := by
  have hall : keyword.name.toList.all (·.toNat < 128) = true := by cases keyword <;> rfl
  simpa using hall

/-- No keyword is empty. -/
theorem length_name_pos (keyword : Keyword) : 0 < keyword.name.length := by
  cases keyword <;> decide

variable {keyword : Keyword} {spelling : String}

/-- The capitals of a spelling are the keyword. -/
theorem IsSpelledBy.upper (h : keyword.IsSpelledBy spelling) :
    Text.upper spelling = keyword.name := by
  have hascii : ∀ c ∈ spelling.toList, c.toNat < 128 := by
    intro c hc
    apply Text.toNat_lt_of_toUpper
    apply toNat_lt_of_mem_name keyword
    rw [← h]
    exact List.mem_map_of_mem hc
  rw [Text.upper, Text.upperChars_eq_map hascii, h, String.ofList_toList]

/-- A spelling has as many letters as the keyword. -/
theorem IsSpelledBy.length (h : keyword.IsSpelledBy spelling) :
    spelling.length = keyword.name.length := by
  have hlength := congrArg List.length h
  rwa [List.length_map, String.length_toList, String.length_toList] at hlength

/-- A keyword is asked for by any of its spellings. -/
theorem IsSpelledBy.position? (h : keyword.IsSpelledBy spelling) (d : Descriptor) :
    d.position? (some spelling) = d.positions.get? keyword.name := by
  have hfull : spelling.isEmpty = false := by
    rw [Bool.eq_false_iff, Ne, String.isEmpty_iff]
    rintro rfl
    exact absurd h.length.symm (Nat.ne_of_gt (length_name_pos keyword))
  rw [Descriptor.position?, Option.bind_some, hfull, h.upper]
  rfl

/-- A spelling has the start position of its keyword, and the end position lies behind as many
letters. -/
theorem IsSpelledBy.startPosition_endPosition (h : keyword.IsSpelledBy spelling) {d : Descriptor}
    {place : Nat} (hplace : d.positions.get? keyword.name = some (place : Int)) :
    d.startPosition (some spelling) = place ∧
      d.endPosition (some spelling) = place + spelling.length := by
  have hstart : d.startPosition (some spelling) = place := by
    rw [Descriptor.startPosition, h.position?, hplace]
    rfl
  refine ⟨hstart, ?_⟩
  rw [Descriptor.endPosition, hstart]
  exact if_neg (by omega)

/-- A word of a text that reads as a keyword ends behind as many letters as the keyword has. -/
theorem stop_of_capitals {sql : String} {lexemes : List Lexeme} (hlex : lex sql = .ok lexemes)
    {word : Lexeme} (hmem : word ∈ lexemes) (hkind : word.kind = .word)
    (hcapitals : word.capitals = keyword.name) :
    word.stop = word.start + keyword.name.length ∧ word.stop ≤ sql.length ∧
      Text.upper (Text.sliceText sql.toList word.start word.stop) = keyword.name := by
  obtain ⟨htext, hpart⟩ := readsFrom_of_lex hlex hmem hkind
  obtain ⟨-, hproper, hstop⟩ := (lex_ascending hlex).bounds (List.mem_map_of_mem hmem)
  simp only [span] at hproper hstop htext
  have hlength : keyword.name.length = word.stop - word.start := by
    rw [← hcapitals, capitals, Text.length_upper fun c hc => toNat_lt_of_isWordPart (hpart c hc),
      htext, Text.sliceText, ← String.length_toList, String.toList_ofList, Text.length_slice hstop]
  refine ⟨by omega, by rwa [← String.length_toList], ?_⟩
  rw [← htext]
  exact hcapitals

end Keyword

/-- The places of keywords in the descriptor of a text are sound. Their names are distinct and their
offsets ascend. Each entry is that of a tracked keyword where it stands in the statement, and every
spelling of the keyword has the start position of its word and the end position behind the last
letter, inside the text; what lies between is the keyword. -/
theorem positions_sound {sql : String} {lexemes : List Lexeme} (hlex : lex sql = .ok lexemes) :
    let statement := (statements lexemes).headD []
    let d := (describeStatement sql).result
    (d.positions.entries.map Prod.fst).Nodup ∧
      (d.positions.entries.map Prod.snd).Pairwise (· < ·) ∧
      ∀ entry ∈ d.positions.entries,
        ∃ (keyword : Keyword) (before : List Lexeme) (word : Lexeme) (after : List Lexeme),
        entry = (keyword.name, (word.start : Int)) ∧ statement = before ++ word :: after ∧
        keyword.Stands (Facts.ofLexemes sql statement) before word after ∧
        ∀ spelling, keyword.IsSpelledBy spelling →
          d.startPosition (some spelling) = word.start ∧
          d.endPosition (some spelling) = word.start + spelling.length ∧
          word.start + spelling.length ≤ sql.length ∧
          Text.upper (Text.sliceText sql.toList word.start (word.start + spelling.length)) =
            keyword.name := by
  intro statement d
  have hd : d = .ofFacts sql (Facts.ofLexemes sql statement) := by
    simp only [d, describeStatement_of_lex_ok hlex]
    rfl
  have hsublist : statement.Sublist lexemes := headD_statements_sublist lexemes
  refine ⟨d.positions.nodup_keys, ?_, ?_⟩
  · rw [hd]
    exact pairwise_positions_ofLexemes (pairwise_start_headD_statements hlex)
  · intro entry hentry
    obtain ⟨keyword, before, word, after, rfl, hsplit, hstands⟩ :=
      exists_stands_of_mem_positions (hd ▸ hentry)
    refine ⟨keyword, before, word, after, rfl, hsplit, hstands, ?_⟩
    intro spelling hspelling
    have hword : word ∈ lexemes := hsublist.subset (hsplit ▸ List.mem_append_cons_self)
    obtain ⟨hstop, hinside, hreads⟩ :=
      Keyword.stop_of_capitals hlex hword hstands.kind hstands.capitals
    obtain ⟨hstart, hend⟩ :=
      hspelling.startPosition_endPosition (OrderedMap.get?_eq_some_iff.mpr hentry)
    rw [← hspelling.length] at hstop
    rw [hstop] at hinside hreads
    exact ⟨hstart, hend, hinside, hreads⟩

/-- The lexemes of a query for totals, in small letters. -/
def totalsQuery : List Lexeme :=
  [⟨.word, "select", 0, 6, 0⟩, ⟨.word, "a", 7, 8, 0⟩, ⟨.word, "from", 9, 13, 0⟩,
    ⟨.word, "t", 14, 15, 0⟩, ⟨.word, "group", 16, 21, 0⟩, ⟨.word, "by", 22, 24, 0⟩,
    ⟨.word, "a", 25, 26, 0⟩, ⟨.word, "with", 27, 31, 0⟩, ⟨.word, "totals", 32, 38, 0⟩]

/-- The totals of a query have their place behind `with`, in whatever case they are asked for. -/
theorem positions_sound_totalsQuery :
    let sql := "select a from t group by a with totals"
    let d := (describeStatement sql).result
    lex sql = .ok totalsQuery ∧ ("TOTALS", 32) ∈ d.positions.entries ∧
      d.startPosition (some "Totals") = 32 ∧ d.endPosition (some "Totals") = 38 ∧
      ∃ (front : List Lexeme) (last word : Lexeme) (after : List Lexeme),
        totalsQuery = (front ++ [last]) ++ word :: after ∧ word.start = 32 ∧
          last.isWord ["WITH"] = true := by
  intro sql d
  have hlex : lex sql = .ok totalsQuery := Token.eq_ok_of_toOption (by decide +kernel)
  have hentry : ("TOTALS", 32) ∈ d.positions.entries := by
    simp only [d, describeStatement_of_lex_ok hlex]
    decide +kernel
  obtain ⟨-, -, hplaces⟩ := positions_sound hlex
  obtain ⟨keyword, before, word, after, hentry_eq, hsplit, hstands, hspelled⟩ := hplaces _ hentry
  obtain ⟨hname, hstart⟩ := Prod.mk.inj hentry_eq
  obtain rfl : Keyword.totals = keyword := Keyword.name_inj hname
  obtain ⟨hfrom, hto, -, -⟩ := hspelled "Totals" (by decide)
  obtain ⟨front, last, rfl, hwith⟩ := hstands.totals rfl
  have hstatement : (statements totalsQuery).headD [] = totalsQuery := by decide +kernel
  rw [hstatement] at hsplit
  refine ⟨hlex, hentry, hfrom.trans hstart.symm, ?_, front, last, word, after, hsplit, ?_, hwith⟩
  · rw [hto, ← hstart]
    decide
  · omega

end SqlFacts
