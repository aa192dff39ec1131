import SqlFacts.Proofs.Facts.CalledName
import SqlFacts.Proofs.Facts.Places

/-!
# Batch insertions

`INSERT INTO [TABLE] name [(columns)] [SETTINGS list] VALUES` begins a batch of rows. The word
`VALUES` counts only in the data part of an insertion and only where no neighbour shows a column,
and words that read as `VALUES` or `SELECT` may stand in front of it, as parts of the name, as
columns or among the settings. The main statement says that the batch is recognised all the same:
the table is the one with the name of the header, and the place of `VALUES` is that of the word that
ends it.
-/

namespace SqlFacts

open Lexeme

/-! ### Headers -/

/-- A list of columns in parentheses, deeper than the limit. The list may be missing. -/
inductive ColumnList (limit : Int) : List Lexeme → Prop where
  | missing : ColumnList limit []
  | group {opening closing : Lexeme} {columns : List Lexeme} : opening.isSymbol "(" = true →
      (∀ lx ∈ columns, limit < lx.depth) → closing.isSymbol ")" = true →
        ColumnList limit (opening :: (columns ++ [closing]))

/-- A clause `SETTINGS list` that holds no `SELECT` or `VALUES` within the limit and does not end in
a point. The clause may be missing. -/
inductive SettingsList (limit : Int) : List Lexeme → Prop where
  | missing : SettingsList limit []
  | clause {word : Lexeme} {list : List Lexeme} : word.isWord ["SETTINGS"] = true →
      (∀ lx ∈ list, lx.isWordWithin ["SELECT", "VALUES"] limit = false) →
      list.getLast?.any (isSymbol ".") = false → SettingsList limit (word :: list)

/-- The header of a batch insertion. The parts of the name are `qualifiers` and `last`: the first is
no word that stands in front of names, none is the bare word `SELECT`, and a name of one part is not
the bare word `VALUES`. -/
structure InsertionHeader where
  verb : Lexeme
  into : Lexeme
  tables : List Lexeme
  qualifiers : List String
  last : String
  name : List Lexeme
  columns : List Lexeme
  settings : List Lexeme
  isWord_verb : verb.isWord ["INSERT"] = true
  isWordWithin_into : into.isWordWithin ["INTO"] verb.depth = true
  isWord_tables : ∀ lx ∈ tables, lx.isWord ["TABLE"] = true
  spells_name : Spells (qualifiers ++ [last]) name
  startsWith_name : startsWith (isWord ["TABLE", "FUNCTION"]) name = false
  isWord_name : ∀ lx ∈ name, lx.isWord ["SELECT"] = false
  isWord_lone : ∀ lx, name = [lx] → lx.isWord ["VALUES"] = false
  isList_columns : ColumnList verb.depth columns
  isList_settings : SettingsList verb.depth settings

namespace InsertionHeader

/-- The lexemes of a header behind its verb and `INTO`, with the given ones behind them. -/
def behindInto (header : InsertionHeader) (behind : List Lexeme) : List Lexeme :=
  header.tables ++ (header.name ++ (header.columns ++ (header.settings ++ behind)))

end InsertionHeader

/-! ### Names in front of data -/

section Name

variable {parts : List String} {name mid back : List Lexeme} {lx : Lexeme}

/-- A name ends in an identifier. -/
theorem Lexeme.Spells.exists_getLast? (h : Spells parts name) :
    ∃ part, name.getLast? = some part ∧ part.isIdentifier = true := by
  induction h with
  | @single part hpart => exact ⟨part, rfl, hpart⟩
  | dotted _ _ _ ih =>
    obtain ⟨part, hlast, hpart⟩ := ih
    exact ⟨part, by simp [List.getLast?_cons, hlast], hpart⟩

/-- In a name of several parts a point stands in front of each part or behind it, so that each looks
like the name of a column. -/
theorem Lexeme.Spells.isColumnName (h : Spells parts name) (hsplit : name = mid ++ lx :: back)
    (hpart : lx.isIdentifier = true) (hmany : name ≠ [lx]) (front rest : List Lexeme) :
    isColumnName (front ++ mid).getLast? (back ++ rest).head? = true := by
  induction h generalizing mid front with
  | single =>
    rcases mid with _ | ⟨first, mid⟩
    · cases hsplit
      exact absurd rfl hmany
    · simp at hsplit
  | @dotted part dot parts name _ hdot _ ih =>
    rcases mid with _ | ⟨first, _ | ⟨second, mid⟩⟩
    · cases hsplit
      rw [isColumnName_eq, showsColumn, startsWith]
      simp [hdot]
    · cases hsplit
      rw [isIdentifier_of_isSymbol hdot] at hpart
      cases hpart
    · cases hsplit
      by_cases hlone : mid ++ lx :: back = [lx]
      · have hmid : mid = [] := by
          cases mid with
          | nil => rfl
          | cons _ mid => simp at hlone
        simp [hmid, isColumnName, hdot]
      · have hinner := ih rfl hlone (front ++ [part, dot])
        rwa [List.append_assoc] at hinner

end Name

/-! ### Lexemes in front of data -/

/-- Lexemes between the name of a table and the data of an insertion: none is `SELECT` or `VALUES`
within the limit, and they neither begin nor end with a point. -/
structure LeadsToData (limit : Int) (lexemes : List Lexeme) : Prop where
  isWordWithin : ∀ lx ∈ lexemes, lx.isWordWithin ["SELECT", "VALUES"] limit = false
  startsWith : startsWith (isSymbol ".") lexemes = false
  getLast? : lexemes.getLast?.any (isSymbol ".") = false

section Lead

variable {limit : Int} {front back lexemes : List Lexeme}

/-- Two lists end as the second one does, or as the first one if that is empty. -/
theorem getLast?_append_any {test : Lexeme → Bool} (hfront : front.getLast?.any test = false)
    (hback : back.getLast?.any test = false) : (front ++ back).getLast?.any test = false := by
  rw [List.getLast?_append]
  cases hlast : back.getLast? with
  | none => exact hfront
  | some last =>
    rw [hlast] at hback
    exact hback

theorem LeadsToData.nil : LeadsToData limit [] := ⟨List.forall_mem_nil _, rfl, rfl⟩

theorem LeadsToData.append (hfront : LeadsToData limit front) (hback : LeadsToData limit back) :
    LeadsToData limit (front ++ back) where
  isWordWithin := List.forall_mem_append.mpr ⟨hfront.isWordWithin, hback.isWordWithin⟩
  startsWith := by
    cases front with
    | nil => exact hback.startsWith
    | cons lx front => exact hfront.startsWith
  getLast? := getLast?_append_any hfront.getLast? hback.getLast?

/-- A list of columns leads to data. -/
theorem ColumnList.leadsToData (h : ColumnList limit lexemes) : LeadsToData limit lexemes := by
  cases h with
  | missing => exact .nil
  | @group opening closing columns hopening hcolumns hclosing =>
    refine ⟨?_, ?_, ?_⟩
    · intro lx hlx
      rw [List.mem_cons, List.mem_append, List.mem_singleton] at hlx
      rcases hlx with rfl | hlx | rfl
      · exact isWordWithin_of_isSymbol hopening _ _
      · exact Quiet.isWordWithin (.inr (hcolumns lx hlx)) _
      · exact isWordWithin_of_isSymbol hclosing _ _
    · exact isSymbol_of_isSymbol hopening "."
    · rw [List.getLast?_cons, List.getLast?_concat]
      exact isSymbol_of_isSymbol hclosing "."

/-- A list of settings leads to data. -/
theorem SettingsList.leadsToData (h : SettingsList limit lexemes) : LeadsToData limit lexemes := by
  cases h with
  | missing => exact .nil
  | @clause word list hword hlist hlast =>
    have hpoint : word.isSymbol "." = false := isSymbol_of_isWord hword "."
    have hother : word.isWordWithin ["SELECT", "VALUES"] limit = false :=
      isWordWithin_eq_false (isWord_of_disjoint hword (by decide)) limit
    have hsingle : [word].getLast?.any (isSymbol ".") = false := hpoint
    exact ⟨List.forall_mem_cons.mpr ⟨hother, hlist⟩, hpoint, getLast?_append_any hsingle hlast⟩

/-- Nothing that leads to data continues a name, nor does the word in front of the data. -/
theorem LeadsToData.continuesName_append (h : LeadsToData limit lexemes) {values : Lexeme}
    (hvalues : values.isWordWithin ["VALUES"] limit = true) {rest : List Lexeme} :
    continuesName (lexemes ++ values :: rest) = false := by
  apply continuesName_of_startsWith
  cases lexemes with
  | nil => exact isSymbol_of_isWord (isWord_of_isWordWithin hvalues) "."
  | cons lx lexemes => exact h.startsWith

end Lead

/-! ### Batch insertions -/

namespace InsertionHeader

variable {header : InsertionHeader} {opening rest : List Lexeme} {values : Lexeme}

/-- The columns and the settings of a header lead to data. -/
theorem leadsToData (header : InsertionHeader) :
    LeadsToData header.verb.depth (header.columns ++ header.settings) :=
  header.isList_columns.leadsToData.append header.isList_settings.leadsToData

/-- In front of the name of a header there is neither `SELECT` nor `VALUES`. -/
theorem isWordWithin_front (header : InsertionHeader) (limit : Int)
    (hopening : ∀ lx ∈ opening, lx.isSymbol "(" = true) :
    ∀ lx ∈ opening ++ header.verb :: header.into :: header.tables,
      lx.isWordWithin ["SELECT", "VALUES"] limit = false := by
  intro lx hlx
  apply isWordWithin_eq_false
  rw [List.mem_append, List.mem_cons, List.mem_cons] at hlx
  rcases hlx with hlx | rfl | rfl | hlx
  · exact isWord_of_isSymbol (hopening lx hlx) _
  · exact isWord_of_disjoint header.isWord_verb (by decide)
  · exact isWord_of_disjoint (isWord_of_isWordWithin header.isWordWithin_into) (by decide)
  · exact isWord_of_disjoint (header.isWord_tables lx hlx) (by decide)

/-- No part of the name of a header is used as the keyword `VALUES`. -/
theorem usedAt_name (header : InsertionHeader) (objectWord : Option Nat) (insertion : Bool)
    {mid back : List Lexeme} {lx : Lexeme} (hsplit : header.name = mid ++ lx :: back)
    (front behind : List Lexeme) :
    Keyword.values.usedAt header.verb.depth objectWord insertion (front ++ mid) lx
      (back ++ behind) = false := by
  rw [← Bool.not_eq_true]
  intro hused
  simp only [Keyword.usedAt, Bool.and_eq_true, beq_iff_eq, Bool.not_eq_true'] at hused
  obtain ⟨⟨hread, hcolumn⟩, -⟩ := hused
  rw [keywordWithin?_eq_some_iff] at hread
  have hword : lx.isWord ["VALUES"] = true := isWord_of_isWordWithin hread
  have hmany : header.name ≠ [lx] := by
    intro hlone
    rw [header.isWord_lone lx hlone] at hword
    cases hword
  rw [header.spells_name.isColumnName hsplit (isIdentifier_of_isWord hword) hmany front
    behind] at hcolumn
  cases hcolumn

/-- Up to the word `VALUES` behind a header there is no `SELECT`, so that data may stand there. -/
theorem mayHoldData_append (header : InsertionHeader) {front : List Lexeme}
    (hfront : ∀ lx ∈ front, lx.isWordWithin ["SELECT", "VALUES"] header.verb.depth = false)
    (hvalues : values.isWordWithin ["VALUES"] header.verb.depth = true) :
    mayHoldData header.verb.depth true
      (front ++ header.name ++ (header.columns ++ header.settings) ++ [values]) = true := by
  rw [mayHoldData_iff]
  refine ⟨rfl, ?_⟩
  intro lx hlx
  rw [List.mem_append, List.mem_append, List.mem_append, List.mem_singleton] at hlx
  rcases hlx with ((hlx | hlx) | hlx) | rfl
  · exact isWordWithin_of_subset (hfront lx hlx) (by decide)
  · exact isWordWithin_eq_false (header.isWord_name lx hlx) _
  · exact isWordWithin_of_subset (header.leadsToData.isWordWithin lx hlx) (by decide)
  · exact isWordWithin_eq_false
      (isWord_of_disjoint (isWord_of_isWordWithin hvalues) (by decide)) _

/-- Behind a header the word `VALUES` is used as the keyword, if nothing or a parenthesis follows
it. -/
theorem usedAt_values (header : InsertionHeader) (objectWord : Option Nat) {front : List Lexeme}
    (hfront : ∀ lx ∈ front, lx.isWordWithin ["SELECT", "VALUES"] header.verb.depth = false)
    (hvalues : values.isWordWithin ["VALUES"] header.verb.depth = true)
    (hrest : ∀ lx ∈ rest.head?, lx.isSymbol "(" = true) :
    Keyword.values.usedAt header.verb.depth objectWord true
      (front ++ header.name ++ (header.columns ++ header.settings)) values rest = true := by
  have hread : keywordWithin? header.verb.depth values = some .values :=
    keywordWithin?_eq_some_iff.mpr hvalues
  have hname : (front ++ header.name).getLast?.any (isSymbol ".") = false := by
    obtain ⟨part, hlast, hpart⟩ := header.spells_name.exists_getLast?
    rw [List.getLast?_append, hlast]
    exact isSymbol_of_isIdentifier hpart "."
  have hprevious := getLast?_append_any hname header.leadsToData.getLast?
  have hnext : showsColumn rest = false := by
    cases rest with
    | nil => rfl
    | cons paren rest => exact showsColumn_of_paren (hrest paren rfl) rest
  rw [Keyword.usedAt, isColumnName_eq, hread, hprevious, hnext, Keyword.isUsed,
    header.mayHoldData_append hfront hvalues]
  rfl

/-- The first use of `VALUES` in a batch insertion is the word behind the header. -/
theorem firstUse?_eq (header : InsertionHeader) (objectWord : Option Nat) {front : List Lexeme}
    (hfront : ∀ lx ∈ front, lx.isWordWithin ["SELECT", "VALUES"] header.verb.depth = false)
    (hvalues : values.isWordWithin ["VALUES"] header.verb.depth = true)
    (hrest : ∀ lx ∈ rest.head?, lx.isSymbol "(" = true) :
    Keyword.values.firstUse? header.verb.depth objectWord true []
        (front ++ (header.name ++ ((header.columns ++ header.settings) ++ values :: rest))) =
      some values := by
  have habsent {lexemes : List Lexeme}
      (h : ∀ lx ∈ lexemes, lx.isWordWithin ["SELECT", "VALUES"] header.verb.depth = false) :
      ∀ lx ∈ lexemes, lx.isWordWithin [Keyword.values.name] header.verb.depth = false :=
    fun lx hlx => isWordWithin_of_subset (h lx hlx) (by decide)
  rw [firstUse?_append_of_absent (habsent hfront),
    firstUse?_append_of_unused fun _ _ _ hsplit => header.usedAt_name _ _ hsplit _ _,
    firstUse?_append_of_absent (habsent header.leadsToData.isWordWithin), Keyword.firstUse?]
  exact if_pos (header.usedAt_values objectWord hfront hvalues hrest)

/-- The object of an insertion is the table with the name of its header. -/
theorem insertLocation_eq (header : InsertionHeader)
    (hvalues : values.isWordWithin ["VALUES"] header.verb.depth = true) :
    insertLocation header.verb.depth
        (header.verb :: header.into :: header.behindInto (values :: rest)) =
      ⟨header.qualifiers.getLast?, some header.last⟩ := by
  have hverb : header.verb.isWordWithin ["INTO"] header.verb.depth = false :=
    isWordWithin_eq_false (isWord_of_disjoint header.isWord_verb (by decide)) _
  have hname {words : List String} (hwords : words ⊆ ["TABLE", "FUNCTION"])
      (behind : List Lexeme) : startsWith (isWord words) (header.name ++ behind) = false :=
    header.spells_name.startsWith_isWord_append header.startsWith_name hwords behind
  have hmaximal :
      continuesName (header.columns ++ (header.settings ++ values :: rest)) = false := by
    rw [← List.append_assoc]
    exact header.leadsToData.continuesName_append hvalues
  have hparts : Location.ofName
      (some ⟨header.qualifiers ++ [header.last],
        header.columns ++ (header.settings ++ values :: rest)⟩) =
      ⟨header.qualifiers.getLast?, some header.last⟩ :=
    Location.ofParts_concat header.qualifiers header.last
  rw [insertLocation, afterWord?_cons_of_neg hverb,
    afterWord?_cons_of_pos header.isWordWithin_into]
  simp only [behindInto, skipWords_append header.isWord_tables (hname (by decide) _),
    hname (by decide : ["FUNCTION"] ⊆ _), header.spells_name.dottedName?_append hmaximal,
    Bool.false_eq_true, if_false]
  exact hparts

/-- A statement with a header is an insertion. -/
theorem kind_ofLexemes (header : InsertionHeader) (sql : String)
    (hopening : ∀ lx ∈ opening, lx.isSymbol "(" = true) (behind : List Lexeme) :
    (Facts.ofLexemes sql (opening ++ header.verb :: behind)).kind = .insert := by
  obtain ⟨hkind, -⟩ :=
    ofLexemes_of_opening hopening (kind_of_isWord header.isWord_verb) sql behind
  rw [hkind, Kind.ofBeginning, capitals_of_isWord header.isWord_verb]
  rfl

/-- The place of `VALUES` in a batch insertion is that of the word behind the header. -/
theorem get?_positions_eq (header : InsertionHeader) (sql : String)
    (hopening : ∀ lx ∈ opening, lx.isSymbol "(" = true)
    (hvalues : values.isWordWithin ["VALUES"] header.verb.depth = true)
    (hrest : ∀ lx ∈ rest.head?, lx.isSymbol "(" = true) :
    let facts := Facts.ofLexemes sql
      (opening ++ header.verb :: header.into :: header.behindInto (values :: rest))
    (Descriptor.ofFacts sql facts).positions.get? Keyword.values.name =
      some (values.start : Int) := by
  intro facts
  have hsplit : opening ++ header.verb :: header.into :: header.behindInto (values :: rest) =
      (opening ++ header.verb :: header.into :: header.tables) ++
        (header.name ++ ((header.columns ++ header.settings) ++ values :: rest)) := by
    simp [behindInto]
  have hstatement : (Kind.ofStatement _ _ == Kind.insert) = true :=
    beq_iff_eq.mpr
      (header.kind_ofLexemes sql hopening (header.into :: header.behindInto (values :: rest)))
  rw [get?_positions_ofLexemes,
    bodyDepth_of_opening hopening (kind_of_isWord header.isWord_verb), hstatement, hsplit,
    header.firstUse?_eq _ (header.isWordWithin_front _ hopening) hvalues hrest]
  rfl

end InsertionHeader

/-- A batch insertion is recognised as one: its object is the table with the name of the header, it
has inline rows, and the place of `VALUES`, in whatever case it is asked for, is that of the word
behind the header. -/
theorem ofLexemes_batch (sql : String) (header : InsertionHeader) {opening rest : List Lexeme}
    {values : Lexeme} (hopening : ∀ lx ∈ opening, lx.isSymbol "(" = true)
    (hvalues : values.isWordWithin ["VALUES"] header.verb.depth = true)
    (hrest : ∀ lx ∈ rest.head?, lx.isSymbol "(" = true) :
    let facts := Facts.ofLexemes sql
      (opening ++ header.verb :: header.into :: header.behindInto (values :: rest))
    let d := Descriptor.ofFacts sql facts
    d.kind = .insert ∧
      facts.target.location = ⟨header.qualifiers.getLast?, some header.last⟩ ∧
      d.hasValues = true ∧
      ∀ spelling, Keyword.values.IsSpelledBy spelling →
        d.startPosition (some spelling) = values.start := by
  intro facts d
  have hkind : facts.kind = .insert := header.kind_ofLexemes sql hopening _
  have hplace : d.positions.get? Keyword.values.name = some (values.start : Int) :=
    header.get?_positions_eq sql hopening hvalues hrest
  refine ⟨hkind, ?_, ?_, ?_⟩
  · obtain ⟨-, hlocation⟩ :=
      ofLexemes_of_opening hopening (kind_of_isWord header.isWord_verb) sql
        (header.into :: header.behindInto (values :: rest))
    rw [hlocation, hkind]
    exact header.insertLocation_eq hvalues
  · rw [Descriptor.hasValues, Descriptor.hasKeyword, OrderedMap.contains, hplace]
    rfl
  · intro spelling hspelling
    exact (hspelling.startPosition_endPosition hplace).1

/-- The header of an insertion into a table called `values`, with a column of the same name. -/
def insertedValues : InsertionHeader where
  verb := ⟨.word, "INSERT", 0, 6, 0⟩
  into := ⟨.word, "INTO", 7, 11, 0⟩
  tables := [⟨.word, "TABLE", 12, 17, 0⟩]
  qualifiers := ["select"]
  last := "values"
  name := [⟨.name, "select", 18, 26, 0⟩, ⟨.symbol, ".", 26, 27, 0⟩, ⟨.word, "values", 27, 33, 0⟩]
  columns := [⟨.symbol, "(", 34, 35, 0⟩, ⟨.word, "values", 35, 41, 1⟩, ⟨.symbol, ",", 41, 42, 1⟩,
    ⟨.word, "b", 43, 44, 1⟩, ⟨.symbol, ")", 44, 45, 0⟩]
  settings := [⟨.word, "SETTINGS", 46, 54, 0⟩, ⟨.word, "async_insert", 55, 67, 0⟩,
    ⟨.symbol, "=", 68, 69, 0⟩, ⟨.number, "1", 70, 71, 0⟩]
  isWord_verb := by decide
  isWordWithin_into := by decide
  isWord_tables := by decide
  spells_name := @Spells.dotted ⟨.name, "select", 18, 26, 0⟩ ⟨.symbol, ".", 26, 27, 0⟩ _ _ rfl rfl
    (@Spells.single ⟨.word, "values", 27, 33, 0⟩ rfl)
  startsWith_name := by decide
  isWord_name := by decide
  isWord_lone := by simp
  isList_columns := @ColumnList.group 0 ⟨.symbol, "(", 34, 35, 0⟩ ⟨.symbol, ")", 44, 45, 0⟩
    [⟨.word, "values", 35, 41, 1⟩, ⟨.symbol, ",", 41, 42, 1⟩, ⟨.word, "b", 43, 44, 1⟩] rfl
    (by decide) rfl
  isList_settings := .clause (by decide) (by decide) rfl

/-- The rows of a batch are told from the table and the column called `values`. -/
theorem ofLexemes_insertedValues :
    let sql :=
      "INSERT INTO TABLE `select`.values (values, b) SETTINGS async_insert = 1 VALUES (1, 2)"
    let values : Lexeme := ⟨.word, "VALUES", 72, 78, 0⟩
    let rest : List Lexeme :=
      [⟨.symbol, "(", 79, 80, 0⟩, ⟨.number, "1", 80, 81, 1⟩, ⟨.symbol, ",", 81, 82, 1⟩,
        ⟨.number, "2", 83, 84, 1⟩, ⟨.symbol, ")", 84, 85, 0⟩]
    let statement := insertedValues.verb :: insertedValues.into ::
      insertedValues.behindInto (values :: rest)
    let facts := Facts.ofLexemes sql statement
    let d := Descriptor.ofFacts sql facts
    lex sql = .ok statement ∧
      values.isWordWithin ["VALUES"] insertedValues.verb.depth = true ∧
      (∀ lx ∈ rest.head?, lx.isSymbol "(" = true) ∧ d.kind = .insert ∧
      facts.target.location = ⟨some "select", some "values"⟩ ∧ d.hasValues = true ∧
      d.startPosition (some "values") = 72 := by
  intro sql values rest statement facts d
  have hlex : lex sql = .ok statement := Token.eq_ok_of_toOption (by decide +kernel)
  have hvalues : values.isWordWithin ["VALUES"] insertedValues.verb.depth = true := by decide
  have hrest : ∀ lx ∈ rest.head?, lx.isSymbol "(" = true := by decide
  obtain ⟨hkind, hlocation, hdata, hplace⟩ :=
    @ofLexemes_batch sql insertedValues [] rest values (List.forall_mem_nil _) hvalues hrest
  exact ⟨hlex, hvalues, hrest, hkind, hlocation, hdata, hplace "values" (by decide)⟩

end SqlFacts
