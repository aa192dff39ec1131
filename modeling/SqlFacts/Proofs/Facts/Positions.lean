import Mathlib.Data.List.Nodup
import SqlFacts.Description
import SqlFacts.Proofs.Aligned.Lists

/-!
# Recorded places of keywords

A keyword is recorded at the first lexeme of a statement where it is used. Whether it is used at a
lexeme depends on the lexeme, its neighbours, its index and what stands in front, but not on what
else was recorded. So the scan for all keywords is told by one search for each.
-/

namespace SqlFacts

open Lexeme

variable {limit : Int} {objectWord : Option Nat} {insertion : Bool} {keyword : Keyword}

/-- Tests whether what follows a word shows that the word is the name of a column. -/
def showsColumn (after : List Lexeme) : Bool :=
  startsWith (fun lx => lx.isWord ["AS", "FROM"] || lx.isSymbol "," || lx.isSymbol "=" ||
    lx.isSymbol ".") after

/-- A word is the name of a column if a point stands in front of it or what follows shows it. -/
theorem isColumnName_eq (previous : Option Lexeme) (after : List Lexeme) :
    isColumnName previous after.head? = (previous.any (isSymbol ".") || showsColumn after) := rfl

/-- A parenthesis shows no column. -/
theorem showsColumn_of_paren {paren : Lexeme} (h : paren.isSymbol "(" = true) (rest : List Lexeme) :
    showsColumn (paren :: rest) = false := by
  rw [showsColumn, startsWith_cons, isWord_of_isSymbol h,
    isSymbol_of_isSymbol h, isSymbol_of_isSymbol h, isSymbol_of_isSymbol h]
  rfl

/-- A lexeme reads as a keyword if it is the word, nested no deeper than the limit. -/
theorem keywordWithin?_eq_some_iff {lx : Lexeme} :
    keywordWithin? limit lx = some keyword ↔ lx.isWordWithin [keyword.name] limit = true := by
  simp only [keywordWithin?, isWordWithin, isWord, List.contains_cons, List.contains_nil,
    Bool.or_false, Bool.and_eq_true, beq_iff_eq, decide_eq_true_eq]
  constructor
  · intro h
    split at h
    · next hword => exact ⟨hword.2, hword.1, (Keyword.name_of_ofName? h).symm⟩
    · cases h
  · rintro ⟨hdepth, hkind, hname⟩
    rw [if_pos ⟨hkind, hdepth⟩, hname, Keyword.ofName?_name]

/-- Tests whether what follows some lexemes may be the data of an insertion. -/
def mayHoldData (limit : Int) (insertion : Bool) (lexemes : List Lexeme) : Bool :=
  insertion && lexemes.all (keywordWithin? limit · != some .select)

/-- Tests whether a keyword is used at a lexeme, between those in front of it and those behind. -/
def Keyword.usedAt (limit : Int) (objectWord : Option Nat) (insertion : Bool) (keyword : Keyword)
    (before : List Lexeme) (lx : Lexeme) (after : List Lexeme) : Bool :=
  keywordWithin? limit lx == some keyword && !isColumnName before.getLast? after.head? &&
    keyword.isUsed (objectWord == some before.length) (mayHoldData limit insertion (before ++ [lx]))
      before.getLast? after.head?

/-- A keyword that counts in every place is used wherever it is no name of a column. -/
theorem usedAt_iff_of_isUsed {before after : List Lexeme} {lx : Lexeme}
    (heverywhere : ∀ isObjectWord inData previous next,
      keyword.isUsed isObjectWord inData previous next = true) :
    keyword.usedAt limit objectWord insertion before lx after = true ↔
      lx.isWordWithin [keyword.name] limit = true ∧
        isColumnName before.getLast? after.head? = false := by
  rw [Keyword.usedAt, heverywhere, Bool.and_true, Bool.and_eq_true, beq_iff_eq,
    keywordWithin?_eq_some_iff, Bool.not_eq_true']

/-- The first lexeme of a list at which a keyword is used, behind those in front of the list. -/
def Keyword.firstUse? (limit : Int) (objectWord : Option Nat) (insertion : Bool)
    (keyword : Keyword) : (before lexemes : List Lexeme) → Option Lexeme
  | _, [] => none
  | before, lx :: rest =>
    if keyword.usedAt limit objectWord insertion before lx rest then some lx
    else firstUse? limit objectWord insertion keyword (before ++ [lx]) rest

/-- A first use is a use, and there is none in front of it. -/
theorem firstUse?_eq_some_iff {before lexemes : List Lexeme} {lx : Lexeme} :
    keyword.firstUse? limit objectWord insertion before lexemes = some lx ↔
      ∃ mid rest, lexemes = mid ++ lx :: rest ∧
        keyword.usedAt limit objectWord insertion (before ++ mid) lx rest = true ∧
        ∀ front other back, mid = front ++ other :: back →
          ¬ keyword.usedAt limit objectWord insertion (before ++ front) other
            (back ++ lx :: rest) = true := by
  induction lexemes generalizing before with
  | nil => simp [Keyword.firstUse?]
  | cons first lexemes ih =>
    rw [Keyword.firstUse?]
    by_cases hfirst : keyword.usedAt limit objectWord insertion before first lexemes = true
    · rw [if_pos hfirst]
      constructor
      · intro h
        cases h
        exact ⟨[], lexemes, rfl, by rwa [List.append_nil], by simp⟩
      · rintro ⟨mid, rest, hlexemes, hused, hnone⟩
        cases mid with
        | nil =>
          cases hlexemes
          rfl
        | cons other mid =>
          cases hlexemes
          exact absurd (by rwa [List.append_nil]) (hnone [] first mid rfl)
    · rw [if_neg hfirst, ih]
      constructor
      · rintro ⟨mid, rest, rfl, hused, hnone⟩
        refine ⟨first :: mid, rest, rfl, by simpa using hused, ?_⟩
        intro front other back hmid
        cases front with
        | nil =>
          cases hmid
          rwa [List.append_nil]
        | cons _ front =>
          cases hmid
          simpa using hnone front other back rfl
      · rintro ⟨mid, rest, hlexemes, hused, hnone⟩
        cases mid with
        | nil =>
          cases hlexemes
          exact absurd (by rwa [List.append_nil] at hused) hfirst
        | cons _ mid =>
          cases hlexemes
          refine ⟨mid, rest, rfl, by simpa using hused, ?_⟩
          intro front other back hmid
          simpa using hnone (first :: front) other back (by rw [hmid]; rfl)

/-- There is a first use exactly if there is a use. -/
theorem isSome_firstUse?_iff {before lexemes : List Lexeme} :
    (keyword.firstUse? limit objectWord insertion before lexemes).isSome = true ↔
      ∃ mid lx rest, lexemes = mid ++ lx :: rest ∧
        keyword.usedAt limit objectWord insertion (before ++ mid) lx rest = true := by
  induction lexemes generalizing before with
  | nil => simp [Keyword.firstUse?]
  | cons first lexemes ih =>
    rw [Keyword.firstUse?]
    by_cases hfirst : keyword.usedAt limit objectWord insertion before first lexemes = true
    · rw [if_pos hfirst]
      simp only [Option.isSome_some, true_iff]
      exact ⟨[], first, lexemes, rfl, by rwa [List.append_nil]⟩
    · rw [if_neg hfirst, ih]
      constructor
      · rintro ⟨mid, lx, rest, rfl, hused⟩
        exact ⟨first :: mid, lx, rest, rfl, by simpa using hused⟩
      · rintro ⟨mid, lx, rest, hlexemes, hused⟩
        cases mid with
        | nil =>
          cases hlexemes
          exact absurd (by rwa [List.append_nil] at hused) hfirst
        | cons _ mid =>
          cases hlexemes
          exact ⟨mid, lx, rest, rfl, by simpa using hused⟩

/-- Lexemes at which a keyword is not used are passed over when its first use is looked for. -/
theorem firstUse?_append_of_unused {before front rest : List Lexeme}
    (h : ∀ mid lx back, front = mid ++ lx :: back →
      keyword.usedAt limit objectWord insertion (before ++ mid) lx (back ++ rest) = false) :
    keyword.firstUse? limit objectWord insertion before (front ++ rest) =
      keyword.firstUse? limit objectWord insertion (before ++ front) rest := by
  induction front generalizing before with
  | nil => rw [List.nil_append, List.append_nil]
  | cons first front ih =>
    have hfirst := h [] first front rfl
    rw [List.append_nil] at hfirst
    rw [List.cons_append, Keyword.firstUse?, hfirst, if_neg Bool.false_ne_true,
      List.append_cons before first front]
    apply ih
    intro mid lx back hsplit
    rw [List.append_assoc, List.singleton_append]
    exact h (first :: mid) lx back (congrArg _ hsplit)

/-- Lexemes that do not read as a keyword are passed over when its first use is looked for. -/
theorem firstUse?_append_of_absent {before front rest : List Lexeme}
    (h : ∀ lx ∈ front, lx.isWordWithin [keyword.name] limit = false) :
    keyword.firstUse? limit objectWord insertion before (front ++ rest) =
      keyword.firstUse? limit objectWord insertion (before ++ front) rest := by
  apply firstUse?_append_of_unused
  rintro mid lx back rfl
  have hread : keywordWithin? limit lx ≠ some keyword := by
    rw [ne_eq, keywordWithin?_eq_some_iff, h lx List.mem_append_cons_self]
    exact Bool.false_ne_true
  rw [Keyword.usedAt, beq_eq_false_iff_ne.mpr hread, Bool.false_and, Bool.false_and]

/-! ### Steps of a scan -/

namespace ScanState

/-- The keyword that a scan records at a lexeme with the given one behind it. -/
def recorded? (limit : Int) (objectWord : Option Nat) (state : ScanState) (lx : Lexeme)
    (next : Option Lexeme) : Option Keyword :=
  (keywordWithin? limit lx).filter fun keyword =>
    !state.found.contains keyword && !isColumnName state.previous next &&
      keyword.isUsed (objectWord == some state.index) (state.inData && keyword != .select)
        state.previous next

/-- What a scan knows behind a lexeme at which it records the given keyword. -/
def advance (limit : Int) (state : ScanState) (lx : Lexeme) (recorded : Option Keyword) :
    ScanState :=
  ⟨state.index + 1, some lx, state.inData && keywordWithin? limit lx != some .select,
    recorded.toList ++ state.found⟩

/-- What a scan knows behind some lexemes, with the given keywords found among them. -/
def behind (limit : Int) (insertion : Bool) (before : List Lexeme) (found : List Keyword) :
    ScanState :=
  ⟨before.length, before.getLast?, mayHoldData limit insertion before, found⟩

/-- A scan that goes on behind a lexeme knows what it would know behind all of them. -/
theorem advance_behind (before : List Lexeme) (found : List Keyword) (lx : Lexeme)
    (recorded : Option Keyword) :
    (behind limit insertion before found).advance limit lx recorded =
      behind limit insertion (before ++ [lx]) (recorded.toList ++ found) := by
  simp [behind, advance, mayHoldData, Bool.and_assoc]

end ScanState

/-- A scan looks at one lexeme after the other. -/
theorem positionsFrom_cons {state : ScanState} {lx : Lexeme} {rest : List Lexeme}
    {recorded : Option Keyword} (h : state.recorded? limit objectWord lx rest.head? = recorded) :
    positionsFrom limit objectWord state (lx :: rest) =
      (recorded.map (·, lx.start)).toList ++
        positionsFrom limit objectWord (state.advance limit lx recorded) rest := by
  subst h
  rw [positionsFrom]
  cases hread : keywordWithin? limit lx with
  | none => simp [ScanState.recorded?, ScanState.advance, hread, bne]
  | some keyword =>
    simp only [ScanState.recorded?, ScanState.advance, hread, Option.filter_some]
    split
    · rfl
    · rfl

/-- A lexeme that reads as no keyword moves a scan on. -/
theorem positionsFrom_cons_of_none {lx : Lexeme} (h : keywordWithin? limit lx = none)
    (before : List Lexeme) (found : List Keyword) (rest : List Lexeme) :
    positionsFrom limit objectWord (.behind limit insertion before found) (lx :: rest) =
      positionsFrom limit objectWord (.behind limit insertion (before ++ [lx]) found) rest := by
  have hrecorded : (ScanState.behind limit insertion before found).recorded? limit objectWord lx
      rest.head? = none := by
    rw [ScanState.recorded?, h]
    rfl
  rw [positionsFrom_cons hrecorded, ScanState.advance_behind]
  rfl

/-- A lexeme that reads as a keyword is recorded if the keyword is used there and not found yet. -/
theorem positionsFrom_cons_of_some {lx : Lexeme} (h : keywordWithin? limit lx = some keyword)
    (before : List Lexeme) (found : List Keyword) (rest : List Lexeme) :
    positionsFrom limit objectWord (.behind limit insertion before found) (lx :: rest) =
      if keyword ∉ found ∧ keyword.usedAt limit objectWord insertion before lx rest = true then
        (keyword, lx.start) :: positionsFrom limit objectWord
          (.behind limit insertion (before ++ [lx]) (keyword :: found)) rest
      else
        positionsFrom limit objectWord (.behind limit insertion (before ++ [lx]) found) rest := by
  have hrecorded :
      (ScanState.behind limit insertion before found).recorded? limit objectWord lx rest.head? =
        if keyword ∉ found ∧ keyword.usedAt limit objectWord insertion before lx rest = true then
          some keyword else none := by
    simp [ScanState.recorded?, ScanState.behind, mayHoldData, Keyword.usedAt, h, Bool.and_assoc,
      bne, Option.filter_some]
  rw [positionsFrom_cons hrecorded, ScanState.advance_behind]
  split
  · rfl
  · rfl

/-! ### Recorded places -/

/-- A scan records each keyword not found yet at its first use. -/
theorem lookup_positionsFrom (keyword : Keyword) (before : List Lexeme) (found : List Keyword)
    (lexemes : List Lexeme) :
    (positionsFrom limit objectWord (.behind limit insertion before found) lexemes).lookup keyword =
      if keyword ∈ found then none
      else (keyword.firstUse? limit objectWord insertion before lexemes).map start := by
  induction lexemes generalizing before found with
  | nil => simp [positionsFrom, Keyword.firstUse?]
  | cons lx rest ih =>
    rw [Keyword.firstUse?]
    cases hread : keywordWithin? limit lx with
    | none =>
      have hunused : keyword.usedAt limit objectWord insertion before lx rest = false := by
        simp [Keyword.usedAt, hread]
      rw [positionsFrom_cons_of_none hread, ih, hunused]
      rfl
    | some k =>
      rw [positionsFrom_cons_of_some hread]
      by_cases hk : keyword = k
      · subst hk
        split
        · next h => simp [h]
        · next h =>
          rw [ih]
          by_cases hfound : keyword ∈ found
          · simp [hfound]
          · have hunused : ¬ keyword.usedAt limit objectWord insertion before lx rest = true :=
              fun hused => h ⟨hfound, hused⟩
            simp [hfound, hunused]
      · have hunused : keyword.usedAt limit objectWord insertion before lx rest = false := by
          simp [Keyword.usedAt, hread, Ne.symm hk]
        rw [hunused]
        split
        · next h =>
          rw [List.lookup_cons, beq_eq_false_iff_ne.mpr hk, ih]
          simp [hk]
        · rw [ih]
          rfl

/-- The keywords that a scan records are new to it. -/
theorem not_mem_found_of_mem_positionsFrom {before : List Lexeme} {found : List Keyword}
    {lexemes : List Lexeme} {entry : Keyword × Nat}
    (h : entry ∈ positionsFrom limit objectWord (.behind limit insertion before found) lexemes) :
    entry.1 ∉ found := by
  intro hfound
  have hsome := List.lookup_isSome_iff.mpr ⟨entry, h, beq_self_eq_true entry.1⟩
  rw [lookup_positionsFrom, if_pos hfound] at hsome
  cases hsome

/-- A scan records no keyword twice. -/
theorem nodup_keys_positionsFrom (before : List Lexeme) (found : List Keyword)
    (lexemes : List Lexeme) :
    ((positionsFrom limit objectWord (.behind limit insertion before found) lexemes).map
      Prod.fst).Nodup := by
  induction lexemes generalizing before found with
  | nil => simp [positionsFrom]
  | cons lx rest ih =>
    cases hread : keywordWithin? limit lx with
    | none =>
      rw [positionsFrom_cons_of_none hread]
      exact ih _ _
    | some k =>
      rw [positionsFrom_cons_of_some hread]
      split
      · rw [List.map_cons, List.nodup_cons]
        refine ⟨?_, ih _ _⟩
        intro hmem
        obtain ⟨entry, hentry, heq⟩ := List.mem_map.mp hmem
        exact not_mem_found_of_mem_positionsFrom hentry (heq ▸ List.mem_cons_self)
      · exact ih _ _

/-! ### Places in a descriptor -/

/-- The places in a statement are found by a scan of all its lexemes. -/
theorem keywordPositions_eq (lexemes : List Lexeme) (kind : Kind) (head : Option Nat) :
    keywordPositions lexemes kind head =
      positionsFrom (bodyDepth lexemes head) (objectWordIndex? lexemes head)
        (.behind (bodyDepth lexemes head) (kind == .insert) [] []) lexemes := by
  simp [keywordPositions, ScanState.behind, mayHoldData]

/-- Each keyword of a statement has the place of its first use. -/
theorem lookup_keywordPositions (lexemes : List Lexeme) (kind : Kind) (head : Option Nat)
    (keyword : Keyword) :
    (keywordPositions lexemes kind head).lookup keyword =
      (keyword.firstUse? (bodyDepth lexemes head) (objectWordIndex? lexemes head)
        (kind == .insert) [] lexemes).map start := by
  rw [keywordPositions_eq, lookup_positionsFrom]
  simp

/-- No keyword has two places in a statement. -/
theorem nodup_keys_keywordPositions (lexemes : List Lexeme) (kind : Kind) (head : Option Nat) :
    ((keywordPositions lexemes kind head).map Prod.fst).Nodup := by
  rw [keywordPositions_eq]
  exact nodup_keys_positionsFrom [] [] lexemes

private theorem lookup_map_name (places : List (Keyword × Nat)) (keyword : Keyword) :
    (places.map fun entry => (entry.1.name, (entry.2 : Int))).lookup keyword.name =
      (places.lookup keyword).map Int.ofNat := by
  induction places with
  | nil => rfl
  | cons entry places ih =>
    rw [List.map_cons, List.lookup_cons, List.lookup_cons, ih]
    by_cases h : keyword = entry.1
    · rw [h, beq_self_eq_true, beq_self_eq_true]
      rfl
    · have hname : (keyword.name == entry.1.name) = false :=
        beq_eq_false_iff_ne.mpr fun heq => h (Keyword.name_inj heq)
      rw [hname, beq_eq_false_iff_ne.mpr h]

/-- A descriptor holds the places of keywords under their names, in the order of the statement. -/
theorem entries_positions_ofFacts {facts : Facts} (sql : String)
    (h : (facts.positions.map Prod.fst).Nodup) :
    (Descriptor.ofFacts sql facts).positions.entries =
      facts.positions.map fun entry => (entry.1.name, (entry.2 : Int)) := by
  apply OrderedMap.entries_ofList
  rw [List.map_map]
  have hnames := List.Nodup.map (fun _ _ => Keyword.name_inj) h
  rwa [List.map_map] at hnames

/-- Tests whether a keyword of a statement is used at a lexeme, between those in front of it and
those behind. -/
def Keyword.usedIn (statement : List Lexeme) (keyword : Keyword) (before : List Lexeme)
    (lx : Lexeme) (after : List Lexeme) : Bool :=
  let head := leadingWord? statement
  keyword.usedAt (bodyDepth statement head) (objectWordIndex? statement head)
    (Kind.ofStatement statement head == .insert) before lx after

/-- A descriptor holds the place of each keyword's first use. -/
theorem get?_positions_ofLexemes (sql : String) (statement : List Lexeme) (keyword : Keyword) :
    (Descriptor.ofFacts sql (Facts.ofLexemes sql statement)).positions.get? keyword.name =
      (keyword.firstUse? (bodyDepth statement (leadingWord? statement))
        (objectWordIndex? statement (leadingWord? statement))
        (Kind.ofStatement statement (leadingWord? statement) == .insert) [] statement).map
          fun lx => Int.ofNat lx.start := by
  have hnodup : ((Facts.ofLexemes sql statement).positions.map Prod.fst).Nodup :=
    nodup_keys_keywordPositions _ _ _
  rw [OrderedMap.get?, entries_positions_ofFacts sql hnodup, lookup_map_name, Facts.ofLexemes,
    lookup_keywordPositions, Option.map_map]
  rfl

/-- A descriptor knows the place of a keyword exactly if the keyword is used. -/
theorem hasKeyword_ofLexemes_iff (sql : String) (statement : List Lexeme) (keyword : Keyword) :
    (Descriptor.ofFacts sql (Facts.ofLexemes sql statement)).hasKeyword keyword = true ↔
      ∃ before lx after, statement = before ++ lx :: after ∧
        keyword.usedIn statement before lx after = true := by
  rw [Descriptor.hasKeyword, OrderedMap.contains, get?_positions_ofLexemes, Option.isSome_map,
    isSome_firstUse?_iff]
  rfl

end SqlFacts
