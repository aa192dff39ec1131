import SqlFacts.Proofs.Aligned.Verb
import SqlFacts.Proofs.Facts.Literals
import SqlFacts.Proofs.Facts.SettingsClause
import SqlFacts.Proofs.Facts.ValueText

/-!
# Settings with literal values

A list of settings whose values are literals is read up to the first value with a comma on the
level of the list, inside brackets or braces: that value is cut at the comma, and the settings
behind it are lost. If there is none, the values are read whole, but the last one takes the word
`AS` of a query behind the list with it, and a lone numeral in base two or sixteen loses its base.
The main statement tells what is read in each case, and that all is read as written in no other.
-/

namespace SqlFacts

open Lexeme

/-- An assignment of a literal. -/
structure LiteralAssignment where
  name : Lexeme
  equals : Lexeme
  value : List Lexeme
  isIdentifier_name : name.isIdentifier = true
  isSymbol_equals : equals.isSymbol "=" = true
  isLiteral_value : IsLiteral value

namespace LiteralAssignment

/-- The lexemes of an assignment. -/
def lexemes (a : LiteralAssignment) : List Lexeme := a.name :: a.equals :: a.value

theorem value_sublist (a : LiteralAssignment) : a.value.Sublist a.lexemes :=
  (List.sublist_cons_self ..).trans (List.sublist_cons_self ..)

/-- Tests for a comma at the given depth in the value. -/
def holdsComma (depth : Int) (a : LiteralAssignment) : Bool :=
  a.value.any fun lx => lx.depth == depth && lx.isSymbol ","

end LiteralAssignment

/-- A comma between two assignments. -/
structure Separator where
  lexeme : Lexeme
  isSymbol_lexeme : lexeme.isSymbol "," = true

/-- Assignments of literals with a comma between every two of them. -/
structure LiteralList where
  front : List (LiteralAssignment × Separator)
  last : LiteralAssignment

/-- The lexemes of assignments with a comma behind each of them. -/
def joinLiterals (front : List (LiteralAssignment × Separator)) : List Lexeme :=
  front.flatMap fun item => item.1.lexemes ++ [item.2.lexeme]

namespace LiteralList

/-- The lexemes of a list of assignments. -/
def lexemes (list : LiteralList) : List Lexeme := joinLiterals list.front ++ list.last.lexemes

/-- The assignments in order. -/
def items (list : LiteralList) : List LiteralAssignment := list.front.map Prod.fst ++ [list.last]

/-- The depth that a list is read at, which is that of its first name. -/
def depth (list : LiteralList) : Int :=
  ((list.front.head?.map Prod.fst).getD list.last).name.depth

end LiteralList

/-- What may follow the settings of a statement: its end, a closing keyword such as `FORMAT`, or
the query of a definition. -/
inductive FollowsSettings : List Lexeme → Prop
  | nothing : FollowsSettings []
  | keyword {word : Lexeme} (hword : word.isWord settingsEndWords = true) (behind : List Lexeme) :
      FollowsSettings (word :: behind)
  | query {as select : Lexeme} (has : as.isWord ["AS"] = true)
      (hselect : select.isWord ["SELECT"] = true) (behind : List Lexeme) :
      FollowsSettings (as :: select :: behind)

namespace LiteralAssignment

/-- The name with the text that is read for some lexemes. -/
def readAs (source : List Char) (lexemes : List Lexeme) (a : LiteralAssignment) :
    String × String := (a.name.text, readText source lexemes)

/-- The name with the text that is read for the value. -/
def read (source : List Char) (a : LiteralAssignment) : String × String :=
  a.readAs source a.value

/-- The name with the complete text of the value. -/
def complete (source : List Char) (a : LiteralAssignment) : String × String :=
  (a.name.text, completeText source a.value)

end LiteralAssignment

/-- What is read for a list of literals with something behind it: all values, the last one with the
word `AS` of a query, or the values in front of the first comma at the depth of the list. -/
inductive ReadsLiterals (source : List Char) (list : LiteralList) (tail : List Lexeme) :
    List (String × String) → Prop
  | whole (hitems : ∀ a ∈ list.items, a.holdsComma list.depth = false)
      (htail : startsWith (isWord ["AS"]) tail = false) :
      ReadsLiterals source list tail (list.items.map (·.read source))
  | query (hitems : ∀ a ∈ list.items, a.holdsComma list.depth = false) {as : Lexeme}
      {behind : List Lexeme} (htail : tail = as :: behind) (has : as.isWord ["AS"] = true) :
      ReadsLiterals source list tail (list.front.map (·.1.read source) ++
        [list.last.readAs source (list.last.value ++ [as])])
  | cut {before after : List LiteralAssignment} {a : LiteralAssignment} {front back : List Lexeme}
      {comma : Lexeme} (hsplit : list.items = before ++ a :: after)
      (hbefore : ∀ b ∈ before, b.holdsComma list.depth = false)
      (hvalue : a.value = front ++ comma :: back)
      (hfront : ∀ lx ∈ front, (lx.depth == list.depth && lx.isSymbol ",") = false)
      (hcomma : comma.isSymbol "," = true) (hdepth : comma.depth = list.depth) :
      ReadsLiterals source list tail (before.map (·.read source) ++ [a.readAs source front])

/-- A list of literals is read as written: no value has a comma at the depth of the list, none is a
lone numeral in base two or sixteen, and no query follows. -/
def LiteralList.IsReadable (source : List Char) (list : LiteralList) (tail : List Lexeme) : Prop :=
  (∀ a ∈ list.items, a.holdsComma list.depth = false ∧ isLoneNumeral source a.value = false) ∧
    startsWith (isWord ["AS"]) tail = false

/-! ### Reading -/

namespace LiteralAssignment

variable {source : List Char} {depth : Int} {a : LiteralAssignment}

/-- An assignment lies on the level that it begins on, and so does what follows it. -/
theorem leveled_lexemes_append {level : Int} (hlevel : 0 ≤ level) {rest : List Lexeme}
    (h : Leveled level (a.lexemes ++ rest)) : a.name.depth = level ∧ Leveled level rest := by
  have hname := isParen_eq_false isIdentifier_of_isSymbol a.isIdentifier_name
  have hequals := isParen_of_isSymbol a.isSymbol_equals (by decide)
  rw [lexemes, List.cons_append, List.cons_append, leveled_cons_of_not_isParen hname,
    leveled_cons_of_not_isParen hequals, Lexeme.leveled_append,
    a.isLiteral_value.inBrackets.levelAfter hlevel] at h
  exact ⟨h.1, h.2.2.2⟩

/-- A value without a comma at the depth of the list is not ended by any of its lexemes. -/
theorem not_endsValue (h : a.holdsComma depth = false) :
    ∀ lx ∈ a.value, endsValue depth lx = false := by
  intro lx hlx
  rw [a.isLiteral_value.endsValue_eq depth hlx]
  rw [holdsComma, List.any_eq_false] at h
  exact Bool.eq_false_iff.mpr (h lx hlx)

/-- A value is read up to a comma at the depth of the list, and what follows it is read next. -/
theorem assignmentsAt_comma {taken : List Lexeme} (hne : taken ≠ [])
    (htaken : ∀ lx ∈ taken, endsValue depth lx = false) {comma : Lexeme}
    (hcomma : comma.isSymbol "," = true) (hdepth : comma.depth = depth) (behind : List Lexeme) :
    assignmentsAt source depth 0 (a.name :: a.equals :: (taken ++ comma :: behind)) =
      a.readAs source taken :: assignmentsAt source depth 0 behind := by
  obtain ⟨first, others, rfl⟩ := List.exists_cons_of_ne_nil hne
  let assignment : Assignment depth :=
    ⟨a.name, a.equals, first, others, a.isIdentifier_name, a.isSymbol_equals, htaken⟩
  have hread := assignmentsAt_lexemes_comma source assignment ⟨comma, hcomma, hdepth⟩ behind
  rw [Assignment.entry, ← assignment.valueText_eq] at hread
  exact hread

/-- A value is read up to what ends the list. -/
theorem assignmentsAt_end {taken tail : List Lexeme} (hne : taken ≠ [])
    (htaken : ∀ lx ∈ taken, endsValue depth lx = false) (htail : EndsAssignments depth tail) :
    assignmentsAt source depth 0 (a.name :: a.equals :: (taken ++ tail)) =
      [a.readAs source taken] := by
  obtain ⟨first, others, rfl⟩ := List.exists_cons_of_ne_nil hne
  let assignment : Assignment depth :=
    ⟨a.name, a.equals, first, others, a.isIdentifier_name, a.isSymbol_equals, htaken⟩
  have hread := assignmentsAt_lexemes_end source assignment htail
  rw [Assignment.entry, ← assignment.valueText_eq] at hread
  exact hread

/-- A value is cut at its first comma at the depth of the list, and nothing behind it is read. -/
theorem assignmentsAt_cut {front back : List Lexeme} {comma : Lexeme}
    (hvalue : a.value = front ++ comma :: back)
    (hfront : ∀ lx ∈ front, (lx.depth == depth && lx.isSymbol ",") = false)
    (hcomma : comma.isSymbol "," = true) (hdepth : comma.depth = depth) (rest : List Lexeme) :
    assignmentsAt source depth 0 (a.lexemes ++ rest) = [a.readAs source front] := by
  obtain ⟨hne, hbehind⟩ := (hvalue ▸ a.isLiteral_value).of_comma hcomma
  have htaken : ∀ lx ∈ front, endsValue depth lx = false := by
    intro lx hlx
    rw [a.isLiteral_value.endsValue_eq depth (hvalue ▸ List.mem_append_left _ hlx)]
    exact hfront lx hlx
  have hsplit : a.lexemes ++ rest =
      a.name :: a.equals :: (front ++ comma :: (back ++ rest)) := by
    rw [lexemes, hvalue]
    simp
  rw [hsplit, assignmentsAt_comma hne htaken hcomma hdepth,
    assignmentsAt_of_not_begins (hbehind rest)]

/-- The last value takes the word `AS` of a query behind the list. -/
theorem assignmentsAt_query (h : a.holdsComma depth = false) {as select : Lexeme}
    (has : as.isWord ["AS"] = true) (hselect : select.isWord ["SELECT"] = true)
    (hdepth : select.depth = depth) (behind : List Lexeme) :
    assignmentsAt source depth 0 (a.lexemes ++ as :: select :: behind) =
      [a.readAs source (a.value ++ [as])] := by
  have htaken : ∀ lx ∈ a.value ++ [as], endsValue depth lx = false := by
    refine List.forall_mem_append.mpr ⟨not_endsValue h, List.forall_mem_singleton.mpr ?_⟩
    rw [endsValue, isSymbol_of_isWord has, isWord_of_disjoint has (by decide)]
    exact Bool.and_false _
  have hword : select.isWord settingsEndWords = true := by
    rw [isWord, Bool.and_eq_true, beq_iff_eq, List.contains_iff_mem, List.mem_singleton]
      at hselect
    rw [isWord, hselect.1, hselect.2]
    rfl
  have hsplit : a.lexemes ++ as :: select :: behind =
      a.name :: a.equals :: ((a.value ++ [as]) ++ select :: behind) := by
    rw [lexemes]
    simp
  rw [hsplit, assignmentsAt_end (by simp) htaken (.keyword hdepth hword behind)]

/-- A last value without a comma is read, alone or with the word `AS` behind it. -/
theorem assignmentsAt_last (source : List Char) (h : a.holdsComma depth = false)
    {tail : List Lexeme} (htail : FollowsSettings tail) (hleveled : Leveled depth tail) :
    startsWith (isWord ["AS"]) tail = false ∧
        assignmentsAt source depth 0 (a.lexemes ++ tail) = [a.read source] ∨
      ∃ as behind, tail = as :: behind ∧ as.isWord ["AS"] = true ∧
        assignmentsAt source depth 0 (a.lexemes ++ tail) =
          [a.readAs source (a.value ++ [as])] := by
  have hdepth {lx : Lexeme} {words : List String} (hword : lx.isWord words = true)
      {behind : List Lexeme} (hlevel : Leveled depth (lx :: behind)) :
      lx.depth = depth ∧ Leveled depth behind :=
    (leveled_cons_of_not_isParen (isParen_of_isWord hword)).mp hlevel
  cases htail with
  | nothing =>
    exact .inl ⟨rfl, assignmentsAt_end a.isLiteral_value.ne_nil (not_endsValue h) .nothing⟩
  | @keyword word hword behind =>
    refine .inl ⟨?_, assignmentsAt_end a.isLiteral_value.ne_nil (not_endsValue h)
      (.keyword (hdepth hword hleveled).1 hword behind)⟩
    rw [startsWith_cons, ← Bool.not_eq_true]
    intro has
    rw [isWord_of_disjoint has (by decide)] at hword
    cases hword
  | @query as select has hselect behind =>
    obtain ⟨-, hbehind⟩ := hdepth has hleveled
    exact .inr ⟨as, _, rfl, has,
      assignmentsAt_query h has hselect (hdepth hselect hbehind).1 behind⟩

end LiteralAssignment

section Lists

variable {source : List Char} {level : Int} {list : LiteralList} {tail : List Lexeme}

/-- Items with commas behind them lie on the level that they begin on. They are read one by one,
as long as their values have no comma on that level. -/
theorem assignmentsAt_joinLiterals (source : List Char) (hlevel : 0 ≤ level)
    {front : List (LiteralAssignment × Separator)} {rest : List Lexeme}
    (h : Leveled level (joinLiterals front ++ rest)) :
    Leveled level rest ∧ ((∀ item ∈ front, item.1.holdsComma level = false) →
      assignmentsAt source level 0 (joinLiterals front ++ rest) =
        front.map (·.1.read source) ++ assignmentsAt source level 0 rest) := by
  induction front with
  | nil => exact ⟨h, fun _ => rfl⟩
  | cons item front ih =>
    obtain ⟨a, comma⟩ := item
    have hcons : joinLiterals ((a, comma) :: front) ++ rest =
        a.lexemes ++ comma.lexeme :: (joinLiterals front ++ rest) := by
      simp [joinLiterals]
    rw [hcons] at h ⊢
    have hparen := isParen_of_isSymbol comma.isSymbol_lexeme (by decide)
    obtain ⟨hdepth, hbehind⟩ := (leveled_cons_of_not_isParen hparen).mp
      (LiteralAssignment.leveled_lexemes_append hlevel h).2
    obtain ⟨hrest, hread⟩ := ih hbehind
    refine ⟨hrest, fun hnone => ?_⟩
    obtain ⟨hwhole, hnone⟩ := List.forall_mem_cons.mp hnone
    have hfirst : assignmentsAt source level 0
        (a.lexemes ++ comma.lexeme :: (joinLiterals front ++ rest)) = _ :=
      LiteralAssignment.assignmentsAt_comma a.isLiteral_value.ne_nil
        (LiteralAssignment.not_endsValue hwhole) comma.isSymbol_lexeme hdepth _
    rw [hfirst, hread hnone, List.map_cons, List.cons_append, LiteralAssignment.read]

/-- In front of an item stand the items before it, each with its comma. -/
theorem LiteralList.exists_lexemes_eq {before after : List LiteralAssignment}
    {a : LiteralAssignment} (h : list.items = before ++ a :: after) :
    ∃ front rest, front.map Prod.fst = before ∧
      list.lexemes = joinLiterals front ++ (a.lexemes ++ rest) := by
  rw [items] at h
  rcases List.eq_nil_or_concat after with rfl | ⟨others, last, rfl⟩
  · obtain ⟨hfront, hlast⟩ := List.append_inj' h rfl
    obtain rfl := (List.cons.inj hlast).1
    exact ⟨list.front, [], hfront, by rw [List.append_nil, lexemes]⟩
  · rw [List.concat_eq_append, ← List.cons_append, ← List.append_assoc] at h
    obtain ⟨front, behind, hfront, hbefore, hbehind⟩ :=
      List.map_eq_append_iff.mp (List.append_inj' h rfl).1
    obtain ⟨item, more, rfl, rfl, -⟩ := List.map_eq_cons_iff.mp hbehind
    refine ⟨front, item.2.lexeme :: (joinLiterals more ++ list.last.lexemes), hbefore, ?_⟩
    rw [lexemes, hfront]
    simp [joinLiterals]

/-- The first item with a comma at the depth of a list, if there is one. -/
theorem holdsComma_cases (depth : Int) (items : List LiteralAssignment) :
    (∀ a ∈ items, a.holdsComma depth = false) ∨
      ∃ before a after front comma back, items = before ++ a :: after ∧
        (∀ b ∈ before, b.holdsComma depth = false) ∧ a.value = front ++ comma :: back ∧
        (∀ lx ∈ front, (lx.depth == depth && lx.isSymbol ",") = false) ∧
        comma.isSymbol "," = true ∧ comma.depth = depth := by
  cases hitem : items.find? (·.holdsComma depth) with
  | none =>
    exact .inl fun a ha => Bool.eq_false_iff.mpr (List.find?_eq_none.mp hitem a ha)
  | some a =>
    obtain ⟨hholds, before, after, hsplit, hbefore⟩ := List.find?_eq_some_iff_append.mp hitem
    cases hlexeme : a.value.find? (fun lx => lx.depth == depth && lx.isSymbol ",") with
    | none =>
      rw [LiteralAssignment.holdsComma, List.any_eq_true] at hholds
      obtain ⟨lx, hlx, hcomma⟩ := hholds
      exact absurd hcomma (List.find?_eq_none.mp hlexeme lx hlx)
    | some comma =>
      obtain ⟨hcomma, front, back, hvalue, hfront⟩ :=
        List.find?_eq_some_iff_append.mp hlexeme
      rw [Bool.and_eq_true, beq_iff_eq] at hcomma
      refine .inr ⟨before, a, after, front, comma, back, hsplit, fun b hb => ?_, hvalue,
        fun lx hlx => ?_, hcomma.2, hcomma.1⟩
      · exact (Bool.not_eq_true' _).mp (hbefore b hb)
      · exact (Bool.not_eq_true' _).mp (hfront lx hlx)

/-- A list is read at the depth of the level that it lies on. -/
theorem LiteralList.depth_eq (hlevel : 0 ≤ level)
    (h : Leveled level (list.lexemes ++ tail)) : list.depth = level := by
  obtain ⟨front, last⟩ := list
  rw [lexemes, List.append_assoc] at h
  cases front with
  | nil => exact (LiteralAssignment.leveled_lexemes_append hlevel h).1
  | cons item front =>
    rw [joinLiterals, List.flatMap_cons, List.append_assoc, List.append_assoc] at h
    exact (LiteralAssignment.leveled_lexemes_append hlevel h).1

/-- A list has an item, and reading begins there. -/
theorem LiteralList.assignments_lexemes (source : List Char) (list : LiteralList)
    (tail : List Lexeme) :
    assignments source (list.lexemes ++ tail) =
      assignmentsAt source list.depth 0 (list.lexemes ++ tail) := by
  obtain ⟨front, last⟩ := list
  cases front <;> rfl

/-- What is read for a list of literals that lies on a level. -/
theorem readsLiterals_of_leveled (source : List Char) (hlevel : 0 ≤ level)
    (hleveled : Leveled level (list.lexemes ++ tail)) (htail : FollowsSettings tail) :
    ReadsLiterals source list tail (assignments source (list.lexemes ++ tail)) := by
  obtain rfl := LiteralList.depth_eq hlevel hleveled
  rw [LiteralList.assignments_lexemes]
  rcases holdsComma_cases list.depth list.items with
    hnone | ⟨before, a, after, front, comma, back, hsplit, hbefore, hvalue, hfront, hcomma,
      hdepth⟩
  · obtain ⟨hfront, hlast⟩ := List.forall_mem_append.mp hnone
    rw [List.forall_mem_map] at hfront
    rw [LiteralList.lexemes, List.append_assoc] at hleveled ⊢
    obtain ⟨hat, hread⟩ := assignmentsAt_joinLiterals source hlevel hleveled
    obtain ⟨-, hbehind⟩ := LiteralAssignment.leveled_lexemes_append hlevel hat
    rw [hread hfront]
    rcases LiteralAssignment.assignmentsAt_last source (hlast _ List.mem_cons_self) htail
      hbehind with ⟨hquery, hwhole⟩ | ⟨as, behind, hquery, has, hwhole⟩
    · have hmap : list.front.map (·.1.read source) ++ [list.last.read source] =
          list.items.map (·.read source) := by
        rw [LiteralList.items, List.map_append, List.map_map]
        rfl
      rw [hwhole, hmap]
      exact .whole hnone hquery
    · rw [hwhole]
      exact .query hnone hquery has
  · obtain ⟨items, rest, rfl, hlexemes⟩ := LiteralList.exists_lexemes_eq hsplit
    rw [hlexemes, List.append_assoc, List.append_assoc] at hleveled ⊢
    have hread := (assignmentsAt_joinLiterals source hlevel hleveled).2
      (List.forall_mem_map.mp hbefore)
    rw [hread, LiteralAssignment.assignmentsAt_cut hvalue hfront hcomma hdepth]
    have hmap : items.map (·.1.read source) = (items.map Prod.fst).map (·.read source) := by
      rw [List.map_map]
      rfl
    rw [hmap]
    exact .cut hsplit hbefore hvalue hfront hcomma hdepth

end Lists

/-! ### Reading as written -/

section Complete

variable {source : List Char} {list : LiteralList} {tail : List Lexeme}
  {read : List (String × String)}

namespace LiteralAssignment

variable {a : LiteralAssignment}

theorem read_eq_complete_iff (h : WrittenIn source a.value) :
    a.read source = a.complete source ↔ isLoneNumeral source a.value = false := by
  rw [← readText_eq_completeText_iff h, read, readAs, complete, Prod.mk.injEq]
  exact and_iff_right rfl

/-- What stands in front of a comma is not read as the complete text. -/
theorem readAs_front_ne_complete (h : WrittenIn source a.value) {front back : List Lexeme}
    {comma : Lexeme} (hvalue : a.value = front ++ comma :: back)
    (hcomma : comma.isSymbol "," = true) : a.readAs source front ≠ a.complete source := by
  intro heq
  have hne := ((hvalue ▸ a.isLiteral_value).of_comma hcomma).1
  have htext : readText source front = completeText source a.value := congrArg Prod.snd heq
  rw [hvalue] at h htext
  exact (readText_ne_completeText h hne (List.cons_ne_nil comma back)).1 htext

/-- A value is not read completely with a lexeme behind it. -/
theorem readAs_concat_ne_complete {lx : Lexeme} (h : WrittenIn source (a.value ++ [lx])) :
    a.readAs source (a.value ++ [lx]) ≠ a.complete source := by
  intro heq
  have htext : readText source (a.value ++ [lx]) = completeText source a.value :=
    congrArg Prod.snd heq
  exact (readText_ne_completeText h a.isLiteral_value.ne_nil (List.cons_ne_nil lx [])).2 htext

end LiteralAssignment

/-- The values of a list that is written in a text are written in it. -/
theorem LiteralList.writtenIn_value (h : WrittenIn source list.lexemes)
    {before after : List LiteralAssignment} {a : LiteralAssignment}
    (hsplit : list.items = before ++ a :: after) : WrittenIn source a.value := by
  obtain ⟨front, rest, -, hlexemes⟩ := LiteralList.exists_lexemes_eq hsplit
  rw [hlexemes] at h
  exact h.sublist ((a.value_sublist.trans (List.sublist_append_left ..)).trans
    (List.sublist_append_right ..))

/-- What is read for a list is the names with the complete texts of their values exactly if the
list is read as written. -/
theorem ReadsLiterals.eq_complete_iff (hread : ReadsLiterals source list tail read)
    (hwritten : WrittenIn source (list.lexemes ++ tail)) :
    read = list.items.map (·.complete source) ↔ list.IsReadable source tail := by
  have hlist := hwritten.sublist (List.sublist_append_left list.lexemes tail)
  cases hread with
  | whole hitems htail =>
    rw [List.map_inj_left, LiteralList.IsReadable, and_iff_left htail]
    refine forall₂_congr fun a ha => ?_
    obtain ⟨before, after, hsplit⟩ := List.append_of_mem ha
    rw [LiteralAssignment.read_eq_complete_iff (LiteralList.writtenIn_value hlist hsplit),
      and_iff_right (hitems a ha)]
  | @query hitems as behind htail has =>
    refine iff_of_false (fun heq => ?_) fun hreadable => ?_
    · rw [LiteralList.items, List.map_append] at heq
      rw [htail, LiteralList.lexemes, List.append_assoc] at hwritten
      have hpart : (list.last.value ++ [as]).Sublist
          (joinLiterals list.front ++ (list.last.lexemes ++ as :: behind)) :=
        (list.last.value_sublist.append (List.cons_sublist_cons.mpr (List.nil_sublist _))).trans
          (List.sublist_append_right ..)
      exact LiteralAssignment.readAs_concat_ne_complete (hwritten.sublist hpart)
        (List.cons.inj (List.append_inj' heq rfl).2).1
    · rw [LiteralList.IsReadable, htail, startsWith_cons, has]
        at hreadable
      exact Bool.true_eq_false.mp hreadable.2
  | @cut before after a front back comma hsplit hbefore hvalue hfront hcomma hdepth =>
    refine iff_of_false (fun heq => ?_) fun hreadable => ?_
    · rw [hsplit, List.map_append, List.map_cons] at heq
      exact LiteralAssignment.readAs_front_ne_complete (LiteralList.writtenIn_value hlist hsplit)
        hvalue hcomma (List.cons.inj (List.append_inj heq (by simp)).2).1
    · have hnone := (hreadable.1 a (by simp [hsplit])).1
      rw [LiteralAssignment.holdsComma, List.any_eq_false] at hnone
      have hheld := hnone comma (by simp [hvalue])
      rw [hdepth, hcomma, beq_self_eq_true] at hheld
      exact hheld rfl

end Complete

/-! ### Settings of a statement -/

/-- The names that are read are the first of those in the list. -/
theorem ReadsLiterals.names_sublist {source : List Char} {list : LiteralList} {tail : List Lexeme}
    {read : List (String × String)} (h : ReadsLiterals source list tail read) :
    (read.map Prod.fst).Sublist (list.items.map (·.name.text)) := by
  have hnames (items : List LiteralAssignment) :
      (items.map (·.read source)).map Prod.fst = items.map (·.name.text) := by
    rw [List.map_map]
    rfl
  cases h with
  | whole hitems htail => rw [hnames]
  | query hitems htail has =>
    rw [LiteralList.items, List.map_append, List.map_append, List.map_map, List.map_map]
    exact List.Sublist.refl _
  | cut hsplit hbefore hvalue hfront hcomma hdepth =>
    rw [hsplit, List.map_append, List.map_append, hnames]
    exact (List.Sublist.refl _).append (List.cons_sublist_cons.mpr (List.nil_sublist _))

/-- The first word `SETTINGS` of a statement with a list of literals behind it, what stands in
front of the word and what follows the list. -/
structure LiteralClause (statement before : List Lexeme) (word : Lexeme) (list : LiteralList)
    (tail : List Lexeme) : Prop where
  split : statement = before ++ word :: (list.lexemes ++ tail)
  isWordWithin_word : word.isWordWithin [Keyword.settings.name]
    (bodyDepth statement (leadingWord? statement)) = true
  isWordWithin_before : ∀ lx ∈ before, lx.isWordWithin [Keyword.settings.name]
    (bodyDepth statement (leadingWord? statement)) = false
  follows : FollowsSettings tail

section Statement

variable {statement before : List Lexeme} {word : Lexeme} {list : LiteralList}
  {tail : List Lexeme} {sql : String}

namespace LiteralClause

variable (h : LiteralClause statement before word list tail)

include h

/-- The lexemes behind the first word `SETTINGS` are those of the list and of what follows. -/
theorem settingsLexemes_eq {kind : Kind} (hkind : kind ≠ .set) :
    settingsLexemes statement kind (leadingWord? statement) = list.lexemes ++ tail := by
  have hfound (limit : Int)
      (hbefore : ∀ lx ∈ before, lx.isWordWithin [Keyword.settings.name] limit = false)
      (hword : word.isWordWithin [Keyword.settings.name] limit = true) :
      afterWord? [Keyword.settings.name] limit statement = some (list.lexemes ++ tail) := by
    rw [h.split, afterWord?_append, afterWord?_eq_none_iff.mpr hbefore,
      afterWord?_cons_of_pos hword]
    rfl
  rw [settingsLexemes_of_ne_set hkind, hfound _ h.isWordWithin_before h.isWordWithin_word]
  rfl

/-- The list lies on a level that is not below zero, and so does what follows it. -/
theorem leveled (hstatement : Leveled 0 statement) :
    ∃ level, 0 ≤ level ∧ Leveled level (list.lexemes ++ tail) := by
  have hparen : word.isParen = false :=
    isParen_of_isWord (isWord_of_isWordWithin h.isWordWithin_word)
  rw [h.split, leveled_append, leveled_cons_of_not_isParen hparen] at hstatement
  exact ⟨_, levelAfter_nonneg (Int.le_refl 0) before, hstatement.2.2⟩

/-- The list and what follows it stand in the statement. -/
theorem sublist : (list.lexemes ++ tail).Sublist statement := by
  rw [h.split]
  exact (List.sublist_cons_self ..).trans (List.sublist_append_right ..)

end LiteralClause

/-- The settings of a statement with a list of literals behind the word `SETTINGS` are read up to
the first comma at the depth of the list inside a value, or up to the end of the list, with the
word `AS` of a query. They are the names with the complete texts of their values exactly if the
list is read as written. -/
theorem settings_of_literals {lexemes : List Lexeme} (hlex : lex sql = .ok lexemes)
    (hclause : LiteralClause ((statements lexemes).headD []) before word list tail)
    (hkind : (describeStatement sql).result.kind ≠ .set) :
    let settings := (describeStatement sql).result.settings
    let complete := list.items.map (·.complete sql.toList)
    ∃ read, settings = .ofList read ∧ ReadsLiterals sql.toList list tail read ∧
      (read = complete ↔ list.IsReadable sql.toList tail) ∧
      ((list.items.map (·.name.text)).Nodup →
        (settings = .ofList complete ↔ list.IsReadable sql.toList tail)) := by
  intro settings complete
  have hsettings : settings = .ofList (assignments sql.toList (list.lexemes ++ tail)) := by
    have hread : settings = (Facts.ofLexemes sql ((statements lexemes).headD [])).settings := by
      simp only [settings, describeStatement_of_lex_ok hlex]
      rfl
    simp only [describeStatement_of_lex_ok hlex] at hkind
    rw [hread, ← hclause.settingsLexemes_eq hkind]
    rfl
  obtain ⟨level, hlevel, hleveled⟩ := hclause.leveled (leveled_headD_statements hlex)
  have hreads := readsLiterals_of_leveled sql.toList hlevel hleveled hclause.follows
  have hcomplete := hreads.eq_complete_iff
    ((writtenIn_of_lex hlex).sublist (hclause.sublist.trans (headD_statements_sublist lexemes)))
  refine ⟨_, hsettings, hreads, hcomplete, fun hnames => ?_⟩
  have hcompleteNames : complete.map Prod.fst = list.items.map (·.name.text) := by
    rw [List.map_map]
    rfl
  rw [hsettings, OrderedMap.ofList_inj (hreads.names_sublist.nodup hnames)
    (hcompleteNames ▸ hnames), hcomplete]

end Statement

/-- Two settings, the first of which is an array. -/
def arraySettings : LiteralList where
  front := [(
    { name := ⟨.word, "a", 18, 19, 0⟩
      equals := ⟨.symbol, "=", 20, 21, 0⟩
      value := ⟨.symbol, "[", 22, 23, 0⟩ ::
        ([⟨.number, "1", 23, 24, 0⟩, ⟨.symbol, ",", 24, 25, 0⟩, ⟨.number, "2", 26, 27, 0⟩] ++
          [⟨.symbol, "]", 27, 28, 0⟩])
      isIdentifier_name := by decide +kernel
      isSymbol_equals := by decide +kernel
      isLiteral_value := @IsLiteral.group .square _ _ _ (by decide +kernel) (by decide +kernel)
        (.of_parts (by decide +kernel)) },
    ⟨⟨.symbol, ",", 28, 29, 0⟩, by decide +kernel⟩)]
  last :=
    { name := ⟨.word, "b", 30, 31, 0⟩
      equals := ⟨.symbol, "=", 32, 33, 0⟩
      value := [⟨.number, "3", 34, 35, 0⟩]
      isIdentifier_name := by decide +kernel
      isSymbol_equals := by decide +kernel
      isLiteral_value := .plain (List.forall_mem_nil _) (by decide +kernel) }

/-- The lexemes of a query with these settings. -/
def arraySettingsQuery : List Lexeme :=
  [⟨.word, "SELECT", 0, 6, 0⟩, ⟨.number, "1", 7, 8, 0⟩] ++
    ⟨.word, "SETTINGS", 9, 17, 0⟩ :: (arraySettings.lexemes ++ [])

/-- An array is cut at its first comma, and the setting behind it is lost. -/
theorem settings_arraySettings :
    let sql := "SELECT 1 SETTINGS a = [1, 2], b = 3"
    let settings := (describeStatement sql).result.settings
    let complete := arraySettings.items.map (·.complete sql.toList)
    complete = [("a", "[1, 2]"), ("b", "3")] ∧ settings ≠ .ofList complete ∧
      settings = .ofList [("a", "[1")] := by
  intro sql settings complete
  have hlex : lex sql = .ok arraySettingsQuery := Token.eq_ok_of_toOption (by decide +kernel)
  have hstatement : (statements arraySettingsQuery).headD [] = arraySettingsQuery := by
    decide +kernel
  have hclause : LiteralClause ((statements arraySettingsQuery).headD [])
      [⟨.word, "SELECT", 0, 6, 0⟩, ⟨.number, "1", 7, 8, 0⟩] ⟨.word, "SETTINGS", 9, 17, 0⟩
      arraySettings [] := by
    rw [hstatement]
    exact ⟨rfl, by decide +kernel, by decide +kernel, .nothing⟩
  have hdescribed : (describeStatement sql).result.kind ≠ .set ∧
      settings = .ofList [("a", "[1")] := by
    simp only [settings, describeStatement_of_lex_ok hlex]
    decide +kernel
  have hnames : (arraySettings.items.map (·.name.text)).Nodup := by decide +kernel
  obtain ⟨read, -, -, -, hcomplete⟩ := settings_of_literals hlex hclause hdescribed.1
  refine ⟨by decide +kernel, fun heq => ?_, hdescribed.2⟩
  have hwhole : ∀ a ∈ arraySettings.items, a.holdsComma arraySettings.depth = false :=
    fun a ha => (((hcomplete hnames).mp heq).1 a ha).1
  have hcut : ¬ ∀ a ∈ arraySettings.items, a.holdsComma arraySettings.depth = false := by
    decide +kernel
  exact hcut hwhole

/-- A numeral loses its base, and the last value takes the word `AS` of the query. -/
example : (describeStatement
    "CREATE TABLE t ENGINE = Log SETTINGS n = 0x1F, m = 8 AS SELECT 1").result.settings =
      .ofList [("n", "1F"), ("m", "8 AS")] := by decide +kernel

end SqlFacts
