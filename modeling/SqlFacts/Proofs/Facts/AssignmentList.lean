import SqlFacts.Proofs.Facts.Settings
import SqlFacts.Proofs.OrderedMap

/-!
# Lists of assignments

Assignments `name = value, ...` written at one depth are read back one by one, wherever the list
stands and whatever ends it: the end of the text, a closing keyword, or a comma that no assignment
follows. As settings, a name that is given again keeps its place and takes the later value.
-/

namespace SqlFacts

open Lexeme

/-- An assignment written at the given depth: a name, an equals sign, and the lexemes of the value,
none of which ends a value there. -/
structure Assignment (depth : Int) where
  name : Lexeme
  equals : Lexeme
  first : Lexeme
  others : List Lexeme
  isIdentifier_name : name.isIdentifier = true
  isSymbol_equals : equals.isSymbol "=" = true
  value_open : ∀ lx ∈ first :: others, endsValue depth lx = false

/-- A comma at the given depth. -/
structure Comma (depth : Int) where
  lexeme : Lexeme
  isSymbol_lexeme : lexeme.isSymbol "," = true
  depth_lexeme : lexeme.depth = depth

/-- Assignments with a comma between every two of them, at the depth of the first name. -/
structure AssignmentList where
  depth : Int
  head : Assignment depth
  depth_head : head.name.depth = depth
  more : List (Comma depth × Assignment depth)

/-- Tests whether a list begins with a name, an equals sign and a lexeme that may begin a value. -/
def opensAssignment (depth : Int) : List Lexeme → Bool
  | name :: equals :: first :: _ =>
    name.isIdentifier && equals.isSymbol "=" && !endsValue depth first
  | _ => false

/-- What may follow a list of assignments: nothing, a closing keyword, or a comma without an
assignment behind it. -/
inductive EndsAssignments (depth : Int) : List Lexeme → Prop
  | nothing : EndsAssignments depth []
  | keyword {word : Lexeme} (hdepth : word.depth = depth)
      (hword : word.isWord settingsEndWords = true) (behind : List Lexeme) :
      EndsAssignments depth (word :: behind)
  | comma (comma : Comma depth) {behind : List Lexeme}
      (hbehind : opensAssignment depth behind = false) :
      EndsAssignments depth (comma.lexeme :: behind)

namespace Assignment

variable {depth : Int}

/-- The lexemes of an assignment. -/
def lexemes (a : Assignment depth) : List Lexeme := a.name :: a.equals :: a.first :: a.others

/-- The last lexeme of the value. -/
def last (a : Assignment depth) : Lexeme := (a.first :: a.others).getLast (List.cons_ne_nil _ _)

/-- The value that is assigned: the content of a literal that stands alone, else the source from
the first to the last lexeme. -/
def value (source : List Char) (a : Assignment depth) : String :=
  match a.others with
  | [] => if a.first.isString then a.first.text else Text.sliceText source a.first.start a.last.stop
  | _ :: _ => Text.sliceText source a.first.start a.last.stop

/-- The name with the value that it is assigned. -/
def entry (source : List Char) (a : Assignment depth) : String × String :=
  (a.name.text, a.value source)

theorem beginsAssignment_lexemes (a : Assignment depth) :
    (a.name.isIdentifier && a.equals.isSymbol "=") = true := by
  rw [a.isIdentifier_name, a.isSymbol_equals]
  rfl

/-- The value is the text that is read for it. -/
theorem valueText_eq (source : List Char) (a : Assignment depth) :
    valueText source a.first a.others = a.value source := by
  have hlast : a.others.getLast?.getD a.first = a.last := by
    rw [last, List.getLast_eq_getLastD, List.getLastD_eq_getLast?]
  rw [valueText, hlast, value]
  cases a.others with
  | nil => rfl
  | cons next others => rfl

end Assignment

theorem Comma.endsValue_lexeme {depth : Int} (c : Comma depth) :
    endsValue depth c.lexeme = true := by
  rw [endsValue, c.depth_lexeme, c.isSymbol_lexeme, Bool.true_or, Bool.and_true, beq_self_eq_true]

/-- The lexemes of assignments with commas between them. -/
def joinAssignments {depth : Int} (head : Assignment depth) :
    List (Comma depth × Assignment depth) → List Lexeme
  | [] => head.lexemes
  | (comma, next) :: more => head.lexemes ++ comma.lexeme :: joinAssignments next more

namespace AssignmentList

/-- The lexemes of a list of assignments. -/
def lexemes (list : AssignmentList) : List Lexeme := joinAssignments list.head list.more

/-- The names with the values that they are assigned, in order. -/
def entries (source : List Char) (list : AssignmentList) : List (String × String) :=
  list.head.entry source :: list.more.map (·.2.entry source)

end AssignmentList

/-! ### Reading -/

section Reading

variable {depth : Int}

/-- The lexemes that the last assignment has taken are passed over. -/
theorem assignmentsAt_append (source : List Char) (depth : Int) (front back : List Lexeme) :
    assignmentsAt source depth front.length (front ++ back) =
      assignmentsAt source depth 0 back := by
  induction front with
  | nil => rfl
  | cons lx front ih => exact ih

/-- Where no assignment opens none is read. -/
theorem assignmentsAt_of_not_opens {lexemes : List Lexeme}
    (h : opensAssignment depth lexemes = false) (source : List Char) :
    assignmentsAt source depth 0 lexemes = [] := by
  match lexemes with
  | [] => rfl
  | [_] => rfl
  | [_, _] => rfl
  | _ :: _ :: _ :: _ => exact assignmentsAt_eq_nil h

/-- An assignment in front of a comma is read, and what follows the comma is read next. -/
theorem assignmentsAt_lexemes_comma (source : List Char) (a : Assignment depth)
    (comma : Comma depth) (behind : List Lexeme) :
    assignmentsAt source depth 0 (a.lexemes ++ comma.lexeme :: behind) =
      a.entry source :: assignmentsAt source depth 0 behind := by
  have htaken : a.equals :: a.first :: (a.others ++ comma.lexeme :: behind) =
      (a.equals :: a.first :: (a.others ++ [comma.lexeme])) ++ behind := by simp
  have hlength : a.others.length + 3 =
      (a.equals :: a.first :: (a.others ++ [comma.lexeme])).length := by simp
  have hread : assignmentsAt source depth 0 (a.lexemes ++ comma.lexeme :: behind) = _ :=
    assignmentsAt_closed a.beginsAssignment_lexemes a.value_open comma.endsValue_lexeme
  rw [comma.isSymbol_lexeme, if_pos rfl, a.valueText_eq] at hread
  calc
    assignmentsAt source depth 0 (a.lexemes ++ comma.lexeme :: behind)
      = a.entry source :: assignmentsAt source depth (a.others.length + 3)
          (a.equals :: a.first :: (a.others ++ comma.lexeme :: behind)) := hread
    _ = a.entry source :: assignmentsAt source depth 0 behind := by
      rw [htaken, hlength, assignmentsAt_append]

/-- The last assignment of a list is read, and nothing behind it. -/
theorem assignmentsAt_lexemes_end (source : List Char) (a : Assignment depth)
    {tail : List Lexeme} (htail : EndsAssignments depth tail) :
    assignmentsAt source depth 0 (a.lexemes ++ tail) = [a.entry source] := by
  cases htail with
  | nothing =>
    rw [List.append_nil]
    have hread : assignmentsAt source depth 0 a.lexemes = _ :=
      assignmentsAt_open a.beginsAssignment_lexemes a.value_open
    rwa [a.valueText_eq] at hread
  | @keyword word hdepth hword behind =>
    have hends : endsValue depth word = true := by
      rw [endsValue, hdepth, hword, Bool.or_true, Bool.and_true, beq_self_eq_true]
    have hcomma : word.isSymbol "," = false := by
      apply Bool.eq_false_iff.mpr
      intro hsymbol
      rw [isWord_of_isSymbol hsymbol] at hword
      cases hword
    have hread : assignmentsAt source depth 0 (a.lexemes ++ word :: behind) = _ :=
      assignmentsAt_closed a.beginsAssignment_lexemes a.value_open hends
    rw [hcomma, a.valueText_eq] at hread
    exact hread
  | comma comma hbehind =>
    rw [assignmentsAt_lexemes_comma, assignmentsAt_of_not_opens hbehind]

/-- Assignments with commas between them are read one by one. -/
theorem assignmentsAt_join (source : List Char) (head : Assignment depth)
    (more : List (Comma depth × Assignment depth)) {tail : List Lexeme}
    (htail : EndsAssignments depth tail) :
    assignmentsAt source depth 0 (joinAssignments head more ++ tail) =
      head.entry source :: more.map (·.2.entry source) := by
  -- The induction is on the assignments behind the first one, whichever that is.
  induction more generalizing head with
  | nil => exact assignmentsAt_lexemes_end source head htail
  | cons item more ih =>
    obtain ⟨comma, next⟩ := item
    rw [joinAssignments, List.append_assoc, List.cons_append, assignmentsAt_lexemes_comma, ih,
      List.map_cons]

/-- Assignments written one after the other, with commas between them, are the settings that are
read where they begin: wherever that is in a text and whatever ends them, a name stands where it is
given first and has the value that it is given last. -/
theorem assignments_of_list (source : List Char) (front : List Lexeme) (list : AssignmentList)
    {tail : List Lexeme} (htail : EndsAssignments list.depth tail) :
    let read := assignments source ((front ++ list.lexemes ++ tail).drop front.length)
    read = list.entries source ∧
      (OrderedMap.ofList read).keys = ((list.entries source).map Prod.fst).eraseDups ∧
      ∀ name, (OrderedMap.ofList read).get? name = (list.entries source).reverse.lookup name := by
  intro read
  have hread : read = list.entries source := by
    obtain ⟨rest, hrest⟩ : ∃ rest, list.lexemes ++ tail = list.head.name :: rest := by
      rw [AssignmentList.lexemes]
      cases list.more with
      | nil => exact ⟨_, rfl⟩
      | cons item more => exact ⟨_, rfl⟩
    have hstart : (front ++ list.lexemes ++ tail).drop front.length =
        list.head.name :: rest := by
      rw [List.append_assoc, List.drop_left, hrest]
    calc
      read = assignments source (list.head.name :: rest) := congrArg (assignments source) hstart
      _ = assignmentsAt source list.depth 0 (list.lexemes ++ tail) := by
        rw [assignments, list.depth_head, hrest]
      _ = list.entries source := assignmentsAt_join source list.head list.more htail
  refine ⟨hread, ?_, ?_⟩
  · rw [OrderedMap.keys_ofList, hread]
  · intro name
    rw [OrderedMap.get?_ofList, hread]

end Reading

/-- Three assignments, the last of which gives the first name again. -/
def repeatedSetting : AssignmentList where
  depth := 0
  head := ⟨⟨.word, "a", 9, 10, 0⟩, ⟨.symbol, "=", 11, 12, 0⟩, ⟨.number, "1", 13, 14, 0⟩, [],
    by decide +kernel, by decide +kernel, by decide +kernel⟩
  depth_head := rfl
  more := [
    (⟨⟨.symbol, ",", 14, 15, 0⟩, by decide +kernel, rfl⟩,
      ⟨⟨.word, "b", 16, 17, 0⟩, ⟨.symbol, "=", 18, 19, 0⟩, ⟨.string, "x", 20, 23, 0⟩, [],
        by decide +kernel, by decide +kernel, by decide +kernel⟩),
    (⟨⟨.symbol, ",", 23, 24, 0⟩, by decide +kernel, rfl⟩,
      ⟨⟨.word, "a", 25, 26, 0⟩, ⟨.symbol, "=", 27, 28, 0⟩, ⟨.symbol, "(", 29, 30, 0⟩,
        [⟨.number, "2", 30, 31, 1⟩, ⟨.symbol, ",", 31, 32, 1⟩, ⟨.number, "3", 33, 34, 1⟩,
          ⟨.symbol, ")", 34, 35, 0⟩],
        by decide +kernel, by decide +kernel, by decide +kernel⟩)]

/-- A name that is given again keeps its place and takes the later value, commas inside its
parentheses included. -/
theorem settings_repeatedSetting :
    let sql := "SETTINGS a = 1, b = 'x', a = (2, 3) FORMAT JSON"
    let front : List Lexeme := [⟨.word, "SETTINGS", 0, 8, 0⟩]
    let tail : List Lexeme := [⟨.word, "FORMAT", 36, 42, 0⟩, ⟨.word, "JSON", 43, 47, 0⟩]
    let read := assignments sql.toList ((front ++ repeatedSetting.lexemes ++ tail).drop 1)
    lex sql = .ok (front ++ repeatedSetting.lexemes ++ tail) ∧
      EndsAssignments repeatedSetting.depth tail ∧
      (OrderedMap.ofList read).keys = ["a", "b"] ∧
      (OrderedMap.ofList read).get? "a" = some "(2, 3)" ∧
      (OrderedMap.ofList read).get? "b" = some "x" := by
  intro sql front tail read
  have hlex : lex sql = .ok (front ++ repeatedSetting.lexemes ++ tail) :=
    Token.eq_ok_of_toOption (by decide +kernel)
  have hword : isWord settingsEndWords ⟨.word, "FORMAT", 36, 42, 0⟩ = true := by decide +kernel
  have htail : EndsAssignments repeatedSetting.depth tail := .keyword rfl hword _
  obtain ⟨-, hkeys, hvalues⟩ := assignments_of_list sql.toList front repeatedSetting htail
  refine ⟨hlex, htail, hkeys.trans ?_, (hvalues "a").trans ?_, (hvalues "b").trans ?_⟩
  · decide +kernel
  · decide +kernel
  · decide +kernel

end SqlFacts
