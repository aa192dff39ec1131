import SqlFacts.Facts.Settings
import SqlFacts.Proofs.Aligned.Lists
import SqlFacts.Proofs.Lexeme.Order

/-!
# Settings of a statement

The settings are the assignments in front of one list of lexemes, those behind the word `SETTINGS`
or the verb of a `SET`. They are the same when the statement is moved inside a text.
-/

namespace SqlFacts

open Lexeme

/-- The lexemes that the settings of a statement are read from. -/
def settingsLexemes (lexemes : List Lexeme) (kind : Kind) (head : Option Nat) : List Lexeme :=
  match kind, head with
  | .set, some head => lexemes.drop (head + 1)
  | _, _ => (afterWord? [Keyword.settings.name] (bodyDepth lexemes head) lexemes).getD []

/-- The settings of a statement are the assignments in front of the lexemes that they are read
from. -/
theorem readSettings_eq (sql : String) (lexemes : List Lexeme) (kind : Kind) (head : Option Nat) :
    readSettings sql lexemes kind head =
      .ofList (assignments sql.toList (settingsLexemes lexemes kind head)) := rfl

/-- The settings of a statement that is no `SET` are read behind the word `SETTINGS`. -/
theorem settingsLexemes_of_ne_set {kind : Kind} (h : kind ≠ .set) (lexemes : List Lexeme)
    (head : Option Nat) :
    settingsLexemes lexemes kind head =
      (afterWord? [Keyword.settings.name] (bodyDepth lexemes head) lexemes).getD [] := by
  rw [settingsLexemes.eq_def]
  split
  · contradiction
  · rfl

/-- An assignment reaches up to the end of its value, and a comma leads to the next one. -/
theorem assignmentsAt_zero (source : List Char) (depth : Int) (name equals first : Lexeme)
    (rest : List Lexeme) :
    assignmentsAt source depth 0 (name :: equals :: first :: rest) =
      if name.isIdentifier && equals.isSymbol "=" && !endsValue depth first then
        if startsWith (isSymbol ",") (rest.dropWhile (!endsValue depth ·)) then
          (name.text, valueText source first (rest.takeWhile (!endsValue depth ·))) ::
            assignmentsAt source depth ((rest.takeWhile (!endsValue depth ·)).length + 3)
              (equals :: first :: rest)
        else [(name.text, valueText source first (rest.takeWhile (!endsValue depth ·)))]
      else [] := rfl

/-- Tests whether a list begins with a name and an equals sign. -/
def beginsAssignment : List Lexeme → Bool
  | name :: equals :: _ => name.isIdentifier && equals.isSymbol "="
  | _ => false

/-- Without a name and an equals sign in front of a list there are no assignments. -/
theorem assignmentsAt_of_not_begins {lexemes : List Lexeme} (h : beginsAssignment lexemes = false)
    (source : List Char) (depth : Int) : assignmentsAt source depth 0 lexemes = [] := by
  match lexemes with
  | [] => rfl
  | [_] => rfl
  | [_, _] => rfl
  | name :: equals :: first :: rest =>
    have hnone : (name.isIdentifier && equals.isSymbol "=") = false := h
    rw [assignmentsAt_zero, hnone]
    rfl

/-- Without a name and an equals sign in front of a list no settings are read from it. -/
theorem assignments_of_not_begins {lexemes : List Lexeme} (h : beginsAssignment lexemes = false)
    (source : List Char) : assignments source lexemes = [] := by
  cases lexemes with
  | nil => rfl
  | cons first rest => exact assignmentsAt_of_not_begins h source first.depth

/-- A list has no end of a value, or one that is the first. -/
theorem endsValue_cases (depth : Int) (lexemes : List Lexeme) :
    (∀ lx ∈ lexemes, endsValue depth lx = false) ∨
      ∃ value last behind, lexemes = value ++ last :: behind ∧
        (∀ lx ∈ value, endsValue depth lx = false) ∧ endsValue depth last = true := by
  induction lexemes with
  | nil => exact .inl (List.forall_mem_nil _)
  | cons lx lexemes ih =>
    by_cases hends : endsValue depth lx = true
    · exact .inr ⟨[], lx, lexemes, rfl, List.forall_mem_nil _, hends⟩
    · rw [Bool.not_eq_true] at hends
      rcases ih with hnone | ⟨value, last, behind, rfl, hvalue, hlast⟩
      · exact .inl (List.forall_mem_cons.mpr ⟨hends, hnone⟩)
      · exact .inr ⟨lx :: value, last, behind, rfl, List.forall_mem_cons.mpr ⟨hends, hvalue⟩,
          hlast⟩

section Assignment

variable {source : List Char} {depth : Int} {name equals first last : Lexeme}
  {others behind : List Lexeme}

/-- Without an end of a value all of a list is a value. -/
theorem split_of_open (h : ∀ lx ∈ others, endsValue depth lx = false) :
    others.takeWhile (!endsValue depth ·) = others ∧
      others.dropWhile (!endsValue depth ·) = [] := by
  have hall : ∀ lx ∈ others, (!endsValue depth lx) = true := fun lx hlx => by
    rw [h lx hlx]
    rfl
  exact ⟨List.takeWhile_eq_self_iff.mpr hall, List.dropWhile_eq_nil_iff.mpr hall⟩

/-- A list is split in front of the first end of a value. -/
theorem split_of_closed (h : ∀ lx ∈ others, endsValue depth lx = false)
    (hlast : endsValue depth last = true) (behind : List Lexeme) :
    (others ++ last :: behind).takeWhile (!endsValue depth ·) = others ∧
      (others ++ last :: behind).dropWhile (!endsValue depth ·) = last :: behind := by
  have hall : ∀ lx ∈ others, (!endsValue depth lx) = true := fun lx hlx => by
    rw [h lx hlx]
    rfl
  rw [List.takeWhile_append_of_pos hall, List.dropWhile_append_of_pos hall, List.takeWhile_cons,
    List.dropWhile_cons, hlast]
  exact ⟨List.append_nil others, rfl⟩

/-- No assignment begins where a name, an equals sign or a value is missing. -/
theorem assignmentsAt_eq_nil
    (h : (name.isIdentifier && equals.isSymbol "=" && !endsValue depth first) = false) :
    assignmentsAt source depth 0 (name :: equals :: first :: others) = [] := by
  rw [assignmentsAt_zero, h]
  rfl

/-- An assignment without an end reaches up to the end of the list. -/
theorem assignmentsAt_open (hname : (name.isIdentifier && equals.isSymbol "=") = true)
    (hvalue : ∀ lx ∈ first :: others, endsValue depth lx = false) :
    assignmentsAt source depth 0 (name :: equals :: first :: others) =
      [(name.text, valueText source first others)] := by
  obtain ⟨hfirst, hothers⟩ := List.forall_mem_cons.mp hvalue
  obtain ⟨htake, hdrop⟩ := split_of_open hothers
  rw [assignmentsAt_zero, hname, hfirst, htake, hdrop]
  rfl

/-- An assignment with an end reaches up to it, and another one follows behind a comma. -/
theorem assignmentsAt_closed (hname : (name.isIdentifier && equals.isSymbol "=") = true)
    (hvalue : ∀ lx ∈ first :: others, endsValue depth lx = false)
    (hlast : endsValue depth last = true) :
    assignmentsAt source depth 0 (name :: equals :: first :: (others ++ last :: behind)) =
      (name.text, valueText source first others) ::
        if last.isSymbol "," then
          assignmentsAt source depth (others.length + 3)
            (equals :: first :: (others ++ last :: behind))
        else [] := by
  obtain ⟨hfirst, hothers⟩ := List.forall_mem_cons.mp hvalue
  obtain ⟨htake, hdrop⟩ := split_of_closed hothers hlast behind
  rw [assignmentsAt_zero, hname, hfirst, htake, hdrop, startsWith_cons]
  by_cases hcomma : last.isSymbol "," = true
  · simp [hcomma]
  · simp [hcomma]

end Assignment

/-! ### Moved settings -/

section Moved

variable {whole part : List Char} {distance : Nat} {lexemes : List Lexeme}

variable (hslice : ∀ start stop, stop ≤ part.length →
  Text.slice whole (start + distance) (stop + distance) = Text.slice part start stop)

include hslice

/-- A value has the same text in the part and in the whole, whatever its depth. -/
theorem valueText_map {f : Lexeme → Lexeme}
    (hmoves : ∀ lx, f lx = { lx.move distance with depth := (f lx).depth }) {first : Lexeme}
    {others : List Lexeme} (hinside : ∀ lx ∈ first :: others, lx.stop ≤ part.length) :
    valueText whole (f first) (others.map f) = valueText part first others := by
  have hlast : (others.getLast?.getD first).stop ≤ part.length := by
    cases hlast : others.getLast? with
    | none => exact hinside first List.mem_cons_self
    | some lx => exact hinside lx (List.mem_cons_of_mem _ (List.mem_of_getLast? hlast))
  have hstop : ((others.map f).getLast?.getD (f first)).stop =
      (others.getLast?.getD first).stop + distance := by
    rw [List.getLast?_map]
    cases others.getLast? with
    | none => exact congrArg stop (hmoves first)
    | some lx => exact congrArg stop (hmoves lx)
  have hstring : (f first).isString = first.isString := by
    rw [hmoves first]
    rfl
  have htext : (f first).text = first.text := by
    rw [hmoves first]
    rfl
  have hstart : (f first).start = first.start + distance := congrArg start (hmoves first)
  rw [valueText, valueText, List.isEmpty_map, hstring, htext, hstart, hstop, Text.sliceText,
    Text.sliceText, hslice _ _ hlast]

/-- The assignments in the part are those in the whole. -/
theorem assignmentsAt_map_move (hinside : ∀ lx ∈ lexemes, lx.stop ≤ part.length) (depth : Int)
    (taken : Nat) :
    assignmentsAt whole depth taken (lexemes.map (move distance)) =
      assignmentsAt part depth taken lexemes := by
  induction lexemes generalizing taken with
  | nil => cases taken <;> rfl
  | cons name lexemes ih =>
    have hrest := fun lx hlx => hinside lx (List.mem_cons_of_mem name hlx)
    cases taken with
    | succ taken => exact ih hrest taken
    | zero =>
      match lexemes with
      | [] => rfl
      | [_] => rfl
      | equals :: first :: rest =>
        have hfirst : first.stop ≤ part.length := hrest first (by simp)
        have hvalue {others : List Lexeme} (hothers : ∀ lx ∈ others, lx ∈ rest) :
            valueText whole (first.move distance) (others.map (move distance)) =
              valueText part first others := by
          refine valueText_map hslice (fun _ => rfl) (List.forall_mem_cons.mpr ⟨hfirst, ?_⟩)
          exact fun lx hlx => hrest lx (by simp [hothers lx hlx])
        have hmoved {lexemes : List Lexeme} (h : ∀ lx ∈ lexemes, endsValue depth lx = false) :
            ∀ lx ∈ lexemes.map (move distance), endsValue depth lx = false :=
          List.forall_mem_map.mpr h
        by_cases hname : (name.isIdentifier && equals.isSymbol "=" && !endsValue depth first) = true
        · rw [Bool.and_eq_true, Bool.not_eq_true'] at hname
          rcases endsValue_cases depth rest with hnone | ⟨value, last, behind, rfl, hnone, hlast⟩
          · have hends : ∀ lx ∈ first :: rest, endsValue depth lx = false :=
              List.forall_mem_cons.mpr ⟨hname.2, hnone⟩
            rw [assignmentsAt_open hname.1 hends, ← hvalue fun _ => id]
            exact assignmentsAt_open hname.1 (hmoved hends)
          · have hends : ∀ lx ∈ first :: value, endsValue depth lx = false :=
              List.forall_mem_cons.mpr ⟨hname.2, hnone⟩
            have hlater := ih hrest (value.length + 3)
            simp only [List.map_cons, List.map_append] at hlater ⊢
            rw [assignmentsAt_closed hname.1 hends hlast,
              ← hvalue fun _ hlx => List.mem_append_left _ hlx, ← hlater, ← List.length_map]
            exact assignmentsAt_closed hname.1 (hmoved hends) hlast
        · rw [Bool.not_eq_true] at hname
          rw [assignmentsAt_eq_nil hname]
          exact assignmentsAt_eq_nil hname

omit hslice in
/-- The settings of moved lexemes are read from the same lexemes, moved. -/
theorem settingsLexemes_map_move (lexemes : List Lexeme) (kind : Kind) (head : Option Nat) :
    settingsLexemes (lexemes.map (move distance)) kind head =
      (settingsLexemes lexemes kind head).map (move distance) := by
  have hdepth : bodyDepth (lexemes.map (move distance)) head = bodyDepth lexemes head := by
    cases head with
    | none => rfl
    | some head =>
      simp only [bodyDepth, Option.bind_some, List.getElem?_map, Option.map_map]
      rfl
  have hbehind : (afterWord? [Keyword.settings.name]
      (bodyDepth (lexemes.map (move distance)) head) (lexemes.map (move distance))).getD [] =
      ((afterWord? [Keyword.settings.name] (bodyDepth lexemes head) lexemes).getD []).map
        (move distance) := by
    have hword (lx : Lexeme) :
        (lx.move distance).isWordWithin [Keyword.settings.name] (bodyDepth lexemes head) =
          lx.isWordWithin [Keyword.settings.name] (bodyDepth lexemes head) := rfl
    rw [hdepth, afterWord?_map hword]
    cases afterWord? [Keyword.settings.name] (bodyDepth lexemes head) lexemes <;> rfl
  rw [settingsLexemes.eq_def, settingsLexemes.eq_def]
  split
  · exact (List.map_drop ..).symm
  · exact hbehind

omit hslice in
/-- The settings of a statement are read from its lexemes. -/
theorem settingsLexemes_sublist (lexemes : List Lexeme) (kind : Kind) (head : Option Nat) :
    (settingsLexemes lexemes kind head).Sublist lexemes := by
  rw [settingsLexemes.eq_def]
  split
  · exact List.drop_sublist _ _
  · rw [afterWord?]
    have hbehind := List.dropWhile_sublist
      (!isWordWithin [Keyword.settings.name] (bodyDepth lexemes head) ·) (l := lexemes)
    split
    · exact List.nil_sublist _
    · next lx rest hseek =>
      rw [seek] at hseek
      rw [hseek] at hbehind
      exact (List.sublist_cons_self lx rest).trans hbehind

/-- The settings of the part are those of the statement in the whole. -/
theorem readSettings_map_move {sql sql' : String} (hpart : part = sql.toList)
    (hwhole : whole = sql'.toList) (hinside : ∀ lx ∈ lexemes, lx.stop ≤ part.length)
    (kind : Kind) (head : Option Nat) :
    readSettings sql' (lexemes.map (move distance)) kind head =
      readSettings sql lexemes kind head := by
  subst hpart hwhole
  rw [readSettings_eq, readSettings_eq, settingsLexemes_map_move]
  have hmem := (settingsLexemes_sublist lexemes kind head).subset
  generalize settingsLexemes lexemes kind head = list at hmem ⊢
  cases list with
  | nil => rfl
  | cons first rest =>
    have hassignments := assignmentsAt_map_move hslice
      (fun lx hlx => hinside lx (hmem hlx)) first.depth 0
    rw [assignments, ← hassignments]
    rfl

end Moved

end SqlFacts
