import SqlFacts.Proofs.Facts.Settings

/-!
# Assignments in a group

A value of a setting ends at a comma or a closing keyword at the depth of its list. So inside a
group a value that nothing in the list ends goes on behind the group: it takes up the closing
parenthesis and all that follows it. Every assignment but that one is read as it is outside.
-/

namespace SqlFacts

open Lexeme

namespace Lexeme

/-- A lexeme behind one more character and inside one more group. -/
def nest (lx : Lexeme) : Lexeme := { lx.move 1 with depth := lx.depth + 1 }

end Lexeme

/-- The assignment that the end of a list leaves open, with the lexemes of its value, which may be
missing. `taken` counts the lexemes in front that the last assignment has taken. -/
def openAssignment? (depth : Int) : (taken : Nat) → List Lexeme → Option (String × List Lexeme)
  | taken + 1, _ :: lexemes => openAssignment? depth taken lexemes
  | 0, name :: equals :: rest =>
    if name.isIdentifier && equals.isSymbol "=" then
      let value := rest.takeWhile (!endsValue depth ·)
      match rest.dropWhile (!endsValue depth ·) with
      | [] => some (name.text, value)
      | last :: _ =>
        if !value.isEmpty && last.isSymbol "," then
          openAssignment? depth (value.length + 2) (equals :: rest)
        else none
    else none
  | _, _ => none

/-- Settings with the value of an assignment left open, told by its lexemes. -/
def withOpenValue (settings : OrderedMap String) (text : List Lexeme → String) :
    Option (String × List Lexeme) → OrderedMap String
  | none => settings
  | some (name, value) => settings.insert name (text value)

/-- A map with values given to names one after the other. -/
def OrderedMap.insertAll (m : OrderedMap String) (entries : List (String × String)) :
    OrderedMap String :=
  entries.foldl (fun m entry => m.insert entry.1 entry.2) m

/-! ### Assignments left open -/

section Open

variable {depth : Int} {name equals last : Lexeme} {value : List Lexeme}

/-- An assignment without an end is left open. -/
theorem openAssignment?_open (hname : (name.isIdentifier && equals.isSymbol "=") = true)
    (hvalue : ∀ lx ∈ value, endsValue depth lx = false) :
    openAssignment? depth 0 (name :: equals :: value) = some (name.text, value) := by
  obtain ⟨htake, hdrop⟩ := split_of_open hvalue
  simp only [openAssignment?, hname, htake, hdrop, if_true]

/-- An assignment with an end is not left open, but one behind a comma may be. -/
theorem openAssignment?_closed (hname : (name.isIdentifier && equals.isSymbol "=") = true)
    (hvalue : ∀ lx ∈ value, endsValue depth lx = false) (hlast : endsValue depth last = true)
    (behind : List Lexeme) :
    openAssignment? depth 0 (name :: equals :: (value ++ last :: behind)) =
      if !value.isEmpty && last.isSymbol "," then
        openAssignment? depth (value.length + 2) (equals :: (value ++ last :: behind))
      else none := by
  obtain ⟨htake, hdrop⟩ := split_of_closed hvalue hlast behind
  simp only [openAssignment?, hname, htake, hdrop, if_true]

/-- Where no assignment begins none is left open. -/
theorem openAssignment?_of_not_begins {lexemes : List Lexeme}
    (h : beginsAssignment lexemes = false) : openAssignment? depth 0 lexemes = none := by
  match lexemes with
  | [] => rfl
  | [_] => rfl
  | name :: equals :: rest =>
    have hnone : (name.isIdentifier && equals.isSymbol "=") = false := h
    simp only [openAssignment?, hnone]
    rfl

end Open

/-! ### Assignments in front of a closing parenthesis -/

section Assignments

variable {whole part : List Char} {depth : Int} {paren : Lexeme} {trailing : List Lexeme}

/-- The text of a value that is left open in front of a closing parenthesis: all up to the end. -/
def openText (whole : List Char) (paren : Lexeme) (trailing value : List Lexeme) : String :=
  Text.sliceText whole ((value.head?.map (·.start + 1)).getD paren.start)
    (trailing.getLast?.getD paren).stop

/-- A list that goes on with a closing parenthesis ends in what stands behind it. -/
theorem getLast?_append_paren (front : List Lexeme) :
    (front ++ paren :: trailing).getLast? = some (trailing.getLast?.getD paren) := by
  rw [List.getLast?_append, List.getLast?_cons]
  rfl

/-- A value that is missing takes up the closing parenthesis and what stands behind it. -/
theorem valueText_paren (hparen : paren.isSymbol ")" = true) :
    valueText whole paren trailing = openText whole paren trailing [] := by
  rw [valueText, isString_of_isSymbol hparen, Bool.and_false]
  rfl

/-- A value without an end takes up the closing parenthesis and what stands behind it. -/
theorem valueText_nest_append (first : Lexeme) (others : List Lexeme) :
    valueText whole first.nest (others.map nest ++ paren :: trailing) =
      openText whole paren trailing (first :: others) := by
  have hmore : (others.map nest ++ paren :: trailing).isEmpty = false := by simp
  rw [valueText, hmore, Bool.false_and, getLast?_append_paren]
  rfl

/-- A lexeme ends a value inside a group if it does outside. -/
theorem endsValue_nest (lx : Lexeme) : endsValue (depth + 1) lx.nest = endsValue depth lx := by
  have hdepth : (lx.depth + 1 == depth + 1) = (lx.depth == depth) := by
    rw [Bool.eq_iff_iff, beq_iff_eq, beq_iff_eq, Int.add_left_inj]
  show (lx.depth + 1 == depth + 1 && _) = _
  rw [hdepth]
  rfl

/-- An assignment begins in front of a closing parenthesis only where it begins without it. -/
theorem beginsAssignment_nest_append (hparen : paren.isSymbol ")" = true)
    (trailing lexemes : List Lexeme) :
    beginsAssignment (lexemes.map nest ++ paren :: trailing) = beginsAssignment lexemes := by
  match lexemes with
  | [] =>
    cases trailing with
    | nil => rfl
    | cons equals rest =>
      show (paren.isIdentifier && equals.isSymbol "=") = false
      rw [isIdentifier_of_isSymbol hparen, Bool.false_and]
  | [name] =>
    show (name.isIdentifier && paren.isSymbol "=") = false
    rw [isSymbol_of_isSymbol hparen]
    exact Bool.and_false _
  | _ :: _ :: _ => rfl

/-- The assignments of a list are kept inside a group, in front of its closing parenthesis and the
given lexemes, save that the value of the one left open takes up all the rest. -/
def KeptInGroup (whole part : List Char) (depth : Int) (paren : Lexeme) (trailing : List Lexeme)
    (taken : Nat) (lexemes : List Lexeme) : Prop :=
  ∀ settings : OrderedMap String,
    settings.insertAll
        (assignmentsAt whole (depth + 1) taken (lexemes.map nest ++ paren :: trailing)) =
      withOpenValue (settings.insertAll (assignmentsAt part depth taken lexemes))
        (openText whole paren trailing) (openAssignment? depth taken lexemes)

/-- A list without an assignment in front has none in a group either. -/
theorem keptInGroup_of_not_begins (hparen : paren.isSymbol ")" = true) {lexemes : List Lexeme}
    (h : beginsAssignment lexemes = false) :
    KeptInGroup whole part depth paren trailing 0 lexemes := by
  intro settings
  have hnested := (beginsAssignment_nest_append hparen trailing lexemes).trans h
  rw [assignmentsAt_of_not_begins h, assignmentsAt_of_not_begins hnested,
    openAssignment?_of_not_begins h]
  rfl

variable {name equals : Lexeme}

/-- An assignment without an end takes up all the rest. -/
theorem keptInGroup_open (hparen : paren.isSymbol ")" = true)
    (houter : ∀ lx ∈ paren :: trailing, endsValue (depth + 1) lx = false)
    (hname : (name.isIdentifier && equals.isSymbol "=") = true) {value : List Lexeme}
    (hvalue : ∀ lx ∈ value, endsValue depth lx = false) :
    KeptInGroup whole part depth paren trailing 0 (name :: equals :: value) := by
  intro settings
  have hnested : (name.nest.isIdentifier && equals.nest.isSymbol "=") = true := hname
  rw [openAssignment?_open hname hvalue, List.map_cons, List.map_cons, List.cons_append,
    List.cons_append]
  cases value with
  | nil =>
    -- Outside nothing is read; inside, the closing parenthesis begins the value.
    rw [List.map_nil, List.nil_append, assignmentsAt_open hnested houter, valueText_paren hparen]
    rfl
  | cons first others =>
    obtain ⟨hfirst, hothers⟩ := List.forall_mem_cons.mp hvalue
    have hends : ∀ lx ∈ first.nest :: (others.map nest ++ paren :: trailing),
        endsValue (depth + 1) lx = false := by
      rw [List.forall_mem_cons, List.forall_mem_append, List.forall_mem_map]
      exact ⟨(endsValue_nest first).trans hfirst,
        fun lx hlx => (endsValue_nest lx).trans (hothers lx hlx), houter⟩
    rw [List.map_cons, List.cons_append, assignmentsAt_open hnested hends,
      assignmentsAt_open hname hvalue, valueText_nest_append]
    exact (OrderedMap.insert_insert _ _ _ _).symm

/-- An assignment with an end is kept, and so are those behind it. -/
theorem keptInGroup_closed (hslice : ∀ start stop, stop ≤ part.length →
      Text.slice whole (start + 1) (stop + 1) = Text.slice part start stop)
    (hname : (name.isIdentifier && equals.isSymbol "=") = true) {value behind : List Lexeme}
    {last : Lexeme} (hinside : ∀ lx ∈ value, lx.stop ≤ part.length)
    (hvalue : ∀ lx ∈ value, endsValue depth lx = false) (hlast : endsValue depth last = true)
    (hlater : KeptInGroup whole part depth paren trailing (value.length + 2)
      (equals :: (value ++ last :: behind))) :
    KeptInGroup whole part depth paren trailing 0
      (name :: equals :: (value ++ last :: behind)) := by
  intro settings
  have hnested : (name.nest.isIdentifier && equals.nest.isSymbol "=") = true := hname
  have hlast' : endsValue (depth + 1) last.nest = true := (endsValue_nest last).trans hlast
  rw [openAssignment?_closed hname hvalue hlast behind]
  cases value with
  | nil =>
    have hnone : (name.isIdentifier && equals.isSymbol "=" && !endsValue depth last) = false := by
      rw [hlast, Bool.not_true, Bool.and_false]
    have hnone' : (name.nest.isIdentifier && equals.nest.isSymbol "=" &&
        !endsValue (depth + 1) last.nest) = false := by
      rw [hlast', Bool.not_true, Bool.and_false]
    rw [List.nil_append, assignmentsAt_eq_nil hnone]
    exact congrArg settings.insertAll (assignmentsAt_eq_nil hnone')
  | cons first others =>
    have hends : ∀ lx ∈ first.nest :: others.map nest, endsValue (depth + 1) lx = false := by
      rw [← List.map_cons, List.forall_mem_map]
      exact fun lx hlx => (endsValue_nest lx).trans (hvalue lx hlx)
    have htext := valueText_map hslice (f := nest) (fun _ => rfl) hinside
    have hcomma : last.nest.isSymbol "," = last.isSymbol "," := rfl
    specialize hlater (settings.insert name.text (valueText part first others))
    simp only [List.map_cons, List.map_append, List.cons_append, List.append_assoc] at hlater ⊢
    rw [assignmentsAt_closed hname hvalue hlast, assignmentsAt_closed hnested hends hlast', htext,
      hcomma]
    cases last.isSymbol "," with
    | false => rfl
    | true =>
      rw [List.length_map]
      exact hlater

/-- The assignments of a list are kept inside a group, save that the value of the one left open
takes up all the rest. -/
theorem keptInGroup (hslice : ∀ start stop, stop ≤ part.length →
      Text.slice whole (start + 1) (stop + 1) = Text.slice part start stop)
    (hparen : paren.isSymbol ")" = true)
    (houter : ∀ lx ∈ paren :: trailing, endsValue (depth + 1) lx = false) {lexemes : List Lexeme}
    (hinside : ∀ lx ∈ lexemes, lx.stop ≤ part.length) {taken : Nat}
    (htaken : taken ≤ lexemes.length) :
    KeptInGroup whole part depth paren trailing taken lexemes := by
  -- The lexemes of an assignment are passed over one by one while `taken` counts down, so the
  -- induction is on the list, for every count.
  induction lexemes generalizing taken with
  | nil =>
    cases Nat.le_zero.mp htaken
    exact keptInGroup_of_not_begins hparen rfl
  | cons name lexemes ih =>
    have hrest := (List.forall_mem_cons.mp hinside).2
    cases taken with
    | succ taken => exact ih hrest (Nat.le_of_succ_le_succ htaken)
    | zero =>
      cases lexemes with
      | nil => exact keptInGroup_of_not_begins hparen rfl
      | cons equals rest =>
        by_cases hname : (name.isIdentifier && equals.isSymbol "=") = true
        · rcases endsValue_cases depth rest with hnone | ⟨value, last, behind, rfl, hnone, hlast⟩
          · exact keptInGroup_open hparen houter hname hnone
          · have hvalue : ∀ lx ∈ value, lx.stop ≤ part.length := fun lx hlx =>
              hrest lx (List.mem_cons_of_mem _ (List.mem_append_left _ hlx))
            refine keptInGroup_closed hslice hname hvalue hnone hlast (ih hrest ?_)
            rw [List.length_cons, List.length_append, List.length_cons]
            omega
        · exact keptInGroup_of_not_begins hparen (Bool.eq_false_iff.mpr hname)

/-- The settings read from a list are kept inside a group, save for the value left open. -/
theorem ofList_assignments_nest (hslice : ∀ start stop, stop ≤ part.length →
      Text.slice whole (start + 1) (stop + 1) = Text.slice part start stop)
    (hparen : paren.isSymbol ")" = true) (houter : ∀ lx ∈ paren :: trailing, lx.depth = 0)
    {lexemes : List Lexeme} (hinside : ∀ lx ∈ lexemes, lx.stop ≤ part.length)
    (hdepth : ∀ lx ∈ lexemes, 0 ≤ lx.depth) :
    OrderedMap.ofList (assignments whole (lexemes.map nest ++ paren :: trailing)) =
      withOpenValue (OrderedMap.ofList (assignments part lexemes)) (openText whole paren trailing)
        (lexemes.head?.bind fun first => openAssignment? first.depth 0 lexemes) := by
  cases lexemes with
  | nil =>
    have hnone : beginsAssignment ([].map nest ++ paren :: trailing) = false :=
      beginsAssignment_nest_append hparen trailing []
    rw [assignments_of_not_begins hnone]
    rfl
  | cons first rest =>
    have hends : ∀ lx ∈ paren :: trailing, endsValue (first.depth + 1) lx = false := by
      intro lx hlx
      have hne : lx.depth ≠ first.depth + 1 := by
        rw [houter lx hlx]
        have := hdepth first List.mem_cons_self
        omega
      rw [endsValue, beq_eq_false_iff_ne.mpr hne, Bool.false_and]
    exact keptInGroup hslice hparen hends hinside (Nat.zero_le _) .empty

end Assignments

end SqlFacts
