import SqlFacts.Proofs.Toml.Ends

/-!
# Documents refused apart from others

A document is refused for the many digits of an integer only if it holds a row of so many digits,
and for the depth of a value only if it holds brackets and braces enough. A line that gives such a
row to a bare key is refused for it, whatever has been read before, and a line that gives it as
many brackets as the room does not do for.
-/

namespace SqlFacts.Toml

variable {room : Nat}

/-! ### Values -/

theorem reads_skipBetweenItems (inComment : Bool) (cs : List Char) :
    Reads room id cs (skipBetweenItems inComment cs) := by
  fun_induction skipBetweenItems inComment cs
  case case1 => exact .ok List.suffix_rfl
  case case2 ih => exact ih.mono (List.suffix_cons _ _)
  case case3 => exact .malformed
  case case4 ih => exact ih.mono (List.suffix_cons _ _)
  case case5 ih => exact ih.mono (List.suffix_cons _ _)
  case case6 ih => exact ih.mono (List.suffix_cons _ _)
  case case7 => exact .ok List.suffix_rfl

/-- A change of a table takes nothing of a text. -/
theorem reads_orMalformed {α : Type} (cs : List Char) (change : Option α) :
    Reads room (fun _ => cs) cs (orMalformed change) := by
  cases change with
  | none => exact .malformed
  | some a => exact .ok List.suffix_rfl

theorem reads_add (cs : List Char) (table : InlineTable) (path : Path) (value : Value) :
    Reads room (fun _ => cs) cs (table.add path value) := by
  rw [InlineTable.add]
  split
  · exact .malformed
  · exact (reads_orMalformed cs _).bind fun _ => .ok List.suffix_rfl

theorem reads_decimalOrSpecial (cs : List Char) :
    Reads room Prod.snd cs
      (((decimalNumber? cs).or (specialNumber? cs)).getD (.error .malformed)) := by
  cases hdecimal : decimalNumber? cs with
  | some read => exact reads_decimalNumber hdecimal
  | none =>
    cases hspecial : specialNumber? cs with
    | some read => exact reads_specialNumber hspecial
    | none => exact .malformed

mutual

theorem reads_valueWithin : ∀ (fuel room : Nat) (cs : List Char),
    Reads room Prod.snd cs (valueWithin fuel room cs)
  | 0, _, _ => .malformed
  | fuel + 1, room, cs => by
    rw [valueWithin.eq_def]
    dsimp only
    split
    · next rest => exact .ok (List.suffix_append ['t', 'r', 'u', 'e'] rest)
    · next rest => exact .ok (List.suffix_append ['f', 'a', 'l', 's', 'e'] rest)
    · next rest =>
      apply Reads.deeper (by decide) (by decide)
      intro room
      apply (reads_skipBetweenItems false rest).bind
      intro after
      split
      · exact .ok (List.suffix_cons _ _)
      · exact reads_arrayWithin fuel room [] _
    · next rest =>
      apply Reads.deeper (by decide) (by decide)
      intro room
      apply Reads.mono _ (skipSpace_suffix rest)
      split
      · next hclosed =>
        rw [hclosed]
        exact .ok (List.suffix_cons _ _)
      · exact reads_inlineTableWithin fuel room _ _
    · split
      · next hquoted => exact (reads_quotedText hquoted).map fun _ => rfl
      · split
        · next hmoment => exact reads_moment hmoment
        · split
          · next hradix => exact .ok (radixInteger?_suffix hradix)
          · exact reads_decimalOrSpecial cs

theorem reads_arrayWithin : ∀ (fuel room : Nat) (before : List Value) (cs : List Char),
    Reads room Prod.snd cs (arrayWithin fuel room before cs)
  | 0, _, _, _ => .malformed
  | fuel + 1, room, before, cs => by
    rw [arrayWithin.eq_def]
    dsimp only
    apply (reads_valueWithin fuel room cs).bind
    rintro ⟨item, rest⟩
    apply (reads_skipBetweenItems false rest).bind
    intro after
    split
    · exact .ok (List.suffix_cons _ _)
    · next more =>
      apply Reads.mono _ (List.suffix_cons _ more)
      apply (reads_skipBetweenItems false more).bind
      intro behind
      split
      · exact .ok (List.suffix_cons _ _)
      · exact reads_arrayWithin fuel room _ _
    · exact .malformed

theorem reads_inlineTableWithin : ∀ (fuel room : Nat) (before : InlineTable) (cs : List Char),
    Reads room Prod.snd cs (inlineTableWithin fuel room before cs)
  | 0, _, _, _ => .malformed
  | fuel + 1, room, before, cs => by
    rw [inlineTableWithin.eq_def]
    dsimp only
    apply (reads_pairWithin fuel room cs).bind
    rintro ⟨path, value, rest⟩
    apply (reads_add rest before path value).bind
    intro table
    dsimp only
    apply Reads.mono _ (skipSpace_suffix rest)
    split
    · next hclosed =>
      rw [hclosed]
      exact .ok (List.suffix_cons _ _)
    · next more hcomma =>
      rw [hcomma]
      apply Reads.mono _ ((skipSpace_suffix more).trans (List.suffix_cons _ more))
      exact reads_inlineTableWithin fuel room _ _
    · exact .malformed

theorem reads_pairWithin : ∀ (fuel room : Nat) (cs : List Char),
    Reads room (·.2.2) cs (pairWithin fuel room cs)
  | 0, _, _ => .malformed
  | fuel + 1, room, cs => by
    rw [pairWithin.eq_def]
    dsimp only
    apply (reads_key cs).bind
    rintro ⟨path, rest⟩
    dsimp only
    split
    · next rest =>
      apply Reads.mono _ ((skipSpace_suffix rest).trans (List.suffix_cons _ rest))
      apply (reads_valueWithin fuel room (skipSpace rest)).bind
      rintro ⟨value, after⟩
      exact .ok List.suffix_rfl
    · exact .malformed

end

/-! ### Documents -/

namespace Document

theorem reads_openTable (cs : List Char) (doc : Document) (path : Path) :
    Reads room (fun _ => cs) cs (doc.openTable path) := by
  rw [openTable]
  split
  · exact .malformed
  · exact (reads_orMalformed cs _).bind fun _ => .ok List.suffix_rfl

theorem reads_openItem (cs : List Char) (doc : Document) (path : Path) :
    Reads room (fun _ => cs) cs (doc.openItem path) := by
  rw [openItem]
  split
  · exact .malformed
  · exact (reads_orMalformed cs _).bind fun _ => .ok List.suffix_rfl

theorem reads_addPair (cs : List Char) (doc : Document) (path : Path) (value : Value) :
    Reads room (fun _ => cs) cs (doc.addPair path value) := by
  rw [addPair]
  dsimp only
  split
  · exact .malformed
  · exact (reads_orMalformed cs _).bind fun _ => .ok List.suffix_rfl

theorem reads_header (doc : Document) (cs : List Char) :
    Reads room Prod.snd cs (doc.readHeader cs) := by
  rw [readHeader.eq_def]
  split
  · next rest =>
    apply Reads.mono _ ((skipSpace_suffix rest).trans (List.suffix_append ['[', '['] rest))
    apply (reads_key _).bind
    rintro ⟨path, after⟩
    apply (reads_openItem after _ path).bind
    intro doc
    split
    · next behind => exact .ok (List.suffix_append [']', ']'] behind)
    · exact .malformed
  · next rest _ =>
    apply Reads.mono _ ((skipSpace_suffix rest).trans (List.suffix_cons '[' rest))
    apply (reads_key _).bind
    rintro ⟨path, after⟩
    apply (reads_openTable after _ path).bind
    intro doc
    split
    · next behind => exact .ok (List.suffix_cons ']' behind)
    · exact .malformed
  · exact .malformed

theorem reads_statement (doc : Document) (cs : List Char) :
    Reads room Prod.snd cs (doc.readStatement room cs) := by
  rw [readStatement.eq_def]
  split
  · exact .ok List.suffix_rfl
  · exact reads_header doc _
  · apply (reads_pairWithin _ room cs).bind
    rintro ⟨path, value, rest⟩
    exact (reads_addPair rest doc path value).bind fun _ => .ok List.suffix_rfl

theorem reads_lineEnd (cs : List Char) : Reads room id cs (lineEnd cs) := by
  have hspace := skipSpace_suffix cs
  rw [lineEnd.eq_def]
  split
  · exact .ok (List.nil_suffix)
  · next hend =>
    rw [hend] at hspace
    exact .ok hspace
  · next rest hcomment =>
    rw [hcomment] at hspace
    dsimp only
    split
    · exact .malformed
    · exact .ok ((List.dropWhile_suffix _).trans ((List.suffix_cons _ rest).trans hspace))
  · exact .malformed

theorem reads_readWithin (fuel : Nat) (doc : Document) (cs : List Char) :
    Reads room (fun _ => []) cs (readWithin room fuel doc cs) := by
  induction fuel generalizing doc cs with
  | zero => exact .malformed
  | succ fuel ih =>
    have hspace := skipSpace_suffix cs
    rw [readWithin]
    apply Reads.mono _ hspace
    split
    · exact .ok List.nil_suffix
    · next rest hblank =>
      rw [hblank]
      exact (ih doc rest).mono (List.suffix_cons _ _)
    · apply (reads_statement doc _).bind
      rintro ⟨doc, rest⟩
      apply (reads_lineEnd rest).bind
      intro after
      split
      · exact .ok List.nil_suffix
      · next rest => exact (ih doc rest).mono (List.suffix_cons _ _)

end Document

theorem reads_parse (room : Nat) (cs : List Char) : Reads room (fun _ => []) cs (parse room cs) :=
  (Document.reads_readWithin (cs.length + 1) .empty cs).map fun _ => rfl

/-- An integer that a document is refused for stands in the document. -/
theorem holdsLongInteger_of_parse {cs : List Char} {count : Nat}
    (h : parse room cs = .error (.integerTooLong count)) : HoldsLongInteger cs count :=
  (reads_parse room cs).holds count h

/-- A document that is refused for the depth of a value has marks enough for it. -/
theorem lt_openings_of_parse {cs : List Char} (h : parse room cs = .error .tooDeep) :
    room < tableCalls * openings cs := (reads_parse room cs).deep h

/-! ### Lines that are refused -/

/-- A row of digits that is too long for an integer, in front of the end of a line. -/
structure LongRow (digits rest : List Char) : Prop where
  isDigit : ∀ c ∈ digits, c.isDigit = true
  head : digits.head? ≠ some '0'
  long : maxIntegerDigits < digits.length
  lineEnd : rest = [] ∨ ∃ more, rest = '\n' :: more

section Line

variable {name digits rest : List Char}

/-- Digits in front of the end of a line are all read. -/
theorem moreDigits_digits (hdigits : ∀ c ∈ digits, c.isDigit = true)
    (hend : rest = [] ∨ ∃ more, rest = '\n' :: more) :
    moreDigits Char.isDigit (digits ++ rest) = (digits, rest) := by
  induction digits with
  | nil =>
    rcases hend with rfl | ⟨more, rfl⟩
    · rfl
    · rw [List.nil_append, moreDigits.eq_def]
      rfl
  | cons c digits ih =>
    obtain ⟨hc, hdigits⟩ := List.forall_mem_cons.mp hdigits
    rw [List.cons_append, moreDigits.eq_def]
    split
    · next heq =>
      obtain ⟨rfl, -⟩ := List.cons.inj heq
      cases hc
    · next heq =>
      obtain ⟨rfl, rfl⟩ := List.cons.inj heq
      rw [if_pos hc, ih hdigits]
    · next heq => cases heq

/-- A row of too many digits is refused where a number is read. -/
theorem decimalNumber?_digits (h : LongRow digits rest) :
    decimalNumber? (digits ++ rest) = some (.error (.integerTooLong digits.length)) := by
  obtain ⟨hdigits, hhead, hlong, hend⟩ := h
  cases digits with
  | nil => cases hlong
  | cons d digits =>
    obtain ⟨hd, hmore⟩ := List.forall_mem_cons.mp hdigits
    have hwhole : wholeDigits? (d :: digits ++ rest) = some (d :: digits, rest) := by
      rw [wholeDigits?.eq_def]
      split
      · next heq =>
        cases heq
        exact absurd rfl hhead
      · rw [List.cons_append, digits?, if_pos hd, moreDigits_digits hmore hend]
    have hbehind : skipExponent (skipFraction rest) = rest := by
      rcases hend with rfl | ⟨more, rfl⟩ <;> rfl
    rw [decimalNumber?.eq_def]
    split
    next negative unsigned hsign =>
    have hunsigned : unsigned = d :: digits ++ rest := by
      split at hsign
      · next heq =>
        cases heq
        cases hd
      · next heq =>
        cases heq
        cases hd
      · cases hsign
        rfl
    rw [hunsigned, hwhole, Option.map_some]
    dsimp only
    rw [hbehind, if_neg (Nat.lt_irrefl _), if_pos hlong]

/-- A row of digits is no point in time. -/
theorem moment?_digits {a b c d e : Char} {more : List Char} (hc : c.isDigit = true)
    (he : e.isDigit = true) : moment? (a :: b :: c :: d :: e :: more) = none := by
  rw [moment?.eq_def]
  split
  · next heq =>
    cases heq
    cases he
  · rw [skipTime?, skipHourMinute?.eq_def]
    split
    · next heq =>
      cases heq
      cases hc
    · rfl

/-- A row of too many digits is refused where a value is read. -/
theorem valueWithin_digits (fuel : Nat) (h : LongRow digits rest) :
    valueWithin (fuel + 1) room (digits ++ rest) = .error (.integerTooLong digits.length) := by
  have hnumber := decimalNumber?_digits h
  obtain ⟨hdigits, hhead, hlong, -⟩ := h
  obtain ⟨a, b, c, d, e, more, rfl⟩ : ∃ a b c d e more, digits = a :: b :: c :: d :: e :: more := by
    match digits with
    | a :: b :: c :: d :: e :: more => exact ⟨a, b, c, d, e, more, rfl⟩
    | [] | [_] | [_, _] | [_, _, _] | [_, _, _, _] => simp [maxIntegerDigits] at hlong
  simp only [List.forall_mem_cons] at hdigits
  obtain ⟨ha, -, hc, -, he, -⟩ := hdigits
  rw [valueWithin.eq_def]
  dsimp only
  -- A digit is the first character of no other sort of value.
  split
  iterate 4
    · next heq =>
      obtain ⟨rfl, -⟩ := List.cons.inj heq
      cases ha
  have hquoted : quotedText? (a :: b :: c :: d :: e :: more ++ rest) = none := by
    rw [quotedText?.eq_def]
    split
    iterate 4
      · next heq =>
        obtain ⟨rfl, -⟩ := List.cons.inj heq
        cases ha
    rfl
  have hradix : radixInteger? (a :: b :: c :: d :: e :: more ++ rest) = none := by
    rw [radixInteger?.eq_def]
    dsimp only
    split
    iterate 3
      · next heq =>
        obtain ⟨rfl, -⟩ := List.cons.inj heq
        exact absurd rfl hhead
    rfl
  rw [hquoted]
  dsimp only
  rw [List.cons_append, List.cons_append, List.cons_append, List.cons_append, List.cons_append]
    at hnumber hradix ⊢
  rw [moment?_digits hc he, hradix, hnumber]
  rfl

/-- A bare key in front of a blank and an equals sign is read whole. -/
theorem key_bare (hname : name ≠ []) (hbare : ∀ c ∈ name, isBareKeyChar c = true)
    (more : List Char) :
    key (name ++ ' ' :: '=' :: more) = .ok ([String.ofList name], '=' :: more) := by
  have hpart : keyPart (name ++ ' ' :: '=' :: more) =
      .ok (String.ofList name, ' ' :: '=' :: more) := by
    have hend : isBareKeyChar ' ' = false := by decide
    rw [keyPart.eq_def]
    split
    iterate 2
      · next heq =>
        obtain ⟨c, name, rfl⟩ := List.exists_cons_of_ne_nil hname
        obtain ⟨rfl, -⟩ := List.cons.inj heq
        exact absurd (hbare _ List.mem_cons_self) (by decide)
    rw [List.takeWhile_append_of_pos hbare, List.dropWhile_append_of_pos hbare,
      List.takeWhile_cons_of_neg (by rw [hend]; exact Bool.false_ne_true),
      List.dropWhile_cons_of_neg (by rw [hend]; exact Bool.false_ne_true), List.append_nil]
    dsimp only
    rw [if_neg (by simpa using hname)]
  rw [key, keyWithin, hpart]
  rfl

/-- There is no blank in front of a character of a bare key. -/
theorem skipSpace_bare {c : Char} (hc : isBareKeyChar c = true) (more : List Char) :
    skipSpace (c :: more) = c :: more := by
  rw [skipSpace, List.dropWhile_cons_of_neg]
  intro hspace
  rw [isSpace, Bool.or_eq_true, beq_iff_eq, beq_iff_eq] at hspace
  rcases hspace with rfl | rfl <;> exact absurd hc (by decide)

theorem LongRow.skipSpace (h : LongRow digits rest) :
    Toml.skipSpace (' ' :: (digits ++ rest)) = digits ++ rest := by
  obtain ⟨hdigits, -, hlong, -⟩ := h
  cases digits with
  | nil => cases hlong
  | cons d digits =>
    have hd := hdigits d List.mem_cons_self
    have hbare : isBareKeyChar d = true := by simp [isBareKeyChar, Char.isAlphanum, hd]
    rw [Toml.skipSpace, List.dropWhile_cons_of_pos (by decide)]
    exact skipSpace_bare hbare _

/-- The line that gives a bare key a value that is refused is refused for it, whatever has been read
before. -/
theorem readWithin_refused (fuel : Nat) (doc : Document) (hname : name ≠ [])
    (hbare : ∀ c ∈ name, isBareKeyChar c = true) {text : List Char} {error : Error}
    (hspace : skipSpace (' ' :: text) = text)
    (h : ∀ fuel, 4 * text.length ≤ fuel → valueWithin (fuel + 1) room text = .error error) :
    Document.readWithin room (fuel + 1) doc (name ++ ' ' :: '=' :: ' ' :: text) =
      .error error := by
  obtain ⟨c, name, rfl⟩ := List.exists_cons_of_ne_nil hname
  have hc := hbare c List.mem_cons_self
  have hstatement : doc.readStatement room (c :: name ++ ' ' :: '=' :: ' ' :: text) =
      .error error := by
    rw [Document.readStatement.eq_def]
    split
    iterate 2
      · next heq =>
        obtain ⟨rfl, -⟩ := List.cons.inj heq
        exact absurd hc (by decide)
    rw [pair, pairWithin, key_bare hname hbare]
    simp only [bind, Except.bind]
    rw [hspace, h]
    simp only [List.length_append, List.length_cons]
    omega
  rw [Document.readWithin, List.cons_append, skipSpace_bare hc, ← List.cons_append]
  split
  · next heq => cases heq
  · next heq =>
    obtain ⟨rfl, -⟩ := List.cons.inj heq
    exact absurd hc (by decide)
  · rw [hstatement]
    rfl

/-- A document that begins with a line that gives an integer of too many digits to a bare key is
refused for it. -/
theorem parse_longInteger (hname : name ≠ [])
    (hbare : ∀ c ∈ name, isBareKeyChar c = true) (h : LongRow digits rest) :
    parse room (name ++ ' ' :: '=' :: ' ' :: (digits ++ rest)) =
      .error (.integerTooLong digits.length) := by
  rw [parse, readWithin_refused _ _ hname hbare h.skipSpace fun _ _ => valueWithin_digits _ h]
  rfl

/-! ### Rows of brackets -/

/-- A row of brackets is too deep for a room that does not have the calls for all of them, whatever
follows the row. -/
theorem valueWithin_brackets {count fuel : Nat} (hroom : room < arrayCalls * count)
    (hfuel : 2 * count ≤ fuel) (rest : List Char) :
    valueWithin fuel room (List.replicate count '[' ++ rest) = .error .tooDeep := by
  induction count generalizing room fuel with
  | zero => cases hroom
  | succ count ih =>
    obtain ⟨fuel, rfl⟩ : ∃ n, fuel = n + 2 := ⟨fuel - 2, by omega⟩
    rw [List.replicate_succ, List.cons_append, valueWithin.eq_def]
    simp only [deeper]
    split
    · rfl
    · next hcalls =>
      -- There is room for this bracket, so another one stands behind it.
      obtain ⟨count, rfl⟩ : ∃ n, count = n + 1 := ⟨count - 1, by rw [arrayCalls] at *; omega⟩
      have hbehind : skipBetweenItems false (List.replicate (count + 1) '[' ++ rest) =
          .ok (List.replicate (count + 1) '[' ++ rest) := rfl
      have hitem : valueWithin fuel (room - arrayCalls)
          (List.replicate (count + 1) '[' ++ rest) = .error .tooDeep :=
        ih (by rw [arrayCalls] at *; omega) (by omega)
      simp only [bind, Except.bind, hbehind]
      rw [List.replicate_succ, List.cons_append] at hitem ⊢
      split
      · next heq => cases heq
      · simp only [arrayWithin, bind, Except.bind, hitem]

/-- A document that begins with a line that gives such a row to a bare key is refused for it. -/
theorem parse_brackets (hname : name ≠ []) (hbare : ∀ c ∈ name, isBareKeyChar c = true)
    {count : Nat} (hroom : room < arrayCalls * count) (rest : List Char) :
    parse room (name ++ ' ' :: '=' :: ' ' :: (List.replicate count '[' ++ rest)) =
      .error .tooDeep := by
  have hspace : skipSpace (' ' :: (List.replicate count '[' ++ rest)) =
      List.replicate count '[' ++ rest := by
    obtain ⟨count, rfl⟩ : ∃ n, count = n + 1 := ⟨count - 1, by rw [arrayCalls] at *; omega⟩
    rfl
  have hvalue (fuel : Nat) (hfuel : 4 * (List.replicate count '[' ++ rest).length ≤ fuel) :
      valueWithin (fuel + 1) room (List.replicate count '[' ++ rest) = .error .tooDeep := by
    rw [List.length_append, List.length_replicate] at hfuel
    exact valueWithin_brackets hroom (by omega) rest
  rw [parse, readWithin_refused _ _ hname hbare hspace hvalue]
  rfl

end Line

end SqlFacts.Toml
