import SqlFacts.Proofs.Journal.PlainText
import SqlFacts.Session

/-!
# The fields of a line

No two JSON documents are written alike on one line. Each is told apart from any other even if the
text goes on behind it, as long as it does not go on with the characters of a number. So a line of
a journal tells all that its entry holds.
-/

namespace SqlFacts

namespace Text

theorem hexDigit?_digitChar {digit : Nat} (h : digit < 16) :
    hexDigit? (Nat.digitChar digit) = some digit := by
  have hall : ∀ digit < 16, hexDigit? (Nat.digitChar digit) = some digit := by decide
  exact hall digit h

theorem hexNumber?_toDigits (n : Nat) : hexNumber? (Nat.toDigits 16 n) = some n := by
  induction n using Nat.strongRecOn with
  | ind n ih =>
    rw [Nat.toDigits_eq_if (by decide)]
    split
    · next hn => simp [hexNumber?, hexDigit?_digitChar hn]
    · next hn =>
      have hfront : hexNumber? (Nat.toDigits 16 (n / 16)) = some (n / 16) := ih _ (by omega)
      have hlast := hexDigit?_digitChar (Nat.mod_lt n (by decide : 0 < 16))
      rw [hexNumber?] at hfront ⊢
      rw [List.foldlM_append, hfront]
      simp [hlast, Nat.div_add_mod]

/-- A number is read back from its hexadecimal digits. -/
theorem hexNumber?_hexDigits (width n : Nat) : hexNumber? (hexDigits width n) = some n := by
  have hzeros (count : Nat) : hexNumber? (List.replicate count '0') = some 0 := by
    induction count with
    | zero => rfl
    | succ count ih => exact ih
  have hdigits := hexNumber?_toDigits n
  have hfront := hzeros (width - (Nat.toDigits 16 n).length)
  rw [hexNumber?] at hdigits hfront ⊢
  rw [hexDigits, List.foldlM_append, hfront]
  exact hdigits

theorem length_hexDigits_four {n : Nat} (h : n < 0x10000) : (hexDigits 4 n).length = 4 := by
  have hlength : (Nat.toDigits 16 n).length ≤ 4 :=
    (Nat.length_toDigits_le_iff (by decide) (by decide)).mpr h
  simp only [hexDigits, List.length_append, List.length_replicate]
  omega

end Text

namespace Json

open Text

/-! ### Texts -/

/-- The letters behind the backslash of an escape, with the characters that they stand for. Any
other character stands for itself. -/
def shortEscapes : List (Char × Char) :=
  [('n', '\n'), ('r', '\r'), ('t', '\t'), ('b', Char.ofNat 8), ('f', Char.ofNat 12)]

/-- The character of a pair of units. -/
def pairedChar (high low : Nat) : Char :=
  Char.ofNat (0x10000 + (high - 0xD800) * 0x400 + (low - 0xDC00))

/-- The character that is read behind a backslash, and the text behind it. -/
def readEscape? : List Char → Option (Char × List Char)
  | 'u' :: a :: b :: c :: d :: rest =>
    (hexNumber? [a, b, c, d]).bind fun unit =>
      if 0xD800 ≤ unit ∧ unit < 0xDC00 then
        match rest with
        | '\\' :: 'u' :: a :: b :: c :: d :: rest =>
          (hexNumber? [a, b, c, d]).map fun low => (pairedChar unit low, rest)
        | _ => none
      else some (Char.ofNat unit, rest)
  | letter :: rest => some ((shortEscapes.lookup letter).getD letter, rest)
  | [] => none

/-- The character that is read at the start of a written text, and the text behind it. -/
def readChar? : List Char → Option (Char × List Char)
  | [] => none
  | c :: rest => if c = '\\' then readEscape? rest else some (c, rest)

/-- The digits of a unit are four. -/
theorem exists_hexDigits_eq {unit : Nat} (h : unit < 0x10000) :
    ∃ a b c d, hexDigits 4 unit = [a, b, c, d] ∧ hexNumber? [a, b, c, d] = some unit := by
  have hlength := length_hexDigits_four h
  have hnumber := hexNumber?_hexDigits 4 unit
  match hexDigits 4 unit, hlength, hnumber with
  | [a, b, c, d], _, hnumber => exact ⟨a, b, c, d, rfl, hnumber⟩

theorem readChar?_escapedUnit {unit : Nat} (h : unit < 0x10000)
    (hsingle : ¬ (0xD800 ≤ unit ∧ unit < 0xDC00)) (rest : List Char) :
    readChar? (escapedUnit unit ++ rest) = some (Char.ofNat unit, rest) := by
  obtain ⟨a, b, c, d, hdigits, hnumber⟩ := exists_hexDigits_eq h
  rw [escapedUnit, hdigits]
  simp [readChar?, readEscape?, hnumber, hsingle]

theorem readChar?_escapedPair {high low : Nat} (hhigh : 0xD800 ≤ high ∧ high < 0xDC00)
    (hlow : low < 0x10000) (rest : List Char) :
    readChar? (escapedUnit high ++ escapedUnit low ++ rest) = some (pairedChar high low, rest) := by
  have hbound : high < 0x10000 := by omega
  obtain ⟨a, b, c, d, hdigits, hnumber⟩ := exists_hexDigits_eq hbound
  obtain ⟨a', b', c', d', hdigits', hnumber'⟩ := exists_hexDigits_eq hlow
  rw [escapedUnit, hdigits, escapedUnit, hdigits']
  simp [readChar?, readEscape?, hnumber, hnumber', hhigh]

/-- A character is no surrogate, and it has a code point of Unicode. -/
theorem toNat_lt_or_lt_toNat (c : Char) :
    c.toNat < 0xD800 ∨ 0xDFFF < c.toNat ∧ c.toNat < 0x110000 := c.valid

/-- A character is read back from its written form, whatever goes on behind it. -/
theorem readChar?_writtenChar (c : Char) (rest : List Char) :
    readChar? (writtenChar c ++ rest) = some (c, rest) := by
  have hcode {code : Nat} (h : c.toNat = code) : c = Char.ofNat code := by
    rw [← h, Char.ofNat_toNat]
  have hvalid := toNat_lt_or_lt_toNat c
  rw [writtenChar]
  split
  · next h =>
    simp only [Bool.or_eq_true, beq_iff_eq] at h
    rcases h with rfl | rfl <;> rfl
  next hplain =>
  simp only [Bool.or_eq_true, beq_iff_eq, not_or] at hplain
  -- The five characters that have escapes of their own.
  iterate 3
    split
    · next h => rw [eq_of_beq h]; rfl
  iterate 2
    split
    · next h => rw [hcode h]; rfl
  split
  · simp [readChar?, hplain.2]
  split
  · next hsmall =>
    rw [readChar?_escapedUnit hsmall (by omega), Char.ofNat_toNat]
  · next hlarge =>
    have hhigh : (c.toNat - 0x10000) / 0x400 < 0x400 := by omega
    have hsum : 0x10000 + (0xD800 + (c.toNat - 0x10000) / 0x400 - 0xD800) * 0x400 +
        (0xDC00 + (c.toNat - 0x10000) % 0x400 - 0xDC00) = c.toNat := by omega
    rw [readChar?_escapedPair (by omega) (by omega), pairedChar, hsum, Char.ofNat_toNat]

/-- No character is written with a quotation mark in front. -/
theorem writtenChar_append_ne (c : Char) (rest rest' : List Char) :
    writtenChar c ++ rest ≠ '"' :: rest' := by
  intro h
  have hread := readChar?_writtenChar c rest
  rw [h] at hread
  obtain ⟨rfl, -⟩ := Prod.mk.inj (Option.some.inj hread)
  cases h

/-- The characters of a text are told apart from those of any other, up to the quotation mark. -/
theorem flatMap_writtenChar_inj {cs ds rest rest' : List Char}
    (h : cs.flatMap writtenChar ++ '"' :: rest = ds.flatMap writtenChar ++ '"' :: rest') :
    cs = ds ∧ rest = rest' := by
  induction cs generalizing ds with
  | nil =>
    cases ds with
    | nil => exact ⟨rfl, (List.cons.inj h).2⟩
    | cons d ds =>
      rw [List.flatMap_cons, List.append_assoc] at h
      exact absurd h.symm (writtenChar_append_ne d _ _)
  | cons c cs ih =>
    rw [List.flatMap_cons, List.append_assoc] at h
    cases ds with
    | nil => exact absurd h (writtenChar_append_ne c _ _)
    | cons d ds =>
      rw [List.flatMap_cons, List.append_assoc] at h
      have hread := congrArg readChar? h
      rw [readChar?_writtenChar, readChar?_writtenChar] at hread
      obtain ⟨rfl, hbehind⟩ := Prod.mk.inj (Option.some.inj hread)
      obtain ⟨rfl, hrest⟩ := ih hbehind
      exact ⟨rfl, hrest⟩

/-! ### Values that are told apart -/

/-- Tests for a character of a number. -/
def isNumberChar (c : Char) : Bool := c.isDigit || c == '-'

/-- A text does not go on with the characters of a number. -/
def EndsNumber (rest : List Char) : Prop := ∀ c ∈ rest.head?, isNumberChar c = false

/-- A value is told by its written form from any other value, and so is what goes on behind it. -/
def ToldApart {α : Type} (write : α → String) (a : α) : Prop :=
  ∀ b rest rest', EndsNumber rest → EndsNumber rest' →
    (write a).toList ++ rest = (write b).toList ++ rest' → a = b ∧ rest = rest'

theorem endsNumber_cons {c : Char} (h : isNumberChar c = false) (rest : List Char) :
    EndsNumber (c :: rest) := by
  intro d hd
  cases hd
  exact h

theorem toldApart_writtenText (s : String) : ToldApart writtenText s := by
  intro t rest rest' _ _ h
  simp only [writtenText, String.toList_ofList, List.cons_append, List.append_assoc,
    List.nil_append, List.cons.injEq, true_and] at h
  obtain ⟨hchars, hrest⟩ := flatMap_writtenChar_inj h
  exact ⟨String.toList_inj.mp hchars, hrest⟩

theorem isDigit_of_mem_toDigits {n : Nat} {c : Char} (h : c ∈ Nat.toDigits 10 n) :
    c.isDigit = true := Nat.isDigit_of_mem_toDigits (by decide) (by decide) h

/-- A number is written with characters of a number alone. -/
theorem isNumberChar_of_mem_toString {n : Int} {c : Char} (h : c ∈ (toString n).toList) :
    isNumberChar c = true := by
  rw [toList_toString] at h
  rw [isNumberChar, Bool.or_eq_true]
  split at h
  · exact .inl (isDigit_of_mem_toDigits h)
  · rcases List.mem_cons.mp h with rfl | hdigit
    · exact .inr rfl
    · exact .inl (isDigit_of_mem_toDigits hdigit)

theorem toList_toString_ne_nil (n : Int) : (toString n).toList ≠ [] := by
  rw [toList_toString]
  split
  · exact List.ne_nil_of_length_pos Nat.length_toDigits_pos
  · exact List.cons_ne_nil _ _

/-- No two numbers are written alike. -/
theorem toString_inj {n m : Int} (h : (toString n).toList = (toString m).toList) : n = m := by
  have hdigits {k l : Nat} (h : Nat.toDigits 10 k = Nat.toDigits 10 l) : k = l := by
    have hread := congrArg (Nat.ofDigitChars 10 · 0) h
    simpa only [Nat.ofDigitChars_ten_toDigits] using hread
  have hsign {k l : Nat} (h : Nat.toDigits 10 k = '-' :: Nat.toDigits 10 l) : False := by
    have hminus := isDigit_of_mem_toDigits (h ▸ List.mem_cons_self)
    cases hminus
  rw [toList_toString, toList_toString] at h
  split at h <;> split at h
  · have := hdigits h
    omega
  · exact (hsign h).elim
  · exact (hsign h.symm).elim
  · have := hdigits (List.cons.inj h).2
    omega

theorem toldApart_toString (n : Int) : ToldApart toString n := by
  intro m rest rest' hrest hrest' h
  have htaken (k : Int) {rest : List Char} (hrest : EndsNumber rest) :
      ((toString k).toList ++ rest).takeWhile isNumberChar = (toString k).toList := by
    rw [List.takeWhile_append_of_pos fun c => isNumberChar_of_mem_toString]
    cases rest with
    | nil => simp
    | cons c rest => simp [hrest c rfl]
  have hsame : (toString n).toList = (toString m).toList := by
    rw [← htaken n hrest, h, htaken m hrest']
  rw [hsame] at h
  exact ⟨toString_inj hsame, List.append_cancel_left h⟩

/-! ### Lists of values -/

section Lists

variable {α : Type} {write : α → String} {closing : Char}

/-- The written values of a list behind its first one. -/
def behindCommas (texts : List String) : List Char :=
  texts.flatMap fun text => ',' :: ' ' :: text.toList

theorem behindCommas_cons (text : String) (texts : List String) :
    behindCommas (text :: texts) = ',' :: ' ' :: (text.toList ++ behindCommas texts) := rfl

theorem toList_intercalate_cons (text : String) (texts : List String) :
    (", ".intercalate (text :: texts)).toList = text.toList ++ behindCommas texts := by
  induction texts generalizing text with
  | nil => simp [behindCommas]
  | cons next texts ih =>
    rw [String.intercalate_cons_cons, String.toList_append, String.toList_append, ih,
      List.append_assoc]
    rfl

/-- Values behind commas do not go on with a number, up to the end of their list. -/
theorem endsNumber_behindCommas (hnumber : isNumberChar closing = false) (texts : List String)
    (rest : List Char) : EndsNumber (behindCommas texts ++ closing :: rest) := by
  cases texts with
  | nil => exact endsNumber_cons hnumber rest
  | cons text texts => exact endsNumber_cons rfl _

/-- Values behind commas are told apart up to the end of their list. -/
theorem behindCommas_inj (hcomma : closing ≠ ',') (hnumber : isNumberChar closing = false)
    {as bs : List α} {rest rest' : List Char} (hvalues : ∀ a ∈ as, ToldApart write a)
    (h : behindCommas (as.map write) ++ closing :: rest =
      behindCommas (bs.map write) ++ closing :: rest') :
    as = bs ∧ rest = rest' := by
  induction as generalizing bs with
  | nil =>
    cases bs with
    | nil => exact ⟨rfl, (List.cons.inj h).2⟩
    | cons b bs => exact absurd (List.cons.inj h).1 hcomma
  | cons a as ih =>
    cases bs with
    | nil => exact absurd (List.cons.inj h).1.symm hcomma
    | cons b bs =>
      obtain ⟨ha, has⟩ := List.forall_mem_cons.mp hvalues
      simp only [List.map_cons, behindCommas_cons, List.cons_append, List.append_assoc,
        List.cons.injEq, true_and] at h
      obtain ⟨rfl, hbehind⟩ := ha _ _ _ (endsNumber_behindCommas hnumber _ _)
        (endsNumber_behindCommas hnumber _ _) h
      obtain ⟨rfl, hrest⟩ := ih has hbehind
      exact ⟨rfl, hrest⟩

/-- Values between commas are told apart if none begins like the end of their list. -/
theorem intercalate_inj (hcomma : closing ≠ ',') (hnumber : isNumberChar closing = false)
    (hfirst : ∀ a rest rest', (write a).toList ++ rest ≠ closing :: rest')
    {as bs : List α} {rest rest' : List Char} (hvalues : ∀ a ∈ as, ToldApart write a)
    (h : (", ".intercalate (as.map write)).toList ++ closing :: rest =
      (", ".intercalate (bs.map write)).toList ++ closing :: rest') :
    as = bs ∧ rest = rest' := by
  cases as with
  | nil =>
    cases bs with
    | nil => exact ⟨rfl, (List.cons.inj h).2⟩
    | cons b bs =>
      rw [List.map_cons, toList_intercalate_cons, List.append_assoc] at h
      exact absurd h.symm (hfirst b _ _)
  | cons a as =>
    rw [List.map_cons, toList_intercalate_cons, List.append_assoc] at h
    cases bs with
    | nil => exact absurd h (hfirst a _ _)
    | cons b bs =>
      rw [List.map_cons, toList_intercalate_cons, List.append_assoc] at h
      obtain ⟨ha, has⟩ := List.forall_mem_cons.mp hvalues
      obtain ⟨rfl, hbehind⟩ := ha _ _ _ (endsNumber_behindCommas hnumber _ _)
        (endsNumber_behindCommas hnumber _ _) h
      obtain ⟨rfl, hrest⟩ := behindCommas_inj hcomma hnumber has hbehind
      exact ⟨rfl, hrest⟩

end Lists

/-! ### Documents -/

/-- What a document begins with, for a number a digit or a minus. -/
def lead : Json → Char
  | .null => 'n'
  | .bool value => if value then 't' else 'f'
  | .number _ => '-'
  | .text _ => '"'
  | .array _ => '['
  | .object _ => '\x7b'

/-- The characters of a number count as the minus. -/
def leadOf (c : Char) : Char := if isNumberChar c then '-' else c

theorem leadOf_compact (document : Json) :
    ∃ c cs, document.compact.toList = c :: cs ∧ leadOf c = document.lead := by
  cases document with
  | null => exact ⟨_, _, rfl, rfl⟩
  | bool value => cases value <;> exact ⟨_, _, rfl, rfl⟩
  | number value =>
    rw [compact]
    obtain ⟨c, cs, hwritten⟩ := List.exists_cons_of_ne_nil (toList_toString_ne_nil value)
    have hc : isNumberChar c = true :=
      isNumberChar_of_mem_toString (hwritten ▸ List.mem_cons_self)
    exact ⟨c, cs, hwritten, if_pos hc⟩
  | text value =>
    rw [compact, writtenText, String.toList_ofList]
    exact ⟨_, _, rfl, rfl⟩
  | array items =>
    rw [compact, String.toList_append, String.toList_append]
    exact ⟨_, _, rfl, rfl⟩
  | object members =>
    rw [compact, String.toList_append, String.toList_append]
    exact ⟨_, _, rfl, rfl⟩

/-- Documents that are written alike begin alike. -/
theorem lead_eq_of_append_eq {a b : Json} {rest rest' : List Char}
    (h : a.compact.toList ++ rest = b.compact.toList ++ rest') : a.lead = b.lead := by
  obtain ⟨c, cs, hcompact, hlead⟩ := leadOf_compact a
  obtain ⟨d, ds, hcompact', hlead'⟩ := leadOf_compact b
  rw [hcompact, hcompact'] at h
  rw [← hlead, ← hlead', (List.cons.inj h).1]

theorem compact_append_ne_bracket (document : Json) (rest rest' : List Char) :
    document.compact.toList ++ rest ≠ ']' :: rest' := by
  obtain ⟨c, cs, hcompact, hlead⟩ := leadOf_compact document
  rw [hcompact]
  intro h
  obtain rfl := (List.cons.inj h).1
  have hbracket : document.lead = ']' := hlead.symm
  cases document with
  | bool value => cases value <;> cases hbracket
  | _ => cases hbracket

/-- The written form of a member: its name, and behind it its value. -/
def memberText (member : String × Json) : String :=
  writtenText member.1 ++ ": " ++ member.2.compact

theorem memberText_append_ne_brace (member : String × Json) (rest rest' : List Char) :
    (memberText member).toList ++ rest ≠ '\x7d' :: rest' := by
  simp [memberText, writtenText]

theorem toldApart_memberText {member : String × Json} (h : ToldApart compact member.2) :
    ToldApart memberText member := by
  intro other rest rest' hrest hrest' hsame
  have hcolon : (": " : String).toList = [':', ' '] := rfl
  simp only [memberText, String.toList_append, List.append_assoc, hcolon] at hsame
  obtain ⟨hname, hbehind⟩ := toldApart_writtenText _ _ _ _ (endsNumber_cons rfl _)
    (endsNumber_cons rfl _) hsame
  obtain ⟨hvalue, hrests⟩ := h _ _ _ hrest hrest' ((List.append_right_inj [':', ' ']).mp hbehind)
  exact ⟨Prod.ext hname hvalue, hrests⟩

/-- Documents that begin alike are numbers, texts, arrays or objects, or they are the same. -/
theorem cases_of_lead_eq {a b : Json} (h : a.lead = b.lead) :
    a = b ∨ (∃ n m, a = .number n ∧ b = .number m) ∨ (∃ s t, a = .text s ∧ b = .text t) ∨
      (∃ items others, a = .array items ∧ b = .array others) ∨
        ∃ members others, a = .object members ∧ b = .object others := by
  cases a <;> cases b <;> grind [lead]

/-- A document is told apart if what it holds is. -/
theorem toldApart_compact_of_parts {a : Json}
    (hitems : ∀ items, a = .array items → ∀ item ∈ items, ToldApart compact item)
    (hmembers : ∀ members, a = .object members → ∀ member ∈ members, ToldApart compact member.2) :
    ToldApart compact a := by
  intro b rest rest' hrest hrest' h
  rcases cases_of_lead_eq (lead_eq_of_append_eq h) with
    rfl | ⟨n, m, rfl, rfl⟩ | ⟨s, t, rfl, rfl⟩ | ⟨items, others, rfl, rfl⟩ |
      ⟨members, others, rfl, rfl⟩
  · exact ⟨rfl, List.append_cancel_left h⟩
  · rw [compact, compact] at h
    obtain ⟨rfl, hrests⟩ := toldApart_toString _ _ _ _ hrest hrest' h
    exact ⟨rfl, hrests⟩
  · rw [compact, compact] at h
    obtain ⟨rfl, hrests⟩ := toldApart_writtenText _ _ _ _ hrest hrest' h
    exact ⟨rfl, hrests⟩
  · simp only [compact, compactItems_eq_map, String.toList_append, List.append_assoc] at h
    obtain ⟨rfl, hrests⟩ := intercalate_inj (by decide) rfl compact_append_ne_bracket
      (hitems items rfl) (List.append_cancel_left h)
    exact ⟨rfl, hrests⟩
  · simp only [compact, compactMembers_eq_map, String.toList_append, List.append_assoc] at h
    obtain ⟨rfl, hrests⟩ := intercalate_inj (by decide) rfl memberText_append_ne_brace
      (fun member hmember => toldApart_memberText (hmembers members rfl member hmember))
      (List.append_cancel_left h)
    exact ⟨rfl, hrests⟩

mutual

/-- Every document is told apart by its form on one line. -/
theorem toldApart_compact : ∀ document : Json, ToldApart compact document
  | .null | .bool _ | .number _ | .text _ => toldApart_compact_of_parts nofun nofun
  | .array items =>
    toldApart_compact_of_parts (fun | _, rfl => toldApart_compactItems items) nofun
  | .object members =>
    toldApart_compact_of_parts nofun (fun | _, rfl => toldApart_compactMembers members)

theorem toldApart_compactItems : ∀ items : List Json, ∀ item ∈ items, ToldApart compact item
  | [] => List.forall_mem_nil _
  | item :: items =>
    List.forall_mem_cons.mpr ⟨toldApart_compact item, toldApart_compactItems items⟩

theorem toldApart_compactMembers : ∀ members : List (String × Json),
    ∀ member ∈ members, ToldApart compact member.2
  | [] => List.forall_mem_nil _
  | (_, value) :: members =>
    List.forall_mem_cons.mpr ⟨toldApart_compact value, toldApart_compactMembers members⟩

end

/-- No two documents are written alike on one line. -/
theorem compact_inj {a b : Json} : a.compact = b.compact ↔ a = b := by
  constructor
  · intro h
    have hends : EndsNumber [] := fun c hc => nomatch hc
    exact (toldApart_compact a b [] [] hends hends (congrArg (·.toList ++ []) h)).1
  · exact congrArg compact

theorem ofOption_inj {a b : Option String} : ofOption a = ofOption b ↔ a = b := by
  cases a <;> cases b <;> simp [ofOption]

end Json

/-- A line tells the time, the dialect, and of the descriptor all but its input, its parameters and
its positions, of which it tells no more than whether the statement can safely be run again. -/
theorem logLine_inj {clock clock' : Calendar.Instant} {dialect dialect' : Option String}
    {d d' : Descriptor} :
    logLine clock dialect d = logLine clock' dialect' d' ↔
      clock.isoText = clock'.isoText ∧ dialect = dialect' ∧ d.sql = d'.sql ∧ d.kind = d'.kind ∧
        d.cluster = d'.cluster ∧ d.database = d'.database ∧ d.table = d'.table ∧
        d.format = d'.format ∧ d.outfile = d'.outfile ∧ d.isIdempotent = d'.isIdempotent ∧
        d.settings = d'.settings := by
  have hsettings : (d.settings.entries.map fun entry => (entry.1, Json.text entry.2)) =
      (d'.settings.entries.map fun entry => (entry.1, Json.text entry.2)) ↔
        d.settings = d'.settings := by
    rw [List.map_inj_right]
    · exact ⟨OrderedMap.ext, congrArg OrderedMap.entries⟩
    · rintro ⟨name, value⟩ ⟨name', value'⟩ h
      simpa using h
  rw [logLine, logLine, Json.compact_inj, Json.object.injEq]
  simp only [logEntry, List.cons.injEq, Prod.mk.injEq, true_and, and_true, Json.text.injEq,
    Json.bool.injEq, Json.object.injEq, Json.ofOption_inj, Kind.value_inj, hsettings]
  constructor
  · rintro ⟨htime, hdialect, hsql, hkind, -, -, hcluster, hdatabase, htable, hformat, houtfile, -,
      -, -, hidempotent, hsettings⟩
    exact ⟨htime, hdialect, hsql, hkind, hcluster, hdatabase, htable, hformat, houtfile,
      hidempotent, hsettings⟩
  · rintro ⟨htime, hdialect, hsql, hkind, hcluster, hdatabase, htable, hformat, houtfile,
      hidempotent, hsettings⟩
    -- What else is in the entry follows from the kind and the output file.
    simp only [htime, hdialect, hsql, hkind, hcluster, hdatabase, htable, hformat, houtfile,
      hidempotent, hsettings, Descriptor.language, Descriptor.operation, Descriptor.isRecognized,
      Descriptor.isQuery, Descriptor.isMutation, Descriptor.hasOutfile, and_self]

end SqlFacts
