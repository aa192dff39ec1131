import Mathlib.Data.List.TakeWhile
import SqlFacts.Lexeme.OfTokens
import SqlFacts.Proofs.Span

/-!
# ASCII words of a text

The words of a text lie in order inside it and move along with its offset. The first of them
begins where the text does exactly if the first character may begin a word; the last one ends
where the text does exactly if the last run of word characters holds one that may begin a word.
-/

namespace SqlFacts

namespace WordSpan

/-- The part of the text that a word covers. -/
def span (word : WordSpan) : Span := ⟨word.start, word.stop⟩

/-- A word moved to the right. -/
def move (distance : Nat) (word : WordSpan) : WordSpan :=
  ⟨word.text, word.start + distance, word.stop + distance⟩

end WordSpan

/-- Words move along with the offset of their text. -/
theorem asciiWords_add (offset distance taken : Nat) (cs : List Char) :
    asciiWords (offset + distance) taken cs =
      (asciiWords offset taken cs).map (WordSpan.move distance) := by
  induction cs generalizing offset taken with
  | nil => simp [asciiWords]
  | cons c cs ih =>
    cases taken with
    | succ taken =>
      rw [asciiWords, asciiWords, Nat.add_right_comm, ih]
    | zero =>
      rw [asciiWords, asciiWords]
      split
      · dsimp only
        rw [Nat.add_right_comm offset, ih, List.map_cons, WordSpan.move,
          Nat.add_right_comm (offset + 1)]
      · rw [Nat.add_right_comm, ih]

/-- Characters that the last word has taken count as offset. -/
theorem asciiWords_drop (offset taken : Nat) (cs : List Char) :
    asciiWords offset taken cs = asciiWords (offset + taken) 0 (cs.drop taken) := by
  induction cs generalizing offset taken with
  | nil => simp [asciiWords]
  | cons c cs ih =>
    cases taken with
    | zero => rfl
    | succ taken => rw [asciiWords, ih, List.drop_succ_cons, Nat.add_right_comm, Nat.add_assoc]

private theorem drop_length_takeWhile {α : Type} (test : α → Bool) (xs : List α) :
    xs.drop (xs.takeWhile test).length = xs.dropWhile test := by
  induction xs with
  | nil => rfl
  | cons x xs ih => by_cases hx : test x = true <;> simp [hx, ih]

/-- A word begins at a character that may begin one, and takes all that may go on with it. -/
theorem asciiWords_cons_of_start {c : Char} (hc : isWordStart c = true) (offset : Nat)
    (cs : List Char) :
    asciiWords offset 0 (c :: cs) =
      ⟨String.ofList (c :: cs.takeWhile isWordPart), offset,
          offset + 1 + (cs.takeWhile isWordPart).length⟩ ::
        asciiWords (offset + 1 + (cs.takeWhile isWordPart).length) 0 (cs.dropWhile isWordPart) := by
  rw [asciiWords, if_pos hc]
  dsimp only
  rw [asciiWords_drop, drop_length_takeWhile]

/-- No word begins at a character that may not begin one. -/
theorem asciiWords_cons_of_not_start {c : Char} (hc : ¬ isWordStart c = true) (offset : Nat)
    (cs : List Char) : asciiWords offset 0 (c :: cs) = asciiWords (offset + 1) 0 cs := by
  rw [asciiWords, if_neg hc]

/-- The words of a text lie in order inside it. -/
theorem asciiWords_ascending (offset : Nat) (cs : List Char) :
    Span.Ascending offset (offset + cs.length) ((asciiWords offset 0 cs).map WordSpan.span) := by
  induction hn : cs.length using Nat.strongRecOn generalizing offset cs with
  | ind n ih =>
    subst hn
    cases cs with
    | nil => simp [asciiWords, Span.Ascending]
    | cons c cs =>
      rw [List.length_cons]
      by_cases hc : isWordStart c = true
      · have parts := congrArg List.length
          (List.takeWhile_append_dropWhile (p := isWordPart) (l := cs))
        rw [List.length_append] at parts
        rw [asciiWords_cons_of_start hc]
        refine ⟨Nat.le_refl _, by simp only [WordSpan.span]; omega, ?_⟩
        refine (ih _ ?_ _ _ rfl).mono (by simp only [WordSpan.span]; omega) (by omega)
        rw [List.length_cons]
        omega
      · rw [asciiWords_cons_of_not_start hc]
        exact (ih _ (by simp) _ _ rfl).mono (by omega) (by omega)

/-- A text has no words exactly if none of its characters may begin one. -/
theorem asciiWords_eq_nil_iff (offset : Nat) (cs : List Char) :
    asciiWords offset 0 cs = [] ↔ cs.all (!isWordStart ·) = true := by
  induction cs generalizing offset with
  | nil => simp [asciiWords]
  | cons c cs ih =>
    by_cases hc : isWordStart c = true
    · simp [asciiWords_cons_of_start hc, hc]
    · simp [asciiWords_cons_of_not_start hc, ih, hc]

/-- The first word begins where the text does exactly if the first character may begin a word. -/
theorem start_head_asciiWords_iff {offset : Nat} {cs : List Char} {word : WordSpan}
    (h : (asciiWords offset 0 cs).head? = some word) :
    word.start = offset ↔ cs.head?.any isWordStart = true := by
  cases cs with
  | nil => cases h
  | cons c cs =>
    by_cases hc : isWordStart c = true
    · rw [asciiWords_cons_of_start hc, List.head?_cons] at h
      cases h
      simp [hc]
    · rw [asciiWords_cons_of_not_start hc] at h
      have behind := ((asciiWords_ascending (offset + 1) cs).bounds
        (List.mem_map_of_mem (List.mem_of_mem_head? h))).1
      have late : word.start ≠ offset := by
        simp only [WordSpan.span] at behind
        omega
      simp [hc, late]

/-- Tests whether the last run of word characters holds one that may begin a word. -/
def endsInWord (cs : List Char) : Bool := (cs.reverse.takeWhile isWordPart).any isWordStart

private theorem endsInWord_append_cons {d : Char} (hd : ¬ isWordPart d = true)
    (front back : List Char) : endsInWord (front ++ d :: back) = endsInWord (d :: back) := by
  have cut (back' : List Char) :
      (back.reverse ++ d :: back').takeWhile isWordPart = back.reverse.takeWhile isWordPart := by
    rw [List.takeWhile_append]
    split
    · next hall =>
      rw [List.takeWhile_cons_of_neg hd, List.append_nil]
      exact ((List.takeWhile_prefix isWordPart).eq_of_length hall).symm
    · rfl
  simp only [endsInWord, List.reverse_append, List.reverse_cons, List.append_assoc,
    List.singleton_append, cut]

private theorem endsInWord_cons_of_not_start {c : Char} (hc : ¬ isWordStart c = true)
    (cs : List Char) : endsInWord (c :: cs) = endsInWord cs := by
  have single : ([c].takeWhile isWordPart).any isWordStart = false := by
    by_cases hp : isWordPart c = true <;> simp [hp, hc]
  unfold endsInWord
  rw [List.reverse_cons, List.takeWhile_append]
  split
  · next hall =>
    have whole := (List.takeWhile_prefix isWordPart (l := cs.reverse)).eq_of_length hall
    rw [List.any_append, single, Bool.or_false, whole]
  · rfl

private theorem endsInWord_of_all_part {c : Char} (hc : isWordStart c = true) {cs : List Char}
    (hcs : ∀ d ∈ c :: cs, isWordPart d = true) : endsInWord (c :: cs) = true := by
  unfold endsInWord
  rw [List.takeWhile_eq_self_iff.mpr (fun d hd => hcs d (List.mem_reverse.mp hd)),
    List.any_reverse, List.any_cons, hc, Bool.true_or]

private theorem endsInWord_of_no_start {cs : List Char} (h : cs.all (!isWordStart ·) = true) :
    endsInWord cs = false := by
  induction cs with
  | nil => rfl
  | cons c cs ih =>
    rw [List.all_cons, Bool.and_eq_true] at h
    rw [endsInWord_cons_of_not_start (by simpa using h.1)]
    exact ih h.2

/-- What may begin a word may go on with one. -/
theorem isWordPart_of_start {c : Char} (h : isWordStart c = true) :
    isWordPart c = true := by
  simp only [isWordStart, isWordPart, Char.isAlphanum, Bool.or_eq_true] at h ⊢
  tauto

/-- The last word ends where the text does exactly if the text ends in a word. -/
theorem stop_getLast_asciiWords_iff {offset : Nat} {cs : List Char} {word : WordSpan}
    (h : (asciiWords offset 0 cs).getLast? = some word) :
    word.stop = offset + cs.length ↔ endsInWord cs = true := by
  induction hn : cs.length using Nat.strongRecOn generalizing offset cs with
  | ind n ih =>
    subst hn
    cases cs with
    | nil => cases h
    | cons c cs =>
      by_cases hc : isWordStart c = true
      · have parts := congrArg List.length
          (List.takeWhile_append_dropWhile (p := isWordPart) (l := cs))
        rw [List.length_append] at parts
        rw [asciiWords_cons_of_start hc] at h
        cases hrest : cs.dropWhile isWordPart with
        | nil =>
          -- The first word takes the whole text.
          rw [hrest, asciiWords, List.getLast?_singleton] at h
          cases h
          rw [hrest, List.length_nil] at parts
          have all_part : ∀ d ∈ c :: cs, isWordPart d = true := by
            intro d hd
            rcases List.mem_cons.mp hd with rfl | hd
            · exact isWordPart_of_start hc
            · exact List.dropWhile_eq_nil_iff.mp hrest d hd
          simp only [endsInWord_of_all_part hc all_part, List.length_cons, iff_true]
          omega
        | cons d ds =>
          have hd : ¬ isWordPart d = true := by
            have := List.head_dropWhile_not isWordPart (l := cs) (by simp [hrest])
            simpa [hrest] using this
          have same : endsInWord (c :: cs) = endsInWord (d :: ds) := by
            rw [← endsInWord_append_cons hd (c :: cs.takeWhile isWordPart) ds, ← hrest,
              List.cons_append, List.takeWhile_append_dropWhile]
          rw [hrest] at h parts
          rw [List.length_cons] at parts ⊢
          rw [same]
          by_cases hnone : asciiWords
              (offset + 1 + (cs.takeWhile isWordPart).length) 0 (d :: ds) = []
          · -- The first word is the only one, and more text follows.
            rw [hnone, List.getLast?_singleton] at h
            cases h
            rw [endsInWord_of_no_start ((asciiWords_eq_nil_iff _ _).mp hnone)]
            simp only [Bool.false_eq_true, iff_false]
            omega
          · obtain ⟨first, others, hwords⟩ := List.exists_cons_of_ne_nil hnone
            rw [hwords, List.getLast?_cons_cons, ← hwords] at h
            rw [← ih _ (by simp only [List.length_cons]; omega) h rfl, List.length_cons]
            omega
      · rw [asciiWords_cons_of_not_start hc] at h
        rw [endsInWord_cons_of_not_start hc, ← ih _ (by simp) h rfl, List.length_cons]
        omega

end SqlFacts
