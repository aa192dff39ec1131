import SqlFacts.Facts.Target
import SqlFacts.Proofs.Aligned.Readers

/-!
# Targets of statements that read alike

Clusters, databases and tables come from alike lexemes of aligned lists, and the object words of
two statements that begin alike stand equally far behind the leading words.
-/

namespace SqlFacts

open Lexeme

namespace Difference

universe u v

variable {d : Difference} {lexemes lexemes' : List Lexeme}

/-! ### Locations -/

/-- Two locations with related databases and related tables. -/
structure LocationsAlike (d : Difference) (location location' : Location) : Prop where
  database : Option.Rel d.copied location.database location'.database
  table : Option.Rel d.copied location.table location'.table

namespace LocationsAlike

variable {location location' : Location}

theorem none : d.LocationsAlike .none .none := ⟨.none, .none⟩

theorem asDatabase (h : d.LocationsAlike location location') :
    d.LocationsAlike location.asDatabase location'.asDatabase := ⟨h.table, .none⟩

end LocationsAlike

private theorem rel_getLast? {α : Type u} {β : Type v} {related : α → β → Prop} {xs : List α}
    {ys : List β} (h : List.Forall₂ related xs ys) :
    Option.Rel related xs.getLast? ys.getLast? := by
  have hreverse := List.forall₂_reverse_iff.mpr h
  rw [← List.head?_reverse, ← List.head?_reverse]
  generalize xs.reverse = back at hreverse ⊢
  generalize ys.reverse = back' at hreverse ⊢
  cases hreverse with
  | nil => exact .none
  | cons hhead _ => exact .some hhead

theorem NamesAlike.ofName {name name' : Option DottedName}
    (h : Option.Rel d.NamesAlike name name') :
    d.LocationsAlike (Location.ofName name) (Location.ofName name') := by
  cases h with
  | none => exact .none
  | @some name name' halike =>
    refine ⟨?_, rel_getLast? halike.parts⟩
    show Option.Rel d.copied name.parts.dropLast.getLast? name'.parts.dropLast.getLast?
    rw [List.dropLast_eq_take, List.dropLast_eq_take, ← halike.parts.length_eq]
    exact rel_getLast? (List.forall₂_take _ halike.parts)

namespace Aligned

theorem objectLocation (h : d.Aligned lexemes lexemes') (wordOptional : Bool) :
    d.LocationsAlike (SqlFacts.objectLocation wordOptional lexemes)
      (SqlFacts.objectLocation wordOptional lexemes') := by
  have hskip := h.skipWords preludeWords
  rw [SqlFacts.objectLocation, SqlFacts.objectLocation]
  generalize Lexeme.skipWords preludeWords lexemes = behind at hskip ⊢
  generalize Lexeme.skipWords preludeWords lexemes' = behind' at hskip ⊢
  have hname := NamesAlike.ofName hskip.dottedName?
  rcases hskip.uncons with ⟨rfl, rfl⟩ | ⟨a, b, rest, rest', rfl, rfl, halike, hrest⟩
  · cases hclosing : d.closing with
    | nil => exact .none
    | cons lx more =>
      have hlx := isSymbol_of_closing_eq hclosing
      rw [hclosing] at hname
      dsimp only
      rw [isWord_of_isSymbol hlx]
      split
      · contradiction
      · split
        · exact hname
        · exact .none
  · dsimp only
    rw [halike.isWord, halike.isWord]
    by_cases hword : a.isWord objectWords = true
    · rw [if_pos hword, if_pos hword]
      have haligned :=
        hrest fun _ => isSymbol_eq_false (fun hopens => isWord_of_isSymbol hopens _) hword
      have hlocation := NamesAlike.ofName (haligned.skipWords guardWords).dottedName?
      split
      · exact hlocation.asDatabase
      · exact hlocation
    · rw [if_neg hword, if_neg hword]
      split
      · exact hname
      · exact .none

theorem locationAfter (h : d.Aligned lexemes lexemes') (words : List String) :
    d.LocationsAlike (SqlFacts.locationAfter words d.limit lexemes)
      (SqlFacts.locationAfter words (d.limit + d.rise) lexemes') := by
  have hafter := h.afterWord? words
  rw [SqlFacts.locationAfter, SqlFacts.locationAfter]
  generalize Lexeme.afterWord? words d.limit lexemes = rest at hafter ⊢
  generalize Lexeme.afterWord? words (d.limit + d.rise) lexemes' = rest' at hafter ⊢
  cases hafter with
  | none => exact .none
  | some haligned => exact NamesAlike.ofName haligned.objectName?

theorem insertLocation (h : d.Aligned lexemes lexemes') :
    d.LocationsAlike (SqlFacts.insertLocation d.limit lexemes)
      (SqlFacts.insertLocation (d.limit + d.rise) lexemes') := by
  have hafter := h.afterWord? ["INTO"]
  rw [SqlFacts.insertLocation, SqlFacts.insertLocation]
  generalize Lexeme.afterWord? ["INTO"] d.limit lexemes = rest at hafter ⊢
  generalize Lexeme.afterWord? ["INTO"] (d.limit + d.rise) lexemes' = rest' at hafter ⊢
  cases hafter with
  | none => exact .none
  | some haligned =>
    have hskip := haligned.skipWords ["TABLE"]
    dsimp only
    rw [hskip.startsWith_isWord]
    split
    · exact .none
    · exact NamesAlike.ofName hskip.dottedName?

theorem showLocation (h : d.Aligned lexemes lexemes') :
    d.LocationsAlike (SqlFacts.showLocation d.limit lexemes)
      (SqlFacts.showLocation (d.limit + d.rise) lexemes') := by
  rw [SqlFacts.showLocation, SqlFacts.showLocation, h.startsWith_isWord]
  split
  · next hcreate => exact (h.drop_one hcreate).objectLocation true
  · exact (h.locationAfter ["FROM", "IN"]).asDatabase

end Aligned

theorem locationsAlike_ofBeginning {verb verb' : Lexeme} (hverb : d.Alike verb verb')
    (hdepth : verb.depth = d.limit) (h : d.Aligned lexemes lexemes') (kind : Kind) :
    d.LocationsAlike (Location.ofBeginning kind verb lexemes)
      (Location.ofBeginning kind verb' lexemes') := by
  have hdepth' : verb'.depth = d.limit + d.rise := by rw [hverb.depth, hdepth]
  have hwhole : d.Aligned (verb :: lexemes) (verb' :: lexemes') := .cons hverb h
  have hobject := NamesAlike.ofName h.objectName?
  cases kind <;> simp only [Location.ofBeginning, hdepth, hdepth']
  case select => exact hwhole.locationAfter ["FROM"]
  case delete => exact h.locationAfter ["FROM"]
  case insert => exact hwhole.insertLocation
  case «show» => exact h.showLocation
  case use => exact hobject.asDatabase
  case update | watch => exact hobject
  case describe | «exists» | truncate => exact h.objectLocation true
  case alter | alterDelete | alterUpdate | attach | check | create | detach | drop | optimize |
      rename => exact h.objectLocation false
  all_goals exact .none

/-! ### Clusters -/

/-- The reader of a cluster expects three lexemes. -/
theorem clusterHere?_eq_expect (limit : Int) :
    clusterHere? limit = expect (isWordWithin ["ON"] limit) fun _ =>
      expect (isWord ["CLUSTER"]) fun _ =>
        expect (fun lx => lx.isIdentifier || lx.isString) fun name _ => some name.text := by
  funext lexemes
  match lexemes with
  | [] => rfl
  | [_] => simp [clusterHere?, expect]
  | [_, _] => simp [clusterHere?, expect]
  | on :: cluster :: name :: _ =>
    simp only [clusterHere?, expect]
    cases on.isWordWithin ["ON"] limit <;> cases cluster.isWord ["CLUSTER"] <;> rfl

theorem Aligned.cluster? (h : d.Aligned lexemes lexemes') :
    Option.Rel d.copied (SqlFacts.cluster? d.limit lexemes)
      (SqlFacts.cluster? (d.limit + d.rise) lexemes') := by
  refine Relates.firstSome ?_ h
  rw [clusterHere?_eq_expect, clusterHere?_eq_expect]
  refine relates_expect_word fun hrest => ?_
  refine hrest.expect (agree_isWord _) (fun _ _ hopens => isWord_of_isSymbol hopens _) ?_
  intro _ _ _ _ _ _ hrest
  refine hrest.expect_text (agree_or agree_isIdentifier agree_isString) fun lx hopens => ?_
  rw [isIdentifier_of_isSymbol hopens, isString_of_isSymbol hopens]
  rfl

/-! ### Statements that begin alike -/

theorem Aligned.objectWordOffset? (h : d.Aligned lexemes lexemes') :
    SqlFacts.objectWordOffset? lexemes' = SqlFacts.objectWordOffset? lexemes := by
  rw [SqlFacts.objectWordOffset?, SqlFacts.objectWordOffset?,
    (h.skipWords preludeWords).startsWith_isWord, h.countWords]

/-- Two distances add up. -/
private theorem map_add_map_add (first second : Nat) (offset : Option Nat) :
    (offset.map (second + ·)).map (first + ·) = offset.map (first + second + ·) := by
  rw [Option.map_map]
  congr 1
  funext index
  exact (Nat.add_assoc first second index).symm

namespace Begins

variable {head head' : Nat} {verb verb' : Lexeme} {rest rest' : List Lexeme}

theorem location (h : d.Begins lexemes lexemes' head head' verb verb' rest rest') (kind : Kind) :
    d.LocationsAlike (Location.ofStatement lexemes kind (some head))
      (Location.ofStatement lexemes' kind (some head')) := by
  rw [Location.ofStatement, Location.ofStatement, Option.map_some, Option.map_some, h.drop, h.drop']
  exact locationsAlike_ofBeginning h.alike h.depth h.aligned kind

theorem objectWordIndex? (h : d.Begins lexemes lexemes' head head' verb verb' rest rest') :
    ∃ offset : Option Nat, SqlFacts.objectWordIndex? lexemes (some head) = offset.map (head + ·) ∧
      SqlFacts.objectWordIndex? lexemes' (some head') = offset.map (head' + ·) := by
  have hrest : lexemes.drop (head + 1) = rest := by rw [← List.drop_drop, h.drop]; rfl
  have hrest' : lexemes'.drop (head' + 1) = rest' := by rw [← List.drop_drop, h.drop']; rfl
  simp only [SqlFacts.objectWordIndex?, Option.bind_some, hrest, hrest',
    h.aligned.startsWith_isWord]
  split
  · next hjoined =>
    refine ⟨(objectWordOffset? (rest.drop 1)).map (2 + ·), ?_, ?_⟩
    · exact (map_add_map_add head 2 _).symm
    · rw [(h.aligned.drop_one hjoined).objectWordOffset?]
      exact (map_add_map_add head' 2 _).symm
  · refine ⟨(objectWordOffset? rest).map (1 + ·), ?_, ?_⟩
    · exact (map_add_map_add head 1 _).symm
    · rw [List.drop_zero, h.aligned.objectWordOffset?]
      exact (map_add_map_add head' 1 _).symm

end Begins

end Difference

end SqlFacts
