import SqlFacts.Facts.Basic
import SqlFacts.Proofs.Aligned.Clause
import SqlFacts.Proofs.Aligned.Position
import SqlFacts.Proofs.Aligned.Target
import SqlFacts.Proofs.Aligned.Verb

/-!
# Facts about statements that read alike

What is read from two aligned lists, put together for whole statements whose groups are kept.
-/

namespace SqlFacts

open Lexeme

namespace Difference

variable {d : Difference} {lexemes lexemes' : List Lexeme}

/-- What is known about two statements that read alike. -/
structure FactsAlike (d : Difference) (facts facts' : Facts) : Prop where
  head : facts'.head = facts.head
  kind : facts'.kind = facts.kind
  depth : facts'.depth = facts.depth + d.rise
  objectWord : facts'.objectWord = facts.objectWord
  cluster : Option.Rel d.copied facts.target.cluster facts'.target.cluster
  location : d.LocationsAlike facts.target.location facts'.target.location
  input : Option.Rel d.copied facts.input facts'.input
  format : Option.Rel d.copied facts.format facts'.format
  outfile : Option.Rel d.copied facts.outfile facts'.outfile
  parameters : facts'.parameters = facts.parameters.map (· + d.offset)
  positions : facts'.positions = facts.positions.map fun entry => (entry.1, entry.2 + d.offset)

/-- Options whose values are related by equality are equal. -/
theorem eq_of_rel {α : Type} {x y : Option α} (h : Option.Rel Eq x y) : y = x := by
  cases h with
  | none => rfl
  | some heq => rw [heq]

/-- Locations whose parts are copied unchanged are equal. -/
theorem LocationsAlike.eq (hcopied : d.copied = Eq) {location location' : Location}
    (h : d.LocationsAlike location location') : location' = location := by
  obtain ⟨database, table⟩ := location
  obtain ⟨database', table'⟩ := location'
  obtain ⟨hdatabase, htable⟩ := h
  rw [hcopied] at hdatabase htable
  have hfirst : database' = database := eq_of_rel hdatabase
  have hsecond : table' = table := eq_of_rel htable
  rw [hfirst, hsecond]

/-- Facts that are alike, with texts copied unchanged, differ in offsets and the depth only, save
for the settings. -/
theorem FactsAlike.eq (hcopied : d.copied = Eq) {facts facts' : Facts}
    (h : d.FactsAlike facts facts') :
    facts' = { facts with
      depth := facts.depth + d.rise
      parameters := facts.parameters.map (· + d.offset)
      positions := facts.positions.map fun entry => (entry.1, entry.2 + d.offset)
      settings := facts'.settings } := by
  obtain ⟨head, kind, depth, objectWord, ⟨cluster, location⟩, input, format, outfile,
    parameters, positions, settings⟩ := facts
  obtain ⟨head', kind', depth', objectWord', ⟨cluster', location'⟩, input', format',
    outfile', parameters', positions', settings'⟩ := facts'
  obtain ⟨hhead, hkind, hdepth, hobject, hcluster, hlocation, hinput, hformat, houtfile,
    hparameters, hpositions⟩ := h
  rw [hcopied] at hcluster hinput hformat houtfile
  simp only at hhead hkind hdepth hobject hparameters hpositions
  replace hcluster : cluster' = cluster := eq_of_rel hcluster
  replace hlocation : location' = location := hlocation.eq hcopied
  replace hinput : input' = input := eq_of_rel hinput
  replace hformat : format' = format := eq_of_rel hformat
  replace houtfile : outfile' = outfile := eq_of_rel houtfile
  subst hhead hkind hdepth hobject hcluster hlocation hinput hformat houtfile hparameters
    hpositions
  rfl

/-- A leading word is a word of the statement. -/
theorem drop_of_leadingWord? {head : Nat} (h : Lexeme.leadingWord? lexemes = some head) :
    ∃ verb rest, lexemes.drop head = verb :: rest ∧ verb.kind = .word := by
  induction lexemes generalizing head with
  | nil => cases h
  | cons lx rest ih =>
    rw [Lexeme.leadingWord?] at h
    split at h
    · next hword =>
      cases h
      exact ⟨lx, rest, rfl, hword⟩
    · split at h
      · obtain ⟨index, hindex, rfl⟩ := Option.map_eq_some_iff.mp h
        exact ih hindex
      · cases h

/-- Statements with aligned lexemes begin alike at the leading word. -/
theorem Aligned.begins (h : d.Aligned lexemes lexemes') (hkept : ¬ d.regroups) {head : Nat}
    (hhead : Lexeme.leadingWord? lexemes = some head)
    (hlimit : Lexeme.bodyDepth lexemes (some head) = d.limit) :
    ∃ verb verb' rest rest', d.Begins lexemes lexemes' head head verb verb' rest rest' := by
  obtain ⟨verb, rest, hdrop, hword⟩ := drop_of_leadingWord? hhead
  have hget : lexemes[head]? = some verb := by
    rw [← List.head?_drop, hdrop]
    rfl
  obtain ⟨hlength, -⟩ := List.getElem?_eq_some_iff.mp hget
  have haligned := h.drop hkept (Nat.le_of_lt hlength)
  rw [hdrop] at haligned
  rcases haligned.uncons with ⟨hnil, -⟩ | ⟨a, b, behind, behind', heq, hdrop', halike, hrest⟩
  · cases hnil
  cases heq
  refine ⟨verb, b, rest, behind', hdrop, hdrop', halike, hword, ?_, hrest fun _ => ?_⟩
  · rw [← hlimit]
    simp [Lexeme.bodyDepth, hget]
  · rw [isSymbol, hword]
    rfl

/-- The places of keywords in a statement are found by a scan with equal index of the object
word. -/
theorem Aligned.keywordPositions (h : d.Aligned lexemes lexemes') (hkept : ¬ d.regroups)
    {head : Option Nat} (hlimit : Lexeme.bodyDepth lexemes head = d.limit)
    (hlimit' : Lexeme.bodyDepth lexemes' head = d.limit + d.rise)
    (hobject : objectWordIndex? lexemes' head = objectWordIndex? lexemes head) (kind : Kind) :
    SqlFacts.keywordPositions lexemes' kind head =
      (SqlFacts.keywordPositions lexemes kind head).map
        fun entry => (entry.1, entry.2 + d.offset) := by
  rw [SqlFacts.keywordPositions, SqlFacts.keywordPositions, hlimit, hlimit', hobject]
  exact h.positionsFrom ⟨.none, rfl, rfl⟩ (fun _ => rfl) fun hregroups => absurd hregroups hkept

/-- The facts about two statements with aligned lexemes are alike, if no group is replaced. -/
theorem Aligned.facts (h : d.Aligned lexemes lexemes') (hkept : ¬ d.regroups)
    (hlimit : Lexeme.bodyDepth lexemes (Lexeme.leadingWord? lexemes) = d.limit)
    (hrise : Lexeme.leadingWord? lexemes = none → d.rise = 0) (sql sql' : String) :
    d.FactsAlike (Facts.ofLexemes sql lexemes) (Facts.ofLexemes sql' lexemes') := by
  have hleading := h.leadingWord? hkept
  cases hhead : Lexeme.leadingWord? lexemes with
  | none =>
    rw [hhead] at hleading hlimit
    have hzero : d.limit + d.rise = 0 := by rw [← hlimit, hrise hhead]; rfl
    have hlimit' : Lexeme.bodyDepth lexemes' none = d.limit + d.rise := hzero.symm
    simp only [Facts.ofLexemes, Target.ofStatement, hhead, hleading, hlimit, hlimit']
    exact ⟨rfl, rfl, rfl, rfl, h.cluster?, .none, h.input? hkept, h.format?, h.outfile?,
      h.placeholders hkept, h.keywordPositions hkept hlimit hlimit' rfl _⟩
  | some head =>
    rw [hhead] at hleading hlimit
    obtain ⟨verb, verb', rest, rest', hbegins⟩ := h.begins hkept hhead hlimit
    have hlimit' := hbegins.bodyDepth.2
    have hkind := hbegins.kind fun hregroups => absurd hregroups hkept
    have hobject :
        objectWordIndex? lexemes' (some head) = objectWordIndex? lexemes (some head) := by
      obtain ⟨offset, hindex, hindex'⟩ := hbegins.objectWordIndex?
      rw [hindex, hindex']
    simp only [Facts.ofLexemes, Target.ofStatement, hhead, hleading, hlimit, hlimit', hkind]
    exact ⟨rfl, rfl, rfl, hobject, h.cluster?, hbegins.location _, h.input? hkept, h.format?,
      h.outfile?, h.placeholders hkept, h.keywordPositions hkept hlimit hlimit' hobject _⟩

end Difference

end SqlFacts
