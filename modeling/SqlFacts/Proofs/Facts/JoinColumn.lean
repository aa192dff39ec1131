import SqlFacts.Description
import SqlFacts.Proofs.Lexeme.Reading
import SqlFacts.Proofs.Token.Order

/-!
# Columns called `cluster` in join conditions

The condition of a join may begin with a column called `cluster`, so that the words `ON CLUSTER` of
a query need not name a cluster. Symbols behind them show the column, but an operator that is itself
a word is taken for the name of a cluster, and so is a literal. The main statement says exactly when
a query has a cluster, and which one.
-/

namespace SqlFacts

open Lexeme

/-! ### What stands behind `ON CLUSTER` -/

/-- What stands behind the words `ON CLUSTER` in front of a list, with `ON` nested no deeper than
the limit. -/
def afterOnCluster? (limit : Int) : List Lexeme → Option (List Lexeme)
  | on :: word :: after =>
    if on.isWordWithin ["ON"] limit && word.isWord ["CLUSTER"] then some after else none
  | _ => none

/-- What stands behind all words `ON CLUSTER` of a list, with `ON` nested no deeper than the
limit. -/
def behindOnClusters (limit : Int) (lexemes : List Lexeme) : List (List Lexeme) :=
  lexemes.tails.filterMap (afterOnCluster? limit)

/-- The text that a list behind `ON CLUSTER` names a cluster by: an identifier or a literal. -/
def clusterName? (lexemes : List Lexeme) : Option String :=
  (lexemes.head?.filter fun lx => lx.isIdentifier || lx.isString).map text

section Behind

variable {limit : Int} {lexemes after : List Lexeme}

theorem afterOnCluster?_eq_some_iff :
    afterOnCluster? limit lexemes = some after ↔
      ∃ on word, lexemes = on :: word :: after ∧
        on.isWordWithin ["ON"] limit = true ∧ word.isWord ["CLUSTER"] = true := by
  rcases lexemes with _ | ⟨on, _ | ⟨word, behind⟩⟩
  · simp [afterOnCluster?]
  · simp [afterOnCluster?]
  · rw [afterOnCluster?]
    constructor
    · intro h
      split at h
      · next hwords =>
        rw [Bool.and_eq_true] at hwords
        cases h
        exact ⟨on, word, rfl, hwords⟩
      · cases h
    · rintro ⟨_, _, hsplit, hon, hword⟩
      cases hsplit
      rw [hon, hword]
      rfl

theorem mem_behindOnClusters_iff :
    after ∈ behindOnClusters limit lexemes ↔
      ∃ before on word, lexemes = before ++ on :: word :: after ∧
        on.isWordWithin ["ON"] limit = true ∧ word.isWord ["CLUSTER"] = true := by
  simp only [behindOnClusters, List.mem_filterMap, List.mem_tails, afterOnCluster?_eq_some_iff]
  constructor
  · rintro ⟨_, ⟨before, rfl⟩, on, word, rfl, hwords⟩
    exact ⟨before, on, word, rfl, hwords⟩
  · rintro ⟨before, on, word, rfl, hwords⟩
    exact ⟨_, List.suffix_append before _, on, word, rfl, hwords⟩

/-- The cluster of a clause is what stands behind its words, if it names one. -/
theorem clusterHere?_eq (limit : Int) (lexemes : List Lexeme) :
    clusterHere? limit lexemes = (afterOnCluster? limit lexemes).bind clusterName? := by
  rcases lexemes with _ | ⟨on, _ | ⟨word, _ | ⟨name, after⟩⟩⟩
  · rfl
  · rfl
  · rw [afterOnCluster?]
    split
    · rfl
    · rfl
  · rw [clusterHere?, afterOnCluster?]
    cases on.isWordWithin ["ON"] limit && word.isWord ["CLUSTER"] with
    | false => rfl
    | true =>
      rw [if_pos rfl, Option.bind_some, clusterName?, List.head?_cons, Option.filter_some,
        Bool.true_and]
      split
      · rfl
      · rfl

/-- The cluster of a statement is the first that is named behind `ON CLUSTER`. -/
theorem cluster?_eq_head? (limit : Int) (lexemes : List Lexeme) :
    cluster? limit lexemes = ((behindOnClusters limit lexemes).filterMap clusterName?).head? := by
  have hread : clusterHere? limit = fun here => (afterOnCluster? limit here).bind clusterName? :=
    funext (clusterHere?_eq limit)
  rw [cluster?, firstSome_eq_findSome?_tails rfl, hread, behindOnClusters, List.filterMap_filterMap,
    List.head?_filterMap]

/-- No cluster is named by nothing, a symbol, a number or a placeholder. -/
theorem clusterName?_eq_none_iff :
    clusterName? after = none ↔
      ∀ lx ∈ after.head?, lx.kind = .symbol ∨ lx.kind = .number ∨ lx.kind = .parameter := by
  cases after with
  | nil => simp [clusterName?]
  | cons lx after =>
    simp only [clusterName?, List.head?_cons, Option.map_eq_none_iff, Option.filter_eq_none_iff,
      Option.mem_def, Option.some_inj, forall_eq', isIdentifier, isString]
    cases lx.kind <;> decide

end Behind

/-! ### Clusters of queries -/

/-- A query has no cluster exactly if behind all its words `ON CLUSTER` stands the end, a symbol, a
number or a placeholder. Otherwise its cluster is the first identifier or literal there. -/
theorem cluster_of_query_iff {sql : String} (h : (describeStatement sql).result.kind = .select) :
    ∃ lexemes, lex sql = .ok lexemes ∧
      let statement := (statements lexemes).headD []
      let limit := bodyDepth statement (leadingWord? statement)
      let behind := behindOnClusters limit statement
      let cluster := (describeStatement sql).result.cluster
      (cluster = none ↔ ∀ before on word after, statement = before ++ on :: word :: after →
        on.isWordWithin ["ON"] limit = true → word.isWord ["CLUSTER"] = true →
          ∀ lx ∈ after.head?, lx.kind = .symbol ∨ lx.kind = .number ∨ lx.kind = .parameter) ∧
      cluster = (behind.filterMap clusterName?).head? := by
  cases hlex : lex sql with
  | error e =>
    simp only [describeStatement_of_lex_error hlex] at h
    cases h
  | ok lexemes =>
    refine ⟨lexemes, rfl, ?_⟩
    intro statement limit behind cluster
    have hcluster : cluster = (behind.filterMap clusterName?).head? := by
      rw [← cluster?_eq_head?]
      show (describeStatement sql).result.cluster = cluster? limit statement
      simp only [describeStatement_of_lex_ok hlex]
      rfl
    refine ⟨?_, hcluster⟩
    rw [hcluster, List.head?_eq_none_iff, List.filterMap_eq_nil_iff]
    simp only [behind, mem_behindOnClusters_iff, clusterName?_eq_none_iff]
    constructor
    · intro hnone before on word after hsplit hon hword
      exact hnone after ⟨before, on, word, hsplit, hon, hword⟩
    · rintro hnone after ⟨before, on, word, hsplit, hon, hword⟩
      exact hnone before on word after hsplit hon hword

/-- The lexemes of a query whose join compares a column called `cluster` with a list. -/
def joinedOnCluster : List Lexeme :=
  [⟨.word, "SELECT", 0, 6, 0⟩, ⟨.symbol, "*", 7, 8, 0⟩, ⟨.word, "FROM", 9, 13, 0⟩,
    ⟨.word, "a", 14, 15, 0⟩, ⟨.word, "JOIN", 16, 20, 0⟩, ⟨.word, "b", 21, 22, 0⟩,
    ⟨.word, "ON", 23, 25, 0⟩, ⟨.word, "cluster", 26, 33, 0⟩, ⟨.word, "IN", 34, 36, 0⟩,
    ⟨.symbol, "(", 37, 38, 0⟩, ⟨.number, "1", 38, 39, 1⟩, ⟨.symbol, ",", 39, 40, 1⟩,
    ⟨.number, "2", 41, 42, 1⟩, ⟨.symbol, ")", 42, 43, 0⟩]

/-- An operator behind a column called `cluster` is taken for the name of a cluster. -/
theorem cluster_joinedOnCluster :
    let sql := "SELECT * FROM a JOIN b ON cluster IN (1, 2)"
    lex sql = .ok joinedOnCluster ∧ (describeStatement sql).result.kind = .select ∧
      (describeStatement sql).result.cluster = some "IN" := by
  intro sql
  have hlex : lex sql = .ok joinedOnCluster := Token.eq_ok_of_toOption (by decide +kernel)
  have hstatement : (statements joinedOnCluster).headD [] = joinedOnCluster := by decide
  have hkind : (describeStatement sql).result.kind = .select := by
    rw [describeStatement_of_lex_ok hlex]
    show (Facts.ofLexemes sql ((statements joinedOnCluster).headD [])).kind = .select
    rw [hstatement]
    rfl
  obtain ⟨lexemes, hread, -, hcluster⟩ := cluster_of_query_iff hkind
  rw [hlex] at hread
  cases hread
  refine ⟨hlex, hkind, ?_⟩
  rw [hcluster, hstatement]
  decide

end SqlFacts
