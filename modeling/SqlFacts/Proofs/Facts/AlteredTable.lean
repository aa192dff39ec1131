import SqlFacts.Proofs.Facts.CalledName
import SqlFacts.Proofs.Facts.Nested

/-!
# Altered tables

An alteration of a table has a header, `ALTER [TEMPORARY] TABLE name [ON CLUSTER name]`, and a
command. Three readers go over the header: the sort of the alteration is told by the command behind
it, the object by the name, and the cluster is looked for from the start of the statement. The main
statement says that they agree on where the name and the clause end, whatever words the parts of the
name read as and whatever follows the command.
-/

namespace SqlFacts

open Lexeme

/-! ### Headers -/

/-- The clause `ON CLUSTER name` of a header, with the lexeme that names the cluster. The clause may
be missing. -/
inductive ClusterClause (limit : Int) : Option Lexeme → List Lexeme → Prop where
  | missing : ClusterClause limit none []
  | named {on word cluster : Lexeme} : on.isWordWithin ["ON"] limit = true →
      word.isWord ["CLUSTER"] = true → (cluster.isIdentifier || cluster.isString) = true →
        ClusterClause limit (some cluster) [on, word, cluster]

/-- The header of an alteration of a table. The parts of the name are `qualifiers` and `last`; the
first one is no word that stands in front of names. -/
structure AlterationHeader where
  verb : Lexeme
  temporary : List Lexeme
  table : Lexeme
  qualifiers : List String
  last : String
  name : List Lexeme
  cluster : Option Lexeme
  clause : List Lexeme
  isWord_verb : verb.isWord ["ALTER"] = true
  isWord_temporary : ∀ lx ∈ temporary, lx.isWord ["TEMPORARY"] = true
  isWord_table : table.isWord ["TABLE"] = true
  spells_name : Spells (qualifiers ++ [last]) name
  startsWith_name :
    startsWith (isWord ["TABLE", "TEMPORARY", "IF", "NOT", "EXISTS"]) name = false
  isClause_clause : ClusterClause verb.depth cluster clause

namespace AlterationHeader

/-- The lexemes of a header behind its verb, with the given ones behind them. -/
def behindVerb (header : AlterationHeader) (behind : List Lexeme) : List Lexeme :=
  header.temporary ++ header.table :: (header.name ++ (header.clause ++ behind))

end AlterationHeader

/-! ### Clusters behind names -/

section Cluster

variable {limit : Int} {lx : Lexeme} {front name clause rest : List Lexeme}

/-- Lexemes other than `ON` name no cluster. -/
theorem cluster?_append_of_absent (h : ∀ lx ∈ front, lx.isWord ["ON"] = false) :
    cluster? limit (front ++ rest) = cluster? limit rest := by
  apply firstSome_append_of_unanswered
  intro lx hlx behind
  rcases behind with _ | ⟨word, _ | ⟨cluster, behind⟩⟩
  · rfl
  · rfl
  · rw [clusterHere?, isWordWithin_eq_false (h lx hlx)]
    rfl

/-- No cluster is named in front of a list that does not begin with `CLUSTER`. -/
theorem cluster?_cons_of_next (h : startsWith (isWord ["CLUSTER"]) rest = false) :
    cluster? limit (lx :: rest) = cluster? limit rest := by
  have hnone : clusterHere? limit (lx :: rest) = none := by
    rcases rest with _ | ⟨word, _ | ⟨cluster, rest⟩⟩
    · rfl
    · rfl
    · rw [startsWith_cons] at h
      rw [clusterHere?, h, Bool.and_false]
      rfl
  rw [cluster?, firstSome, hnone]
  rfl

/-- The parts of a name name no cluster, unless `CLUSTER` follows the last one. -/
theorem Lexeme.Spells.cluster?_append {parts : List String} (h : Spells parts name)
    (hrest : startsWith (isWord ["CLUSTER"]) rest = false) :
    cluster? limit (name ++ rest) = cluster? limit rest := by
  induction h with
  | single => exact cluster?_cons_of_next hrest
  | @dotted part dot parts name _ hdot _ ih =>
    have hpart : startsWith (isWord ["CLUSTER"]) (dot :: (name ++ rest)) = false :=
      isWord_of_isSymbol hdot ["CLUSTER"]
    have hskip : cluster? limit ([dot] ++ (name ++ rest)) = cluster? limit (name ++ rest) :=
      cluster?_append_of_absent (List.forall_mem_singleton.mpr (isWord_of_isSymbol hdot ["ON"]))
    calc cluster? limit (part :: dot :: name ++ rest)
      _ = cluster? limit (dot :: (name ++ rest)) := cluster?_cons_of_next hpart
      _ = cluster? limit (name ++ rest) := hskip
      _ = cluster? limit rest := ih

namespace ClusterClause

variable {cluster : Option Lexeme} {command : Lexeme}

/-- The cluster of a clause is the one that is read. -/
theorem cluster?_append {lx : Lexeme} (h : ClusterClause limit (some lx) clause) :
    cluster? limit (clause ++ rest) = some lx.text := by
  cases h with
  | @named on word _ hon hword hname =>
    have hhere : clusterHere? limit ([on, word, lx] ++ rest) = some lx.text :=
      if_pos (by rw [hon, hword, hname]; rfl)
    rw [cluster?, List.cons_append, firstSome]
    rw [List.cons_append] at hhere
    rw [hhere]

/-- A clause does not begin with `CLUSTER`. -/
theorem startsWith_append {lx : Lexeme} (h : ClusterClause limit (some lx) clause) :
    startsWith (isWord ["CLUSTER"]) (clause ++ rest) = false := by
  cases h with
  | named hon => exact isWord_of_disjoint (isWord_of_isWordWithin hon) (by decide)

/-- A clause is skipped in front of the command. -/
theorem skipCluster_append (h : ClusterClause limit cluster clause)
    (hcommand : command.isWord ["ON"] = false) :
    skipCluster (clause ++ command :: rest) = command :: rest := by
  cases h with
  | missing => exact Difference.skipCluster_of_head hcommand
  | named hon hword => exact if_pos (by rw [isWord_of_isWordWithin hon, hword]; rfl)

end ClusterClause

end Cluster

/-! ### Alterations -/

namespace AlterationHeader

variable {header : AlterationHeader} {command : Lexeme} {rest : List Lexeme}

/-- The first part of the name is none of the words that are skipped in front of it. -/
theorem startsWith_name_append (header : AlterationHeader) {words : List String}
    (hwords : words ⊆ ["TABLE", "TEMPORARY", "IF", "NOT", "EXISTS"]) (behind : List Lexeme) :
    startsWith (isWord words) (header.name ++ behind) = false :=
  header.spells_name.startsWith_isWord_append header.startsWith_name hwords behind

/-- The sort of an alteration is told by the command behind its header. -/
theorem ofBeginning_eq (hcommand : command.isWord ["ON"] = false)
    (hmaximal : continuesName (header.clause ++ command :: rest) = false) :
    Kind.ofBeginning (header.verb :: header.behindVerb (command :: rest)) =
      if command.isWord ["DELETE"] then .alterDelete
      else if command.isWord ["UPDATE"] then .alterUpdate else .alter := by
  have hobject : ∀ lx ∈ header.temporary ++ [header.table],
      lx.isWord ["TABLE", "TEMPORARY"] = true := by
    intro lx hlx
    rcases List.mem_append.mp hlx with hlx | hlx
    · exact isWord_of_subset (header.isWord_temporary lx hlx) (by decide)
    · rw [List.mem_singleton.mp hlx]
      exact isWord_of_subset header.isWord_table (by decide)
  have hskip : skipWords ["TABLE", "TEMPORARY"] (header.behindVerb (command :: rest)) =
      header.name ++ (header.clause ++ command :: rest) := by
    rw [behindVerb, List.append_cons]
    exact skipWords_append hobject (header.startsWith_name_append (by decide) _)
  rw [ofBeginning_eq_ofAlteration (capitals_of_isWord header.isWord_verb), Kind.ofAlteration,
    hskip, header.spells_name.dottedName?_append hmaximal]
  simp only [header.isClause_clause.skipCluster_append hcommand]
  rfl

/-- The object of an alteration is the one with the name of its header. -/
theorem objectLocation_eq (hmaximal : continuesName (header.clause ++ rest) = false) :
    objectLocation false (header.behindVerb rest) =
      ⟨header.qualifiers.getLast?, some header.last⟩ := by
  have hprelude : ∀ lx ∈ header.temporary, lx.isWord preludeWords = true :=
    fun lx hlx => isWord_of_subset (header.isWord_temporary lx hlx) (by decide)
  have hobject : header.table.isWord objectWords = true :=
    isWord_of_subset header.isWord_table (by decide)
  have hdatabase : header.table.isWord ["DATABASE"] = false :=
    isWord_of_disjoint header.isWord_table (by decide)
  have hname : startsWith (isWord guardWords) (header.name ++ (header.clause ++ rest)) = false :=
    header.startsWith_name_append (by decide) _
  have hread := objectLocation_of_objectWord false hprelude hobject (List.forall_mem_nil _) hname
  rw [List.nil_append, header.spells_name.dottedName?_append hmaximal, Location.behindWord,
    Option.any_some, hdatabase, if_neg Bool.false_ne_true] at hread
  exact hread.trans (Location.ofParts_concat header.qualifiers header.last)

/-- The cluster of an alteration is the one of the clause in its header. -/
theorem cluster?_eq {opening : List Lexeme} {lx : Lexeme}
    (hopening : ∀ lx ∈ opening, lx.isSymbol "(" = true) (hcluster : header.cluster = some lx) :
    cluster? header.verb.depth (opening ++ header.verb :: header.behindVerb rest) =
      some lx.text := by
  have hfront : ∀ lx ∈ opening ++ header.verb :: (header.temporary ++ [header.table]),
      lx.isWord ["ON"] = false := by
    intro lx hlx
    rw [List.mem_append, List.mem_cons, List.mem_append, List.mem_singleton] at hlx
    rcases hlx with hlx | rfl | hlx | rfl
    · exact isWord_of_isSymbol (hopening lx hlx) ["ON"]
    · exact isWord_of_disjoint header.isWord_verb (by decide)
    · exact isWord_of_disjoint (header.isWord_temporary lx hlx) (by decide)
    · exact isWord_of_disjoint header.isWord_table (by decide)
  have hclause := header.isClause_clause
  rw [hcluster] at hclause
  calc cluster? header.verb.depth (opening ++ header.verb :: header.behindVerb rest)
    _ = cluster? header.verb.depth ((opening ++ header.verb ::
          (header.temporary ++ [header.table])) ++ (header.name ++ (header.clause ++ rest))) := by
      simp [behindVerb]
    _ = cluster? header.verb.depth (header.name ++ (header.clause ++ rest)) :=
      cluster?_append_of_absent hfront
    _ = cluster? header.verb.depth (header.clause ++ rest) :=
      header.spells_name.cluster?_append hclause.startsWith_append
    _ = some lx.text := hclause.cluster?_append

end AlterationHeader

/-- An alteration of a table, with any command behind its header, is a deletion or an update of rows
exactly if the command is that word. Its object is the table with the name of the header, and its
cluster is that of the clause in the header, if there is one. -/
theorem ofLexemes_alteration (sql : String) (header : AlterationHeader)
    {opening rest : List Lexeme} {command : Lexeme}
    (hopening : ∀ lx ∈ opening, lx.isSymbol "(" = true)
    (hcommand : command.isWord ["ON"] = false)
    (hmaximal : continuesName (header.clause ++ command :: rest) = false) :
    let facts :=
      Facts.ofLexemes sql (opening ++ header.verb :: header.behindVerb (command :: rest))
    facts.kind =
        (if command.isWord ["DELETE"] then .alterDelete
          else if command.isWord ["UPDATE"] then .alterUpdate else .alter) ∧
      facts.target.location = ⟨header.qualifiers.getLast?, some header.last⟩ ∧
      ∀ lx, header.cluster = some lx → facts.target.cluster = some lx.text := by
  intro facts
  have hverb : header.verb.kind = .word := kind_of_isWord header.isWord_verb
  have halter : header.verb.capitals = "ALTER" := capitals_of_isWord header.isWord_verb
  obtain ⟨hkind, hlocation⟩ :=
    ofLexemes_of_opening hopening hverb sql (header.behindVerb (command :: rest))
  refine ⟨hkind.trans (header.ofBeginning_eq hcommand hmaximal), ?_, ?_⟩
  · rw [hlocation, hkind, location_of_alteration (ofBeginning_of_alter halter _)]
    exact header.objectLocation_eq hmaximal
  · intro lx hcluster
    have hread : cluster? header.verb.depth
        (opening ++ header.verb :: header.behindVerb (command :: rest)) = some lx.text :=
      header.cluster?_eq hopening hcluster
    rw [← bodyDepth_of_opening hopening hverb] at hread
    exact hread

/-- The header of an alteration of a table called `on`. -/
def alteredOn : AlterationHeader where
  verb := ⟨.word, "ALTER", 0, 5, 0⟩
  temporary := [⟨.word, "TEMPORARY", 6, 15, 0⟩]
  table := ⟨.word, "TABLE", 16, 21, 0⟩
  qualifiers := ["db"]
  last := "on"
  name := [⟨.word, "db", 22, 24, 0⟩, ⟨.symbol, ".", 24, 25, 0⟩, ⟨.word, "on", 25, 27, 0⟩]
  cluster := some ⟨.string, "main", 39, 45, 0⟩
  clause := [⟨.word, "ON", 28, 30, 0⟩, ⟨.word, "CLUSTER", 31, 38, 0⟩, ⟨.string, "main", 39, 45, 0⟩]
  isWord_verb := by decide
  isWord_temporary := by decide
  isWord_table := by decide
  spells_name := @Spells.dotted ⟨.word, "db", 22, 24, 0⟩ ⟨.symbol, ".", 24, 25, 0⟩ _ _ rfl rfl
    (@Spells.single ⟨.word, "on", 25, 27, 0⟩ rfl)
  startsWith_name := by decide
  isClause_clause := .named (by decide) (by decide) rfl

/-- A table called `on` is told from the clause behind it. -/
theorem ofLexemes_alteredOn :
    let sql := "ALTER TEMPORARY TABLE db.on ON CLUSTER 'main' DELETE WHERE a = 1"
    let command : Lexeme := ⟨.word, "DELETE", 46, 52, 0⟩
    let rest : List Lexeme :=
      [⟨.word, "WHERE", 53, 58, 0⟩, ⟨.word, "a", 59, 60, 0⟩, ⟨.symbol, "=", 61, 62, 0⟩,
        ⟨.number, "1", 63, 64, 0⟩]
    let statement := alteredOn.verb :: alteredOn.behindVerb (command :: rest)
    let facts := Facts.ofLexemes sql statement
    lex sql = .ok statement ∧ command.isWord ["ON"] = false ∧
      continuesName (alteredOn.clause ++ command :: rest) = false ∧
      facts.kind = .alterDelete ∧ facts.target.location = ⟨some "db", some "on"⟩ ∧
      facts.target.cluster = some "main" := by
  intro sql command rest statement facts
  have hlex : lex sql = .ok statement := Token.eq_ok_of_toOption (by decide +kernel)
  have hcommand : command.isWord ["ON"] = false := by decide
  have hmaximal : continuesName (alteredOn.clause ++ command :: rest) = false := by decide
  obtain ⟨hkind, hlocation, hcluster⟩ :=
    @ofLexemes_alteration sql alteredOn [] rest command (List.forall_mem_nil _) hcommand hmaximal
  exact ⟨hlex, hcommand, hmaximal, hkind.trans (if_pos (by decide)), hlocation,
    hcluster _ rfl⟩

end SqlFacts
