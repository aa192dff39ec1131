import SqlFacts.Proofs.Aligned.Facts

/-!
# Facts and outlines

The outline of a lexeme is all of it that a reader may go by: its kind, its span, its depth, the
text of a symbol and the capitals of a word. What is written inside quotation marks and the case of
letters are no part of it. The main statement says that two statements with the same outline have
the same facts, where each name and each file is copied from the same place of both.
-/

namespace SqlFacts

open Lexeme Difference

/-- Two lexemes with the same outline. Their texts may differ, save for symbols and for words in
capitals. -/
structure Lexeme.SameOutline (a b : Lexeme) : Prop where
  kind : b.kind = a.kind
  start : b.start = a.start
  stop : b.stop = a.stop
  depth : b.depth = a.depth
  symbol : a.kind = .symbol → b.text = a.text
  word : a.kind = .word → b.capitals = a.capitals

/-- Whether two lexemes have the same outline can be computed. -/
instance (a b : Lexeme) : Decidable (a.SameOutline b) :=
  decidable_of_iff (b.kind = a.kind ∧ b.start = a.start ∧ b.stop = a.stop ∧ b.depth = a.depth ∧
      (a.kind = .symbol → b.text = a.text) ∧ (a.kind = .word → b.capitals = a.capitals))
    ⟨fun ⟨kind, start, stop, depth, symbol, word⟩ => ⟨kind, start, stop, depth, symbol, word⟩,
      fun h => ⟨h.kind, h.start, h.stop, h.depth, h.symbol, h.word⟩⟩

/-- Two texts are those of lexemes at the same index of two lists. -/
def TextsAtSameIndex (lexemes lexemes' : List Lexeme) (text text' : String) : Prop :=
  ∃ (index : Nat) (lx lx' : Lexeme), lexemes[index]? = some lx ∧ lexemes'[index]? = some lx' ∧
    lx.text = text ∧ lx'.text = text'

/-- The difference between lists with the same outline: none but that texts are copied from the same
indices. -/
def Difference.respelled (lexemes lexemes' : List Lexeme) (limit : Int) : Difference :=
  { Difference.moved 0 limit with copied := TextsAtSameIndex lexemes lexemes' }

section Outline

variable {lexemes lexemes' : List Lexeme}

/-- Lexemes at the same index of lists with the same outline are alike. -/
theorem alike_of_sameOutline (limit : Int) {a b : Lexeme} {index : Nat}
    (h : a.SameOutline b) (ha : lexemes[index]? = some a) (hb : lexemes'[index]? = some b) :
    (Difference.respelled lexemes lexemes' limit).Alike a b where
  kind := h.kind
  start := h.start
  stop := h.stop
  depth := h.depth.trans (Int.add_zero a.depth).symm
  symbol := h.symbol
  word := h.word
  copied := ⟨index, a, b, ha, hb, rfl, rfl⟩

/-- Lists with the same outline are aligned. -/
theorem aligned_of_sameOutline (limit : Int) (h : List.Forall₂ SameOutline lexemes lexemes') :
    (Difference.respelled lexemes lexemes' limit).Aligned lexemes lexemes' := by
  obtain ⟨hlength, hsame⟩ := List.forall₂_iff_get.mp h
  have halike : List.Forall₂ (Difference.respelled lexemes lexemes' limit).Alike lexemes lexemes' :=
    List.forall₂_iff_get.mpr ⟨hlength, fun index hindex hindex' =>
      alike_of_sameOutline limit (hsame index hindex hindex')
        (List.getElem?_eq_getElem hindex) (List.getElem?_eq_getElem hindex')⟩
  have haligned := Aligned.append halike (.nil (d := Difference.respelled lexemes lexemes' limit))
  rwa [List.append_nil, show (Difference.respelled lexemes lexemes' limit).closing = [] from rfl,
    List.append_nil] at haligned

/-- Two statements with the same outline have the same leading word, kind, depth, object word,
placeholders and places of keywords. Each other fact that is copied from a lexeme is missing for
both, or is the text of the lexeme at the same index of each. -/
theorem ofLexemes_of_sameOutline (sql sql' : String)
    (h : List.Forall₂ SameOutline lexemes lexemes') :
    let facts := Facts.ofLexemes sql lexemes
    let facts' := Facts.ofLexemes sql' lexemes'
    let copied := Option.Rel (TextsAtSameIndex lexemes lexemes')
    facts'.head = facts.head ∧ facts'.kind = facts.kind ∧ facts'.depth = facts.depth ∧
      facts'.objectWord = facts.objectWord ∧ facts'.parameters = facts.parameters ∧
      facts'.positions = facts.positions ∧
      copied facts.target.cluster facts'.target.cluster ∧
      copied facts.target.location.database facts'.target.location.database ∧
      copied facts.target.location.table facts'.target.location.table ∧
      copied facts.input facts'.input ∧ copied facts.format facts'.format ∧
      copied facts.outfile facts'.outfile := by
  intro facts facts' copied
  have haligned := aligned_of_sameOutline (bodyDepth lexemes (leadingWord? lexemes)) h
  have halike := haligned.facts id rfl (fun _ => rfl) sql sql'
  have hparameters : facts'.parameters = facts.parameters :=
    halike.parameters.trans (List.map_id _)
  have hpositions : facts'.positions = facts.positions :=
    halike.positions.trans (List.map_id _)
  exact ⟨halike.head, halike.kind, halike.depth.trans (Int.add_zero _), halike.objectWord,
    hparameters, hpositions, halike.cluster, halike.location.database, halike.location.table,
    halike.input, halike.format, halike.outfile⟩

end Outline

/-- The lexemes of a removal in capitals. -/
def removal : List Lexeme :=
  [⟨.word, "DROP", 0, 4, 0⟩, ⟨.word, "TABLE", 5, 10, 0⟩, ⟨.name, "t", 11, 19, 0⟩,
    ⟨.word, "ON", 20, 22, 0⟩, ⟨.word, "CLUSTER", 23, 30, 0⟩, ⟨.string, "c", 31, 39, 0⟩]

/-- The lexemes of the same removal in small letters, with keywords inside quotation marks. -/
def respelledRemoval : List Lexeme :=
  [⟨.word, "drop", 0, 4, 0⟩, ⟨.word, "table", 5, 10, 0⟩, ⟨.name, "EXISTS", 11, 19, 0⟩,
    ⟨.word, "on", 20, 22, 0⟩, ⟨.word, "cluster", 23, 30, 0⟩, ⟨.string, "SELECT", 31, 39, 0⟩]

/-- A quoted keyword is no keyword, and small letters make none less of one. -/
theorem positions_respelledRemoval :
    List.Forall₂ SameOutline removal respelledRemoval ∧
      (Facts.ofLexemes "" respelledRemoval).positions = [(.table, 5), (.cluster, 23)] ∧
      Option.Rel (TextsAtSameIndex removal respelledRemoval)
        (Facts.ofLexemes "" removal).target.cluster
        (Facts.ofLexemes "" respelledRemoval).target.cluster := by
  have hsame : List.Forall₂ SameOutline removal respelledRemoval := by decide
  obtain ⟨-, -, -, -, -, hpositions, hcluster, -⟩ := ofLexemes_of_sameOutline "" "" hsame
  exact ⟨hsame, hpositions.trans (by decide), hcluster⟩

end SqlFacts
