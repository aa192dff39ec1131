import SqlFacts.Lexeme.Basic

/-!
# Reading lexemes

The few moves that clauses are read with: looking for a word, skipping words, and reading a name
with dots. They work on the rest of a statement and hand back what is left.
-/

namespace SqlFacts.Lexeme

universe u

/-- The rest of a list from the first lexeme on that passes the test. -/
def seek (test : Lexeme → Bool) (lexemes : List Lexeme) : List Lexeme :=
  lexemes.dropWhile (!test ·)

/-- The index of the first of the given words from `start` on that is nested no deeper than the
limit. -/
def findWord? (words : List String) (start : Nat) (limit : Int) (lexemes : List Lexeme) :
    Option Nat :=
  ((lexemes.drop start).findIdx? (isWordWithin words limit)).map (start + ·)

/-- The rest of a list behind the first of the given words that is nested no deeper than the
limit. -/
def afterWord? (words : List String) (limit : Int) (lexemes : List Lexeme) :
    Option (List Lexeme) :=
  match seek (isWordWithin words limit) lexemes with
  | [] => none
  | _ :: rest => some rest

/-- The rest of a list behind the given words in front of it. -/
def skipWords (words : List String) (lexemes : List Lexeme) : List Lexeme :=
  lexemes.dropWhile (isWord words)

/-- The number of the given words in front of a list. -/
def countWords (words : List String) (lexemes : List Lexeme) : Nat :=
  (lexemes.takeWhile (isWord words)).length

/-- Tests whether the first lexeme, if any, passes the test. -/
def startsWith (test : Lexeme → Bool) (lexemes : List Lexeme) : Bool := lexemes.head?.any test

@[simp] theorem startsWith_cons (test : Lexeme → Bool) (lx : Lexeme) (rest : List Lexeme) :
    startsWith test (lx :: rest) = test lx := rfl

/-- The first answer of a reader along a list. -/
def firstSome {α : Type u} (read : List Lexeme → Option α) : List Lexeme → Option α
  | [] => none
  | lx :: rest =>
    match read (lx :: rest) with
    | some answer => some answer
    | none => firstSome read rest

/-- The last answer of a reader along a list. -/
def lastSome {α : Type u} (read : List Lexeme → Option α) : List Lexeme → Option α
  | [] => none
  | lx :: rest =>
    match lastSome read rest with
    | some answer => some answer
    | none => read (lx :: rest)

/-- A name read from the front of a list: its parts, and the lexemes behind it. -/
structure DottedName where
  parts : List String
  rest : List Lexeme

namespace DottedName

/-- The number of lexemes of a name: its parts and the dots between them. -/
def size (name : DottedName) : Nat := 2 * name.parts.length - 1

/-- The last part of a name. -/
def last? (name : DottedName) : Option String := name.parts.getLast?

/-- The part in front of the last one. -/
def qualifier? (name : DottedName) : Option String := name.parts.dropLast.getLast?

/-- Tests whether an opening parenthesis follows, so that the name is that of a call. -/
def isCall (name : DottedName) : Bool := startsWith (isSymbol "(") name.rest

end DottedName

/-- The parts that dots join to a name already begun. -/
def furtherParts : List Lexeme → DottedName
  | dot :: part :: rest =>
    if dot.isSymbol "." && part.isIdentifier then
      let further := furtherParts rest
      ⟨part.text :: further.parts, further.rest⟩
    else ⟨[], dot :: part :: rest⟩
  | rest => ⟨[], rest⟩

/-- The name in front of a list. -/
def dottedName? : List Lexeme → Option DottedName
  | [] => none
  | lx :: rest =>
    if lx.isIdentifier then
      let further := furtherParts rest
      some ⟨lx.text :: further.parts, further.rest⟩
    else none

/-- The name in front of a list, unless it is that of a call. -/
def objectName? (lexemes : List Lexeme) : Option DottedName :=
  (dottedName? lexemes).filter (!·.isCall)

end SqlFacts.Lexeme
