/-!
# Comments

A line comment runs up to the end of its line. A block comment runs up to its closing mark and
may hold block comments of the same style; one that begins directly after an opening mark is not
noticed.
-/

namespace SqlFacts.Token

/-- The style of a comment: up to the end of the line, or between two marks of two characters. -/
inductive CommentStyle where
  | line
  | block (opening closing : Char × Char)
  deriving DecidableEq, Repr

/-- The number of characters of a line comment behind its opening mark. -/
def lineCommentLength (cs : List Char) : Nat := (cs.takeWhile (· != '\n')).length

/-- The number of characters of a block comment behind its opening mark, up to and with the mark
that closes it, given how many blocks are open. There is none if the text ends before. -/
def blockCommentLength? (opening closing : Char × Char) : Nat → List Char → Option Nat
  | _, [] => none
  | _, [_] => none
  | depth, [a, b] => if (a, b) = closing ∧ depth = 1 then some 2 else none
  | depth, a :: b :: c :: rest =>
    let closes := (a, b) = closing
    if closes ∧ depth = 1 then some 2
    else
      let depth := if closes then depth - 1 else depth
      if (b, c) = opening then
        (blockCommentLength? opening closing (depth + 1) rest).map (· + 3)
      else (blockCommentLength? opening closing depth (b :: c :: rest)).map (· + 1)

/-- The number of characters of a comment behind its opening mark. -/
def CommentStyle.length? : CommentStyle → List Char → Option Nat
  | .line, cs => some (lineCommentLength cs)
  | .block opening closing, cs => blockCommentLength? opening closing 1 cs

end SqlFacts.Token
