/-!
# Similar names

How alike two names are: twice the number of matching characters over the total number, where
the matching characters are those of the longest common block and, recursively, of the parts to
its left and to its right. A mistyped name is answered with the known names that are at least
three fifths alike.
-/

namespace SqlFacts.Text

/-- The length of the longest common beginning of two lists. -/
def commonLength : List Char → List Char → Nat
  | a :: as, b :: bs => if a == b then commonLength as bs + 1 else 0
  | _, _ => 0

/-- A block of equal characters: where it starts in either list, and how long it is. -/
structure Block where
  left : Nat
  right : Nat
  size : Nat

/-- The longest common block, the first one in the left list, then in the right list. -/
def longestBlock (as bs : List Char) : Block :=
  (List.range as.length).foldl
    (fun best i => (List.range bs.length).foldl
      (fun best j =>
        let size := commonLength (as.drop i) (bs.drop j)
        if best.size < size then ⟨i, j, size⟩ else best) best)
    ⟨0, 0, 0⟩

/-- The number of matching characters, with the depth of the recursion bounded by `fuel`. -/
def matchesWithin : Nat → List Char → List Char → Nat
  | 0, _, _ => 0
  | fuel + 1, as, bs =>
    let block := longestBlock as bs
    if block.size = 0 then 0
    else
      matchesWithin fuel (as.take block.left) (bs.take block.right) + block.size +
        matchesWithin fuel (as.drop (block.left + block.size)) (bs.drop (block.right + block.size))

/-- The number of matching characters. Each level of the recursion shortens the left list. -/
def matchingCharacters (as bs : List Char) : Nat := matchesWithin (as.length + 1) as bs

/-- How alike two names are, as a fraction of matching and total characters. -/
structure Likeness where
  matching : Nat
  total : Nat

namespace Likeness

/-- The likeness of a known name and a given one. -/
def between (known given : String) : Likeness :=
  ⟨2 * matchingCharacters known.toList given.toList, known.length + given.length⟩

/-- Tests whether the fraction is at least three fifths. -/
def isClose (a : Likeness) : Bool := 3 * a.total ≤ 5 * a.matching

/-- Tests whether one fraction exceeds another. -/
def exceeds (a b : Likeness) : Bool := b.matching * a.total < a.matching * b.total

end Likeness

/-- Up to three known names that are close to the given one, the closest first. -/
def closeNames (given : String) (known : List String) : List String :=
  let scored := (known.map fun name => (Likeness.between name given, name)).filter (·.1.isClose)
  let ordered := scored.mergeSort fun a b =>
    a.1.exceeds b.1 || (!b.1.exceeds a.1 && b.2 ≤ a.2)
  (ordered.take 3).map (·.2)

end SqlFacts.Text
