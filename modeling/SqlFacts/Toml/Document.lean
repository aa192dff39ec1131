import SqlFacts.Toml.Scalar

/-!
# TOML documents

A document is read statement by statement: pairs of a key and a value, and headers that open a
table or add one to an array. Tables may be extended by later statements unless a header or a
dotted key has closed them, and values written out in brackets or braces never change. Values are
read by calls within calls, and the stack has room for so many of them only: `room` counts those
that may still be made. The few calls that read a key or a scalar come back before the next value
is read, so they are left out of the count and of the room.
-/

namespace SqlFacts.Toml

/-- Passes over blanks, ends of lines and comments between the items of an array. -/
def skipBetweenItems : (inComment : Bool) → List Char → Except Error (List Char)
  | _, [] => .ok []
  | true, c :: rest =>
    if c == '\n' then skipBetweenItems false rest
    else if isControl c then .error .malformed
    else skipBetweenItems true rest
  | false, c :: rest =>
    if isSpaceOrLineEnd c then skipBetweenItems false rest
    else if c == '#' then skipBetweenItems true rest
    else .ok (c :: rest)

/-- Tests whether one path begins with another. -/
def Path.extends (path front : Path) : Bool := front.isPrefixOf path

/-- Tests whether a path lies at or below one of the given paths. -/
def Path.isBelow (fronts : List Path) (path : Path) : Bool := fronts.any path.extends

/-- Turns a failed change of a table into an error. -/
def orMalformed {α : Type} : Option α → Except Error α
  | none => .error .malformed
  | some a => .ok a

/-- An inline table as it is read: its entries, and the paths whose values may not change. -/
structure InlineTable where
  entries : Table
  frozen : List Path

/-- Adds a pair to an inline table. -/
def InlineTable.add (table : InlineTable) (path : Path) (value : Value) :
    Except Error InlineTable := do
  if path.isBelow table.frozen then .error .malformed
  else
    let entries ← orMalformed
      (Table.openAt false (Table.add? (path.getLast?.getD "") value) path.dropLast table.entries)
    return ⟨entries, if value.isContainer then path :: table.frozen else table.frozen⟩

/-- The calls that the stack has room for when a document is read and nothing else is said. -/
def standardRoom : Nat := 970

/-- The calls from one array to the values in it: one for its items, and one for each value. -/
def arrayCalls : Nat := 2

/-- The calls from one inline table to the values in it: for its pairs, for each pair, and for the
value of the pair. -/
def tableCalls : Nat := 3

/-- What the room comes to by further calls, if there is room for them. -/
def deeper (calls room : Nat) : Except Error Nat :=
  if room < calls then .error .tooDeep else .ok (room - calls)

mutual

/-- A value, with the steps of reading bounded by `fuel`. -/
def valueWithin : (fuel room : Nat) → List Char → Except Error (Value × List Char)
  | 0, _, _ => .error .malformed
  | fuel + 1, room, cs =>
    match cs with
    | 't' :: 'r' :: 'u' :: 'e' :: rest => .ok (.boolean true, rest)
    | 'f' :: 'a' :: 'l' :: 's' :: 'e' :: rest => .ok (.boolean false, rest)
    | '[' :: rest => do
      let room ← deeper arrayCalls room
      match ← skipBetweenItems false rest with
      | ']' :: rest => return (.array [], rest)
      | rest => arrayWithin fuel room [] rest
    | '\x7b' :: rest => do
      let room ← deeper tableCalls room
      match skipSpace rest with
      | '\x7d' :: rest => return (.table [], rest)
      | rest => inlineTableWithin fuel room ⟨[], []⟩ rest
    | _ =>
      match quotedText? cs with
      | some read => read.map fun (text, rest) => (.text (String.ofList text), rest)
      | none =>
        match moment? cs with
        | some read => read
        | none =>
          match radixInteger? cs with
          | some (n, rest) => .ok (.integer n, rest)
          | none => ((decimalNumber? cs).or (specialNumber? cs)).getD (.error .malformed)
termination_by structural fuel => fuel

/-- The items of an array that are left, behind those already read. -/
def arrayWithin : (fuel room : Nat) → (before : List Value) → List Char →
    Except Error (Value × List Char)
  | 0, _, _, _ => .error .malformed
  | fuel + 1, room, before, cs => do
    let (item, rest) ← valueWithin fuel room cs
    let items := before ++ [item]
    match ← skipBetweenItems false rest with
    | ']' :: rest => return (.array items, rest)
    | ',' :: rest =>
      match ← skipBetweenItems false rest with
      | ']' :: rest => return (.array items, rest)
      | rest => arrayWithin fuel room items rest
    | _ => .error .malformed
termination_by structural fuel => fuel

/-- The pairs of an inline table that are left, behind those already read. -/
def inlineTableWithin : (fuel room : Nat) → InlineTable → List Char →
    Except Error (Value × List Char)
  | 0, _, _, _ => .error .malformed
  | fuel + 1, room, before, cs => do
    let (path, value, rest) ← pairWithin fuel room cs
    let table ← before.add path value
    match skipSpace rest with
    | '\x7d' :: rest => return (.table table.entries, rest)
    | ',' :: rest => inlineTableWithin fuel room table (skipSpace rest)
    | _ => .error .malformed
termination_by structural fuel => fuel

/-- A key, an equals sign and a value. -/
def pairWithin : (fuel room : Nat) → List Char → Except Error (Path × Value × List Char)
  | 0, _, _ => .error .malformed
  | fuel + 1, room, cs => do
    let (path, rest) ← key cs
    match rest with
    | '=' :: rest =>
      let (value, rest) ← valueWithin fuel room (skipSpace rest)
      return (path, value, rest)
    | _ => .error .malformed
termination_by structural fuel => fuel

end

/-- A key, an equals sign and a value. At most three steps go by without taking a character. -/
def pair (room : Nat) (cs : List Char) : Except Error (Path × Value × List Char) :=
  pairWithin (4 * cs.length + 4) room cs

/-- A document as far as it has been read: its tables, the table that the last header opened, the
tables that may not be opened by a header any more, those that the next header closes so, and the
paths whose values may not change. -/
structure Document where
  root : Table
  header : Path
  closed : List Path
  closing : List Path
  frozen : List Path

namespace Document

/-- The document without statements. -/
def empty : Document := ⟨[], [], [], [], []⟩

/-- The document before a header, which closes the tables that dotted keys have opened. -/
def beforeHeader (doc : Document) : Document :=
  { doc with closed := doc.closing ++ doc.closed, closing := [] }

/-- Opens the table of a header. -/
def openTable (doc : Document) (path : Path) : Except Error Document :=
  if doc.closed.contains path || path.isBelow doc.frozen then .error .malformed
  else do
    let root ← orMalformed (Table.openAt true some path doc.root)
    return { doc with root, header := path, closed := path :: doc.closed }

/-- Adds a table to the array of a header, and opens it. What was known below the path held for
the table before. -/
def openItem (doc : Document) (path : Path) : Except Error Document :=
  if path.isBelow doc.frozen then .error .malformed
  else do
    let root ← orMalformed
      (Table.openAt true (Table.addToArray? (path.getLast?.getD "")) path.dropLast doc.root)
    return { doc with
      root
      header := path
      closed := path :: doc.closed.filter fun other => !other.extends path
      frozen := doc.frozen.filter fun other => !other.extends path }

/-- The tables that a dotted key passes through below a header. -/
def passedTables (header path : Path) : List Path :=
  ((List.range path.length).drop 1).map fun count => header ++ path.take count

/-- Adds a pair to the table that the last header opened. -/
def addPair (doc : Document) (path : Path) (value : Value) : Except Error Document :=
  let passed := passedTables doc.header path
  let parent := doc.header ++ path.dropLast
  if passed.any doc.closed.contains || parent.isBelow doc.frozen then .error .malformed
  else do
    let root ← orMalformed
      (Table.openAt true (Table.add? (path.getLast?.getD "") value) parent doc.root)
    let frozen := if value.isContainer then (doc.header ++ path) :: doc.frozen else doc.frozen
    return { doc with root, closing := passed ++ doc.closing, frozen }

/-- Reads a header in front of a text, from its first bracket on. -/
def readHeader (doc : Document) (cs : List Char) : Except Error (Document × List Char) := do
  match cs with
  | '[' :: '[' :: rest =>
    let (path, rest) ← key (skipSpace rest)
    let doc ← doc.beforeHeader.openItem path
    match rest with
    | ']' :: ']' :: rest => return (doc, rest)
    | _ => .error .malformed
  | '[' :: rest =>
    let (path, rest) ← key (skipSpace rest)
    let doc ← doc.beforeHeader.openTable path
    match rest with
    | ']' :: rest => return (doc, rest)
    | _ => .error .malformed
  | _ => .error .malformed

/-- Reads a statement in front of a text that is not blank. -/
def readStatement (room : Nat) (doc : Document) (cs : List Char) :
    Except Error (Document × List Char) :=
  match cs with
  | '#' :: _ => .ok (doc, cs)
  | '[' :: _ => readHeader doc cs
  | _ => do
    let (path, value, rest) ← pair room cs
    return (← doc.addPair path value, rest)

/-- The text from the end of the line on, if only blanks and a comment are left of the line. -/
def lineEnd (cs : List Char) : Except Error (List Char) :=
  match skipSpace cs with
  | [] => .ok []
  | '\n' :: rest => .ok ('\n' :: rest)
  | '#' :: rest =>
    let comment := rest.takeWhile (· != '\n')
    if comment.any isControl then .error .malformed else .ok (rest.dropWhile (· != '\n'))
  | _ => .error .malformed

/-- Reads the statements of a text, at most as many as `fuel` says. -/
def readWithin (room : Nat) : (fuel : Nat) → Document → List Char → Except Error Document
  | 0, _, _ => .error .malformed
  | fuel + 1, doc, cs =>
    match skipSpace cs with
    | [] => .ok doc
    | '\n' :: rest => readWithin room fuel doc rest
    | cs => do
      let (doc, rest) ← doc.readStatement room cs
      match ← lineEnd rest with
      | [] => return doc
      | _ :: rest => readWithin room fuel doc rest

end Document

/-- Reads a document whose lines end in line feeds, if the stack has room for so many calls. Each
statement takes a character at least. -/
def parse (room : Nat) (cs : List Char) : Except Error Table :=
  (Document.readWithin room (cs.length + 1) .empty cs).map (·.root)

end SqlFacts.Toml
