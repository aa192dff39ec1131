import SqlFacts.Text.Basic

/-!
# JSON documents

Values of JSON whose objects keep the order of their members, and their two written forms: on
one line, and indented by two blanks a level. Both are plain ASCII.
-/

namespace SqlFacts

/-- A JSON value without fractions; objects keep the order of their members. -/
inductive Json where
  | null
  | bool (value : Bool)
  | number (value : Int)
  | text (value : String)
  | array (items : List Json)
  | object (members : List (String × Json))

namespace Json

/-- An absent text is `null`. -/
def ofOption : Option String → Json
  | none => .null
  | some s => .text s

/-- The unit of the UTF-16 form as an escape. -/
def escapedUnit (unit : Nat) : List Char := '\\' :: 'u' :: Text.hexDigits 4 unit

/-- The written form of a character inside a JSON text. -/
def writtenChar (c : Char) : List Char :=
  if c == '"' || c == '\\' then ['\\', c]
  else if c == '\n' then ['\\', 'n']
  else if c == '\r' then ['\\', 'r']
  else if c == '\t' then ['\\', 't']
  else if c.toNat = 8 then ['\\', 'b']
  else if c.toNat = 12 then ['\\', 'f']
  else if 0x20 ≤ c.toNat ∧ c.toNat < 0x7F then [c]
  else if c.toNat < 0x10000 then escapedUnit c.toNat
  else
    let offset := c.toNat - 0x10000
    escapedUnit (0xD800 + offset / 0x400) ++ escapedUnit (0xDC00 + offset % 0x400)

/-- The written form of a JSON text. -/
def writtenText (s : String) : String :=
  String.ofList ('"' :: s.toList.flatMap writtenChar ++ ['"'])

mutual

/-- The form on one line: a blank after each comma and colon. -/
def compact : Json → String
  | .null => "null"
  | .bool value => if value then "true" else "false"
  | .number value => toString value
  | .text value => writtenText value
  | .array items => "[" ++ ", ".intercalate (compactItems items) ++ "]"
  | .object members => "\x7b" ++ ", ".intercalate (compactMembers members) ++ "\x7d"

/-- The items of an array on one line. -/
def compactItems : List Json → List String
  | [] => []
  | item :: items => item.compact :: compactItems items

/-- The members of an object on one line. -/
def compactMembers : List (String × Json) → List String
  | [] => []
  | (key, value) :: members =>
    (writtenText key ++ ": " ++ value.compact) :: compactMembers members

end

theorem compactItems_eq_map (items : List Json) : compactItems items = items.map compact := by
  induction items with
  | nil => rfl
  | cons item items ih => rw [compactItems, ih, List.map_cons]

theorem compactMembers_eq_map (members : List (String × Json)) :
    compactMembers members =
      members.map fun member => writtenText member.1 ++ ": " ++ member.2.compact := by
  induction members with
  | nil => rfl
  | cons member members ih => rw [compactMembers, ih, List.map_cons]

/-- The break before an item at the given level. -/
def lineBreak (level : Nat) : String := String.ofList ('\n' :: List.replicate (2 * level) ' ')

/-- Written items between brackets, one a line; without items the brackets stand together. -/
def block (opening closing : String) (level : Nat) (items : List String) : String :=
  if items.isEmpty then opening ++ closing
  else
    opening ++ lineBreak (level + 1) ++ ("," ++ lineBreak (level + 1)).intercalate items ++
      lineBreak level ++ closing

mutual

/-- The form with one item or member a line, indented by two blanks a level. -/
def indentedAt (level : Nat) : Json → String
  | .array items => block "[" "]" level (indentedItems (level + 1) items)
  | .object members => block "\x7b" "\x7d" level (indentedMembers (level + 1) members)
  | .null => "null"
  | .bool value => if value then "true" else "false"
  | .number value => toString value
  | .text value => writtenText value

/-- The items of an array, each indented. -/
def indentedItems (level : Nat) : List Json → List String
  | [] => []
  | item :: items => item.indentedAt level :: indentedItems level items

/-- The members of an object, each indented. -/
def indentedMembers (level : Nat) : List (String × Json) → List String
  | [] => []
  | (key, value) :: members =>
    (writtenText key ++ ": " ++ value.indentedAt level) :: indentedMembers level members

end

/-- The indented form of a whole document. -/
def indented (document : Json) : String := document.indentedAt 0

end Json

end SqlFacts
