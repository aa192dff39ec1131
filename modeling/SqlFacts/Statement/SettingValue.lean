import SqlFacts.Decimal.Shortest
import SqlFacts.Text.Basic

/-!
# Values of settings

A setting may be given as a value of any shape; a descriptor keeps its text. A text stands for
itself, and inside a list or a record it is quoted.
-/

namespace SqlFacts

/-- A value that a caller gives to a setting. -/
inductive SettingValue where
  | null
  | bool (value : Bool)
  | integer (value : Int)
  | fraction (value : Float)
  | text (value : String)
  | list (items : List SettingValue)
  | record (members : List (String × SettingValue))

namespace SettingValue

instance : Inhabited SettingValue := ⟨.null⟩

/-- Fractions from `1e-4` up to `1e16` are written with a plain point, the others with an exponent
of at least two digits. -/
def fractionLayout : Decimal.Layout := ⟨-4, 16, 2⟩

mutual

/-- The text of a value as part of a list or a record. -/
def nestedText : SettingValue → String
  | .null => "None"
  | .bool value => if value then "True" else "False"
  | .integer value => toString value
  | .fraction value => fractionLayout.text value
  | .text value => Text.quoted value
  | .list items => "[" ++ ", ".intercalate (itemTexts items) ++ "]"
  | .record members => "\x7b" ++ ", ".intercalate (memberTexts members) ++ "\x7d"

/-- The texts of the items of a list. -/
def itemTexts : List SettingValue → List String
  | [] => []
  | item :: items => item.nestedText :: itemTexts items

/-- The texts of the members of a record. -/
def memberTexts : List (String × SettingValue) → List String
  | [] => []
  | (key, value) :: members => (Text.quoted key ++ ": " ++ value.nestedText) :: memberTexts members

end

/-- The text that a descriptor keeps for a value; there is none for an absent value. -/
def text? : SettingValue → Option String
  | .null => none
  | .text value => some value
  | value => some value.nestedText

theorem itemTexts_eq_map (items : List SettingValue) : itemTexts items = items.map nestedText := by
  induction items with
  | nil => rfl
  | cons item items ih => rw [itemTexts, ih, List.map_cons]

theorem memberTexts_eq_map (members : List (String × SettingValue)) :
    memberTexts members =
      members.map fun member => Text.quoted member.1 ++ ": " ++ member.2.nestedText := by
  induction members with
  | nil => rfl
  | cons member members ih => rw [memberTexts, ih, List.map_cons]

/-- Only an absent value has no text. -/
theorem text?_eq_none_iff {value : SettingValue} : value.text? = none ↔ value = .null := by
  cases value <;> simp [text?]

/-- A text is kept as it is. -/
@[simp] theorem text?_text (s : String) : (SettingValue.text s).text? = some s := rfl

theorem text?_bool (value : Bool) :
    (SettingValue.bool value).text? = some (if value then "True" else "False") := rfl

theorem text?_integer (n : Int) : (SettingValue.integer n).text? = some (toString n) := rfl

/-- A list keeps its items between brackets. -/
theorem text?_list (items : List SettingValue) :
    (SettingValue.list items).text? =
      some ("[" ++ ", ".intercalate (items.map nestedText) ++ "]") := by
  rw [text?.eq_3 _ (by simp) (by simp), nestedText, itemTexts_eq_map]

/-- A record keeps its members between braces, each behind its quoted name. -/
theorem text?_record (members : List (String × SettingValue)) :
    (SettingValue.record members).text? =
      some ("\x7b" ++ ", ".intercalate (members.map fun member =>
        Text.quoted member.1 ++ ": " ++ member.2.nestedText) ++ "\x7d") := by
  rw [text?.eq_3 _ (by simp) (by simp), nestedText, memberTexts_eq_map]

end SettingValue

end SqlFacts
