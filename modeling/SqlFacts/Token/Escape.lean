import SqlFacts.Text.Basic

/-!
# Escapes in quoted text

Two families of escapes: a backslash and a letter that stands for one character, and the bytes
`\xHH`, of which a run that spells one character in UTF-8 is decoded together.
-/

namespace SqlFacts.Token

/-- The characters that a backslash and the given character stand for, if they form an escape.
A backslash before a control character drops out. -/
def letterEscape? (c : Char) : Option (List Char) :=
  match c with
  | 'a' => some ['\x07']
  | 'b' => some ['\x08']
  | 'f' => some ['\x0c']
  | 'n' => some ['\n']
  | 'r' => some ['\r']
  | 't' => some ['\t']
  | 'v' => some ['\x0b']
  | '0' => some ['\x00']
  | 'e' => some ['\x1b']
  | 'N' => some []
  | '\\' | '/' | '"' | '=' | '`' => some [c]
  | _ => if 1 ≤ c.toNat ∧ c.toNat < 32 then some [c] else none

/-- The byte written as `\xHH` in front of a text, with the text after it. -/
def escapedByte? : List Char → Option (Nat × List Char)
  | '\\' :: 'x' :: high :: low :: rest => (Text.hexNumber? [high, low]).map (·, rest)
  | _ => none

/-- Up to `count` continuation bytes of UTF-8 in front of a text, with the text after them. -/
def continuationBytes : Nat → List Char → List Nat × List Char
  | 0, cs => ([], cs)
  | count + 1, cs =>
    match escapedByte? cs with
    | some (byte, rest) =>
      if 0x80 ≤ byte ∧ byte ≤ 0xBF then
        let (bytes, after) := continuationBytes count rest
        (byte :: bytes, after)
      else ([], cs)
    | none => ([], cs)

/-- How many continuation bytes a lead byte of UTF-8 asks for. -/
def continuationCount (lead : Nat) : Nat :=
  if lead < 0xE0 then 1 else if lead < 0xF0 then 2 else 3

/-- The character that a lead byte and its continuation bytes spell. Overlong forms, surrogates
and incomplete runs spell none. -/
def utf8Char? (lead : Nat) (tail : List Nat) : Option Char :=
  let count := continuationCount lead
  let leadBits := lead - (if count = 1 then 0xC0 else if count = 2 then 0xE0 else 0xF0)
  let code := tail.foldl (fun n byte => 64 * n + (byte - 0x80)) leadBits
  let least := if count = 1 then 0x80 else if count = 2 then 0x800 else 0x10000
  if tail.length = count ∧ least ≤ code ∧ code.isValidChar then some (Char.ofNat code) else none

/-- The character written as `\xHH` in front of a text, or as a run of such bytes in UTF-8, and
how many characters write it. An escape that ends the text is not decoded. -/
def byteEscape? (cs : List Char) : Option (Char × Nat) :=
  match escapedByte? cs with
  | none => none
  | some (byte, rest) =>
    let single := if rest.isEmpty then none else some (Char.ofNat byte, 4)
    if 0xC2 ≤ byte ∧ byte ≤ 0xF4 then
      let (tail, after) := continuationBytes (continuationCount byte) rest
      match utf8Char? byte tail with
      | some c => if after.isEmpty then single else some (c, 4 + 4 * tail.length)
      | none => single
    else single

end SqlFacts.Token
