import IdentityServer.Json.Basic
import IdentityServer.Text.Hex

/-!
# Canonical JSON

The text of a value without any blank, with the fields of objects in their order, the fewest escapes and
the fewest digits. Equal well-formed values have equal texts. The indented text, with a line for every item
and field, is for reading only.
-/

namespace IdentityServer.Json

/-- A character inside a text: the quote, the backslash and the controls are escaped, the five common
    controls by a letter and the others by their number. -/
def escape (c : Char) : List Char :=
  if c = '"' then ['\\', '"']
  else if c = '\\' then ['\\', '\\']
  else if c = '\x08' then ['\\', 'b']
  else if c = '\t' then ['\\', 't']
  else if c = '\n' then ['\\', 'n']
  else if c = '\x0c' then ['\\', 'f']
  else if c = '\r' then ['\\', 'r']
  else if c.toNat < 0x20 then ['\\', 'u', '0', '0', Hex.digit (c.toNat / 16), Hex.digit (c.toNat % 16)]
  else [c]

/-- A text between quotes. -/
def renderText (s : String) : List Char :=
  '"' :: (s.toList.flatMap escape ++ ['"'])

/-- Doubles are written in positional notation from 0.00001 up to below 10 ^ 16, and an integral one shows
    a zero after the point. -/
def floatLayout : FloatLayout where
  positional := some (-5, 15)
  pointZero := true
  infinity := "null"
  undefined := "null"

mutual

/-- The canonical text of a value. -/
def render : Json → List Char
  | .null => ['n', 'u', 'l', 'l']
  | .bool true => ['t', 'r', 'u', 'e']
  | .bool false => ['f', 'a', 'l', 's', 'e']
  | .int n => Text.showInt n
  | .float x => floatLayout.text x
  | .str s => renderText s
  | .arr [] => ['[', ']']
  | .arr (item :: rest) => '[' :: (item.render ++ renderItems rest)
  | .obj [] => ['{', '}']
  | .obj ((name, value) :: rest) => '{' :: (renderText name ++ ':' :: (value.render ++ renderFields rest))

/-- The items after the first one, and the closing bracket. -/
def renderItems : List Json → List Char
  | [] => [']']
  | item :: rest => ',' :: (item.render ++ renderItems rest)

/-- The fields after the first one, and the closing brace. -/
def renderFields : List (String × Json) → List Char
  | [] => ['}']
  | (name, value) :: rest => ',' :: (renderText name ++ ':' :: (value.render ++ renderFields rest))

end

/-- The canonical text of a value. -/
def canonical (v : Json) : String :=
  String.ofList v.render

/-! ### The indented text -/

/-- A line break and the blanks of a depth, two for each step. -/
def newline (depth : Nat) : List Char :=
  '\n' :: List.replicate (2 * depth) ' '

mutual

/-- The text of a value with its items and fields on lines of their own, at a depth. -/
def renderIndented (depth : Nat) : Json → List Char
  | .arr (item :: rest) =>
    '[' :: (newline (depth + 1) ++ item.renderIndented (depth + 1) ++ indentedItems depth rest)
  | .obj ((name, value) :: rest) =>
    '{' :: (newline (depth + 1) ++ renderText name ++ [':', ' '] ++ value.renderIndented (depth + 1) ++
      indentedFields depth rest)
  | v => v.render

/-- The items after the first one, and the closing bracket. -/
def indentedItems (depth : Nat) : List Json → List Char
  | [] => newline depth ++ [']']
  | item :: rest => ',' :: (newline (depth + 1) ++ item.renderIndented (depth + 1) ++ indentedItems depth rest)

/-- The fields after the first one, and the closing brace. -/
def indentedFields (depth : Nat) : List (String × Json) → List Char
  | [] => newline depth ++ ['}']
  | (name, value) :: rest =>
    ',' :: (newline (depth + 1) ++ renderText name ++ [':', ' '] ++ value.renderIndented (depth + 1) ++
      indentedFields depth rest)

end

/-- The text of a value with two blanks of indentation for each depth. -/
def indented (v : Json) : String :=
  String.ofList (v.renderIndented 0)

end IdentityServer.Json
