import RelyingParty.Json.Basic
import RelyingParty.Json.Quoted
import RelyingParty.Text.Digits

/-!
# Writing documents

The compact form: no blanks, members in their order, text quoted with the fewest escapes.
-/

namespace RelyingParty.Json
set_option autoImplicit false

mutual

/-- The characters of a document in compact form. -/
def chars : Json → List Char
  | .null => ['n', 'u', 'l', 'l']
  | .bool true => ['t', 'r', 'u', 'e']
  | .bool false => ['f', 'a', 'l', 's', 'e']
  | .int value => Text.integerChars value
  | .decimal mantissa exponent => Text.integerChars mantissa ++ 'e' :: Text.integerChars exponent
  | .string text => quote text
  | .array elements => '[' :: elementChars elements
  | .object members => '\x7b' :: memberChars members
  | .garbled => ['"', '\\', 'u', 'd', '8', '0', '0', '"']

/-- The elements of an array with the commas between them, up to the closing bracket. -/
def elementChars : List Json → List Char
  | [] => [']']
  | [element] => chars element ++ [']']
  | element :: next :: rest => chars element ++ ',' :: elementChars (next :: rest)

/-- The members of an object with the commas between them, up to the closing brace. -/
def memberChars : List (String × Json) → List Char
  | [] => ['\x7d']
  | [(name, value)] => quote name ++ ':' :: chars value ++ ['\x7d']
  | (name, value) :: next :: rest =>
    quote name ++ ':' :: chars value ++ ',' :: memberChars (next :: rest)

end

/-- The compact text of a document. -/
def text (document : Json) : String :=
  String.ofList document.chars

end RelyingParty.Json
