/-
Attributes as text: the tokens of a value, and the value of tokens.

* `Attribute.tokens`: the tokens of a value, fields in the given order;
* `Attribute.ofTokens?`: the value that tokens write, if they write
  exactly one;
* `Attribute.write`, `Attribute.read?`: the same for text, the fields of
  what is written in canonical order;
* `Attribute.writeMap`, `Attribute.writeMap?`: the text of a whole map, and
  whether it has one;
* `Attribute.readMap`: the map of a text; what is not the text of a map reads
  as the empty map.
-/
import CausalTrace.Attribute.Basic
import CausalTrace.Attribute.Token
import CausalTrace.Keyed

namespace CausalTrace
namespace Attribute

/-! ### Tokens of a value -/

mutual

/-- The tokens of a value, in front of those that follow it. -/
def tokens : Attribute → List Token → List Token
  | null, rest => .null :: rest
  | bool value, rest => .bool value :: rest
  | int value, rest => .int value :: rest
  | float value, rest => .float value :: rest
  | text value, rest => .quoted value :: rest
  | foreign shown, rest => .quoted shown :: rest
  | list [], rest => .openList :: .closeList :: rest
  | list (item :: items), rest => .openList :: item.tokens (itemTokens items rest)
  | map [], rest => .openMap :: .closeMap :: rest
  | map ((key, value) :: fields), rest =>
    .openMap :: .quoted key :: .colon :: value.tokens (fieldTokens fields rest)

/-- The tokens of the items behind the first, up to the closing mark. -/
def itemTokens : List Attribute → List Token → List Token
  | [], rest => .closeList :: rest
  | item :: items, rest => .comma :: item.tokens (itemTokens items rest)

/-- The tokens of the fields behind the first, up to the closing mark. -/
def fieldTokens : List (String × Attribute) → List Token → List Token
  | [], rest => .closeMap :: rest
  | (key, value) :: fields, rest =>
    .comma :: .quoted key :: .colon :: value.tokens (fieldTokens fields rest)

end

/-! ### The value of tokens -/

/-- A list or map that has been opened and not yet closed: the items
before the one that is due, latest first, or the fields before the one
that is due and its key. -/
inductive Frame where
  | items (done : List Attribute)
  | fields (done : List (String × Attribute)) (key : String)

mutual

/-- Reads on where a value is due. -/
def due (frames : List Frame) : List Token → Option Attribute
  | .null :: rest => resume null frames rest
  | .bool value :: rest => resume (bool value) frames rest
  | .int value :: rest => resume (int value) frames rest
  | .float value :: rest => resume (float value) frames rest
  | .quoted value :: rest => resume (text value) frames rest
  | .openList :: .closeList :: rest => resume (list []) frames rest
  | .openList :: rest => due (.items [] :: frames) rest
  | .openMap :: .closeMap :: rest => resume (map []) frames rest
  | .openMap :: .quoted key :: .colon :: rest => due (.fields [] key :: frames) rest
  | _ => none

/-- Reads on where a value has just been completed. -/
def resume (value : Attribute) : List Frame → List Token → Option Attribute
  | [], [] => some value
  | .items done :: frames, .comma :: rest => due (.items (value :: done) :: frames) rest
  | .items done :: frames, .closeList :: rest =>
    resume (list (value :: done).reverse) frames rest
  | .fields done key :: frames, .comma :: .quoted next :: .colon :: rest =>
    due (.fields (Keyed.put key value done) next :: frames) rest
  | .fields done key :: frames, .closeMap :: rest =>
    resume (map (Keyed.put key value done)) frames rest
  | _, _ => none

end

/-- The value that tokens write. -/
def ofTokens? (tokens : List Token) : Option Attribute :=
  due [] tokens

/-! ### Text -/

/-- The text of a value in canonical form. -/
def write (value : Attribute) : List Char :=
  (value.canonical.tokens []).flatMap Token.write

/-- The value that a text writes. -/
def read? (text : List Char) : Option Attribute :=
  (Token.scan text).bind ofTokens?

/-- The text of a map. -/
def writeMap (fields : List (String × Attribute)) : String :=
  String.ofList (map fields).write

/-- The text of a map, which has none if an integer in it is too long. -/
def writeMap? (fields : List (String × Attribute)) : Option String :=
  if ((map fields).tokens []).all Token.hasText then some (writeMap fields) else none

/-- The map that a text writes; empty if the text writes none. -/
def readMap (text : String) : List (String × Attribute) :=
  match read? text.toList with
  | some (map fields) => fields
  | _ => []

end Attribute
end CausalTrace
