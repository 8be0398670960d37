import Mathlib

/-!
# JSON values

A JSON value as a parser hands it over, its accessors, and the pointers of RFC 6901 that select
a part of it.  They follow `serde_json::Value`: a number is held as an unsigned integer where it
is one of 64 bits, as a negative one, or as a float, and an accessor asks for the representation.
The fields of an object stand in the order in which the value holds them, which for a parsed
object is the ascending order of its keys.  An accessor gives nothing for a value of another
shape, so that a chain of them is a chain of binds.  `step_array_of_not_index` is why a pointer
that names a field misses a value that turns out to be an array.
-/

namespace Grokbotliq

/-- A number, by the representation that holds it. -/
inductive Json.Number
  | posInt (n : UInt64)
  | negInt (n : ℤ)
  | float (text : String)
  deriving DecidableEq

inductive Json
  | null
  | bool (b : Bool)
  | number (n : Json.Number)
  | string (s : String)
  | array (elems : List Json)
  | object (fields : List (String × Json))

namespace Json

def isNull : Json → Bool
  | null => true
  | _ => false

def asU64 : Json → Option UInt64
  | number (.posInt n) => some n
  | _ => none

def asBool : Json → Option Bool
  | bool b => some b
  | _ => none

def asStr : Json → Option String
  | string s => some s
  | _ => none

def asArray : Json → Option (List Json)
  | array elems => some elems
  | _ => none

/-- The value of a key of an object. -/
def get (v : Json) (key : String) : Option Json :=
  match v with
  | object fields => (fields.find? fun f => f.1 == key).map Prod.snd
  | _ => none

/-! ## Pointers -/

/-- The number that a text of digits writes. -/
def parseNat (text : List Char) : Option ℕ :=
  if text.isEmpty then none
  else
    text.foldlM
      (fun n c => if c.isDigit then some (n * 10 + (c.toNat - '0'.toNat)) else none) 0

/-- An array index: no sign and no leading zero. -/
def parseIndex (token : List Char) : Option ℕ :=
  if token.head? = some '+' ∨ (token.head? = some '0' ∧ token.length ≠ 1) then none
  else (parseNat token).filter fun n => n < 2 ^ 64

/-- `~1` stands for `/`. -/
def unescapeSlash : List Char → List Char
  | '~' :: '1' :: rest => '/' :: unescapeSlash rest
  | c :: rest => c :: unescapeSlash rest
  | [] => []

/-- `~0` stands for `~`. -/
def unescapeTilde : List Char → List Char
  | '~' :: '0' :: rest => '~' :: unescapeTilde rest
  | c :: rest => c :: unescapeTilde rest
  | [] => []

/-- One token of a pointer: a key of an object or an index of an array. -/
def step (v : Json) (token : List Char) : Option Json :=
  let token := unescapeTilde (unescapeSlash token)
  match v with
  | object _ => v.get (String.ofList token)
  | array elems => (parseIndex token).bind fun i => elems[i]?
  | _ => none

/-- The value a pointer selects; a pointer is empty or starts with a slash. -/
def pointer (v : Json) (path : String) : Option Json :=
  match path.toList with
  | [] => some v
  | '/' :: rest => (rest.splitOn '/').foldlM step v
  | _ => none

lemma pointer_eq {path : String} {rest : List Char} (h : path.toList = '/' :: rest) (v : Json) :
    v.pointer path = (rest.splitOn '/').foldlM step v := by
  simp only [pointer, h]

/-- A token that is no index selects nothing in an array. -/
lemma step_array_of_not_index (elems : List Json) {token : List Char}
    (h : parseIndex (unescapeTilde (unescapeSlash token)) = none) :
    step (array elems) token = none := by
  rw [step, h, Option.bind_none]

end Json

end Grokbotliq
