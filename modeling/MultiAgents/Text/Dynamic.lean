import Mathlib.Algebra.Group.Int.Defs
import Mathlib.Algebra.GroupWithZero.Nat
import MultiAgents.Text.Json

/-!
# Untyped values as a script reads them

Parsed JSON is read without checking its shape.  A value that may be undefined
is an `Option Json`.  The definitions follow the language: what counts as true,
what reading a property gives or raises, and how a value is compared with a
number.
-/

namespace Text

/-- A property of a value, a possibly undefined one. -/
abbrev Value := Option Json

/-- The number of UTF-16 code units of a character. -/
def charUnits (char : Char) : Nat := if char.toNat < 0x10000 then 1 else 2

def clipChars : Nat → List Char → List Char
  | _, [] => []
  | size, char :: rest =>
      if charUnits char ≤ size then char :: clipChars (size - charUnits char) rest else []

/-- `text.substring(0, size)`, less half a surrogate pair at its end. -/
def clip (size : Nat) (text : String) : String :=
  String.ofList (clipChars size text.toList)

/-- What a value is worth in a numeric comparison. -/
inductive Number where
  | nan
  | finite (mantissa exponent : Int)
  | infinite (negative : Bool)
  deriving DecidableEq

namespace Number

/-- `number >= bound` for a natural bound. -/
def atLeast : Number → Nat → Bool
  | .nan, _ => false
  | .infinite negative, _ => !negative
  | .finite mantissa (.ofNat scale), bound => (bound : Int) ≤ mantissa * 10 ^ scale
  | .finite mantissa (.negSucc scale), bound => (bound : Int) * 10 ^ (scale + 1) ≤ mantissa

/-- `number >= bound`; decimals are compared at the smaller of their exponents. -/
def ge : Number → Number → Bool
  | .nan, _ | _, .nan => false
  | .infinite false, _ | .infinite true, .infinite true => true
  | .infinite true, _ => false
  | .finite _ _, .infinite negative => negative
  | .finite mantissa exponent, .finite bound scale =>
      bound * 10 ^ (scale - min exponent scale).toNat ≤
        mantissa * 10 ^ (exponent - min exponent scale).toNat

/-- `number > 0`. -/
def positive : Number → Bool
  | .nan => false
  | .infinite negative => !negative
  | .finite mantissa _ => 0 < mantissa

def negate : Number → Number
  | .nan => .nan
  | .finite mantissa exponent => .finite (-mantissa) exponent
  | .infinite negative => .infinite !negative

/-- `number - other`, of decimals without rounding. -/
def minus : Number → Number → Number
  | .nan, _ | _, .nan => .nan
  | .infinite negative, .infinite other =>
      if negative = other then .nan else .infinite negative
  | .infinite negative, .finite _ _ => .infinite negative
  | .finite _ _, .infinite negative => .infinite !negative
  | .finite mantissa exponent, .finite other scale =>
      .finite (mantissa * 10 ^ (exponent - min exponent scale).toNat -
        other * 10 ^ (scale - min exponent scale).toNat) (min exponent scale)

def radix (base : Nat) (digits : List Char) : Number :=
  let step : Option Nat → Char → Option Nat := fun value char => do
    let value ← value
    let digit ← Json.hexValue? char
    if digit < base then some (value * base + digit) else none
  match digits, digits.foldl step (some 0) with
  | _ :: _, some value => .finite value 0
  | _, _ => .nan

/-- A decimal literal without its sign; either side of the point may be missing. -/
def unsigned (text : List Char) : Number :=
  let whole := text.takeWhile Char.isDigit
  let rest := text.dropWhile Char.isDigit
  let (part, rest) := match rest with
    | '.' :: rest => (rest.takeWhile Char.isDigit, rest.dropWhile Char.isDigit)
    | rest => ([], rest)
  if text = "Infinity".toList then .infinite false
  else if whole.isEmpty && part.isEmpty then .nan
  else match Json.power rest with
    | some (scale, []) => .finite (Json.digitsValue (whole ++ part)) (scale - part.length)
    | _ => .nan

/-- The number a text converts to: blanks around it do not count. -/
def ofText (text : List Char) : Number :=
  match trim text with
  | [] => .finite 0 0
  | '0' :: 'x' :: digits => radix 16 digits
  | '0' :: 'X' :: digits => radix 16 digits
  | '0' :: 'o' :: digits => radix 8 digits
  | '0' :: 'O' :: digits => radix 8 digits
  | '0' :: 'b' :: digits => radix 2 digits
  | '0' :: 'B' :: digits => radix 2 digits
  | '+' :: rest => unsigned rest
  | '-' :: rest => (unsigned rest).negate
  | rest => unsigned rest

end Number

namespace Json

def codeUnits (value : String) : Nat :=
  (value.toList.map charUnits).sum

def truthy : Json → Bool
  | .null => false
  | .bool value => value
  | .num mantissa _ => mantissa != 0
  | .str value => value != ""
  | .arr _ => true
  | .obj _ => true

/-- The last field of that name; no other value has own properties read here. -/
def property (value : Json) (name : String) : Value :=
  match value with
  | .obj fields => (fields.reverse.find? fun field => field.1 == name).map (·.2)
  | _ => none

/-- The property `length`. -/
def length : Json → Value
  | .str value => some (.num (codeUnits value) 0)
  | .arr items => some (.num items.length 0)
  | value => value.property "length"

def itemNumber : Json → Number
  | .null => .finite 0 0
  | .num mantissa exponent => .finite mantissa exponent
  | .str value => .ofText value.toList
  | .arr [] => .finite 0 0
  | .arr [item] => item.itemNumber
  | _ => .nan

def toNumber : Json → Number
  | .bool value => .finite (if value then 1 else 0) 0
  | value => value.itemNumber

/-- Methods such as `map` exist on arrays only. -/
def items : Json → Except String (List Json)
  | .arr items => .ok items
  | _ => .error "TypeError: not an array"

def isNull : Json → Bool
  | .null => true
  | _ => false

/-- The items of an array, when their properties are read as well. -/
def records (value : Json) : Except String (List Json) := do
  let items ← value.items
  if items.any isNull then throw "TypeError: property of null"
  pure items

def isText (text : String) : Json → Bool
  | .str value => value == text
  | _ => false

/-- What a loop over a value goes through: the items of an array or the characters of a text. -/
def elements : Json → Except String (List Json)
  | .arr items => .ok items
  | .str text => .ok (text.toList.map fun char => .str char.toString)
  | _ => .error "TypeError: not iterable"

/-- A number in decimal notation. -/
def decimal (mantissa : Int) : Int → String
  | .ofNat scale => toString (mantissa * 10 ^ scale)
  | .negSucc scale =>
      let digits := (toString mantissa.natAbs).toList
      let padded := List.replicate (scale + 2 - digits.length) '0' ++ digits
      let whole := padded.take (padded.length - (scale + 1))
      let part := ((padded.drop whole.length).reverse.dropWhile (· == '0')).reverse
      (if mantissa < 0 then "-" else "") ++ String.ofList whole ++
        (if part = [] then "" else "." ++ String.ofList part)

mutual

/-- How a value reads inside a text. -/
def display : Json → String
  | .null => "null"
  | .bool value => toString value
  | .num mantissa exponent => decimal mantissa exponent
  | .str value => value
  | .arr items => ",".intercalate (displayItems items)
  | .obj _ => "[object Object]"

/-- The items of an array as it joins them; `null` is left blank. -/
def displayItems : List Json → List String
  | [] => []
  | .null :: rest => "" :: displayItems rest
  | item :: rest => display item :: displayItems rest

end

/-- The own properties of a value, as `Object.entries` lists them. -/
def entries : Json → Except String (List (String × Json))
  | .null => .error "TypeError: cannot convert null to object"
  | .obj fields => .ok fields
  | .arr items => .ok (items.zipIdx.map fun (item, index) => (toString index, item))
  | .str text =>
      .ok (text.toList.zipIdx.map fun (char, index) => (toString index, .str char.toString))
  | _ => .ok []

/-- The fields a spread copies into an object. -/
def fields : Json → List (String × Json)
  | .obj fields => fields
  | _ => []

end Json

namespace Value

def truthy : Value → Bool
  | none => false
  | some value => value.truthy

/-- `value || fallback`. -/
def orElse (value : Value) (fallback : Json) : Json :=
  match value with
  | some found => if found.truthy then found else fallback
  | none => fallback

/-- `value.name`, which raises on an undefined or null value. -/
def member (value : Value) (name : String) : Except String Value :=
  match value with
  | none => .error "TypeError: property of undefined"
  | some .null => .error "TypeError: property of null"
  | some found => .ok (found.property name)

/-- `value?.name`. -/
def member? (value : Value) (name : String) : Value :=
  value.bind fun found => found.property name

/-- `value?.length > 0`. -/
def nonEmpty (value : Value) : Bool :=
  match value.bind Json.length with
  | some size => size.toNumber.positive
  | none => false

def isText (value : Value) (text : String) : Bool :=
  match value with
  | some found => found.isText text
  | none => false

/-- `value === 0`. -/
def isZero : Value → Bool
  | some (.num mantissa _) => mantissa == 0
  | _ => false

def display : Value → String
  | some found => found.display
  | none => "undefined"

/-- `value.name = content`, which raises where a value has no properties to set. -/
def assign (value : Value) (name : String) (content : Json) : Except String Value :=
  match value with
  | some (.obj fields) => .ok (some (.obj (fields ++ [(name, content)])))
  | some (.arr _) => .ok (some (.obj [(name, content)]))
  | _ => .error s!"TypeError: cannot set property {name}"

/-- `{ ...value, ...update }`. -/
def merge (value : Value) (update : Json) : Value :=
  some (.obj (value.elim [] Json.fields ++ update.fields))

end Value

theorem Json.property_obj_append (first second : List (String × Json)) (name : String) :
    (Json.obj (first ++ second)).property name =
      ((Json.obj second).property name).or ((Json.obj first).property name) := by
  simp only [Json.property, List.reverse_append, List.find?_append]
  cases second.reverse.find? fun field => field.1 == name <;> rfl

theorem Json.property_obj_fields (value : Json) (name : String) :
    (Json.obj value.fields).property name = value.property name := by
  cases value <;> rfl

namespace Value

theorem orElse_of_truthy {value : Json} (truthy : value.truthy = true) (fallback : Json) :
    orElse (some value) fallback = value := by
  simp [orElse, truthy]

theorem orElse_of_falsy {value : Json} (falsy : value.truthy = false) (fallback : Json) :
    orElse (some value) fallback = fallback := by
  simp [orElse, falsy]

theorem truthy_orElse (value : Value) {fallback : Json} (truthy : fallback.truthy = true) :
    (orElse value fallback).truthy = true := by
  unfold orElse
  cases value with
  | none => exact truthy
  | some found =>
      dsimp only
      split
      · assumption
      · exact truthy

/-- A second fallback stands in for a first one that counts as false. -/
theorem orElse_orElse (value : Value) {first : Json} (falsy : first.truthy = false)
    (second : Json) : orElse (some (orElse value first)) second = orElse value second := by
  cases value with
  | none => exact orElse_of_falsy falsy second
  | some found =>
      cases truthy : found.truthy with
      | true => simp only [orElse_of_truthy truthy]
      | false => simp only [orElse_of_falsy truthy, orElse_of_falsy falsy]

end Value

theorem Json.decimal_zero (exponent : Int) : Json.decimal 0 exponent = "0" := by
  cases exponent with
  | ofNat scale =>
      have zero : (0 : Int) * 10 ^ scale = 0 := Int.zero_mul _
      simp only [Json.decimal, zero]
      rfl
  | negSucc scale =>
      have digits : (toString (0 : Int).natAbs).toList = ['0'] := rfl
      have padded : List.replicate (scale + 2 - ['0'].length) '0' ++ ['0'] =
          List.replicate (scale + 2) '0' := by
        have width : scale + 2 - ['0'].length = scale + 1 := rfl
        rw [width, ← List.replicate_succ']
      have left : scale + 2 - (scale + 1) = 1 := by omega
      simp only [Json.decimal, digits, padded, List.length_replicate, left]
      simp [List.take_replicate, List.drop_replicate]

/-- The texts of the values that count as false. -/
theorem Value.display_of_falsy (value : Value) (falsy : value.truthy = false) :
    value.display ∈ ["undefined", "null", "false", "0", ""] := by
  rcases value with _ | value
  · simp [Value.display]
  · cases value with
    | null => simp [Value.display, Json.display]
    | bool value =>
        obtain rfl : value = false := falsy
        decide
    | num mantissa exponent =>
        obtain rfl : mantissa = 0 := by simpa [Value.truthy, Json.truthy] using falsy
        simp [Value.display, Json.display, Json.decimal_zero]
    | str text =>
        obtain rfl : text = "" := by simpa [Value.truthy, Json.truthy] using falsy
        simp [Value.display, Json.display]
    | arr items => cases falsy
    | obj fields => cases falsy

end Text
