import MultiAgents.Text.Regex

/-!
# JSON texts and the values they denote

`Json.parse` accepts the texts of the JSON grammar and nothing else.  A number
keeps its decimal form, a mantissa and a power of ten, so no rounding happens
here.  The recursion is on a budget that the length of the text provides.
-/

namespace Text

inductive Json where
  | null
  | bool (value : Bool)
  | num (mantissa exponent : Int)
  | str (value : String)
  | arr (items : List Json)
  | obj (fields : List (String × Json))

namespace Json

mutual

/-- Values are compared as they were read, the fields of an object in their order. -/
def decEq : (left right : Json) → Decidable (left = right)
  | .null, .null => isTrue rfl
  | .bool left, .bool right => decidable_of_iff (left = right) (by simp)
  | .num mantissa exponent, .num mantissa' exponent' =>
      decidable_of_iff (mantissa = mantissa' ∧ exponent = exponent') (by simp)
  | .str left, .str right => decidable_of_iff (left = right) (by simp)
  | .arr left, .arr right =>
      have := decEqItems left right
      decidable_of_iff (left = right) (by simp)
  | .obj left, .obj right =>
      have := decEqFields left right
      decidable_of_iff (left = right) (by simp)
  | .null, .bool _ | .null, .num _ _ | .null, .str _ | .null, .arr _ | .null, .obj _
  | .bool _, .null | .bool _, .num _ _ | .bool _, .str _ | .bool _, .arr _ | .bool _, .obj _
  | .num _ _, .null | .num _ _, .bool _ | .num _ _, .str _ | .num _ _, .arr _
  | .num _ _, .obj _ | .str _, .null | .str _, .bool _ | .str _, .num _ _ | .str _, .arr _
  | .str _, .obj _ | .arr _, .null | .arr _, .bool _ | .arr _, .num _ _ | .arr _, .str _
  | .arr _, .obj _ | .obj _, .null | .obj _, .bool _ | .obj _, .num _ _ | .obj _, .str _
  | .obj _, .arr _ => isFalse nofun
termination_by structural left => left

def decEqItems : (left right : List Json) → Decidable (left = right)
  | [], [] => isTrue rfl
  | [], _ :: _ | _ :: _, [] => isFalse nofun
  | left :: lefts, right :: rights =>
      have := decEq left right
      have := decEqItems lefts rights
      decidable_of_iff (left = right ∧ lefts = rights) (by simp)
termination_by structural left => left

def decEqField : (left right : String × Json) → Decidable (left = right)
  | (name, left), (name', right) =>
      have := decEq left right
      decidable_of_iff (name = name' ∧ left = right) (by simp)
termination_by structural left => left

def decEqFields : (left right : List (String × Json)) → Decidable (left = right)
  | [], [] => isTrue rfl
  | [], _ :: _ | _ :: _, [] => isFalse nofun
  | left :: lefts, right :: rights =>
      have := decEqField left right
      have := decEqFields lefts rights
      decidable_of_iff (left = right ∧ lefts = rights) (by simp)
termination_by structural left => left

end

instance : DecidableEq Json := decEq

/-- The four characters JSON allows between tokens. -/
def isBlank (char : Char) : Bool := char == ' ' || char == '\t' || char == '\n' || char == '\r'

def skip (text : List Char) : List Char := text.dropWhile isBlank

def digitsValue (digits : List Char) : Nat :=
  digits.foldl (fun value digit => 10 * value + (digit.toNat - '0'.toNat)) 0

def hexValue? (char : Char) : Option Nat :=
  if char.isDigit then some (char.toNat - '0'.toNat)
  else if 'a' ≤ char ∧ char ≤ 'f' then some (char.toNat - 'a'.toNat + 10)
  else if 'A' ≤ char ∧ char ≤ 'F' then some (char.toNat - 'A'.toNat + 10)
  else none

def hex4? : List Char → Option (Nat × List Char)
  | a :: b :: c :: d :: rest => do
      let a ← hexValue? a
      let b ← hexValue? b
      let c ← hexValue? c
      let d ← hexValue? d
      return (((a * 16 + b) * 16 + c) * 16 + d, rest)
  | _ => none

/-- A code unit written as an escape.  Two halves of a surrogate pair make one
character; a half on its own is replaced. -/
def unicodeEscape? (text : List Char) : Option (Char × List Char) := do
  let (unit, rest) ← hex4? text
  if 0xd800 ≤ unit ∧ unit < 0xdc00 then
    match rest with
    | '\\' :: 'u' :: rest' =>
        match hex4? rest' with
        | some (low, rest'') =>
            if 0xdc00 ≤ low ∧ low < 0xe000 then
              return (Char.ofNat (0x10000 + (unit - 0xd800) * 0x400 + (low - 0xdc00)), rest'')
            else return (Char.ofNat 0xfffd, rest)
        | none => none
    | _ => return (Char.ofNat 0xfffd, rest)
  else if 0xdc00 ≤ unit ∧ unit < 0xe000 then return (Char.ofNat 0xfffd, rest)
  else return (Char.ofNat unit, rest)

def escape? : List Char → Option (Char × List Char)
  | '\"' :: rest => some ('\"', rest)
  | '\\' :: rest => some ('\\', rest)
  | '/' :: rest => some ('/', rest)
  | 'b' :: rest => some (Char.ofNat 8, rest)
  | 'f' :: rest => some (Char.ofNat 12, rest)
  | 'n' :: rest => some ('\n', rest)
  | 'r' :: rest => some ('\r', rest)
  | 't' :: rest => some ('\t', rest)
  | 'u' :: rest => unicodeEscape? rest
  | _ => none

/-- The characters of a string up to its closing quotation mark. -/
def chars? : Nat → List Char → Option (List Char × List Char)
  | 0, _ => none
  | _ + 1, [] => none
  | _ + 1, '\"' :: rest => some ([], rest)
  | budget + 1, '\\' :: rest => do
      let (char, rest) ← escape? rest
      let (chars, rest) ← chars? budget rest
      return (char :: chars, rest)
  | budget + 1, char :: rest =>
      if char.toNat < 0x20 then none
      else do
        let (chars, rest) ← chars? budget rest
        return (char :: chars, rest)

def fraction (text : List Char) : Option (List Char × List Char) :=
  match text with
  | '.' :: rest =>
      let digits := rest.takeWhile Char.isDigit
      if digits.isEmpty then none else some (digits, rest.dropWhile Char.isDigit)
  | _ => some ([], text)

def power (text : List Char) : Option (Int × List Char) :=
  let unsigned (sign : Int) (rest : List Char) : Option (Int × List Char) :=
    let digits := rest.takeWhile Char.isDigit
    if digits.isEmpty then none
    else some (sign * digitsValue digits, rest.dropWhile Char.isDigit)
  let signed : List Char → Option (Int × List Char)
    | '+' :: rest => unsigned 1 rest
    | '-' :: rest => unsigned (-1) rest
    | rest => unsigned 1 rest
  match text with
  | 'e' :: rest => signed rest
  | 'E' :: rest => signed rest
  | _ => some (0, text)

/-- A number without its sign.  No digit may follow a leading zero. -/
def number? (text : List Char) : Option (Nat × Int × List Char) := do
  let whole := text.takeWhile Char.isDigit
  if whole.isEmpty ∨ (whole.head? = some '0' ∧ whole.length ≠ 1) then none
  else
    let (part, rest) ← fraction (text.dropWhile Char.isDigit)
    let (scale, rest) ← power rest
    return (digitsValue (whole ++ part), scale - part.length, rest)

mutual

def value? : Nat → List Char → Option (Json × List Char)
  | 0, _ => none
  | budget + 1, text =>
      match skip text with
      | 'n' :: 'u' :: 'l' :: 'l' :: rest => some (null, rest)
      | 't' :: 'r' :: 'u' :: 'e' :: rest => some (bool true, rest)
      | 'f' :: 'a' :: 'l' :: 's' :: 'e' :: rest => some (bool false, rest)
      | '\"' :: rest => do
          let (chars, rest) ← chars? (rest.length + 1) rest
          return (str (String.ofList chars), rest)
      | '[' :: rest =>
          match skip rest with
          | ']' :: rest => some (arr [], rest)
          | rest => do
              let (items, rest) ← items? budget rest
              return (arr items, rest)
      | '\x7b' :: rest =>
          match skip rest with
          | '\x7d' :: rest => some (obj [], rest)
          | rest => do
              let (fields, rest) ← fields? budget rest
              return (obj fields, rest)
      | '-' :: rest => do
          let (mantissa, exponent, rest) ← number? rest
          return (num (-mantissa) exponent, rest)
      | rest => do
          let (mantissa, exponent, rest) ← number? rest
          return (num mantissa exponent, rest)

def items? : Nat → List Char → Option (List Json × List Char)
  | 0, _ => none
  | budget + 1, text => do
      let (item, rest) ← value? budget text
      match skip rest with
      | ',' :: rest => do
          let (items, rest) ← items? budget rest
          return (item :: items, rest)
      | ']' :: rest => return ([item], rest)
      | _ => none

def fields? : Nat → List Char → Option (List (String × Json) × List Char)
  | 0, _ => none
  | budget + 1, text =>
      match skip text with
      | '\"' :: rest => do
          let (name, rest) ← chars? (rest.length + 1) rest
          match skip rest with
          | ':' :: rest => do
              let (value, rest) ← value? budget rest
              match skip rest with
              | ',' :: rest => do
                  let (fields, rest) ← fields? budget rest
                  return ((String.ofList name, value) :: fields, rest)
              | '\x7d' :: rest => return ([(String.ofList name, value)], rest)
              | _ => none
          | _ => none
      | _ => none

end

/-- `JSON.parse`: one value with nothing but blanks after it. -/
def parse (text : List Char) : Option Json := do
  let (value, rest) ← value? (text.length + 1) text
  if (skip rest).isEmpty then some value else none

end Json

end Text
