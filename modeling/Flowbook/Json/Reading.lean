import Flowbook.Json.Value

namespace Flowbook.Json

open Flowbook.Text

/-!
Reading a JSON text. The readers of values, items and entries take a bound on
their nesting that is twice the number of characters and one more, because
each character is behind at most two of their calls.
-/

def isSpace (c : Char) : Bool :=
  c == ' ' || c == '\n' || c == '\t' || c == '\r'

def skipSpace (chars : List Char) : List Char :=
  chars.dropWhile isSpace

/-- The value of a hexadecimal digit. -/
def hexDigit? (c : Char) : Option Nat :=
  if c.isDigit then some (c.toNat - 48)
  else if 'a' ≤ c && c ≤ 'f' then some (c.toNat - 87)
  else if 'A' ≤ c && c ≤ 'F' then some (c.toNat - 55)
  else none

/-- The code in the four hexadecimal digits at the front. -/
def code? (chars : List Char) : Option Nat :=
  match chars with
  | a :: b :: c :: d :: _ => do
    .some ((((← hexDigit? a) * 16 + (← hexDigit? b)) * 16 + (← hexDigit? c)) * 16 +
      (← hexDigit? d))
  | _ => none

/-- The second half of a surrogate pair, if it is escaped at the front. -/
def lowSurrogate? (chars : List Char) : Option Nat :=
  match chars with
  | '\\' :: 'u' :: rest =>
    match code? rest with
    | some code => if 0xDC00 ≤ code && code < 0xE000 then some code else none
    | none => none
  | _ => none

/-- The characters with an escape of one letter. -/
def simpleEscape? : Char → Option Char
  | '"' => some '"'
  | '\\' => some '\\'
  | '/' => some '/'
  | 'b' => some '\x08'
  | 'f' => some '\x0c'
  | 'n' => some '\n'
  | 'r' => some '\r'
  | 't' => some '\t'
  | _ => none

/-- The characters up to the closing quote, and what follows it. There are no characters
if half of a surrogate pair is among them. -/
def readText : List Char → Option (Option (List Char) × List Char)
  | [] => none
  | '"' :: rest => some (some [], rest)
  | '\\' :: 'u' :: rest =>
    match code? rest with
    | none => none
    | some code =>
      if 0xD800 ≤ code && code < 0xDC00 then
        match lowSurrogate? (rest.drop 4) with
        | some low =>
          let c := Char.ofNat (0x10000 + (code - 0xD800) * 0x400 + (low - 0xDC00))
          (readText (rest.drop 10)).map (fun (chars, after) => (chars.map (c :: ·), after))
        | none => (readText (rest.drop 4)).map (fun (_, after) => (none, after))
      else if 0xDC00 ≤ code && code < 0xE000 then
        (readText (rest.drop 4)).map (fun (_, after) => (none, after))
      else
        (readText (rest.drop 4)).map (fun (chars, after) =>
          (chars.map (Char.ofNat code :: ·), after))
  | '\\' :: c :: rest =>
    match simpleEscape? c with
    | none => none
    | some d => (readText rest).map (fun (chars, after) => (chars.map (d :: ·), after))
  | c :: rest =>
    if c == '\\' || c.toNat < 0x20 then none
    else (readText rest).map (fun (chars, after) => (chars.map (c :: ·), after))
termination_by chars => chars.length
decreasing_by all_goals (simp only [List.length_drop, List.length_cons]; omega)

/-- A text after its opening quote, and what follows it. -/
def readTextValue (chars : List Char) : Value × List Char :=
  match readText chars with
  | none => (.fault, [])
  | some (none, rest) => (.brokenText, rest)
  | some (some content, rest) => (.text (String.ofList content), rest)

/-- Digits, of which there is at least one, and what follows them. -/
def readDigits (chars : List Char) : Option (List Char × List Char) :=
  let digits := chars.takeWhile Char.isDigit
  if digits.isEmpty then none else some (digits, chars.dropWhile Char.isDigit)

/-- The exponent of a number, if there is one. -/
def readExponent (chars : List Char) : Option (Option (Bool × List Char) × List Char) :=
  let signed := fun (negative : Bool) (chars : List Char) =>
    (readDigits chars).map (fun (digits, rest) => (some (negative, digits), rest))
  match chars with
  | 'e' :: '-' :: rest => signed true rest
  | 'E' :: '-' :: rest => signed true rest
  | 'e' :: '+' :: rest => signed false rest
  | 'E' :: '+' :: rest => signed false rest
  | 'e' :: rest => signed false rest
  | 'E' :: rest => signed false rest
  | _ => some (none, chars)

/-- The fraction of a number, if there is one. -/
def readFraction (chars : List Char) : Option (List Char × List Char) :=
  match chars with
  | '.' :: rest => readDigits rest
  | _ => some ([], chars)

/-- A number without leading zeros, and what follows it. -/
def readNumber (chars : List Char) : Option (Number × List Char) := do
  let (negative, chars) := match chars with
    | '-' :: rest => (true, rest)
    | _ => (false, chars)
  let (whole, rest) ← readDigits chars
  if whole.head? = some '0' && 1 < whole.length then none
  else do
    let (fraction, rest) ← readFraction rest
    let (exponent, rest) ← readExponent rest
    some (⟨negative, whole, fraction, exponent⟩, rest)

/-- A word such as `null`, a number, or nothing that JSON has. -/
def readScalar (chars : List Char) : Value × List Char :=
  match afterStart "null".toList chars with
  | some rest => (.null, rest)
  | none =>
    match afterStart "true".toList chars with
    | some rest => (.bool true, rest)
    | none =>
      match afterStart "false".toList chars with
      | some rest => (.bool false, rest)
      | none =>
        match readNumber chars with
        | some (number, rest) => (.number number, rest)
        | none => (.fault, [])

mutual

/-- A value, and what follows it. -/
def readValue : Nat → List Char → Value × List Char
  | 0, _ => (.fault, [])
  | bound + 1, chars =>
    match skipSpace chars with
    | '"' :: rest => readTextValue rest
    | '[' :: rest =>
      match skipSpace rest with
      | ']' :: rest => (.array [], rest)
      | rest =>
        let (items, rest) := readItems bound rest
        (.array items, rest)
    | '\x7b' :: rest =>
      match skipSpace rest with
      | '\x7d' :: rest => (.object [], rest)
      | rest =>
        let (entries, rest) := readEntries bound rest
        (.object entries, rest)
    | chars => readScalar chars

/-- The items of an array up to its closing bracket, of which there is at least one. -/
def readItems : Nat → List Char → List Value × List Char
  | 0, _ => ([.fault], [])
  | bound + 1, chars =>
    let (item, rest) := readValue bound chars
    match skipSpace rest with
    | ']' :: rest => ([item], rest)
    | ',' :: rest =>
      let (items, rest) := readItems bound rest
      (item :: items, rest)
    | _ => ([item, .fault], [])

/-- The entries of an object up to its closing brace, of which there is at least one. A
fault where a key should stand has no key. -/
def readEntries : Nat → List Char → List (String × Value) × List Char
  | 0, _ => ([("", .fault)], [])
  | bound + 1, chars =>
    match skipSpace chars with
    | '"' :: rest =>
      match readText rest with
      | some (some key, rest) =>
        match skipSpace rest with
        | ':' :: rest =>
          let (value, rest) := readValue bound rest
          let entry := (String.ofList key, value)
          match skipSpace rest with
          | '\x7d' :: rest => ([entry], rest)
          | ',' :: rest =>
            let (entries, rest) := readEntries bound rest
            (entry :: entries, rest)
          | _ => ([entry, ("", .fault)], [])
        | _ => ([(String.ofList key, .fault)], [])
      | _ => ([("", .fault)], [])
    | _ => ([("", .fault)], [])

end

/-- The value at the beginning of a text, and whether nothing but space follows it. -/
def read (text : String) : Value × Bool :=
  let (value, rest) := readValue (2 * text.length + 1) text.toList
  (value, (skipSpace rest).isEmpty)

end Flowbook.Json
