namespace Flowbook.Formula

/-!
Date formats. A format of a formula has directives such as `%Y`; a pattern of
a column expression has runs of letters such as `yyyy`, and its literal letters
stand between single quotes.
-/

/-- The pattern of a directive, given by the character after the percent sign. -/
def directivePattern? : Char → Option String
  | 'Y' => some "yyyy"
  | 'y' => some "yy"
  | 'm' => some "MM"
  | 'd' => some "dd"
  | 'e' => some "d"
  | 'H' => some "HH"
  | 'I' => some "hh"
  | 'M' => some "mm"
  | 'S' => some "ss"
  | 'p' => some "a"
  | 'b' => some "MMM"
  | 'B' => some "MMMM"
  | 'a' => some "EEE"
  | 'A' => some "EEEE"
  | 'j' => some "DDD"
  | '%' => some "%"
  | _ => none

/-- Literal characters between single quotes, with a quote written twice. -/
def quotedLiteral (literal : List Char) : List Char :=
  if literal.isEmpty then []
  else '\'' :: literal.flatMap (fun c => if c == '\'' then ['\'', '\''] else [c]) ++ ['\'']

/-- Letters and quotes have to be quoted in a pattern. -/
def needsQuotes (c : Char) : Bool :=
  c.isAlpha || c == '\''

structure DatePattern where
  pattern : List Char
  unknown : List Char

/-- The pattern of a format after literal characters that are still to be quoted. A
percent sign at the end stands for itself. -/
def datePattern (pending : List Char) : List Char → DatePattern
  | [] => ⟨quotedLiteral pending, []⟩
  | ['%'] => ⟨quotedLiteral pending ++ ['%'], []⟩
  | '%' :: directive :: rest =>
    let following := datePattern [] rest
    match directivePattern? directive with
    | some pattern =>
      ⟨quotedLiteral pending ++ pattern.toList ++ following.pattern, following.unknown⟩
    | none =>
      ⟨quotedLiteral pending ++ following.pattern, directive :: following.unknown⟩
  | c :: rest =>
    if needsQuotes c then datePattern (pending ++ [c]) rest
    else
      let following := datePattern [] rest
      ⟨quotedLiteral pending ++ c :: following.pattern, following.unknown⟩

end Flowbook.Formula
