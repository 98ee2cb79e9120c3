namespace Flowbook.Text

/-!
Double-quoted string literals: a backslash, a quote, a line feed, a carriage
return and a tab are escaped, and every other character stands for itself.
-/

/-- How one character is written between the quotes. -/
def escapeChar : Char → List Char
  | '\\' => ['\\', '\\']
  | '"' => ['\\', '"']
  | '\n' => ['\\', 'n']
  | '\r' => ['\\', 'r']
  | '\t' => ['\\', 't']
  | c => [c]

/-- The text as a double-quoted literal on one line. -/
def quote (text : String) : String :=
  String.ofList ('"' :: text.toList.flatMap escapeChar ++ ['"'])

end Flowbook.Text
