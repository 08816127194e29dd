/-!
Line pieces of a text.

* `pieces` cuts a text after every line feed, carriage return or pair of the two, and loses nothing:
  `flatten_pieces`.
* `chomp` drops one final line feed, `unifyNewlines` writes every pair as a single line feed.
-/

namespace Tandem.Text

/-- The pieces of a text, each with its terminator. A last unterminated piece counts. -/
def pieces : List Char → List (List Char)
  | [] => []
  | '\n' :: rest => ['\n'] :: pieces rest
  | '\r' :: '\n' :: rest => ['\r', '\n'] :: pieces rest
  | '\r' :: rest => ['\r'] :: pieces rest
  | c :: rest =>
    match pieces rest with
    | [] => [[c]]
    | piece :: more => (c :: piece) :: more

theorem flatten_pieces (text : List Char) : (pieces text).flatten = text := by
  fun_induction pieces text <;> simp_all

/-- A piece without its final line feed, if it has one. -/
def chomp : List Char → List Char
  | [] => []
  | ['\n'] => []
  | c :: rest => c :: chomp rest

/-- The text with every carriage return that stands before a line feed left out. -/
def unifyNewlines : List Char → List Char
  | [] => []
  | '\r' :: '\n' :: rest => '\n' :: unifyNewlines rest
  | c :: rest => c :: unifyNewlines rest

end Tandem.Text
