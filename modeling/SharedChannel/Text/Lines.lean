/-!
Line endings. A text file may end its lines in a line feed, a carriage return or both; who reads it
sees line feeds alone.
-/

namespace SharedChannel.Text

/-- Every line ending as a line feed. -/
def unifyLines : List Char → List Char
  | [] => []
  | '\r' :: '\n' :: rest => '\n' :: unifyLines rest
  | '\r' :: rest => '\n' :: unifyLines rest
  | c :: rest => c :: unifyLines rest

end SharedChannel.Text
