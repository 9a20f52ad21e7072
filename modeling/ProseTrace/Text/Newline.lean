/-!
# Universal newlines

A carriage return, with or without a line feed behind it, is read as one line feed.
-/

namespace ProseTrace.Text.Newline

def unify : List Char → List Char
  | [] => []
  | '\r' :: '\n' :: rest => '\n' :: unify rest
  | c :: rest => (if c = '\r' then '\n' else c) :: unify rest

def unifyText (text : String) : String := String.ofList (unify text.toList)

end ProseTrace.Text.Newline
