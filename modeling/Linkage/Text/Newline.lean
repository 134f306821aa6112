/-!
Line ends on reading: a carriage return, alone or before a line feed, reads as one line feed.
-/

namespace Linkage.Text

def unixLines : List Char → List Char
  | [] => []
  | '\r' :: '\n' :: rest => '\n' :: unixLines rest
  | '\r' :: rest => '\n' :: unixLines rest
  | c :: rest => c :: unixLines rest

end Linkage.Text
