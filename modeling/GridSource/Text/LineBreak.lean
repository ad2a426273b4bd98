/-!
# Line breaks

Lines end with a line feed, a carriage return or both in this order.  Reading a
text makes every one of them a line feed.
-/

namespace GridSource

def universalBreaks : List Char → List Char
  | '\r' :: '\n' :: rest => '\n' :: universalBreaks rest
  | '\r' :: rest => '\n' :: universalBreaks rest
  | character :: rest => character :: universalBreaks rest
  | [] => []

end GridSource
