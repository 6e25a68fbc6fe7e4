/-!
# Lines of a text

A line ends at a line feed, and one carriage return just before that line feed belongs to the line
end. What follows the last line feed is a line of its own unless it is empty.
-/

namespace CallAtlas.Text

/-- The lines of a text, without their ends (`lines`). -/
def splitLines : List Char → List (List Char)
  | [] => []
  | '\n' :: rest => [] :: splitLines rest
  | '\r' :: '\n' :: rest => [] :: splitLines rest
  | c :: rest =>
    match splitLines rest with
    | [] => [[c]]
    | line :: lines => (c :: line) :: lines

def lines (s : String) : List String :=
  (splitLines s.toList).map String.ofList

end CallAtlas.Text
