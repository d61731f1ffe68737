/-
  Texts cut into character-strings.

  * `pieces`: the pieces of a text, each as long as it may be.  A piece holds
    whole characters of at most 255 bytes in UTF-8; an empty text has one empty
    piece.
-/
namespace NearestHost.Dns

/-- The greatest size of a piece in bytes. -/
def maxPieceSize : Nat := 255

/-- The pieces of a text after the start of a piece that has been read, of the given size. -/
def piecesAfter (start : List Char) (size : Nat) : List Char → List (List Char)
  | [] => [start]
  | c :: r =>
    if maxPieceSize < size + c.utf8Size then start :: piecesAfter [c] c.utf8Size r
    else piecesAfter (start ++ [c]) (size + c.utf8Size) r

/-- A text cut into pieces. -/
def pieces (s : String) : List String := (piecesAfter [] 0 s.toList).map String.ofList

end NearestHost.Dns
