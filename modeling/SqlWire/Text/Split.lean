/-!
# Cutting text

Cutting lists of characters at every place, the first one or the last one where a character stands.
-/
namespace SqlWire.Text

/-- Cuts at every `sep`; `done` holds the finished pieces and `piece` the current one, both newest
first. -/
def splitOnto (sep : Char) (done : List (List Char)) (piece : List Char) :
    List Char → List (List Char)
  | [] => (piece.reverse :: done).reverse
  | c :: rest =>
    if c = sep then splitOnto sep (piece.reverse :: done) [] rest
    else splitOnto sep done (c :: piece) rest

/-- The pieces between separators, of which there is one more than separators. -/
def splitAt (sep : Char) (cs : List Char) : List (List Char) := splitOnto sep [] [] cs

/-- What stands before the first `sep` and, if there is one, what stands behind it. -/
def cutFirst (sep : Char) (cs : List Char) : List Char × Option (List Char) :=
  (cs.takeWhile (· ≠ sep), (cs.dropWhile (· ≠ sep)).tail?)

/-- What stands before the last `sep`, if there is one, and what stands behind it. -/
def cutLast (sep : Char) (cs : List Char) : Option (List Char) × List Char :=
  let r := cs.reverse
  ((r.dropWhile (· ≠ sep)).tail?.map List.reverse, (r.takeWhile (· ≠ sep)).reverse)

end SqlWire.Text
