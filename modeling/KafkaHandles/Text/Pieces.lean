/-!
# Pieces of a text

Cutting a text at every occurrence of a separator, and joining pieces with one. An occurrence is
looked for from left to right, each after the end of the one before it.
-/

namespace KafkaHandles.Text

/-- Cuts at each separator; `piece` holds the characters of the current piece in reverse, and `skip`
counts the characters of a separator that are still to be passed over. -/
def cutFrom (separator : List Char) (piece : List Char) : Nat → List Char → List (List Char)
  | _, [] => [piece.reverse]
  | n + 1, _ :: cs => cutFrom separator piece n cs
  | 0, c :: cs =>
    if separator.isPrefixOf (c :: cs) then
      piece.reverse :: cutFrom separator [] (separator.length - 1) cs
    else cutFrom separator (c :: piece) 0 cs

/-- The pieces between the occurrences of a separator that is not empty. -/
def cutAt (separator cs : List Char) : List (List Char) :=
  cutFrom separator [] 0 cs

/-- The pieces of a text between the occurrences of a separator. -/
def split (separator s : String) : List String :=
  (cutAt separator.toList s.toList).map String.ofList

/-- The pieces, with the separator between each two. -/
def join (separator : String) (pieces : List String) : String :=
  String.intercalate separator pieces

/-- The pieces of a text that its commas separate. -/
def commaPieces (s : String) : List String :=
  split "," s

/-- Whether a text occurs within another one. -/
def occursIn (needle : List Char) : List Char → Bool
  | [] => needle.isEmpty
  | c :: cs => needle.isPrefixOf (c :: cs) || occursIn needle cs

end KafkaHandles.Text
