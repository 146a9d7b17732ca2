import KafkaHandles.Fault

/-!
# The name of a rejected property

A client that rejects a property says so in words and names the property between double quotes,
right after the word `property` with or without a colon. The name is read at the first place where
such a quotation stands.
-/

namespace KafkaHandles.RejectedProperty

open Text.Quoted (doubleQuote)

/-- The word in front of the name. -/
def keyword : List Char := "property".toList

/-- The rest of a text that begins with some characters. -/
def dropStart? (start cs : List Char) : Option (List Char) :=
  if start.isPrefixOf cs then some (cs.drop start.length) else none

/-- Reads up to a closing quote; nothing is read if there is none or nothing stands before it. -/
def quotedName? (cs : List Char) : Option (List Char) :=
  let name := cs.takeWhile (· != doubleQuote)
  if name.isEmpty || name.length = cs.length then none else some name

/-- Reads a blank, an opening quote and a name. -/
def afterKeyword? (cs : List Char) : Option (List Char) :=
  (dropStart? [' ', doubleQuote] cs).bind quotedName?

/-- Reads the word, a colon that may be missing, and a quoted name at the start of a text. -/
def nameAt? (cs : List Char) : Option (List Char) :=
  (dropStart? keyword cs).bind fun rest =>
    match dropStart? [':'] rest with
    | some rest' => afterKeyword? rest'
    | none => afterKeyword? rest

/-- Reads a name at the first place of a text where one stands. -/
def firstName? : List Char → Option (List Char)
  | [] => none
  | c :: cs => match nameAt? (c :: cs) with
    | some name => some name
    | none => firstName? cs

/-- The property that a reason names. -/
def find? (reason : String) : Option String :=
  (firstName? reason.toList).map String.ofList

/-- The property that a reason of any kind names; only text can be searched. -/
def findIn (reason : Value) : Except Fault (Option String) :=
  match reason with
  | .text s => .ok (find? s)
  | .bytes _ | .buffer _ | .view _ => .error .searchInBytes
  | v => .error (.searchNeedsText v.kindName)

end KafkaHandles.RejectedProperty
