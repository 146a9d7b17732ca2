import KafkaHandles.Text.Digit
import KafkaHandles.Value.Basic

/-!
# Options of a command line

A program takes options and no other arguments. An option has one or more names, which begin with
one dash or with two, and takes a text, an integer or nothing. Its argument follows it, or is
attached to it: after an equals sign, or, to a name with one dash, directly. Names with two dashes
may be cut short as long as it is clear which one is meant, and options with one dash that take
nothing may be written as one. A text that looks like an option is no argument of one, unless it is
a negative number or holds a blank. An attached argument of two dashes is dropped, which leaves an
empty list in its place.
-/

namespace KafkaHandles

/-- What an option takes. -/
inductive OptionKind
  | text
  | integer
  | switch
  /-- Nothing; asks for help, whatever comes after it. -/
  | help
  deriving DecidableEq, Repr

/-- An option of a program. -/
structure OptionRule where
  names : List String
  kind : OptionKind
  required : Bool := false
  deriving DecidableEq, Repr

/-- The option that asks for help, which every program has. -/
def helpRule : OptionRule := ⟨["-h", "--help"], .help, false⟩

/-- What is given for an option. -/
inductive Given
  | text (s : String)
  | integer (n : Int)
  | switch
  /-- An argument that was dropped. -/
  | dropped
  deriving DecidableEq, Repr

/-- What is given for an option, as a value. -/
def Given.value : Given → Value
  | .text s => .text s
  | .integer n => .int n
  | .switch => .bool true
  | .dropped => .list []

/-- What a command line comes to. -/
inductive CommandLine
  /-- What is given, by the first names of the options, the latest first. -/
  | accepted (given : List (String × Given))
  | refused
  | help
  deriving DecidableEq, Repr

namespace OptionRule

/-- The name by which the option is known. -/
def title (r : OptionRule) : String :=
  r.names.headD ""

/-- Whether the option takes an argument. -/
def takesArgument (r : OptionRule) : Bool :=
  match r.kind with
  | .text | .integer => true
  | .switch | .help => false

end OptionRule

/-- What is attached to the name of an option. -/
inductive Attached
  | nothing
  /-- An argument, after the equals sign behind a name with two dashes. -/
  | argument (cs : List Char)
  /-- An argument or the names of further options, behind a name with one dash. -/
  | tail (cs : List Char)

/-- A part of a command line. -/
inductive Part
  | plain (s : String)
  /-- An option, with what is attached to its name. -/
  | option (rule : OptionRule) (attached : Attached)
  /-- What looks like an option and is none, or ends the options. -/
  | other

namespace CommandLine

/-! ## Parts -/

/-- Whether a text is a negative number: a dash and digits, among which there may be a point that
has digits after it. One newline may follow. -/
def isNegativeNumber : List Char → Bool
  | '-' :: cs =>
    let cs := if cs.getLast? = some '\n' then cs.dropLast else cs
    let isDigit (c : Char) : Bool := (Text.digit? c).isSome
    match cs.dropWhile isDigit with
    | [] => !cs.isEmpty
    | '.' :: fraction => !fraction.isEmpty && fraction.all isDigit
    | _ => false
  | _ => false

/-- The option with a name. -/
def ruleNamed? (rules : List OptionRule) (name : List Char) : Option OptionRule :=
  rules.find? fun r => r.names.any (·.toList == name)

/-- A text before its first equals sign, and the rest. -/
def atEquals (cs : List Char) : List Char × List Char :=
  (cs.takeWhile (· != '='), cs.dropWhile (· != '='))

/-- What stands after the equals sign behind a name, if there is one. -/
def afterEquals (name rest : List Char) : Attached :=
  match name, rest with
  | _, [] => .nothing
  | '-' :: '-' :: _, _ :: cs => .argument cs
  | _, _ :: cs => .tail cs

/-- What a text attaches to the name of an option that it stands for: the name may be cut short, and
what is attached to a name with one dash need not begin with an equals sign. -/
def attached? (cs name : List Char) : Option Attached :=
  match cs with
  | '-' :: '-' :: _ =>
    let (start, rest) := atEquals cs
    if start.isPrefixOf name then some (afterEquals start rest) else none
  | _ =>
    if name == cs.take 2 then some (.tail (cs.drop 2))
    else if cs.isPrefixOf name then some .nothing
    else none

/-- The ways to read a text as an option, in the order of the rules. -/
def readings (rules : List OptionRule) (cs : List Char) : List Part :=
  rules.flatMap fun r => r.names.filterMap fun name =>
    (attached? cs name.toList).map (Part.option r)

/-- The part that a text with a dash in front is, unless that is not clear. -/
def readDashed? (rules : List OptionRule) (cs : List Char) : Option Part :=
  let (start, rest) := atEquals cs
  match ruleNamed? rules cs, ruleNamed? rules start with
  | some r, _ => some (.option r .nothing)
  | none, some r => some (.option r (afterEquals start rest))
  | none, none =>
    if cs.length = 1 then some (.plain (String.ofList cs))
    else match readings rules cs with
      | [p] => some p
      | _ :: _ => none
      | [] =>
        some (if isNegativeNumber cs || cs.contains ' ' then .plain (String.ofList cs) else .other)

/-- The part that a text is, unless that is not clear. -/
def readPart? (rules : List OptionRule) (s : String) : Option Part :=
  if s.toList.head? = some '-' then readDashed? rules s.toList else some (.plain s)

/-- The parts of a command line, unless one is not clear. After two dashes everything is plain. -/
def parts? (rules : List OptionRule) : List String → Option (List Part)
  | [] => some []
  | s :: rest =>
    if s = "--" then some (.other :: rest.map .plain)
    else do
      let p ← readPart? rules s
      let ps ← parts? rules rest
      some (p :: ps)

/-! ## Reading -/

/-- Options that are written together: those with the texts they take, and one that takes the next
part. -/
structure Group where
  complete : List (OptionRule × String)
  waiting : Option OptionRule := none

/-- An option with nothing attached to it. -/
def alone (rule : OptionRule) : Group :=
  if rule.takesArgument then ⟨[], some rule⟩ else ⟨[(rule, "")], none⟩

/-- An option with its argument, if it takes one. -/
def withArgument? (rule : OptionRule) (cs : List Char) : Option Group :=
  if rule.takesArgument then some ⟨[(rule, String.ofList cs)], none⟩ else none

/-- The options that are written together behind one dash, the first of them and then as many as the
tail names, up to one that takes an argument. -/
def chain? (rules : List OptionRule) (rule : OptionRule) : List Char → Option Group
  | [] => withArgument? rule []
  | c :: cs =>
    if rule.takesArgument then withArgument? rule (c :: cs)
    else do
      let next ← ruleNamed? rules ['-', c]
      let group ← if cs.isEmpty then some (alone next) else chain? rules next cs
      some { group with complete := (rule, "") :: group.complete }

/-- The options that are written together, by what is attached to the first of them. -/
def together? (rules : List OptionRule) (rule : OptionRule) : Attached → Option Group
  | .nothing => some (alone rule)
  | .argument cs => withArgument? rule cs
  | .tail cs => chain? rules rule cs

/-- What a text gives for an option. -/
def give? (rule : OptionRule) (s : String) : Option Given :=
  match rule.kind with
  | .text => some (if s = "--" then .dropped else .text s)
  | .integer => if s = "--" then some .dropped else (Text.integer? s).map .integer
  | .switch | .help => some .switch

/-- Takes options with their texts, up to one that asks for help. -/
def takeAll (given : List (String × Given)) : List (OptionRule × String) → CommandLine
  | [] => .accepted given
  | (rule, s) :: rest =>
    if rule.kind = .help then .help
    else match give? rule s with
      | some g => takeAll ((rule.title, g) :: given) rest
      | none => .refused

/-- What is given at the end, where `spare` tells whether a part belongs to no option. -/
def conclude (rules : List OptionRule) (given : List (String × Given)) (spare : Bool) :
    CommandLine :=
  if spare || rules.any fun r => r.required && !given.any (·.1 == r.title) then .refused
  else .accepted given

/-- Goes through the parts. The options of an open group wait for the text that one of them takes.
-/
def readParts (rules : List OptionRule) (given : List (String × Given)) (spare : Bool) :
    Option (List (OptionRule × String) × OptionRule) → List Part → CommandLine
  | none, [] => conclude rules given spare
  | none, .plain _ :: ps | none, .other :: ps => readParts rules given true none ps
  | none, .option rule attached :: ps =>
    match together? rules rule attached with
    | none => .refused
    | some ⟨complete, some last⟩ => readParts rules given spare (some (complete, last)) ps
    | some ⟨complete, none⟩ => match takeAll given complete with
      | .accepted given => readParts rules given spare none ps
      | other => other
  | some (complete, last), .plain s :: ps =>
    match takeAll given (complete ++ [(last, s)]) with
    | .accepted given => readParts rules given spare none ps
    | other => other
  | some _, _ => .refused

/-- Reads a command line by the options of a program. -/
def read (rules : List OptionRule) (arguments : List String) : CommandLine :=
  let rules := helpRule :: rules
  match parts? rules arguments with
  | some ps => readParts rules [] false none ps
  | none => .refused

/-! ## What is given -/

/-- The value given for an option, or another one in its place. -/
def valueOr (missing : Value) (given : List (String × Given)) (title : String) : Value :=
  match given.find? fun e => e.1 == title with
  | some e => e.2.value
  | none => missing

/-- The value given for an option, absent if there is none. -/
def value (given : List (String × Given)) (title : String) : Value :=
  valueOr .none given title

/-- Whether a switch is given. -/
def isSet (given : List (String × Given)) (title : String) : Bool :=
  given.any (·.1 == title)

end CommandLine

end KafkaHandles
