import HardwareIndex.Observe.Log
import HardwareIndex.Text.Blank
import HardwareIndex.Text.Decimal
import HardwareIndex.Text.Pattern
import HardwareIndex.Text.Reading

/-!
# Directives on log events

A directive says of which level the events of some targets have to be:
`target[span{field=value}]=level`, where every part may be missing. A word
alone is a level if it can be one, else a target with events of all levels. The
blanks around a directive do not count as part of it, but the places of its
parts are counted from there in the text with them.
-/

namespace HardwareIndex

/-- What a directive asks of a field. -/
structure FieldFilter where
  name : String
  /-- Whether its value matters too. -/
  hasValue : Bool
  deriving DecidableEq, Repr

/-- What is said of the events of some targets: the highest rank that passes. -/
structure LogDirective where
  /-- How the targets begin; all targets if there is nothing. -/
  target : Option String := none
  /-- The span inside of which events are meant. -/
  span : Option String := none
  fields : List FieldFilter := []
  maxRank : Nat := LogLevel.trace.rank
  deriving DecidableEq, Repr

/-- Why a text is no directive. -/
inductive DirectiveFault where
  | shape
  | level
  | field (fault : Text.Pattern.Fault)
  deriving DecidableEq, Repr

/-- The wording of a fault. -/
def DirectiveFault.message : DirectiveFault → String
  | .shape => "invalid filter directive"
  | .level =>
    "error parsing level filter: expected one of \"off\", \"error\", \"warn\", \"info\", \"debug\", " ++
      "\"trace\", or a number 0-5"
  | .field .unreadable => "invalid field filter: error building NFA"
  | .field .wordEdge =>
    "invalid field filter: unsupported regex feature for DFAs: cannot build DFAs for regexes with " ++
      "Unicode word boundaries; switch to ASCII word boundaries, or heuristically enable Unicode " ++
      "word boundaries or use a different regex engine"

/-- The rank that a level lets through, written as a word or a number. -/
def LogLevel.maxRank? (s : String) : Option Nat :=
  match Text.Decimal.unsigned? Text.Decimal.max64 s.toList with
  | some n => if n ≤ 5 then some n else none
  | none =>
    let word := Text.lowerAsciiAll s.toList
    if word = "off".toList then some 0
    else (LogLevel.all.find? fun level => Text.lowerAsciiAll level.text.toList = word).map LogLevel.rank

namespace FieldFilter

/-- Whether a text is a number without a sign, perhaps with a fraction and an exponent. -/
def isUnsignedReal (cs : List Char) : Bool :=
  let (whole, rest) := (cs.takeWhile Text.Decimal.isDigit, cs.dropWhile Text.Decimal.isDigit)
  let fraction := match rest with
    | '.' :: rest => rest.takeWhile Text.Decimal.isDigit
    | _ => []
  let rest := if rest.head? = some '.' then rest.drop (1 + fraction.length) else rest
  let exponent := match rest with
    | c :: sign :: rest =>
      if c != 'e' && c != 'E' then none
      else some (if sign == '+' || sign == '-' then rest else sign :: rest)
    | [_] => none
    | [] => some ['0']
  (!whole.isEmpty || !fraction.isEmpty) &&
    exponent.any fun digits => !digits.isEmpty && digits.all Text.Decimal.isDigit

/-- Whether a value that begins with a plus is a number. -/
def isSignedReal (cs : List Char) : Bool :=
  match cs with
  | '+' :: rest =>
    isUnsignedReal rest ||
      ["inf", "infinity", "nan"].contains (String.ofList (Text.lowerAsciiAll rest))
  | _ => false

/-- The field that a text names, with what its value is compared to: a number, or a
    pattern, which ends at a second equals sign. -/
def parse (cs : List Char) : Except DirectiveFault FieldFilter :=
  match cs.splitOn '=' with
  | name :: value :: _ =>
    if isSignedReal value then .ok ⟨String.ofList name, true⟩
    else match Text.Pattern.check value with
      | .ok _ => .ok ⟨String.ofList name, true⟩
      | .error e => .error (.field e)
  | _ => .ok ⟨String.ofList cs, false⟩

end FieldFilter

namespace LogDirective

/-- Which part of a directive is being read, with the place where it starts. -/
inductive Part where
  | start
  /-- A level or a target. -/
  | word (first : Nat)
  | span (first : Nat)
  | field (first : Nat)
  | fieldsEnd
  | spanEnd
  | level (first : Nat)
  deriving DecidableEq, Repr

/-- The characters of a text from one place to before another. -/
def slice (text : List Char) (first last : Nat) : List Char :=
  (text.take last).drop first

/-- Whether a directive can start with a character. -/
def isStart (c : Char) : Bool :=
  c == '-' || c == ':' || c == '_' || Text.isAlphanumeric c

/-- Take the character at a place; `text` is what the parts are cut from. -/
def step (text : List Char) (state : LogDirective × Part) (char : Char × Nat) :
    Except DirectiveFault (LogDirective × Part) :=
  let (d, part) := state
  let (c, i) := char
  let cut (first : Nat) := slice text first i
  match part with
  | .start =>
    if c = '[' then .ok (d, .span (i + 1))
    else if isStart c then .ok (d, .word i)
    else .error .shape
  | .word first =>
    let ended := { d with target := some (String.ofList (cut first)) }
    if c = '=' then .ok (ended, .level (i + 1))
    else if c = '[' then .ok (ended, .span (i + 1))
    else .ok state
  | .span first =>
    let name := String.ofList (cut first)
    if c = ']' then .ok ({ d with span := some name }, .spanEnd)
    else if c = '\x7b' then
      .ok ({ d with span := if name.isEmpty then none else some name }, .field (i + 1))
    else .ok state
  | .field first =>
    if c != '\x7d' then .ok state
    else if (cut first).isEmpty then .error .shape
    else (FieldFilter.parse (cut first)).map fun field =>
      ({ d with fields := d.fields ++ [field] }, .fieldsEnd)
  | .fieldsEnd => if c = ']' then .ok (d, .spanEnd) else .error .shape
  | .spanEnd => if c = '=' then .ok (d, .level (i + 1)) else .error .shape
  | .level _ => .ok state

/-- What a directive says when its text ends in a part. -/
def finish (text : List Char) (d : LogDirective) : Part → Except DirectiveFault LogDirective
  | .word first =>
    let word := String.ofList (text.drop first)
    match LogLevel.maxRank? word with
    | some maxRank => .ok { d with maxRank }
    | none => .ok { d with target := if word.isEmpty then none else some word }
  | .level first =>
    let word := String.ofList (text.drop first)
    if word.isEmpty then .ok d
    else match LogLevel.maxRank? word with
      | some maxRank => .ok { d with maxRank }
      | none => .error .level
  | .spanEnd => .ok d
  | _ => .error .shape

/-- The directive that a text writes, or why it writes none. -/
def parse (s : String) : Except DirectiveFault LogDirective := do
  let (d, part) ← (Text.trim s.toList).zipIdx.foldlM (step s.toList) ({}, .start)
  finish s.toList d part

/-- Whether a directive holds without regard to spans and values. -/
def isStatic (d : LogDirective) : Bool :=
  d.span.isNone && d.fields.all fun field => !field.hasValue

/-- Whether a directive speaks of an event: of its target and of fields that it has. -/
def covers (d : LogDirective) (e : LogEvent) : Bool :=
  d.target.all (fun start => start.toList.isPrefixOf e.target.toList) &&
    d.fields.all fun field => e.names.contains field.name

/-- How specific a directive is: one with a target more than one without, one with a
    longer target or more fields more than others. -/
def compare (a b : LogDirective) : Ordering :=
  let size (d : LogDirective) := (d.target.map fun t => t.utf8ByteSize + 1).getD 0
  let names (d : LogDirective) := d.fields.map FieldFilter.name
  (Ord.compare (size a) (size b)).then <| (Ord.compare a.fields.length b.fields.length).then <|
    (Ord.compare (a.target.getD "") (b.target.getD "")).then (Ord.compare (names a) (names b))

end LogDirective

end HardwareIndex
