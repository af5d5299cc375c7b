import SchemaEngine.Pattern.Basic
import SchemaEngine.Text.Letters

/-!
# Reading patterns

Patterns stand between braces where they are used, so no closing brace occurs in one, and every form
that needs a closing brace, such as a counted repetition, is malformed.

## Main definitions

* `Pattern.read`: the pattern that a text spells, unless it is malformed.
* `Pattern.readEscape`, `Pattern.readSet`, `Pattern.readOpening`: what a backslash, a bracket and a
  parenthesis begin.
-/

set_option autoImplicit false

namespace SchemaEngine.Pattern

/-- A text without the blanks and comments that it begins with. -/
def skipBlanks (inComment : Bool) : List Char → List Char
  | [] => []
  | c :: rest =>
    if inComment then skipBlanks (c != '\n') rest
    else if Letters.isBlank c then skipBlanks false rest
    else if c = '#' then skipBlanks true rest
    else c :: rest

/-- A text without what it begins with and does not count. -/
def skip (extended : Bool) (text : List Char) : List Char :=
  if extended then skipBlanks false text else text

/-! ### Escapes -/

/-- The value of a hexadecimal digit. -/
def hexValue? (c : Char) : Option Nat :=
  if c.isDigit then some (c.toNat - '0'.toNat)
  else if 'a' ≤ c && c ≤ 'f' then some (c.toNat - 'a'.toNat + 10)
  else if 'A' ≤ c && c ≤ 'F' then some (c.toNat - 'A'.toNat + 10)
  else none

/-- So many hexadecimal digits, which continue a number. -/
def readHex (extended : Bool) : Nat → Nat → List Char → Option (Nat × List Char)
  | 0, number, text => some (number, text)
  | digits + 1, number, text =>
    match skip extended text with
    | [] => none
    | c :: rest =>
      match hexValue? c with
      | some digit => readHex extended digits (16 * number + digit) rest
      | none => none

/-- A character by its number, which has so many hexadecimal digits. -/
def readCode (extended : Bool) (digits : Nat) (text : List Char) : Option (Char × List Char) :=
  match readHex extended digits 0 text with
  | some (number, rest) => if number.isValidChar then some (Char.ofNat number, rest) else none
  | none => none

/-- The letters of the general categories. -/
def categoryLetters : List Char :=
  ['c', 'l', 'm', 'n', 'p', 's', 'z']

/-- The character that a letter stands for behind a backslash. -/
def control? (c : Char) : Option Char :=
  match c with
  | 'a' => some '\x07'
  | 't' => some '\t'
  | 'n' => some '\n'
  | 'v' => some '\x0b'
  | 'f' => some '\x0c'
  | 'r' => some '\r'
  | _ => none

/-- What a backslash begins. -/
def readEscape (extended : Bool) : List Char → Option (Pattern × List Char)
  | [] => none
  | c :: rest =>
    if c = 'x' then (readCode extended 2 rest).map fun r => (.literal r.1 true, r.2)
    else if c = 'u' then (readCode extended 4 rest).map fun r => (.literal r.1 false, r.2)
    else if c = 'U' then (readCode extended 8 rest).map fun r => (.literal r.1 false, r.2)
    else if c = 'p' || c = 'P' then
      match skip extended rest with
      | [] => none
      | letter :: rest =>
        if categoryLetters.contains letter.toLower then some (.category, rest) else none
    else if c = 'd' || c = 's' || c = 'w' then some (.shorthand false, rest)
    else if c = 'D' || c = 'S' || c = 'W' then some (.shorthand true, rest)
    else if c = 'A' || c = 'z' then some (.edge false, rest)
    else if c = 'b' || c = 'B' || c = '<' || c = '>' then some (.edge true, rest)
    else
      match control? c with
      | some control => some (.literal control false, rest)
      | none => if c.toNat < 0x80 && !c.isAlphanum then some (.literal c false, rest) else none

/-! ### Sets -/

/-- A set that is being read, up to here. -/
structure SetLevel where
  /-- The left side of the operation whose right side is being read. -/
  left : Option CharSet := none
  /-- The members since then, the latest first. -/
  members : List CharSet := []

/-- The members since the last operation. -/
def SetLevel.operand (level : SetLevel) : CharSet :=
  match level.members with
  | [member] => member
  | members => .union members.reverse

/-- The set that was read. -/
def SetLevel.result (level : SetLevel) : CharSet :=
  match level.left with
  | some left => .operation left level.operand
  | none => level.operand

/-- Adds a member. -/
def SetLevel.add (member : CharSet) (level : SetLevel) : SetLevel :=
  { level with members := member :: level.members }

/-- The names of sets. -/
def setNames : List String :=
  ["alnum", "alpha", "ascii", "blank", "cntrl", "digit", "graph", "lower", "print", "punct",
    "space", "upper", "word", "xdigit"]

/-- A set by its name, behind the bracket. -/
def readNamed : List Char → Option (CharSet × List Char)
  | ':' :: rest =>
    let negated := rest.head? = some '^'
    let rest := if negated then rest.drop 1 else rest
    match rest.dropWhile (· ≠ ':') with
    | ':' :: ']' :: after =>
      if setNames.contains (String.ofList (rest.takeWhile (· ≠ ':'))) then
        some (.named negated, after)
      else none
    | _ => none
  | _ => none

/-- The hyphens at the beginning of a set, at most so many. -/
def readHyphens (extended : Bool) : Nat → SetLevel → List Char → SetLevel × List Char
  | n + 1, level, '-' :: rest =>
    readHyphens extended n (level.add (.literal '-')) (skip extended rest)
  | _, level, text => (level, text)

/-- The beginning of a set, behind the bracket: whether it is negated, and the hyphens or the
closing bracket that are members because they come first. -/
def openSet (extended : Bool) (text : List Char) : Option (Bool × SetLevel × List Char) :=
  let text := skip extended text
  let negated := text.head? = some '^'
  let text := if negated then skip extended (text.drop 1) else text
  match readHyphens extended text.length {} text with
  | (_, []) => none
  | (level, c :: rest) =>
    if level.members.isEmpty && c = ']' then
      some (negated, level.add (.literal ']'), skip extended rest)
    else some (negated, level, c :: rest)

/-- A character of a set, or what stands for some. -/
def readMember (extended : Bool) : List Char → Option (Pattern × List Char)
  | [] => none
  | '\\' :: rest => readEscape extended rest
  | c :: rest => some (.literal c false, rest)

/-- The set that a pattern for a single character is. -/
def toSet? : Pattern → Option CharSet
  | .literal c _ => some (.literal c)
  | .shorthand negated => some (.shorthand negated)
  | .category => some .category
  | _ => none

/-- The range between two characters. -/
def range? : Pattern → Pattern → Option CharSet
  | .literal low _, .literal high _ => if low ≤ high then some (.range low high) else none
  | _, _ => none

/-- A member of a set, or a range. A hyphen makes a range unless a bracket or another hyphen comes
behind it. -/
def readRange (extended : Bool) (text : List Char) : Option (CharSet × List Char) :=
  match readMember extended text with
  | none => none
  | some (first, rest) =>
    match skip extended rest with
    | '-' :: rest =>
      match skip extended rest with
      | [] => none
      | c :: after =>
        if c = ']' || c = '-' then (toSet? first).map fun set => (set, '-' :: rest)
        else
          match readMember extended (c :: after) with
          | none => none
          | some (last, rest) => (range? first last).map fun set => (set, rest)
    | rest => (toSet? first).map fun set => (set, rest)

/-- The rest of a set up to its closing bracket. For every open bracket, the innermost first, there
is whether the set is negated and what was read of the set around it. -/
def readSetFrom (extended : Bool) :
    Nat → SetLevel → List (Bool × SetLevel) → List Char → Option (CharSet × List Char)
  | 0, _, _, _ => none
  | n + 1, level, opened, text =>
    match skip extended text with
    | [] => none
    | '[' :: rest =>
      match readNamed rest with
      | some (set, rest) => readSetFrom extended n (level.add set) opened rest
      | none =>
        match openSet extended rest with
        | some (negated, inner, rest) =>
          readSetFrom extended n inner ((negated, level) :: opened) rest
        | none => none
    | ']' :: rest =>
      match opened with
      | [] => none
      | [(negated, _)] => some (.bracketed negated level.result, rest)
      | (negated, outer) :: opened =>
        readSetFrom extended n (outer.add (.bracketed negated level.result)) opened rest
    | c :: rest =>
      if (c = '&' || c = '-' || c = '~') && rest.head? = some c then
        readSetFrom extended n { left := some level.result } opened (rest.drop 1)
      else
        match readRange extended (c :: rest) with
        | some (set, rest) => readSetFrom extended n (level.add set) opened rest
        | none => none

/-- What an opening bracket begins. -/
def readSet (extended : Bool) (text : List Char) : Option (CharSet × List Char) :=
  match openSet extended text with
  | some (negated, level, rest) =>
    readSetFrom extended (rest.length + 1) level [(negated, {})] rest
  | none => none

/-! ### Groups -/

/-- What an opening parenthesis begins. -/
inductive Opening where
  /-- A change of modes up to the end of the group around it. -/
  | modes (change : ModeChange)
  /-- A group, which may have a name. -/
  | group (change : ModeChange) (name : Option (List Char))

/-- Changes of modes that are being read, up to here. -/
structure ModeList where
  change : ModeChange := {}
  /-- Whether modes are switched off from here on. -/
  off : Bool := false
  /-- Whether a hyphen was last. -/
  pending : Bool := false
  /-- The modes that were mentioned. -/
  seen : List Char := []

/-- The letters of the modes. -/
def modeLetters : List Char :=
  ['i', 'm', 's', 'U', 'u', 'R', 'x']

/-- Adds a mode, unless it is not known or was mentioned before. -/
def ModeList.add? (c : Char) (list : ModeList) : Option ModeList :=
  if !modeLetters.contains c || list.seen.contains c then none
  else
    let change := list.change
    let change := if c = 'u' then { change with unicode := some !list.off } else change
    let change := if c = 'x' then { change with extended := some !list.off } else change
    some { list with change := change, pending := false, seen := c :: list.seen }

/-- Changes of modes, up to the colon before the body of a group or to the parenthesis. -/
def readModes (list : ModeList) : List Char → Option (Opening × List Char)
  | [] => none
  | c :: rest =>
    if c = ':' then if list.pending then none else some (.group list.change none, rest)
    else if c = ')' then
      if list.pending || list.seen.isEmpty then none else some (.modes list.change, rest)
    else if c = '-' then
      if list.off then none else readModes { list with off := true, pending := true } rest
    else
      match list.add? c with
      | some list => readModes list rest
      | none => none

/-- Whether a character may stand in the name of a group. -/
def isNameCharacter (c : Char) : Bool :=
  c = '_' || c = '.' || c = '[' || c = ']' || Letters.isAlphanumeric c

/-- Whether this is the name of a group. -/
def isGroupName : List Char → Bool
  | [] => false
  | c :: rest => (c = '_' || Letters.isAlphabetic c) && rest.all isNameCharacter

/-- A group with a name, from the name on. -/
def readGroupName (text : List Char) : Option (Opening × List Char) :=
  let name := text.takeWhile (· ≠ '>')
  match text.dropWhile (· ≠ '>') with
  | '>' :: rest => if isGroupName name then some (.group {} (some name), rest) else none
  | _ => none

/-- What an opening parenthesis begins. Looking ahead and behind is not known. -/
def readOpening (extended : Bool) (text : List Char) : Option (Opening × List Char) :=
  match skip extended text with
  | '?' :: '=' :: _ => none
  | '?' :: '!' :: _ => none
  | '?' :: '<' :: '=' :: _ => none
  | '?' :: '<' :: '!' :: _ => none
  | '?' :: 'P' :: '<' :: rest => readGroupName rest
  | '?' :: '<' :: rest => readGroupName rest
  | '?' :: rest => readModes {} rest
  | rest => some (.group {} none, rest)

/-! ### Whole patterns -/

/-- A group that is being read, up to here. -/
structure Level where
  /-- The branches before this one, the latest first. -/
  branches : List Pattern := []
  /-- The parts of this branch, the latest first. -/
  parts : List Pattern := []

/-- The branch that was read last. -/
def Level.branch (level : Level) : Pattern :=
  match level.parts with
  | [part] => part
  | parts => .sequence parts.reverse

/-- The pattern that was read. -/
def Level.result (level : Level) : Pattern :=
  match level.branches with
  | [] => level.branch
  | branches => .choice (level.branch :: branches).reverse

/-- Adds a part. -/
def Level.add (part : Pattern) (level : Level) : Level :=
  { level with parts := part :: level.parts }

/-- A group whose end was not read yet. -/
structure Opened where
  change : ModeChange
  /-- What was read of the group around it. -/
  outer : Level
  /-- Whether blanks do not count in the group around it. -/
  extended : Bool

/-- A pattern that is being read, up to here. -/
structure Progress where
  level : Level := {}
  /-- The open groups, the innermost first. -/
  opened : List Opened := []
  /-- Whether blanks do not count. -/
  extended : Bool := false
  /-- The names of groups. -/
  names : List (List Char) := []

namespace Progress

/-- Adds a part. -/
def add (part : Pattern) (p : Progress) : Progress :=
  { p with level := p.level.add part }

/-- Takes in what an opening parenthesis begins; no two groups have the same name. -/
def enter? (opening : Opening) (p : Progress) : Option Progress :=
  match opening with
  | .modes change =>
    some { p.add (.modes change) with extended := change.extended.getD p.extended }
  | .group change name =>
    if name.any p.names.contains then none
    else
      some
        { level := {}
          opened := ⟨change, p.level, p.extended⟩ :: p.opened
          extended := change.extended.getD p.extended
          names := name.toList ++ p.names }

/-- Takes in a closing parenthesis. -/
def leave? (p : Progress) : Option Progress :=
  match p.opened with
  | [] => none
  | last :: opened =>
    some
      { p with
        level := last.outer.add (.group last.change p.level.result)
        opened := opened
        extended := last.extended }

/-- Repeats the last part. -/
def repeat? (p : Progress) : Option Progress :=
  match p.level.parts with
  | [] => none
  | .modes _ :: _ => none
  | part :: parts => some { p with level := { p.level with parts := .repeated part :: parts } }

/-- Begins another branch. -/
def split (p : Progress) : Progress :=
  { p with level := { branches := p.level.branch :: p.level.branches } }

/-- Takes in what a character begins. -/
def step (p : Progress) (c : Char) (rest : List Char) : Option (Progress × List Char) :=
  match c with
  | '(' =>
    match readOpening p.extended rest with
    | some (opening, rest) => (p.enter? opening).map fun p => (p, rest)
    | none => none
  | ')' => p.leave?.map fun p => (p, rest)
  | '|' => some (p.split, rest)
  | '[' => (readSet p.extended rest).map fun r => (p.add (.oneOf r.1), r.2)
  | '\x7b' => none
  | '\\' => (readEscape p.extended rest).map fun r => (p.add r.1, r.2)
  | '.' => some (p.add .any, rest)
  | '^' => some (p.add (.edge false), rest)
  | '$' => some (p.add (.edge false), rest)
  | c =>
    if c = '?' || c = '*' || c = '+' then
      p.repeat?.map fun p => (p, if rest.head? = some '?' then rest.drop 1 else rest)
    else some (p.add (.literal c false), rest)

/-- Reads a text to its end, in at most so many steps. -/
def readFrom : Nat → Progress → List Char → Option Pattern
  | 0, _, _ => none
  | n + 1, p, text =>
    match skip p.extended text with
    | [] => if p.opened.isEmpty then some p.level.result else none
    | c :: rest =>
      match p.step c rest with
      | some (p, rest) => readFrom n p rest
      | none => none

end Progress

/-- The pattern that a text spells, unless it is malformed. -/
def read (text : List Char) : Option Pattern :=
  Progress.readFrom (text.length + 1) {} text

end SchemaEngine.Pattern
