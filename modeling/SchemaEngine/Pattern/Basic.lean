/-!
# Patterns

Regular expressions, as far as it matters whether a matcher can be made of them. A pattern is read
in two modes that it may change on its way: as one over characters or over the bytes of the text,
and with or without blanks and comments that do not count. A pattern over bytes must not match a
part of a character, and a matcher does not know the edges of words in all scripts.

## Main definitions

* `Pattern`, `Pattern.CharSet`: patterns and sets of characters.
* `Pattern.height`: how deep a pattern is nested.
* `Pattern.modeAfter`: whether a pattern can be matched, and the mode that it ends in.
* `Pattern.isUsable`: whether a matcher can be made of a pattern.
-/

set_option autoImplicit false

namespace SchemaEngine

/-- What stands between brackets in a pattern. -/
inductive Pattern.CharSet where
  | literal (c : Char)
  | range (low high : Char)
  /-- A set that has a name, such as that of the digits, or what is not in it. -/
  | named (negated : Bool)
  /-- A set that has a letter of its own, or what is not in it. -/
  | shorthand (negated : Bool)
  /-- The characters of a general category. -/
  | category
  | bracketed (negated : Bool) (inner : CharSet)
  | union (members : List CharSet)
  /-- An intersection or a difference. -/
  | operation (left right : CharSet)
  deriving Repr

/-- A change of modes; a mode that is not mentioned stays. -/
structure Pattern.ModeChange where
  /-- Whether the pattern is one over characters. -/
  unicode : Option Bool := none
  /-- Whether blanks and comments do not count. -/
  extended : Option Bool := none
  deriving Repr

/-- A pattern. -/
inductive Pattern where
  /-- A character; whether it is written as the number of a byte. -/
  | literal (c : Char) (asByte : Bool)
  /-- Any character. -/
  | any
  /-- A place in the text; whether it is the edge of a word. -/
  | edge (ofWord : Bool)
  /-- A set that has a letter of its own, or what is not in it. -/
  | shorthand (negated : Bool)
  /-- The characters of a general category. -/
  | category
  /-- A character of a set. -/
  | oneOf (set : Pattern.CharSet)
  /-- A change of modes up to the end of the group. -/
  | modes (change : Pattern.ModeChange)
  /-- A group, which may have modes of its own. -/
  | group (change : Pattern.ModeChange) (body : Pattern)
  | repeated (body : Pattern)
  | sequence (parts : List Pattern)
  | choice (branches : List Pattern)
  deriving Repr

namespace Pattern

mutual

/-- How deep a set is nested. -/
def CharSet.height : CharSet → Nat
  | .bracketed _ inner => inner.height + 1
  | .union members => if members.isEmpty then 0 else CharSet.heightOfAll members + 1
  | .operation left right => max left.height right.height + 1
  | _ => 0

/-- How deep the deepest of some sets is nested. -/
def CharSet.heightOfAll : List CharSet → Nat
  | [] => 0
  | set :: sets => max set.height (CharSet.heightOfAll sets)

end

mutual

/-- Whether a set holds only characters of ASCII and is written without negation. -/
def CharSet.isAscii : CharSet → Bool
  | .literal c => c.toNat < 0x80
  | .range low high => low.toNat < 0x80 && high.toNat < 0x80
  | .named negated => !negated
  | .shorthand negated => !negated
  | .category => false
  | .bracketed negated inner => !negated && inner.isAscii
  | .union members => CharSet.areAscii members
  | .operation left right => left.isAscii && right.isAscii

/-- Whether some sets hold only characters of ASCII and are written without negation. -/
def CharSet.areAscii : List CharSet → Bool
  | [] => true
  | set :: sets => set.isAscii && CharSet.areAscii sets

end

mutual

/-- How deep a pattern is nested. -/
def height : Pattern → Nat
  | .oneOf set => set.height
  | .group _ body => body.height + 1
  | .repeated body => body.height + 1
  | .sequence parts => if parts.isEmpty then 0 else heightOfAll parts + 1
  | .choice branches => heightOfAll branches + 1
  | _ => 0

/-- How deep the deepest of some patterns is nested. -/
def heightOfAll : List Pattern → Nat
  | [] => 0
  | pattern :: patterns => max pattern.height (heightOfAll patterns)

end

mutual

/-- The mode that a pattern ends in, `unicode` being the one that it begins in; nothing if it cannot
be matched. -/
def modeAfter (unicode : Bool) : Pattern → Option Bool
  | .literal c asByte => if !unicode && asByte && 0x80 ≤ c.toNat then none else some unicode
  | .any => if unicode then some unicode else none
  | .edge ofWord => if ofWord && unicode then none else some unicode
  | .shorthand negated => if !unicode && negated then none else some unicode
  | .category => if unicode then some unicode else none
  | .oneOf set => if unicode || set.isAscii then some unicode else none
  | .modes change => some (change.unicode.getD unicode)
  | .group change body =>
    match modeAfter (change.unicode.getD unicode) body with
    | some _ => some unicode
    | none => none
  | .repeated body => modeAfter unicode body
  | .sequence parts => modeAfterAll unicode parts
  | .choice branches => modeAfterAll unicode branches

/-- The mode that the last of some patterns ends in. -/
def modeAfterAll (unicode : Bool) : List Pattern → Option Bool
  | [] => some unicode
  | pattern :: patterns =>
    match modeAfter unicode pattern with
    | some unicode => modeAfterAll unicode patterns
    | none => none

end

/-- How deep a pattern may be nested. -/
def heightLimit : Nat := 250

/-- Whether a matcher can be made of a pattern. -/
def isUsable (pattern : Pattern) : Bool :=
  pattern.height ≤ heightLimit && (modeAfter true pattern).isSome

end Pattern

end SchemaEngine
