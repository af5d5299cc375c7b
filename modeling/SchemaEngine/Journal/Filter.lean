import SchemaEngine.Journal.Entry
import SchemaEngine.Pattern.Reader
import SchemaEngine.Text.Utf8

/-!
# Choosing what is logged

A filter is written as directives with commas between them. A directive that is the name of a level,
or its number, sets the least important level that is logged, and so does one that names a field
alone, without a target, a span or a value; of these, one with a field counts before one without, a
greater name of a field before a lesser, and a later one before an earlier. Other directives set
levels for single targets, spans or values of fields and do not bear on the rest. The filter that
the environment asks for goes before the default one, unless it is malformed.

## Main definitions

* `Filter.threshold?`: the level that a name or a number stands for.
* `Filter.directive?`: the reading of one directive.
* `Filter.requested?`, `Filter.byDefault`: the filters of the environment and of the program.
* `Filter.install`: installs a filter, unless one is installed.
-/

set_option autoImplicit false

namespace SchemaEngine

/-- The least important level that is logged; without one nothing is. -/
structure Filter where
  threshold : Option Level
  deriving Repr, DecidableEq

namespace Filter

/-- A directive, as far as it bears on all targets. -/
inductive Directive where
  /-- Sets the level of all targets; a field may be named. -/
  | everywhere (field : Option String) (threshold : Option Level)
  /-- Sets a level for some target, span or value. -/
  | somewhere
  deriving Repr, DecidableEq

/-- The number of a numeral, which may begin with a plus sign. -/
def numeral? (text : List Char) : Option Nat :=
  let digits := if text.head? = some '+' then text.drop 1 else text
  if digits.isEmpty || !digits.all Char.isDigit then none
  else some (digits.foldl (fun n c => 10 * n + (c.toNat - '0'.toNat)) 0)

/-- The levels by number. -/
def numbered : List (Option Level) :=
  [none, some .error, some .warn, some .info, some .debug, some .trace]

/-- The level that a text stands for, `off` being none; the empty text stands for errors. -/
def threshold? (text : List Char) : Option (Option Level) :=
  match (numeral? text).bind fun n => numbered[n]? with
  | some level => some level
  | none =>
    let name := String.ofList (text.map Char.toLower)
    if name = "" then some (some .error)
    else if name = "off" then some none
    else (Level.ofName? name).map some

/-- A text without the blanks at its ends. -/
def trim (text : List Char) : List Char :=
  ((text.dropWhile Letters.isBlank).reverse.dropWhile Letters.isBlank).reverse

/-- Whether a directive may begin with this character. -/
def opens (c : Char) : Bool :=
  c = '-' || c = ':' || c = '_' || Letters.isAlphanumeric c

/-! ### The shape of a directive -/

/-- The shape of a directive. Places in it are counted in bytes. -/
inductive Shape where
  /-- A level or a target alone. -/
  | bare
  /-- A target or a span, and the place where a level begins. -/
  | scoped (level : Option Nat)
  /-- A field between two places, whether it stands alone, without target and span, and the place
  where a level begins. -/
  | field (first last : Nat) (alone : Bool) (level : Option Nat)
  deriving Repr

/-- What follows the bracket that closes a span; `place` is where it begins. -/
def readAfterSpan (shape : Option Nat → Shape) (place : Nat) : List Char → Option Shape
  | [] => some (shape none)
  | '=' :: _ => some (shape (some (place + 1)))
  | _ :: _ => none

/-- A field, from `first` on and read up to `place`, and what follows it. -/
def readField (alone : Bool) (first place : Nat) : List Char → Option Shape
  | [] => none
  | '\x7d' :: rest =>
    if place = first then none
    else
      match rest with
      | ']' :: rest => readAfterSpan (.field first place alone) (place + 2) rest
      | _ => none
  | c :: rest => readField alone first (place + c.utf8Size) rest

/-- The name of a span, from `first` on and read up to `place`, and what follows it. -/
def readSpan (targeted : Bool) (first place : Nat) : List Char → Option Shape
  | [] => none
  | ']' :: rest => readAfterSpan .scoped (place + 1) rest
  | '\x7b' :: rest => readField (!targeted && place = first) (place + 1) (place + 1) rest
  | c :: rest => readSpan targeted first (place + c.utf8Size) rest

/-- A level or a target, read up to `place`. -/
def readTarget (place : Nat) : List Char → Option Shape
  | [] => some .bare
  | '=' :: _ => some (.scoped (some (place + 1)))
  | '[' :: rest => readSpan true (place + 1) (place + 1) rest
  | c :: rest => readTarget (place + c.utf8Size) rest

/-- The shape of a directive, unless it is malformed. -/
def shape? : List Char → Option Shape
  | [] => none
  | '[' :: rest => readSpan false 1 1 rest
  | c :: rest => if opens c then readTarget c.utf8Size rest else none

/-- A text from a place on; nothing if that is inside a character or behind the end. -/
def dropBytes : Nat → List Char → Option (List Char)
  | 0, text => some text
  | _ + 1, [] => none
  | n + 1, c :: rest =>
    if c.utf8Size ≤ n + 1 then dropBytes (n + 1 - c.utf8Size) rest else none

/-- So many bytes of a text; nothing if that ends inside a character or behind the end. -/
def takeBytes : Nat → List Char → Option (List Char)
  | 0, _ => some []
  | _ + 1, [] => none
  | n + 1, c :: rest =>
    if c.utf8Size ≤ n + 1 then (takeBytes (n + 1 - c.utf8Size) rest).map (c :: ·) else none

/-! ### Fields -/

/-- Whether a text is digits with a point before, between or behind them, and an exponent. -/
def isDecimal (text : List Char) : Bool :=
  let whole := text.takeWhile Char.isDigit
  let rest := text.dropWhile Char.isDigit
  let pointed := rest.head? = some '.'
  let fraction := if pointed then (rest.drop 1).takeWhile Char.isDigit else []
  let rest := if pointed then (rest.drop 1).dropWhile Char.isDigit else rest
  let isExponent : List Char → Bool
    | [] => true
    | c :: rest =>
      let digits := if rest.head? = some '+' || rest.head? = some '-' then rest.drop 1 else rest
      c.toLower = 'e' && !digits.isEmpty && digits.all Char.isDigit
  !(whole ++ fraction).isEmpty && isExponent rest

/-- Whether a text is a number, which may have a sign, or one of the words for numbers that are not
finite. -/
def isNumber (text : List Char) : Bool :=
  let unsigned := if text.head? = some '+' || text.head? = some '-' then text.drop 1 else text
  isDecimal unsigned ||
    ["inf", "infinity", "nan"].contains (String.ofList (unsigned.map Char.toLower))

/-- Whether a text can be the value of a field: a number or a pattern. -/
def isValue (text : List Char) : Bool :=
  isNumber text ||
    match Pattern.read text with
    | some pattern => pattern.isUsable
    | none => false

/-- The name of a field, and whether a value comes with it; nothing if the value is malformed. What
follows a second equals sign does not count. -/
def field? (text : List Char) : Option (String × Bool) :=
  let name := String.ofList (text.takeWhile (· ≠ '='))
  match text.dropWhile (· ≠ '=') with
  | [] => some (name, false)
  | _ :: rest => if isValue (rest.takeWhile (· ≠ '=')) then some (name, true) else none

/-! ### Directives and filters -/

/-- The level that is set from a place on, which is the least important one where none is given. -/
def levelFrom? (text : List Char) : Option Nat → Option (Option Level)
  | none => some (some .trace)
  | some place =>
    match dropBytes place text with
    | none => none
    | some [] => some (some .trace)
    | some level => threshold? level

/-- The directive that a text spells. Its shape is that of the text without the blanks at its ends,
but the words are taken from the text as it stands, so that a level beside blanks is none. -/
def directive? (text : List Char) : Option Directive :=
  match shape? (trim text) with
  | none => none
  | some .bare =>
    match threshold? text with
    | some level => some (.everywhere none level)
    | none => some .somewhere
  | some (.scoped level) => (levelFrom? text level).map fun _ => .somewhere
  | some (.field first last alone level) =>
    match ((dropBytes first text).bind (takeBytes (last - first))).bind field? with
    | none => none
    | some (name, hasValue) =>
      (levelFrom? text level).map fun threshold =>
        if alone && !hasValue then .everywhere (some name) threshold else .somewhere

/-- The parts of a text between commas that are not empty. -/
def parts (text : String) : List (List Char) :=
  ((text.splitOn ",").filter fun part => part ≠ "").map String.toList

/-- Whether a directive with the second field counts before an earlier one with the first. -/
def outranks : Option String → Option String → Bool
  | none, _ => true
  | some _, none => false
  | some earlier, some later => earlier ≤ later

/-- The field and the level of the directive that counts, among those that bear on all targets. -/
def foremost (directives : List Directive) : Option (Option String × Option Level) :=
  directives.foldl (fun best d =>
    match d, best with
    | .somewhere, best => best
    | .everywhere field threshold, none => some (field, threshold)
    | .everywhere field threshold, some best =>
      if outranks best.1 field then some (field, threshold) else some best) none

/-- The level of all targets. -/
def resolve (directives : List Directive) : Option Level :=
  (foremost directives).bind (·.2)

/-- The filter that a text asks for, unless a directive is malformed. -/
def requested? (text : String) : Option Filter :=
  ((parts text).mapM directive?).map fun directives => ⟨resolve directives⟩

/-- The filter that a text asks for by default: malformed directives do not count, and where none is
left errors are logged. -/
def byDefault (text : String) : Filter :=
  match (parts text).filterMap directive? with
  | [] => ⟨some .error⟩
  | directives => ⟨resolve directives⟩

/-- The filter of a program: the one that the environment asks for, or else the default one. -/
def choose (environment : Option String) (default : String) : Filter :=
  match environment.bind requested? with
  | some filter => filter
  | none => byDefault default

/-- Installs a filter, unless one is installed. Gives whether it was, and the filter in place. -/
def install (filter : Filter) : Option Filter → Bool × Filter
  | none => (true, filter)
  | some installed => (false, installed)

/-- Whether entries of a level are logged. -/
def admits (filter : Filter) (level : Level) : Bool :=
  match filter.threshold with
  | some threshold => threshold.rank ≤ level.rank
  | none => false

end Filter

end SchemaEngine
