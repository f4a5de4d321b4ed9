import SafactoryServer.Python

/-! The values of the data platform's rows: Python values of any type, as the server tests, prints,
converts and parses them. -/

namespace SafactoryServer

/-- A `datetime`: the microseconds of its wall clock since 1970, and its UTC offset in seconds if it
has a time zone. -/
structure Datetime where
  wall : Int
  utcoffset : Option Int
deriving DecidableEq

namespace Datetime

/-- The digits of `n`, padded with zeros. -/
def pad (width : Nat) (n : Nat) : String :=
  let digits := Nat.repr n
  String.ofList (List.replicate (width - digits.length) '0') ++ digits

/-- Year, month and day of a number of days since 1970. -/
def civil (days : Int) : Int × Int × Int :=
  let z := days + 719468
  let era := z / 146097
  let doe := z - era * 146097
  let yoe := (doe - doe / 1460 + doe / 36524 - doe / 146096) / 365
  let doy := doe - (365 * yoe + yoe / 4 - yoe / 100)
  let mp := (5 * doy + 2) / 153
  let month := if mp < 10 then mp + 3 else mp - 9
  (yoe + era * 400 + (if month ≤ 2 then 1 else 0), month, doy - (153 * mp + 2) / 5 + 1)

def offsetStr (offset : Int) : String :=
  let n := offset.natAbs
  (if offset < 0 then "-" else "+") ++ pad 2 (n / 3600) ++ ":" ++ pad 2 (n / 60 % 60) ++
    (if n % 60 = 0 then "" else ":" ++ pad 2 (n % 60))

/-- `str` of a `datetime`: `isoformat(" ")`. -/
def str (d : Datetime) : String :=
  let (year, month, day) := civil (d.wall / 86400000000)
  let time := (d.wall % 86400000000).toNat
  let micros := time % 1000000
  pad 4 year.toNat ++ "-" ++ pad 2 month.toNat ++ "-" ++ pad 2 day.toNat ++ " " ++
    pad 2 (time / 3600000000) ++ ":" ++ pad 2 (time / 60000000 % 60) ++ ":" ++
    pad 2 (time / 1000000 % 60) ++ (if micros = 0 then "" else "." ++ pad 6 micros) ++
    d.utcoffset.elim "" offsetStr

example : str ⟨1787360523500000, some 0⟩ = "2026-08-22 01:02:03.500000+00:00" := by decide +kernel

end Datetime

/-- `math.isfinite`. -/
def PyFloat.isFinite : PyFloat → Bool
  | .finite _ => true
  | _ => false

/-- A Python value.  An `object` is an instance of another class, with its `str` and its
attributes; the keys of a `dict` are in insertion order. -/
inductive Value
  | null
  | bool (b : Bool)
  | int (n : Int)
  | float (x : PyFloat)
  | str (s : String)
  | datetime (d : Datetime)
  | list (items : List Value)
  | dict (entries : List (String × Value))
  | object (text : String) (attributes : List (String × Value))

/-- What the interpreter computes of texts and floats, beside the Unicode database: `decimal` is the
value of a decimal digit beyond ASCII, `digits` the `repr` of a finite float, and `none` a
`ValueError` (of `ofInt`, an `OverflowError`).  The `JSONDecodeError` of `loads` is a `ValueError`;
the `RecursionError` that deep nesting raises is none. -/
structure Interpreter extends Unicode where
  decimal : Char → Option Nat
  digits : ℚ → String
  reprDatetime : Datetime → String
  loads : String → Except PyExc Value
  loads_empty : loads "" = .error .valueError
  parseFloat : String → Option PyFloat
  ofInt : Int → Option PyFloat
  divide : PyFloat → PyFloat → PyFloat
  fromisoformat : String → Option Datetime
  fromtimestamp : PyFloat → Except PyExc Datetime

/-- The longest decimal text that the interpreter converts to or from an `int`. -/
def maxStrDigits : Nat := 4300

/-- `str` of an `int`. -/
def strInt (n : Int) : Except PyExc String :=
  if maxStrDigits < (Nat.repr n.natAbs).length then .error .valueError else .ok (toString n)

namespace Json

mutual

/-- The integers in a document. -/
def ints : Json → List Int
  | .int n => [n]
  | .arr items => intsItems items
  | .obj entries => intsEntries entries
  | _ => []

def intsItems : List Json → List Int
  | [] => []
  | item :: rest => ints item ++ intsItems rest

def intsEntries : List (String × Json) → List Int
  | [] => []
  | (_, value) :: rest => ints value ++ intsEntries rest

end

/-- `int.__repr__` does not raise. -/
def Prints (n : Int) : Prop := (Nat.repr n.natAbs).length ≤ maxStrDigits

instance (n : Int) : Decidable (Prints n) := inferInstanceAs (Decidable (_ ≤ _))

end Json

/-- `s.replace(c, text)` of one character. -/
def replaceChar (c : Char) (text : String) (s : String) : String :=
  String.ofList (s.toList.flatMap fun d => if d = c then text.toList else [d])

namespace Interpreter

variable (py : Interpreter)

/-- The white space that `int` strips: of an ASCII text, the C library's. -/
def intSpace (s : String) (c : Char) : Bool :=
  if s.toList.all Unicode.isAscii then (9 ≤ c.val && c.val ≤ 13) || c.val = 32
  else py.toUnicode.space c

def digit? (c : Char) : Option Nat :=
  if Unicode.isAscii c then (if c.isDigit then some (c.toNat - '0'.toNat) else none)
  else py.decimal c

/-- `int` of a string: a sign and digits, which single underscores may part. -/
def parseInt (s : String) : Option Int :=
  let space := py.intSpace s
  let text := ((s.toList.dropWhile space).reverse.dropWhile space).reverse
  let (negative, body) := match text with
    | '-' :: rest => (true, rest)
    | '+' :: rest => (false, rest)
    | rest => (false, rest)
  let groups := body.splitOn '_'
  if groups.any (·.isEmpty) then none
  else do
    let digits ← groups.flatten.mapM py.digit?
    if maxStrDigits < digits.length then none
    let n : Nat := digits.foldl (fun n d => 10 * n + d) 0
    return if negative then -n else n

end Interpreter

/-- An interpreter that knows ASCII texts without JSON, whole floats and exact seconds: enough for
runs on concrete rows. -/
def plainPython : Interpreter :=
  { isspace := fun _ => false
    isalnum := fun _ => false
    isprintable := fun _ => false
    lower := id
    decimal := fun _ => none
    digits := fun q => toString q.num ++ ".0"
    reprDatetime := Datetime.str
    loads := fun _ => .error .valueError
    loads_empty := rfl
    parseFloat := fun _ => none
    ofInt := fun n => some (.finite n)
    divide := fun
      | .finite a, .finite b => .finite (a / b)
      | _, _ => .nan
    fromisoformat := fun _ => none
    fromtimestamp := fun
      | .finite q => .ok ⟨q.num * 1000000 / q.den, some 0⟩
      | _ => .error .valueError }

namespace Value

variable (py : Interpreter)

/-- `bool(value)`. -/
def truthy : Value → Bool
  | .null => false
  | .bool b => b
  | .int n => n ≠ 0
  | .float x => x ≠ .finite 0
  | .str s => s ≠ ""
  | .datetime _ => true
  | .list items => !items.isEmpty
  | .dict entries => !entries.isEmpty
  | .object _ _ => true

/-- `value is None`. -/
def isNone : Value → Bool
  | .null => true
  | _ => false

/-- `value or default`. -/
def orElse (value default : Value) : Value := if value.truthy then value else default

/-- `_field`: the item of a dict, or the attribute of any other object. -/
def field (value : Value) (name : String) : Value :=
  match value with
  | .dict entries => (lookup name entries).getD .null
  | .object _ attributes => (lookup name attributes).getD .null
  | _ => .null

mutual

/-- `repr(value)`. -/
def repr (py : Interpreter) : Value → Except PyExc String
  | .null => .ok "None"
  | .bool b => .ok (if b then "True" else "False")
  | .int n => strInt n
  | .float x => .ok (x.str py.digits)
  | .str s => .ok (py.toUnicode.repr s)
  | .datetime d => .ok (py.reprDatetime d)
  | .list items => do return "[" ++ String.intercalate ", " (← reprItems py items) ++ "]"
  | .dict entries => do
    return "\x7b" ++ String.intercalate ", " (← reprEntries py entries) ++ "\x7d"
  | .object text _ => .ok text

def reprItems (py : Interpreter) : List Value → Except PyExc (List String)
  | [] => .ok []
  | item :: rest => do return (← repr py item) :: (← reprItems py rest)

def reprEntries (py : Interpreter) : List (String × Value) → Except PyExc (List String)
  | [] => .ok []
  | (key, value) :: rest => do
    return (py.toUnicode.repr key ++ ": " ++ (← repr py value)) :: (← reprEntries py rest)

end

/-- `str(value)`. -/
def toStr : Value → Except PyExc String
  | .str s => .ok s
  | .datetime d => .ok d.str
  | value => value.repr py

/-- `int(value)`. -/
def toInt : Value → Except PyExc Int
  | .bool b => .ok (if b then 1 else 0)
  | .int n => .ok n
  | .float (.finite q) => .ok (q.num.tdiv q.den)
  | .float (.infinity _) => .error (.other "OverflowError")
  | .float .nan => .error .valueError
  | .str s => (py.parseInt s).elim (.error .valueError) .ok
  | _ => .error .typeError

/-- `float(value)`. -/
def toFloat : Value → Except PyExc PyFloat
  | .bool b => .ok (.finite (if b then 1 else 0))
  | .int n => (py.ofInt n).elim (.error (.other "OverflowError")) .ok
  | .float x => .ok x
  | .str s => (py.parseFloat s).elim (.error .valueError) .ok
  | _ => .error .typeError

/-- `value in {...}` for a set of strings: a list or a dict has no hash. -/
def memStrs (texts : List String) : Value → Except PyExc Bool
  | .str s => .ok (texts.contains s)
  | .list _ | .dict _ => .error .typeError
  | _ => .ok false

/-- `isinstance(value, dict)`. -/
def asDict? : Value → Option (List (String × Value))
  | .dict entries => some entries
  | _ => none

/-- `isinstance(value, (list, tuple))`. -/
def asList? : Value → Option (List Value)
  | .list items => some items
  | _ => none

/-- `isinstance(value, str)`. -/
def asStr? : Value → Option String
  | .str s => some s
  | _ => none

theorem asDict?_some {value : Value} {entries : List (String × Value)}
    (h : value.asDict? = some entries) : value = .dict entries := by
  cases value with
  | dict entries' =>
    cases h
    rfl
  | null | bool | int | float | str | datetime | list | object => cases h

theorem asList?_some {value : Value} {items : List Value} (h : value.asList? = some items) :
    value = .list items := by
  cases value with
  | list items' =>
    cases h
    rfl
  | null | bool | int | float | str | datetime | dict | object => cases h

theorem asStr?_some {value : Value} {s : String} (h : value.asStr? = some s) : value = .str s := by
  cases value with
  | str s' =>
    cases h
    rfl
  | null | bool | int | float | datetime | list | dict | object => cases h

end Value

end SafactoryServer
