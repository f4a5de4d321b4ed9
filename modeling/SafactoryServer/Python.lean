import Mathlib.Data.Rat.Defs

/-! The Python values that the server handles: exceptions, JSON documents, and the string methods
it calls.  A JSON text is given by the document that `json.loads` makes of it. -/

namespace SafactoryServer

/-- The subclasses of `Exception` that the server's `except` clauses tell apart, and any other by
its name. -/
inductive PyExc
  | rjobDependencyError
  | trustedConfigError
  | fileBindingError
  | jobStateConflict
  | keyError
  | valueError
  | typeError
  | runtimeError
  | integrityError
  | other (name : String)
deriving DecidableEq, Repr

theorem bind_ok {ε α β : Type} {x : Except ε α} {f : α → Except ε β} {b : β}
    (h : (x >>= f) = .ok b) : ∃ a, x = .ok a ∧ f a = .ok b := by
  cases x with
  | error e => cases h
  | ok a => exact ⟨a, rfl, h⟩

theorem ok_bind {ε α β : Type} (a : α) (f : α → Except ε β) : (Except.ok a >>= f) = f a := rfl

/-- A computation that never raises `JobStateConflict`. -/
def NoConflict {α : Type} (result : Except PyExc α) : Prop := result ≠ .error .jobStateConflict

namespace NoConflict

variable {α β : Type}

theorem ok (a : α) : NoConflict (.ok a) := by
  intro h
  cases h

theorem error {x : PyExc} (hx : x ≠ .jobStateConflict) :
    NoConflict (.error x : Except PyExc α) := by
  intro h
  cases h
  exact hx rfl

theorem bind {x : Except PyExc α} {f : α → Except PyExc β} (h : NoConflict x)
    (hf : ∀ a, NoConflict (f a)) : NoConflict (x >>= f) := by
  cases x with
  | error e => exact error fun he => h (he ▸ rfl)
  | ok a => exact hf a

theorem mapM {f : α → Except PyExc β} (hf : ∀ a, NoConflict (f a)) (items : List α) :
    NoConflict (items.mapM f) := by
  induction items with
  | nil => exact ok []
  | cons item rest ih =>
    rw [List.mapM_cons]
    exact (hf item).bind fun b => ih.bind fun bs => ok _

end NoConflict

/-- A Python float. -/
inductive PyFloat
  | finite (value : ℚ)
  | infinity (negative : Bool)
  | nan
deriving DecidableEq

/-- A JSON document as `json.loads` returns it; the entries of an object are in document order. -/
inductive Json
  | null
  | bool (b : Bool)
  | int (n : Int)
  | float (x : PyFloat)
  | str (s : String)
  | arr (items : List Json)
  | obj (entries : List (String × Json))

namespace Json

/-- `isinstance(value, str)`. -/
def asStr? : Json → Option String
  | .str s => some s
  | _ => none

/-- `isinstance(value, int) and not isinstance(value, bool)`. -/
def asInt? : Json → Option Int
  | .int n => some n
  | _ => none

/-- `isinstance(value, dict)`. -/
def asObj? : Json → Option (List (String × Json))
  | .obj entries => some entries
  | _ => none

/-- Python's truth value of a document. -/
def truthy : Json → Bool
  | .null => false
  | .bool b => b
  | .int n => n ≠ 0
  | .float x => x ≠ .finite 0
  | .str s => s ≠ ""
  | .arr items => !items.isEmpty
  | .obj entries => !entries.isEmpty

end Json

/-- `dict.get(key)` on the entries of an object. -/
def lookup {α : Type} (key : String) (entries : List (String × α)) : Option α :=
  (entries.find? (·.1 == key)).map (·.2)

theorem lookup_cons {α : Type} (key : String) (entry : String × α) (rest : List (String × α)) :
    lookup key (entry :: rest) = if entry.1 = key then some entry.2 else lookup key rest := by
  by_cases h : entry.1 = key <;> simp [lookup, h]

theorem lookup_of_mem {α : Type} {entries : List (String × α)} {key : String} {x : α}
    (hnodup : (entries.map (·.1)).Nodup) (hmem : (key, x) ∈ entries) :
    lookup key entries = some x := by
  induction entries with
  | nil => cases hmem
  | cons e rest ih =>
    rw [List.map_cons, List.nodup_cons] at hnodup
    rw [lookup_cons]
    rcases List.mem_cons.mp hmem with rfl | hmem
    · rw [if_pos rfl]
    · have hne : e.1 ≠ key := by
        intro heq
        exact hnodup.1 (heq ▸ List.mem_map_of_mem (f := (·.1)) hmem)
      rw [if_neg hne, ih hnodup.2 hmem]

/-- What the Unicode database says of the characters beyond ASCII. -/
structure Unicode where
  isspace : Char → Bool
  isalnum : Char → Bool
  isprintable : Char → Bool
  lower : String → String

namespace Unicode

variable (u : Unicode)

def isAscii (c : Char) : Bool := c.val < 128

/-- `str.isspace` of one character. -/
def space (c : Char) : Bool :=
  if isAscii c then (9 ≤ c.val && c.val ≤ 13) || (28 ≤ c.val && c.val ≤ 32) else u.isspace c

/-- `str.isalnum` of one character. -/
def alnum (c : Char) : Bool := if isAscii c then c.isAlphanum else u.isalnum c

/-- `str.lower`. -/
def lowered (s : String) : String :=
  if s.toList.all isAscii then String.ofList (s.toList.map Char.toLower) else u.lower s

/-- `str.strip()`. -/
def strip (s : String) : String :=
  String.ofList ((s.toList.dropWhile u.space).reverse.dropWhile u.space).reverse

/-- The last `width` hexadecimal digits of `n`. -/
def hex : (width : Nat) → (n : Nat) → String
  | 0, _ => ""
  | width + 1, n => hex width (n / 16) ++ String.singleton (Nat.digitChar (n % 16))

/-- One character of `repr(str)`. -/
def reprChar (quote c : Char) : String :=
  if c = quote ∨ c = '\\' then "\\" ++ String.singleton c
  else if c = '\t' then "\\t"
  else if c = '\n' then "\\n"
  else if c = '\r' then "\\r"
  else if 32 ≤ c.toNat ∧ c.toNat < 127 ∨ !isAscii c ∧ u.isprintable c then String.singleton c
  else if c.toNat < 256 then "\\x" ++ hex 2 c.toNat
  else if c.toNat < 65536 then "\\u" ++ hex 4 c.toNat
  else "\\U" ++ hex 8 c.toNat

/-- `repr` of a string. -/
def repr (s : String) : String :=
  let quote := if s.toList.contains '\'' ∧ ¬ s.toList.contains '"' then '"' else '\''
  String.singleton quote ++ String.join (s.toList.map (u.reprChar quote)) ++ String.singleton quote

end Unicode

/-- `str` of a float, given the digits that Python prints for a finite one. -/
def PyFloat.str (digits : ℚ → String) : PyFloat → String
  | .finite value => digits value
  | .infinity negative => if negative then "-inf" else "inf"
  | .nan => "nan"

namespace Json

/-- One character of a string that `json.dumps` writes. -/
def dumpChar (c : Char) : String :=
  if c = '"' ∨ c = '\\' then "\\" ++ String.singleton c
  else if c = '\n' then "\\n"
  else if c = '\r' then "\\r"
  else if c = '\t' then "\\t"
  else if c.toNat = 8 then "\\b"
  else if c.toNat = 12 then "\\f"
  else if 32 ≤ c.toNat ∧ c.toNat < 127 then String.singleton c
  else if c.toNat < 65536 then "\\u" ++ Unicode.hex 4 c.toNat
  else
    let v := c.toNat - 65536
    "\\u" ++ Unicode.hex 4 (0xD800 + v / 1024) ++ "\\u" ++ Unicode.hex 4 (0xDC00 + v % 1024)

def dumpString (s : String) : String := "\"" ++ String.join (s.toList.map dumpChar) ++ "\""

mutual

/-- `json.dumps(value, separators=(",", ":"))`. -/
def dumps (digits : ℚ → String) : Json → String
  | .null => "null"
  | .bool b => if b then "true" else "false"
  | .int n => toString n
  | .float (.finite value) => digits value
  | .float (.infinity negative) => if negative then "-Infinity" else "Infinity"
  | .float .nan => "NaN"
  | .str s => dumpString s
  | .arr items => "[" ++ String.intercalate "," (dumpsItems digits items) ++ "]"
  | .obj entries => "\x7b" ++ String.intercalate "," (dumpsEntries digits entries) ++ "\x7d"

def dumpsItems (digits : ℚ → String) : List Json → List String
  | [] => []
  | item :: rest => dumps digits item :: dumpsItems digits rest

def dumpsEntries (digits : ℚ → String) : List (String × Json) → List String
  | [] => []
  | (key, value) :: rest =>
    (dumpString key ++ ":" ++ dumps digits value) :: dumpsEntries digits rest

end

end Json

/-- `str.lstrip(chars)`. -/
def lstrip (chars : List Char) (s : String) : String :=
  String.ofList (s.toList.dropWhile (chars.contains ·))

/-- `str.rstrip(chars)`. -/
def rstrip (chars : List Char) (s : String) : String :=
  String.ofList (s.toList.reverse.dropWhile (chars.contains ·)).reverse

/-! A `datetime` is its number of microseconds since the epoch; a stored timestamp, its number of
milliseconds. -/

/-- `_timestamp`: `isoformat(timespec="milliseconds")` drops the digits past the millisecond. -/
def timestamp (value : Int) : Int := value / 1000

/-- `parse_timestamp`. -/
def parseTimestamp (value : Int) : Int := value * 1000

theorem parse_timestamp_le (t : Int) : parseTimestamp (timestamp t) ≤ t := by
  unfold parseTimestamp timestamp
  omega

end SafactoryServer
