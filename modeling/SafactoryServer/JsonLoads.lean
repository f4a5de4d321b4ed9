import SafactoryServer.Net
import SafactoryServer.Value

/-! `json.loads`: the reader of Python's `json` module, with the exceptions that it raises. -/

namespace SafactoryServer

/-- What the interpreter does for the reader: `floatOf` is `float` of a number with a fraction or an
exponent, and `tooDeep` tells how many containers may not be open at once. -/
structure JsonReader where
  floatOf : String → PyFloat
  tooDeep : Nat → Bool

/-- `json.JSONDecodeError`. -/
def decodeError : PyExc := .other "JSONDecodeError"

/-- The text behind white space. -/
def skipWs (text : List Char) : List Char := text.dropWhile [' ', '\t', '\n', '\r'].contains

/-- `_decode_uXXXX`, and the text behind it. -/
def codeUnit? : List Char → Option (Nat × List Char)
  | a :: b :: c :: d :: rest =>
    (IPAddress.digits? 16 IPAddress.hexDigit? [a, b, c, d]).map fun n => (n, rest)
  | _ => none

/-- A character by its code; a surrogate that stands alone, which is no `Char`, as U+FFFD. -/
def codeChar (n : Nat) : Char := if 0xD800 ≤ n ∧ n < 0xE000 then '\uFFFD' else Char.ofNat n

/-- The character of an escape, and how many characters it has behind the backslash. -/
def escape? : List Char → Option (Char × Nat)
  | '"' :: _ => some ('"', 1)
  | '\\' :: _ => some ('\\', 1)
  | '/' :: _ => some ('/', 1)
  | 'b' :: _ => some (Char.ofNat 8, 1)
  | 'f' :: _ => some (Char.ofNat 12, 1)
  | 'n' :: _ => some ('\n', 1)
  | 'r' :: _ => some ('\r', 1)
  | 't' :: _ => some ('\t', 1)
  | 'u' :: rest => do
    let (high, rest) ← codeUnit? rest
    match rest with
    | '\\' :: 'u' :: rest =>
      if 0xD800 ≤ high ∧ high < 0xDC00 then do
        let (low, _) ← codeUnit? rest
        if 0xDC00 ≤ low ∧ low < 0xE000 then
          some (codeChar (0x10000 + ((high - 0xD800) * 1024 + (low - 0xDC00))), 11)
        else some (codeChar high, 5)
      else some (codeChar high, 5)
    | _ => some (codeChar high, 5)
  | _ => none

/-- `scanstring` behind the opening quote and `skip` characters of an escape. -/
def scanString : (skip : Nat) → (text : List Char) → Except PyExc (List Char × List Char)
  | _, [] => .error decodeError
  | skip + 1, _ :: rest => scanString skip rest
  | 0, c :: rest =>
    if c = '"' then .ok ([], rest)
    else if c = '\\' then
      match escape? rest with
      | none => .error decodeError
      | some (d, skip) => do
        let (text, rest) ← scanString skip rest
        return (d :: text, rest)
    else if c.toNat < 32 then .error decodeError
    else do
      let (text, rest) ← scanString 0 rest
      return (c :: text, rest)

/-- The digits in front of a text. -/
def leadingDigits (text : List Char) : List Char := text.takeWhile Char.isDigit

/-- The fraction of a number. -/
def fraction : List Char → List Char
  | '.' :: rest => if (leadingDigits rest).isEmpty then [] else '.' :: leadingDigits rest
  | _ => []

/-- The exponent of a number. -/
def exponent : List Char → List Char
  | e :: rest =>
    if e = 'e' ∨ e = 'E' then
      let sign := rest.take 1 |>.filter ['+', '-'].contains
      let digits := leadingDigits (rest.drop sign.length)
      if digits.isEmpty then [] else e :: (sign ++ digits)
    else []
  | [] => []

/-- The digits of a number in front of its fraction. -/
def integerDigits : List Char → List Char
  | '0' :: _ => ['0']
  | text => leadingDigits text

/-- `_match_number`: an integer, or a float with its whole text. -/
def scanNumber (r : JsonReader) (text : List Char) : Except PyExc (Json × List Char) :=
  let sign := text.take 1 |>.filter (· == '-')
  let digits := integerDigits (text.drop sign.length)
  if digits.isEmpty then .error decodeError
  else
    let rest := text.drop (sign ++ digits).length
    let fraction := fraction rest
    let exponent := exponent (rest.drop fraction.length)
    if fraction.isEmpty && exponent.isEmpty then
      if maxStrDigits < digits.length then .error .valueError
      else
        let n : Int := Nat.ofDigitChars 10 digits 0
        .ok (.int (if sign.isEmpty then n else -n), rest)
    else
      let number := sign ++ digits ++ fraction ++ exponent
      .ok (.float (r.floatOf (String.ofList number)), text.drop number.length)

/-- `memo` and `dict(pairs)`: the last value of a key, in the place of the first. -/
def setEntry {α : Type} (entries : List (String × α)) (key : String) (value : α) :
    List (String × α) :=
  if entries.any (·.1 == key) then
    entries.map fun e => if e.1 == key then (key, value) else e
  else entries ++ [(key, value)]

/-- A dict with these items. -/
def dictOf {α : Type} (items : List (String × α)) : List (String × α) :=
  items.foldl (fun entries e => setEntry entries e.1 e.2) []

/-- The constants of the reader. -/
def constants : List (String × Json) :=
  [("null", .null), ("true", .bool true), ("false", .bool false), ("NaN", .float .nan),
    ("Infinity", .float (.infinity false)), ("-Infinity", .float (.infinity true))]

/-- `scan_once` for a value that is neither a string nor a container. -/
def scanScalar (r : JsonReader) (text : List Char) : Except PyExc (Json × List Char) :=
  match constants.find? fun constant => constant.1.toList.isPrefixOf text with
  | some constant => .ok (constant.2, text.drop constant.1.length)
  | none => scanNumber r text

mutual

/-- `scan_once`, with the number of open containers.  The fuel is enough if it exceeds twice the
length of the text. -/
def scanOnce (r : JsonReader) : (fuel depth : Nat) → List Char → Except PyExc (Json × List Char)
  | 0, _, _ => .error decodeError
  | fuel + 1, depth, text =>
    match text with
    | '"' :: rest => do
      let (text, rest) ← scanString 0 rest
      return (.str (String.ofList text), rest)
    | '{' :: rest =>
      if r.tooDeep (depth + 1) then .error (.other "RecursionError")
      else
        match skipWs rest with
        | '}' :: rest => .ok (.obj [], rest)
        | rest => do
          let (items, rest) ← scanEntries r fuel (depth + 1) rest
          return (.obj (dictOf items), rest)
    | '[' :: rest =>
      if r.tooDeep (depth + 1) then .error (.other "RecursionError")
      else
        match skipWs rest with
        | ']' :: rest => .ok (.arr [], rest)
        | rest => do
          let (items, rest) ← scanItems r fuel (depth + 1) rest
          return (.arr items, rest)
    | text => scanScalar r text

/-- The items of a `JSONArray`, up to its end. -/
def scanItems (r : JsonReader) : (fuel depth : Nat) → List Char →
    Except PyExc (List Json × List Char)
  | 0, _, _ => .error decodeError
  | fuel + 1, depth, text => do
    let (item, rest) ← scanOnce r fuel depth text
    match skipWs rest with
    | ']' :: rest => return ([item], rest)
    | ',' :: rest => do
      let (items, rest) ← scanItems r fuel depth (skipWs rest)
      return (item :: items, rest)
    | _ => .error decodeError

/-- The items of a `JSONObject`, up to its end. -/
def scanEntries (r : JsonReader) : (fuel depth : Nat) → List Char →
    Except PyExc (List (String × Json) × List Char)
  | 0, _, _ => .error decodeError
  | fuel + 1, depth, text =>
    match text with
    | '"' :: rest => do
      let (key, rest) ← scanString 0 rest
      match skipWs rest with
      | ':' :: rest => do
        let (value, rest) ← scanOnce r fuel depth (skipWs rest)
        match skipWs rest with
        | '}' :: rest => return ([(String.ofList key, value)], rest)
        | ',' :: rest => do
          let (entries, rest) ← scanEntries r fuel depth (skipWs rest)
          return ((String.ofList key, value) :: entries, rest)
        | _ => .error decodeError
      | _ => .error decodeError
    | _ => .error decodeError

end

/-- `json.loads`. -/
def loads (r : JsonReader) (text : String) : Except PyExc Json :=
  if text.toList.head? = some '\uFEFF' then .error decodeError
  else do
    let (value, rest) ← scanOnce r (2 * text.toList.length + 1) 0 (skipWs text.toList)
    if (skipWs rest).isEmpty then return value else .error decodeError

namespace Json

mutual

/-- `repr` of a document.  `json.loads` makes no integer that is too long for it. -/
def repr (u : Unicode) (digits : ℚ → String) : Json → String
  | .null => "None"
  | .bool b => if b then "True" else "False"
  | .int n => toString n
  | .float x => x.str digits
  | .str s => u.repr s
  | .arr items => "[" ++ String.intercalate ", " (reprItems u digits items) ++ "]"
  | .obj entries => "\x7b" ++ String.intercalate ", " (reprEntries u digits entries) ++ "\x7d"

def reprItems (u : Unicode) (digits : ℚ → String) : List Json → List String
  | [] => []
  | item :: rest => repr u digits item :: reprItems u digits rest

def reprEntries (u : Unicode) (digits : ℚ → String) : List (String × Json) → List String
  | [] => []
  | (key, value) :: rest =>
    (u.repr key ++ ": " ++ repr u digits value) :: reprEntries u digits rest

end

/-- `str` of a document. -/
def toStr (u : Unicode) (digits : ℚ → String) : Json → String
  | .str s => s
  | value => repr u digits value

end Json

namespace Json

mutual

/-- The Python value of a document. -/
def toValue : Json → Value
  | .null => .null
  | .bool b => .bool b
  | .int n => .int n
  | .float x => .float x
  | .str s => .str s
  | .arr items => .list (toValues items)
  | .obj entries => .dict (toEntries entries)

def toValues : List Json → List Value
  | [] => []
  | item :: rest => toValue item :: toValues rest

def toEntries : List (String × Json) → List (String × Value)
  | [] => []
  | (key, value) :: rest => (key, toValue value) :: toEntries rest

end

end Json

/-- `json.loads` for an `Interpreter`, where a `JSONDecodeError` is a `ValueError`. -/
def loadsValue (r : JsonReader) (text : String) : Except PyExc Value :=
  match loads r text with
  | .ok document => .ok document.toValue
  | .error x => .error (if x = decodeError then .valueError else x)

/-! ### The rest of the text -/

section

theorem bind_congr_ok {ε α β : Type} {x : Except ε α} {f g : α → Except ε β}
    (h : ∀ a, x = .ok a → f a = g a) : (x >>= f) = (x >>= g) := by
  cases x with
  | error e => rfl
  | ok a => exact h a rfl

variable {r : JsonReader} {fuel depth : Nat} {text rest : List Char}

theorem skipWs_length (text : List Char) : (skipWs text).length ≤ text.length :=
  (List.dropWhile_sublist _).length_le

theorem scanString_length {skip : Nat} {s : List Char}
    (h : scanString skip text = .ok (s, rest)) : rest.length < text.length := by
  induction text generalizing skip s with
  | nil => cases skip <;> cases h
  | cons c text ih =>
    have hlonger {n : Nat} (hn : n < text.length) : n < (c :: text).length :=
      Nat.lt_succ_of_lt hn
    cases skip with
    | succ skip => exact hlonger (ih h)
    | zero =>
      unfold scanString at h
      split at h
      · cases h
        exact Nat.lt_succ_self _
      · split at h
        · split at h
          · cases h
          · obtain ⟨⟨s', rest'⟩, hs, h⟩ := bind_ok h
            cases h
            exact hlonger (ih hs)
        · split at h
          · cases h
          · obtain ⟨⟨s', rest'⟩, hs, h⟩ := bind_ok h
            cases h
            exact hlonger (ih hs)

theorem drop_shorter {α : Type} {n : Nat} {text : List α} (hn : 0 < n) (ht : text ≠ []) :
    (text.drop n).length < text.length := by
  have := List.length_pos_iff.mpr ht
  rw [List.length_drop]
  omega

theorem scanNumber_length {value : Json} (h : scanNumber r text = .ok (value, rest)) :
    rest.length < text.length := by
  have hne : text ≠ [] := by
    rintro rfl
    cases h
  have hlen (a b : List Char) (hb : b.isEmpty = false) : 0 < (a ++ b).length := by
    rw [List.length_append]
    have := List.length_pos_iff.mpr (List.isEmpty_eq_false_iff.mp hb)
    omega
  unfold scanNumber at h
  dsimp only at h
  split at h
  · cases h
  · next hdigits =>
    have hdigits := hlen (text.take 1 |>.filter (· == '-')) _ (by simpa using hdigits)
    split at h
    · split at h
      · cases h
      · cases h
        exact drop_shorter hdigits hne
    · cases h
      refine drop_shorter ?_ hne
      rw [List.append_assoc, List.length_append]
      omega

theorem constants_ne : ∀ constant ∈ constants, constant.1.toList ≠ [] := by decide

theorem scanScalar_length {value : Json} (h : scanScalar r text = .ok (value, rest)) :
    rest.length < text.length := by
  unfold scanScalar at h
  split at h
  · next constant hfind =>
    cases h
    have hfound := List.find?_some (p := fun e : String × Json => e.1.toList.isPrefixOf text) hfind
    have hprefix := List.isPrefixOf_iff_prefix.mp hfound
    have hconstant := constants_ne constant (List.mem_of_find?_eq_some hfind)
    refine drop_shorter ?_ ?_
    · rw [← String.length_toList]
      exact List.length_pos_iff.mpr hconstant
    · rintro rfl
      exact hconstant (List.prefix_nil.mp hprefix)
  · exact scanNumber_length h

/-- A scan leaves less than the text. -/
theorem scan_length (r : JsonReader) (fuel : Nat) :
    (∀ {depth text value rest}, scanOnce r fuel depth text = .ok (value, rest) →
      rest.length < text.length) ∧
    (∀ {depth text items rest}, scanItems r fuel depth text = .ok (items, rest) →
      rest.length < text.length) ∧
    ∀ {depth text entries rest}, scanEntries r fuel depth text = .ok (entries, rest) →
      rest.length < text.length := by
  induction fuel with
  | zero =>
    refine ⟨?_, ?_, ?_⟩ <;> intro _ _ _ _ h <;> cases h
  | succ fuel ih =>
    obtain ⟨ihOnce, ihItems, ihEntries⟩ := ih
    refine ⟨?_, ?_, ?_⟩
    · intro depth text value rest h
      unfold scanOnce at h
      split at h
      · obtain ⟨⟨s, rest'⟩, hs, h⟩ := bind_ok h
        cases h
        exact Nat.lt_succ_of_lt (scanString_length hs)
      · next inner =>
        have hskip := skipWs_length inner
        split at h
        · cases h
        · split at h
          · next hend =>
            cases h
            rw [hend] at hskip
            exact Nat.lt_succ_of_lt hskip
          · obtain ⟨⟨items, rest'⟩, hitems, h⟩ := bind_ok h
            cases h
            exact Nat.lt_succ_of_lt (Nat.lt_of_lt_of_le (ihEntries hitems) hskip)
      · next inner =>
        have hskip := skipWs_length inner
        split at h
        · cases h
        · split at h
          · next hend =>
            cases h
            rw [hend] at hskip
            exact Nat.lt_succ_of_lt hskip
          · obtain ⟨⟨items, rest'⟩, hitems, h⟩ := bind_ok h
            cases h
            exact Nat.lt_succ_of_lt (Nat.lt_of_lt_of_le (ihItems hitems) hskip)
      · exact scanScalar_length h
    · intro depth text items rest h
      unfold scanItems at h
      obtain ⟨⟨item, left⟩, hitem, h⟩ := bind_ok h
      have hlt := ihOnce hitem
      have hskip := skipWs_length left
      dsimp only at h
      split at h
      · next hend =>
        cases h
        rw [hend, List.length_cons] at hskip
        omega
      · next more hmore =>
        obtain ⟨⟨items', rest'⟩, hitems, h⟩ := bind_ok h
        cases h
        have hlt' := ihItems hitems
        have hskip' := skipWs_length more
        rw [hmore, List.length_cons] at hskip
        dsimp only
        omega
      · cases h
    · intro depth text entries rest h
      unfold scanEntries at h
      split at h
      · next inner =>
        obtain ⟨⟨key, left⟩, hkey, h⟩ := bind_ok h
        have hlt := scanString_length hkey
        have hskip := skipWs_length left
        dsimp only at h
        split at h
        · next colon hcolon =>
          obtain ⟨⟨value, left'⟩, hvalue, h⟩ := bind_ok h
          have hlt' := ihOnce hvalue
          have hskip' := skipWs_length left'
          have hcolon' := skipWs_length colon
          rw [hcolon, List.length_cons] at hskip
          rw [List.length_cons]
          dsimp only at h
          split at h
          · next hend =>
            cases h
            rw [hend, List.length_cons] at hskip'
            omega
          · next more hmore =>
            obtain ⟨⟨entries', rest'⟩, hentries, h⟩ := bind_ok h
            cases h
            have hlt'' := ihEntries hentries
            have hmore' := skipWs_length more
            rw [hmore, List.length_cons] at hskip'
            dsimp only
            omega
          · cases h
        · cases h
      · cases h

/-- More fuel than the text asks for changes nothing. -/
theorem scan_fuel (r : JsonReader) (fuel : Nat) :
    (∀ depth text, 2 * text.length < fuel →
      scanOnce r (fuel + 1) depth text = scanOnce r fuel depth text) ∧
    (∀ depth text, 2 * text.length + 1 < fuel →
      scanItems r (fuel + 1) depth text = scanItems r fuel depth text) ∧
    ∀ depth text, 2 * text.length + 1 < fuel →
      scanEntries r (fuel + 1) depth text = scanEntries r fuel depth text := by
  induction fuel with
  | zero => refine ⟨?_, ?_, ?_⟩ <;> intro _ _ h <;> cases h
  | succ fuel ih =>
    obtain ⟨ihOnce, ihItems, ihEntries⟩ := ih
    refine ⟨?_, ?_, ?_⟩
    · intro depth text hfuel
      unfold scanOnce
      split
      · rfl
      · next inner =>
        have hskip := skipWs_length inner
        rw [List.length_cons] at hfuel
        split
        · rfl
        · split
          · rfl
          · rw [ihEntries (depth + 1) (skipWs inner) (by omega)]
      · next inner =>
        have hskip := skipWs_length inner
        rw [List.length_cons] at hfuel
        split
        · rfl
        · split
          · rfl
          · rw [ihItems (depth + 1) (skipWs inner) (by omega)]
      · rfl
    · intro depth text hfuel
      rw [scanItems, scanItems, ihOnce depth text (by omega)]
      refine bind_congr_ok fun (item, left) hitem => ?_
      have hlt := (scan_length r fuel).1 hitem
      have hskip := skipWs_length left
      dsimp only
      split
      · rfl
      · next more hmore =>
        have hmore' := skipWs_length more
        rw [hmore, List.length_cons] at hskip
        rw [ihItems depth (skipWs more) (by omega)]
      · rfl
    · intro depth text hfuel
      unfold scanEntries
      split
      · next inner =>
        rw [List.length_cons] at hfuel
        refine bind_congr_ok fun (key, left) hkey => ?_
        have hlt := scanString_length hkey
        have hskip := skipWs_length left
        dsimp only
        split
        · next colon hcolon =>
          have hcolon' := skipWs_length colon
          rw [hcolon, List.length_cons] at hskip
          rw [ihOnce depth (skipWs colon) (by omega)]
          refine bind_congr_ok fun (value, left') hvalue => ?_
          have hlt' := (scan_length r fuel).1 hvalue
          have hskip' := skipWs_length left'
          dsimp only
          split
          · rfl
          · next more hmore =>
            have hmore' := skipWs_length more
            rw [hmore, List.length_cons] at hskip'
            rw [ihEntries depth (skipWs more) (by omega)]
          · rfl
        · rfl
      · rfl

/-- Brackets beyond the limit of nesting. -/
theorem scanOnce_nested {limit : Nat} (hDeep : ∀ d, limit < d → r.tooDeep d = true) (n : Nat) :
    ∀ depth fuel, limit < depth + (n + 1) → 2 * n < fuel →
      scanOnce r fuel depth (List.replicate (n + 1) '[' ++ rest) =
        .error (.other "RecursionError") := by
  induction n with
  | zero =>
    intro depth fuel hLimit hFuel
    obtain ⟨fuel, rfl⟩ := Nat.exists_eq_add_one.mpr hFuel
    show (if r.tooDeep (depth + 1) then _ else _) = _
    rw [hDeep _ hLimit, if_pos rfl]
  | succ n ih =>
    intro depth fuel hLimit hFuel
    obtain ⟨fuel, rfl⟩ := Nat.exists_eq_add_of_le' (show 2 ≤ fuel by omega)
    have hInner := ih (depth + 1) fuel (by omega) (by omega)
    show (if r.tooDeep (depth + 1) then _ else _) = _
    split
    · rfl
    · have hItems : scanItems r (fuel + 1) (depth + 1) (List.replicate (n + 1) '[' ++ rest) =
          .error (.other "RecursionError") := by
        rw [scanItems, hInner]
        rfl
      show (scanItems r (fuel + 1) (depth + 1) (List.replicate (n + 1) '[' ++ rest) >>= _) = _
      rw [hItems]
      rfl

/-- `json.loads` on brackets that are nested too deeply. -/
theorem loads_nested (limit : Nat) {n : Nat} (hDeep : ∀ d, limit < d → r.tooDeep d = true)
    (hn : limit < n) (rest : List Char) :
    loads r (String.ofList (List.replicate n '[' ++ rest)) = .error (.other "RecursionError") := by
  obtain ⟨n, rfl⟩ := Nat.exists_eq_add_one.mpr (Nat.zero_lt_of_lt hn)
  rw [loads, String.toList_ofList, if_neg (by simp [List.replicate_succ])]
  have hws : skipWs (List.replicate (n + 1) '[' ++ rest) = List.replicate (n + 1) '[' ++ rest :=
    List.dropWhile_cons_of_neg (by decide)
  rw [hws, scanOnce_nested hDeep n 0 _ (by omega)]
  · rfl
  · rw [List.length_append, List.length_replicate]
    omega

theorem loadsValue_nested (limit : Nat) {n : Nat} (hDeep : ∀ d, limit < d → r.tooDeep d = true)
    (hn : limit < n) (rest : List Char) :
    loadsValue r (String.ofList (List.replicate n '[' ++ rest)) =
      .error (.other "RecursionError") := by
  rw [loadsValue, loads_nested limit hDeep hn]
  rfl

/-- A document behind an opening brace is an object. -/
theorem loads_brace {text : String} {value : Json} (htext : text.toList.head? = some '\x7b')
    (h : loads r text = .ok value) : ∃ entries, value = .obj entries := by
  obtain ⟨inner, hinner⟩ := List.head?_eq_some_iff.mp htext
  have hws : skipWs ('\x7b' :: inner) = '\x7b' :: inner := List.dropWhile_cons_of_neg (by decide)
  unfold loads at h
  rw [hinner, if_neg (by simp), hws] at h
  obtain ⟨⟨value', left⟩, hscan, h⟩ := bind_ok h
  rw [scanOnce] at hscan
  dsimp only at h
  split at h
  · cases h
    split at hscan
    · cases hscan
    · split at hscan
      · cases hscan
        exact ⟨[], rfl⟩
      · obtain ⟨⟨items, rest⟩, -, hscan⟩ := bind_ok hscan
        cases hscan
        exact ⟨dictOf items, rfl⟩
  · cases h

end

end SafactoryServer
