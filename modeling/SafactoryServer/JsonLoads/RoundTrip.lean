import SafactoryServer.JsonLoads

/-! The texts that `json.dumps` writes with `ensure_ascii=False`, and that `json.loads` reads them
back. -/

namespace SafactoryServer

/-! ### Numbers -/

def AllDigits (text : List Char) : Prop := text ≠ [] ∧ ∀ c ∈ text, c.isDigit = true

theorem allDigits_iff {text : List Char} :
    AllDigits text ↔ (!text.isEmpty && text.all Char.isDigit) = true := by
  simp [AllDigits]

/-- Digits, and no zero in front of others. -/
structure IsInteger (text : List Char) : Prop where
  digits : AllDigits text
  zero : text.head? = some '0' → text = ['0']

inductive IsFraction : List Char → Prop
  | none : IsFraction []
  | digits {text} : AllDigits text → IsFraction ('.' :: text)

inductive IsExponent : List Char → Prop
  | none : IsExponent []
  | digits {e sign text} : e = 'e' ∨ e = 'E' → sign = [] ∨ sign = ['+'] ∨ sign = ['-'] →
      AllDigits text → IsExponent (e :: (sign ++ text))

/-- A number with a fraction or an exponent. -/
inductive IsFloatText : List Char → Prop
  | parts {sign digits fraction exponent} : sign = [] ∨ sign = ['-'] → IsInteger digits →
      IsFraction fraction → IsExponent exponent → fraction ++ exponent ≠ [] →
      IsFloatText (sign ++ digits ++ fraction ++ exponent)

/-- What stands behind a value: nothing, a comma or a closing bracket. -/
def Ended (rest : List Char) : Prop := ∀ c ∈ rest.head?, c = ',' ∨ c = ']' ∨ c = '\x7d'

section

variable {text rest : List Char}

theorem leadingDigits_append (htext : ∀ c ∈ text, c.isDigit = true)
    (hrest : ∀ c ∈ rest.head?, c.isDigit = false) : leadingDigits (text ++ rest) = text := by
  rw [leadingDigits, List.takeWhile_append_of_pos htext]
  cases rest with
  | nil => simp
  | cons c rest => simp [hrest c rfl]

theorem integerDigits_append (htext : IsInteger text)
    (hrest : ∀ c ∈ rest.head?, c.isDigit = false) : integerDigits (text ++ rest) = text := by
  have hdigits := leadingDigits_append htext.digits.2 hrest
  unfold integerDigits
  split
  · next rest' heq =>
    obtain ⟨c, text', rfl⟩ := List.exists_cons_of_ne_nil htext.digits.1
    obtain rfl : c = '0' := (List.cons.inj heq).1
    exact (htext.zero rfl).symm
  · exact hdigits

theorem fraction_append (htext : IsFraction text)
    (hrest : ∀ c ∈ rest.head?, c.isDigit = false ∧ c ≠ '.') : fraction (text ++ rest) = text := by
  cases htext with
  | none =>
    cases rest with
    | nil => rfl
    | cons c rest =>
      unfold fraction
      split
      · next heq =>
        have hc := (hrest c rfl).2
        exact absurd (List.cons.inj heq).1 hc
      · rfl
  | @digits text htext =>
    rw [List.cons_append, fraction, leadingDigits_append htext.2 fun c hc => (hrest c hc).1,
      if_neg (by simpa using htext.1)]

theorem exponent_append (htext : IsExponent text)
    (hrest : ∀ c ∈ rest.head?, c.isDigit = false ∧ c ≠ 'e' ∧ c ≠ 'E') :
    exponent (text ++ rest) = text := by
  cases htext with
  | none =>
    cases rest with
    | nil => rfl
    | cons c rest =>
      obtain ⟨-, he, hE⟩ := hrest c rfl
      rw [List.nil_append, exponent, if_neg (by simp [he, hE])]
  | @digits e sign text he hsign htext =>
    have hdigits := leadingDigits_append htext.2 fun c hc => (hrest c hc).1
    obtain ⟨d, text', rfl⟩ := List.exists_cons_of_ne_nil htext.1
    have hd := htext.2 d List.mem_cons_self
    have hplus : d ≠ '+' := by
      rintro rfl
      cases hd
    have hminus : d ≠ '-' := by
      rintro rfl
      cases hd
    rw [List.cons_append, exponent, if_pos he]
    rcases hsign with rfl | rfl | rfl
    · simp only [List.nil_append, List.cons_append] at hdigits ⊢
      simp [hplus, hminus, hdigits]
    · simp only [List.nil_append, List.cons_append] at hdigits ⊢
      simp [hdigits]
    · simp only [List.nil_append, List.cons_append] at hdigits ⊢
      simp [hdigits]

theorem sign_append {sign digits : List Char} (hsign : sign = [] ∨ sign = ['-'])
    (hdigits : AllDigits digits) (tail : List Char) :
    ((sign ++ (digits ++ tail)).take 1).filter (· == '-') = sign := by
  obtain ⟨d, digits', rfl⟩ := List.exists_cons_of_ne_nil hdigits.1
  have hd : d ≠ '-' := by
    rintro rfl
    cases hdigits.2 '-' List.mem_cons_self
  rcases hsign with rfl | rfl
  · simp [hd]
  · simp

theorem Ended.no_digit (h : Ended rest) :
    ∀ c ∈ rest.head?, c.isDigit = false ∧ c ≠ '.' ∧ c ≠ 'e' ∧ c ≠ 'E' := by
  intro c hc
  rcases h c hc with rfl | rfl | rfl <;> decide

/-- An integer is read from its digits. -/
theorem scanNumber_int (r : JsonReader) {sign digits : List Char}
    (hsign : sign = [] ∨ sign = ['-']) (hdigits : IsInteger digits)
    (hsmall : digits.length ≤ maxStrDigits) (hrest : Ended rest) :
    scanNumber r (sign ++ digits ++ rest) =
      .ok (.int (if sign.isEmpty then (Nat.ofDigitChars 10 digits 0 : Int)
        else -(Nat.ofDigitChars 10 digits 0 : Int)), rest) := by
  have hdrop : (sign ++ (digits ++ rest)).drop (sign ++ digits).length = rest := by
    rw [← List.append_assoc, List.drop_left]
  have hinteger := integerDigits_append hdigits fun c hc => (hrest.no_digit c hc).1
  have hfraction : fraction rest = [] :=
    fraction_append .none fun c hc => ⟨(hrest.no_digit c hc).1, (hrest.no_digit c hc).2.1⟩
  have hexponent : exponent rest = [] :=
    exponent_append .none fun c hc => ⟨(hrest.no_digit c hc).1, (hrest.no_digit c hc).2.2⟩
  have hne : digits.isEmpty = false := by simpa using hdigits.digits.1
  rw [List.append_assoc, scanNumber]
  simp only [sign_append hsign hdigits.digits, List.drop_left, hinteger, hdrop, hfraction,
    List.drop_zero, List.length_nil, hexponent, hne]
  simp [hsmall]

/-- A float is read from its text. -/
theorem scanNumber_float (r : JsonReader) (htext : IsFloatText text) (hrest : Ended rest) :
    scanNumber r (text ++ rest) = .ok (.float (r.floatOf (String.ofList text)), rest) := by
  obtain @⟨sign, digits, frac, exp, hsign, hdigits, hfraction, hexponent, hne⟩ := htext
  have hexp := exponent_append hexponent fun c hc =>
    ⟨(hrest.no_digit c hc).1, (hrest.no_digit c hc).2.2⟩
  have hmiddle : ∀ c ∈ (exp ++ rest).head?, c.isDigit = false ∧ c ≠ '.' := by
    cases hexponent with
    | none => exact fun c hc => ⟨(hrest.no_digit c hc).1, (hrest.no_digit c hc).2.1⟩
    | digits he _ _ =>
      intro c hc
      obtain rfl := Option.mem_some.mp hc
      rcases he with rfl | rfl <;> decide
  have hfrac := fraction_append hfraction hmiddle
  have htail : ∀ c ∈ (frac ++ (exp ++ rest)).head?, c.isDigit = false := by
    cases hfraction with
    | none => exact fun c hc => (hmiddle c hc).1
    | digits _ =>
      intro c hc
      obtain rfl := Option.mem_some.mp hc
      decide
  have hinteger := integerDigits_append hdigits htail
  have hempty : digits.isEmpty = false := by simpa using hdigits.digits.1
  have hboth : (frac.isEmpty && exp.isEmpty) = false := by
    by_contra hboth
    simp at hboth
    exact hne (by rw [hboth.1, hboth.2, List.append_nil])
  have hdrop : (sign ++ (digits ++ (frac ++ (exp ++ rest)))).drop (sign ++ digits).length =
      frac ++ (exp ++ rest) := by
    rw [← List.append_assoc, List.drop_left]
  have hall : (sign ++ (digits ++ (frac ++ (exp ++ rest)))).drop
      (sign ++ digits ++ frac ++ exp).length = rest := by
    simp only [← List.append_assoc, List.drop_left]
  rw [List.append_assoc, List.append_assoc, List.append_assoc, scanNumber]
  simp only [sign_append hsign hdigits.digits, List.drop_left, hinteger, hdrop, hfrac, hexp,
    hempty, hboth, hall]
  simp

end

/-! ### Strings -/

/-- `ESCAPE_DCT`, and the character itself if it has no entry there. -/
def escapeChar (c : Char) : List Char :=
  if c = '"' then ['\\', '"']
  else if c = '\\' then ['\\', '\\']
  else if c = '\n' then ['\\', 'n']
  else if c = '\r' then ['\\', 'r']
  else if c = '\t' then ['\\', 't']
  else if c.toNat = 8 then ['\\', 'b']
  else if c.toNat = 12 then ['\\', 'f']
  else if c.toNat < 32 then
    ['\\', 'u', '0', '0', Nat.digitChar (c.toNat / 16), Nat.digitChar (c.toNat % 16)]
  else [c]

/-- `py_encode_basestring`. -/
def encodeString (s : String) : List Char := '"' :: (s.toList.flatMap escapeChar ++ ['"'])

theorem escape_unicode {n : Nat} (h : n < 32) (rest : List Char) :
    escape? ('u' :: '0' :: '0' :: Nat.digitChar (n / 16) :: Nat.digitChar (n % 16) :: rest) =
      some (Char.ofNat n, 5) := by
  have hunit : codeUnit? ('0' :: '0' :: Nat.digitChar (n / 16) :: Nat.digitChar (n % 16) :: rest) =
      some (n, rest) := by
    have hdigits : ∀ n < 32, IPAddress.digits? 16 IPAddress.hexDigit?
        ['0', '0', Nat.digitChar (n / 16), Nat.digitChar (n % 16)] = some n := by
      decide +kernel
    rw [codeUnit?, hdigits n h]
    rfl
  have hchar : codeChar n = Char.ofNat n := by
    rw [codeChar, if_neg (by omega)]
  have hhigh : ¬ (0xD800 ≤ n ∧ n < 0xDC00) := by omega
  simp only [escape?, hunit, Option.bind_eq_bind, Option.bind_some, hhigh, if_false, hchar]
  split <;> rfl

/-- The reader takes an escaped character for the character. -/
theorem scanString_escapeChar (c : Char) (rest : List Char) :
    scanString 0 (escapeChar c ++ rest) = do
      let (text, rest) ← scanString 0 rest
      return (c :: text, rest) := by
  unfold escapeChar
  split
  · next h => subst h; rfl
  split
  · next h => subst h; rfl
  split
  · next h => subst h; rfl
  split
  · next h => subst h; rfl
  split
  · next h => subst h; rfl
  split
  · next h =>
    rw [show c = Char.ofNat 8 by rw [← h, Char.ofNat_toNat]]
    rfl
  split
  · next h =>
    rw [show c = Char.ofNat 12 by rw [← h, Char.ofNat_toNat]]
    rfl
  split
  · next h =>
    have hescape := escape_unicode h rest
    rw [Char.ofNat_toNat] at hescape
    simp only [List.cons_append, List.nil_append]
    rw [scanString, if_neg (by decide), if_pos rfl, hescape]
    rfl
  · next hquote hslash _ _ _ _ _ hsmall =>
    rw [List.cons_append, List.nil_append, scanString, if_neg hquote, if_neg hslash,
      if_neg hsmall]

theorem scanString_escaped (text rest : List Char) :
    scanString 0 (text.flatMap escapeChar ++ '"' :: rest) = .ok (text, rest) := by
  induction text with
  | nil => rfl
  | cons c text ih =>
    rw [List.flatMap_cons, List.append_assoc, scanString_escapeChar, ih]
    rfl

/-! ### Documents -/

/-- `float.__repr__` and `float` of the interpreter, with the numbers that are floats: the text of a
float is a number, and it is read back. -/
structure FloatTexts where
  isFloat : ℚ → Bool
  digits : ℚ → String
  floatOf : String → PyFloat
  isFloatText : ∀ q, isFloat q = true → IsFloatText (digits q).toList
  floatOf_digits : ∀ q, isFloat q = true → floatOf (digits q) = .finite q

/-- A reader of the texts of these floats. -/
def FloatTexts.readerWith (f : FloatTexts) (tooDeep : Nat → Bool) : JsonReader :=
  ⟨f.floatOf, tooDeep⟩

/-- The reader of the texts of these floats, with no bound to the open containers. -/
def FloatTexts.reader (f : FloatTexts) : JsonReader := f.readerWith fun _ => false

/-- `separators` of the encoder: `(",", ":")`, or `(", ", ": ")` by default. -/
inductive Separators
  | compact
  | spaced

/-- What the encoder writes behind a comma or a colon. -/
def Separators.gap : Separators → List Char
  | .compact => []
  | .spaced => [' ']

/-- `floatstr` of the encoder. -/
def encodeFloat (digits : ℚ → String) : PyFloat → List Char
  | .finite value => (digits value).toList
  | .infinity negative => if negative then "-Infinity".toList else "Infinity".toList
  | .nan => "NaN".toList

/-- The texts with commas between them. -/
def joined (sep : Separators) : List (List Char) → List Char
  | [] => []
  | text :: rest => text ++ rest.flatMap fun next => ',' :: (sep.gap ++ next)

namespace Json

/-- Induction over the parts of a document. -/
@[elab_as_elim]
theorem byParts {motive : Json → Prop} (null : motive .null) (bool : ∀ b, motive (.bool b))
    (int : ∀ n, motive (.int n)) (float : ∀ x, motive (.float x)) (str : ∀ s, motive (.str s))
    (arr : ∀ items, (∀ item ∈ items, motive item) → motive (.arr items))
    (obj : ∀ entries, (∀ e ∈ entries, motive e.2) → motive (.obj entries))
    (value : Json) : motive value :=
  @Json.rec motive (fun items => ∀ item ∈ items, motive item)
    (fun entries => ∀ e ∈ entries, motive e.2) (fun e => motive e.2) null bool int float str arr obj
    (fun _ h => nomatch h) (fun _ _ h hrest => List.forall_mem_cons.mpr ⟨h, hrest⟩)
    (fun _ h => nomatch h) (fun _ _ h hrest => List.forall_mem_cons.mpr ⟨h, hrest⟩)
    (fun _ _ h => h) value

mutual

/-- `json.dumps(value, ensure_ascii=False, separators=separators)`. -/
def encode (sep : Separators) (digits : ℚ → String) : Json → List Char
  | .null => "null".toList
  | .bool b => if b then "true".toList else "false".toList
  | .int n => (toString n).toList
  | .float x => encodeFloat digits x
  | .str s => encodeString s
  | .arr items => '[' :: (joined sep (encodeItems sep digits items) ++ [']'])
  | .obj entries => '\x7b' :: (joined sep (encodeEntries sep digits entries) ++ ['\x7d'])

def encodeItems (sep : Separators) (digits : ℚ → String) : List Json → List (List Char)
  | [] => []
  | item :: rest => encode sep digits item :: encodeItems sep digits rest

def encodeEntries (sep : Separators) (digits : ℚ → String) :
    List (String × Json) → List (List Char)
  | [] => []
  | (key, value) :: rest =>
    (encodeString key ++ ':' :: (sep.gap ++ encode sep digits value)) ::
      encodeEntries sep digits rest

end

/-- An entry of an object. -/
def encodeEntry (sep : Separators) (digits : ℚ → String) (e : String × Json) : List Char :=
  encodeString e.1 ++ ':' :: (sep.gap ++ encode sep digits e.2)

mutual

/-- How many containers of a document are open at once. -/
def depth : Json → Nat
  | .arr items => depthItems items + 1
  | .obj entries => depthEntries entries + 1
  | _ => 0

def depthItems : List Json → Nat
  | [] => 0
  | item :: rest => max (depth item) (depthItems rest)

def depthEntries : List (String × Json) → Nat
  | [] => 0
  | (_, value) :: rest => max (depth value) (depthEntries rest)

end

mutual

/-- No object has a key twice, no integer is too long for the reader, and the floats are those of
the interpreter. -/
def Readable (f : FloatTexts) : Json → Prop
  | .int n => (Nat.repr n.natAbs).length ≤ maxStrDigits
  | .float (.finite value) => f.isFloat value = true
  | .arr items => ReadableItems f items
  | .obj entries => (entries.map (·.1)).Nodup ∧ ReadableEntries f entries
  | _ => True

def ReadableItems (f : FloatTexts) : List Json → Prop
  | [] => True
  | item :: rest => Readable f item ∧ ReadableItems f rest

def ReadableEntries (f : FloatTexts) : List (String × Json) → Prop
  | [] => True
  | (_, value) :: rest => Readable f value ∧ ReadableEntries f rest

end

section

variable {f : FloatTexts} {sep : Separators} {digits : ℚ → String}

@[simp] theorem encodeItems_eq (digits : ℚ → String) (items : List Json) :
    encodeItems sep digits items = items.map (encode sep digits) := by
  induction items with
  | nil => rfl
  | cons item rest ih => rw [encodeItems, ih, List.map_cons]

@[simp] theorem encodeEntries_eq (digits : ℚ → String) (entries : List (String × Json)) :
    encodeEntries sep digits entries = entries.map (encodeEntry sep digits) := by
  induction entries with
  | nil => rfl
  | cons e rest ih =>
    rw [encodeEntries, ih]
    rfl

@[simp] theorem readableItems_iff (items : List Json) :
    ReadableItems f items ↔ ∀ item ∈ items, item.Readable f := by
  induction items with
  | nil => simp [ReadableItems]
  | cons item rest ih => rw [ReadableItems, ih, List.forall_mem_cons]

@[simp] theorem readableEntries_iff (entries : List (String × Json)) :
    ReadableEntries f entries ↔ ∀ e ∈ entries, e.2.Readable f := by
  induction entries with
  | nil => simp [ReadableEntries]
  | cons e rest ih => rw [ReadableEntries, ih, List.forall_mem_cons]

theorem depth_item {item : Json} {items : List Json} (h : item ∈ items) :
    item.depth ≤ depthItems items := by
  induction items with
  | nil => cases h
  | cons other rest ih =>
    rw [depthItems]
    rcases List.mem_cons.mp h with rfl | h
    · exact Nat.le_max_left _ _
    · exact Nat.le_trans (ih h) (Nat.le_max_right _ _)

theorem depth_entry {e : String × Json} {entries : List (String × Json)} (h : e ∈ entries) :
    e.2.depth ≤ depthEntries entries := by
  induction entries with
  | nil => cases h
  | cons other rest ih =>
    rw [depthEntries]
    rcases List.mem_cons.mp h with rfl | h
    · exact Nat.le_max_left _ _
    · exact Nat.le_trans (ih h) (Nat.le_max_right _ _)

theorem depthEntries_le {n : Nat} {entries : List (String × Json)}
    (h : ∀ e ∈ entries, e.2.depth ≤ n) : depthEntries entries ≤ n := by
  induction entries with
  | nil => exact Nat.zero_le _
  | cons e rest ih =>
    obtain ⟨he, hrest⟩ := List.forall_mem_cons.mp h
    exact Nat.max_le.mpr ⟨he, ih hrest⟩

end

end Json

/-! ### Reading back -/

section

variable {r : JsonReader} {fuel depth : Nat} {text rest : List Char} {sep : Separators}
  {tooDeep : Nat → Bool}

theorem joined_cons_cons (first second : List Char) (texts : List (List Char)) :
    joined sep (first :: second :: texts) =
      first ++ ',' :: (sep.gap ++ joined sep (second :: texts)) := by
  simp [joined]

theorem skipWs_gap (sep : Separators) (text : List Char) :
    skipWs (sep.gap ++ text) = skipWs text := by
  cases sep <;> rfl

theorem scanOnce_scalar (h : ∀ c ∈ text.head?, c ≠ '"' ∧ c ≠ '\x7b' ∧ c ≠ '[') :
    scanOnce r (fuel + 1) depth text = scanScalar r text := by
  unfold scanOnce
  split
  · exact absurd rfl (h _ rfl).1
  · exact absurd rfl (h _ rfl).2.1
  · exact absurd rfl (h _ rfl).2.2
  · rfl

theorem number_head {sign digits : List Char} (hsign : sign = [] ∨ sign = ['-'])
    (hdigits : AllDigits digits) (tail : List Char) :
    ∀ c ∈ (sign ++ digits ++ tail).head?, c.isDigit = true ∨ c = '-' := by
  obtain ⟨d, digits', rfl⟩ := List.exists_cons_of_ne_nil hdigits.1
  intro c hc
  rcases hsign with rfl | rfl
  · obtain rfl := Option.mem_some.mp hc
    exact .inl (hdigits.2 d List.mem_cons_self)
  · obtain rfl := Option.mem_some.mp hc
    exact .inr rfl

theorem number_head_ne {c d : Char} (h : c.isDigit = true ∨ c = '-')
    (hd : (!d.isDigit && d != '-') = true) : c ≠ d := by
  rintro rfl
  rcases h with h | rfl
  · rw [h] at hd
    cases hd
  · cases hd

/-- No constant of the reader begins like a number. -/
theorem scanOnce_number {sign digits : List Char} (hsign : sign = [] ∨ sign = ['-'])
    (hdigits : AllDigits digits) (tail : List Char) :
    scanOnce r (fuel + 1) depth (sign ++ digits ++ tail) =
      scanNumber r (sign ++ digits ++ tail) := by
  rw [scanOnce_scalar fun c hc => by
    have hhead := number_head hsign hdigits tail c hc
    exact ⟨number_head_ne hhead (by decide), number_head_ne hhead (by decide),
      number_head_ne hhead (by decide)⟩]
  obtain ⟨d, digits', rfl⟩ := List.exists_cons_of_ne_nil hdigits.1
  have hd := hdigits.2 d List.mem_cons_self
  have hletters : ['n', 't', 'f', 'N', 'I', '-'].all (fun c => !c.isDigit) = true := by decide
  have hne : ∀ c ∈ ['n', 't', 'f', 'N', 'I', '-'], c ≠ d := by
    rintro c hc rfl
    have hletter := List.all_eq_true.mp hletters c hc
    rw [hd] at hletter
    cases hletter
  have hnone : constants.find? (fun constant =>
      constant.1.toList.isPrefixOf (sign ++ (d :: digits') ++ tail)) = none := by
    rcases hsign with rfl | rfl <;> simp_all [constants, List.isPrefixOf]
  rw [scanScalar, hnone]

theorem head_toDigits {n : Nat} (hn : 0 < n) : (Nat.toDigits 10 n).head? ≠ some '0' := by
  induction n using Nat.strongRecOn with
  | ind n ih =>
    by_cases hsmall : n < 10
    · rw [Nat.toDigits_of_lt_base hsmall]
      have hdigit : ∀ n < 10, 0 < n → Nat.digitChar n ≠ '0' := by decide
      simpa using hdigit n hsmall hn
    · have hdiv : 0 < n / 10 := by omega
      obtain ⟨c, front, hfront⟩ := List.exists_cons_of_ne_nil (Nat.toDigits_ne_nil (n := n / 10))
      have hhead := ih (n / 10) (by omega) hdiv
      rw [hfront] at hhead
      rw [Nat.toDigits_of_base_le (by decide) (by omega), hfront]
      exact hhead

theorem isInteger_toDigits (n : Nat) : IsInteger (Nat.toDigits 10 n) := by
  refine ⟨⟨Nat.toDigits_ne_nil, fun c hc => ?_⟩, fun hzero => ?_⟩
  · exact Nat.isDigit_of_mem_toDigits (by omega) (by omega) hc
  · rcases Nat.eq_zero_or_pos n with rfl | hn
    · rfl
    · exact absurd hzero (head_toDigits hn)

theorem toList_int (n : Int) :
    (toString n).toList = (if n < 0 then ['-'] else []) ++ Nat.toDigits 10 n.natAbs := by
  cases n with
  | ofNat n =>
    rw [if_neg (by simp)]
    exact Nat.toList_repr
  | negSucc n =>
    rw [if_pos (Int.negSucc_lt_zero n)]
    change ("-" ++ Nat.repr (n + 1)).toList = _
    rw [String.toList_append, Nat.toList_repr]
    rfl

theorem scanOnce_int {n : Int} (hsmall : (Nat.repr n.natAbs).length ≤ maxStrDigits)
    (hrest : Ended rest) :
    scanOnce r (fuel + 1) depth ((toString n).toList ++ rest) = .ok (.int n, rest) := by
  rw [← String.length_toList, Nat.toList_repr] at hsmall
  have hdigits := isInteger_toDigits n.natAbs
  have hsign : (if n < 0 then ['-'] else []) = [] ∨ (if n < 0 then ['-'] else []) = ['-'] := by
    split <;> simp
  rw [toList_int, scanOnce_number hsign hdigits.digits,
    scanNumber_int r hsign hdigits hsmall hrest, Nat.ofDigitChars_ten_toDigits]
  by_cases hneg : n < 0
  · rw [if_pos hneg, if_neg (by simp), Int.ofNat_natAbs_of_nonpos (Int.le_of_lt hneg), Int.neg_neg]
  · rw [if_neg hneg, if_pos List.isEmpty_nil, Int.natAbs_of_nonneg (Int.not_lt.mp hneg)]

theorem scanOnce_floatText (htext : IsFloatText text) (hrest : Ended rest) :
    scanOnce r (fuel + 1) depth (text ++ rest) =
      .ok (.float (r.floatOf (String.ofList text)), rest) := by
  rw [← scanNumber_float r htext hrest]
  obtain @⟨sign, digits, frac, exp, hsign, hdigits, -, -, -⟩ := htext
  rw [List.append_assoc _ frac, List.append_assoc]
  exact scanOnce_number hsign hdigits.digits _

theorem scanOnce_float {f : FloatTexts} {x : PyFloat} (hx : (Json.float x).Readable f)
    (hrest : Ended rest) :
    scanOnce (f.readerWith tooDeep) (fuel + 1) depth (encodeFloat f.digits x ++ rest) =
      .ok (.float x, rest) := by
  cases x with
  | nan => rfl
  | infinity negative => cases negative <;> rfl
  | finite value =>
    have hfloat : f.isFloat value = true := by simpa only [Json.Readable] using hx
    have hvalue : (f.readerWith tooDeep).floatOf (f.digits value) = .finite value :=
      f.floatOf_digits value hfloat
    rw [encodeFloat, scanOnce_floatText (f.isFloatText value hfloat) hrest, String.ofList_toList,
      hvalue]

theorem scanOnce_string (s : String) :
    scanOnce r (fuel + 1) depth (encodeString s ++ rest) = .ok (.str s, rest) := by
  have hscan := scanString_escaped s.toList rest
  rw [encodeString, List.cons_append, List.append_assoc, List.cons_append, List.nil_append,
    scanOnce, hscan]
  exact congrArg (fun t => Except.ok (Json.str t, rest)) (String.ofList_toList (s := s))

/-- A text that begins with neither white space nor the end of a container nor a byte order mark. -/
def Begins (text : List Char) : Prop :=
  ∃ c rest, text = c :: rest ∧ c ∉ [' ', '\t', '\n', '\r', ']', '\x7d', '\uFEFF']

theorem Begins.skipWs (h : Begins text) : SafactoryServer.skipWs text = text := by
  obtain ⟨c, rest, rfl, hc⟩ := h
  simp only [List.mem_cons, not_or] at hc
  exact List.dropWhile_cons_of_neg (by simp [hc])

theorem Begins.append (h : Begins text) (rest : List Char) : Begins (text ++ rest) := by
  obtain ⟨c, text, rfl, hc⟩ := h
  exact ⟨c, text ++ rest, rfl, hc⟩

theorem begins_number {sign digits : List Char} (hsign : sign = [] ∨ sign = ['-'])
    (hdigits : AllDigits digits) (tail : List Char) : Begins (sign ++ digits ++ tail) := by
  cases htext : sign ++ digits ++ tail with
  | nil => simp [hdigits.1] at htext
  | cons c text =>
    have hhead := number_head hsign hdigits tail c (by rw [htext]; rfl)
    refine ⟨c, text, rfl, fun hmem => ?_⟩
    have hne : [' ', '\t', '\n', '\r', ']', '\x7d', '\uFEFF'].all
        (fun d => !d.isDigit && d != '-') = true := by
      decide
    exact number_head_ne hhead (List.all_eq_true.mp hne c hmem) rfl

theorem Json.encode_begins {f : FloatTexts} {value : Json} (h : value.Readable f) :
    Begins (value.encode sep f.digits) := by
  cases value with
  | null => exact ⟨'n', ['u', 'l', 'l'], rfl, by decide⟩
  | bool b =>
    cases b with
    | true => exact ⟨'t', ['r', 'u', 'e'], rfl, by decide⟩
    | false => exact ⟨'f', ['a', 'l', 's', 'e'], rfl, by decide⟩
  | int n =>
    have hsign : (if n < 0 then ['-'] else []) = [] ∨ (if n < 0 then ['-'] else []) = ['-'] := by
      split <;> simp
    have hbegins := begins_number hsign (isInteger_toDigits n.natAbs).digits []
    rwa [List.append_nil, ← toList_int] at hbegins
  | float x =>
    cases x with
    | nan => exact ⟨'N', ['a', 'N'], rfl, by decide⟩
    | infinity negative =>
      cases negative with
      | true => exact ⟨'-', "Infinity".toList, rfl, by decide⟩
      | false => exact ⟨'I', "nfinity".toList, rfl, by decide⟩
    | finite value =>
      have hfloat : f.isFloat value = true := by simpa only [Json.Readable] using h
      have htext := f.isFloatText value hfloat
      rw [Json.encode, encodeFloat]
      generalize (f.digits value).toList = text at htext ⊢
      obtain @⟨sign, digits, frac, exp, hsign, hdigits, -, -, -⟩ := htext
      rw [List.append_assoc _ frac]
      exact begins_number hsign hdigits.digits _
  | str s => exact ⟨'"', _, rfl, by decide⟩
  | arr items => exact ⟨'[', _, rfl, by decide⟩
  | obj entries => exact ⟨'\x7b', _, rfl, by decide⟩

theorem scanItems_last {item : Json}
    (h : scanOnce r fuel depth text = .ok (item, ']' :: rest)) :
    scanItems r (fuel + 1) depth text = .ok ([item], rest) := by
  rw [scanItems, h]
  rfl

theorem skipWs_comma (text : List Char) : skipWs (',' :: text) = ',' :: text := rfl

theorem skipWs_colon (text : List Char) : skipWs (':' :: text) = ':' :: text := rfl

theorem skipWs_brace (text : List Char) : skipWs ('\x7d' :: text) = '\x7d' :: text := rfl

theorem scanItems_more {item : Json} {items : List Json} {more : List Char}
    (h : scanOnce r fuel depth text = .ok (item, ',' :: more))
    (hmore : scanItems r fuel depth (skipWs more) = .ok (items, rest)) :
    scanItems r (fuel + 1) depth text = .ok (item :: items, rest) := by
  rw [scanItems, h]
  simp only [bind, Except.bind, skipWs_comma, hmore]
  rfl

theorem scanEntries_last {key : String} {value : Json}
    (h : scanOnce r fuel depth (skipWs text) = .ok (value, '\x7d' :: rest)) :
    scanEntries r (fuel + 1) depth (encodeString key ++ ':' :: text) =
      .ok ([(key, value)], rest) := by
  have hkey := scanString_escaped key.toList (':' :: text)
  rw [encodeString, List.cons_append, List.append_assoc, List.cons_append, List.nil_append,
    scanEntries, hkey]
  simp only [bind, Except.bind, skipWs_colon, h, skipWs_brace, String.ofList_toList]
  rfl

theorem scanEntries_more {key : String} {value : Json} {entries : List (String × Json)}
    {more : List Char} (h : scanOnce r fuel depth (skipWs text) = .ok (value, ',' :: more))
    (hmore : scanEntries r fuel depth (skipWs more) = .ok (entries, rest)) :
    scanEntries r (fuel + 1) depth (encodeString key ++ ':' :: text) =
      .ok ((key, value) :: entries, rest) := by
  have hkey := scanString_escaped key.toList (':' :: text)
  rw [encodeString, List.cons_append, List.append_assoc, List.cons_append, List.nil_append,
    scanEntries, hkey]
  simp only [bind, Except.bind, skipWs_colon, h, skipWs_comma, hmore, String.ofList_toList]
  rfl

/-- The scanner reads the text of the document, and stops behind it, if not too many containers are
open. -/
def Scans (f : FloatTexts) (sep : Separators) (tooDeep : Nat → Bool) (value : Json) : Prop :=
  ∀ fuel depth rest, (∀ d ≤ depth + value.depth, tooDeep d = false) → Ended rest →
    2 * (value.encode sep f.digits).length < fuel →
    scanOnce (f.readerWith tooDeep) fuel depth (value.encode sep f.digits ++ rest) =
      .ok (value, rest)

variable {f : FloatTexts}

theorem ended_comma : Ended (',' :: rest) := by
  rintro c ⟨⟩
  exact .inl rfl

theorem ended_bracket : Ended (']' :: rest) := by
  rintro c ⟨⟩
  exact .inr (.inl rfl)

theorem ended_brace : Ended ('\x7d' :: rest) := by
  rintro c ⟨⟩
  exact .inr (.inr rfl)

theorem joined_begins {texts : List (List Char)} (hne : texts ≠ [])
    (h : ∀ text ∈ texts, Begins text) : Begins (joined sep texts) := by
  obtain ⟨text, texts, rfl⟩ := List.exists_cons_of_ne_nil hne
  exact (h text List.mem_cons_self).append _

theorem scanItems_encode {items : List Json} (hne : items ≠ [])
    (hdeep : ∀ item ∈ items, ∀ d ≤ depth + item.depth, tooDeep d = false)
    (hreadable : ∀ item ∈ items, item.Readable f)
    (hscans : ∀ item ∈ items, Scans f sep tooDeep item)
    (hfuel : 2 * (joined sep (items.map (Json.encode sep f.digits))).length + 1 < fuel) :
    scanItems (f.readerWith tooDeep) fuel depth
      (joined sep (items.map (Json.encode sep f.digits)) ++ ']' :: rest) = .ok (items, rest) := by
  induction items generalizing fuel with
  | nil => exact absurd rfl hne
  | cons item items ih =>
    obtain ⟨hitem, hitems⟩ := List.forall_mem_cons.mp hscans
    obtain ⟨hdeepItem, hdeep⟩ := List.forall_mem_cons.mp hdeep
    obtain ⟨-, hreadable⟩ := List.forall_mem_cons.mp hreadable
    obtain ⟨fuel, rfl⟩ : ∃ n, fuel = n + 1 := ⟨fuel - 1, by omega⟩
    cases items with
    | nil =>
      simp only [List.map_cons, List.map_nil, joined, List.flatMap_nil, List.append_nil] at hfuel ⊢
      exact scanItems_last (hitem _ _ _ hdeepItem ended_bracket (by omega))
    | cons second items =>
      have hbegins : Begins (joined sep ((second :: items).map (Json.encode sep f.digits))) := by
        refine joined_begins (List.cons_ne_nil _ _) fun text htext => ?_
        obtain ⟨other, hother, rfl⟩ := List.mem_map.mp htext
        exact Json.encode_begins (hreadable other hother)
      rw [List.map_cons] at hfuel ⊢
      rw [List.map_cons, joined_cons_cons, ← List.map_cons, List.length_append,
        List.length_cons, List.length_append] at hfuel
      rw [List.map_cons, joined_cons_cons, ← List.map_cons, List.append_assoc, List.cons_append]
      refine scanItems_more (hitem _ _ _ hdeepItem ended_comma (by omega)) ?_
      rw [List.append_assoc, skipWs_gap, (hbegins.append _).skipWs]
      exact ih (List.cons_ne_nil _ _) hdeep hreadable hitems (by omega)

theorem scanEntries_encode {entries : List (String × Json)} (hne : entries ≠ [])
    (hdeep : ∀ e ∈ entries, ∀ d ≤ depth + e.2.depth, tooDeep d = false)
    (hreadable : ∀ e ∈ entries, e.2.Readable f)
    (hscans : ∀ e ∈ entries, Scans f sep tooDeep e.2)
    (hfuel : 2 * (joined sep (entries.map (Json.encodeEntry sep f.digits))).length + 1 < fuel) :
    scanEntries (f.readerWith tooDeep) fuel depth
      (joined sep (entries.map (Json.encodeEntry sep f.digits)) ++ '\x7d' :: rest) =
      .ok (entries, rest) := by
  induction entries generalizing fuel with
  | nil => exact absurd rfl hne
  | cons e entries ih =>
    obtain ⟨he, hentries⟩ := List.forall_mem_cons.mp hscans
    obtain ⟨hdeepEntry, hdeep⟩ := List.forall_mem_cons.mp hdeep
    obtain ⟨fuel, rfl⟩ : ∃ n, fuel = n + 1 := ⟨fuel - 1, by omega⟩
    obtain ⟨hvalue, hreadable⟩ := List.forall_mem_cons.mp hreadable
    have hskip (tail : List Char) : skipWs (sep.gap ++ (e.2.encode sep f.digits ++ tail)) =
        e.2.encode sep f.digits ++ tail :=
      (skipWs_gap sep _).trans ((Json.encode_begins hvalue).append tail).skipWs
    cases entries with
    | nil =>
      simp only [List.map_cons, List.map_nil, joined, List.flatMap_nil, List.append_nil,
        Json.encodeEntry, List.length_append, List.length_cons] at hfuel ⊢
      rw [List.append_assoc, List.cons_append, List.append_assoc]
      refine scanEntries_last ?_
      rw [hskip]
      exact he _ _ _ hdeepEntry ended_brace (by omega)
    | cons second entries =>
      rw [List.map_cons] at hfuel ⊢
      rw [List.map_cons, joined_cons_cons, ← List.map_cons, Json.encodeEntry, List.length_append,
        List.length_append, List.length_cons, List.length_cons, List.length_append,
        List.length_append] at hfuel
      rw [List.map_cons, joined_cons_cons, ← List.map_cons, Json.encodeEntry, List.append_assoc,
        List.append_assoc, List.cons_append, List.cons_append, List.append_assoc]
      refine scanEntries_more (hskip _ ▸ he _ _ _ hdeepEntry ended_comma (by omega)) ?_
      have hbegins :
          Begins (joined sep ((second :: entries).map (Json.encodeEntry sep f.digits))) :=
        ⟨'"', _, rfl, by decide⟩
      rw [List.append_assoc, skipWs_gap, (hbegins.append _).skipWs]
      exact ih (List.cons_ne_nil _ _) hdeep hreadable hentries (by omega)

theorem scanOnce_items {items : List Json} (hdeep : r.tooDeep (depth + 1) = false)
    (hbegins : Begins text) (hitems : scanItems r fuel (depth + 1) text = .ok (items, rest)) :
    scanOnce r (fuel + 1) depth ('[' :: text) = .ok (.arr items, rest) := by
  have hskip := hbegins.skipWs
  obtain ⟨c, text, rfl, hc⟩ := hbegins
  simp only [List.mem_cons, not_or] at hc
  rw [scanOnce, hskip, hdeep, if_neg Bool.false_ne_true]
  split
  · next heq => exact absurd (List.cons.inj heq).1 hc.2.2.2.2.1
  · rw [hitems]
    rfl

theorem scanOnce_entries {entries : List (String × Json)} (hdeep : r.tooDeep (depth + 1) = false)
    (hbegins : Begins text)
    (hentries : scanEntries r fuel (depth + 1) text = .ok (entries, rest)) :
    scanOnce r (fuel + 1) depth ('\x7b' :: text) = .ok (.obj (dictOf entries), rest) := by
  have hskip := hbegins.skipWs
  obtain ⟨c, text, rfl, hc⟩ := hbegins
  simp only [List.mem_cons, not_or] at hc
  rw [scanOnce, hskip, hdeep, if_neg Bool.false_ne_true]
  split
  · next heq => exact absurd (List.cons.inj heq).1 hc.2.2.2.2.2.1
  · rw [hentries]
    rfl

/-- A dict of items without a key twice has these items. -/
theorem dictOf_nodup {α : Type} {items : List (String × α)} (h : (items.map (·.1)).Nodup) :
    dictOf items = items := by
  suffices ∀ items entries : List (String × α), ((entries ++ items).map (·.1)).Nodup →
      items.foldl (fun entries e => setEntry entries e.1 e.2) entries = entries ++ items from
    this items [] h
  intro items
  induction items with
  | nil => exact fun entries _ => (List.append_nil entries).symm
  | cons item items ih =>
    intro entries hnodup
    have hnew : setEntry entries item.1 item.2 = entries ++ [item] := by
      refine if_neg fun hany => ?_
      obtain ⟨e, he, hkey⟩ := List.any_eq_true.mp hany
      rw [List.map_append, List.nodup_append] at hnodup
      exact hnodup.2.2 e.1 (List.mem_map_of_mem he) item.1 (by simp) (by simpa using hkey)
    rw [List.foldl_cons, hnew, ih _ (by simpa using hnodup), List.append_assoc]
    rfl

theorem scans_of_succ {value : Json} (h : ∀ fuel depth rest,
    (∀ d ≤ depth + value.depth, tooDeep d = false) → Ended rest →
    2 * (value.encode sep f.digits).length < fuel + 1 →
    scanOnce (f.readerWith tooDeep) (fuel + 1) depth (value.encode sep f.digits ++ rest) =
      .ok (value, rest)) :
    Scans f sep tooDeep value := by
  intro fuel depth rest hdeep hrest hfuel
  cases fuel with
  | zero => exact absurd hfuel (Nat.not_lt_zero _)
  | succ fuel => exact h fuel depth rest hdeep hrest hfuel

theorem scans_encode {value : Json} (h : value.Readable f) : Scans f sep tooDeep value := by
  induction value using Json.byParts with
  | null => exact scans_of_succ fun _ _ _ _ _ _ => rfl
  | bool b => exact scans_of_succ fun _ _ _ _ _ _ => by cases b <;> rfl
  | int n =>
    simp only [Json.Readable] at h
    exact scans_of_succ fun _ _ _ _ hrest _ => scanOnce_int h hrest
  | float x => exact scans_of_succ fun _ _ _ _ hrest _ => scanOnce_float h hrest
  | str s => exact scans_of_succ fun _ _ _ _ _ _ => scanOnce_string s
  | arr items ih =>
    refine scans_of_succ fun fuel depth rest hdeep _ hfuel => ?_
    rw [Json.depth] at hdeep
    simp only [Json.Readable, Json.readableItems_iff] at h
    simp only [Json.encode, Json.encodeItems_eq, List.length_cons, List.length_append,
      List.length_nil] at hfuel ⊢
    rw [List.cons_append, List.append_assoc, List.cons_append, List.nil_append]
    have hopen : tooDeep (depth + 1) = false := hdeep _ (by omega)
    by_cases hne : items = []
    · subst hne
      show (if tooDeep (depth + 1) then _ else _) = _
      rw [hopen]
      rfl
    · refine scanOnce_items hopen ((joined_begins ?_ ?_).append _)
        (scanItems_encode hne ?_ h (fun item hitem => ih item hitem (h item hitem)) (by omega))
      · simpa using hne
      · intro text htext
        obtain ⟨item, hitem, rfl⟩ := List.mem_map.mp htext
        exact Json.encode_begins (h item hitem)
      · intro item hitem d hd
        have hle := Json.depth_item hitem
        exact hdeep d (by omega)
  | obj entries ih =>
    refine scans_of_succ fun fuel depth rest hdeep _ hfuel => ?_
    rw [Json.depth] at hdeep
    simp only [Json.Readable, Json.readableEntries_iff] at h
    obtain ⟨hnodup, h⟩ := h
    simp only [Json.encode, Json.encodeEntries_eq, List.length_cons, List.length_append,
      List.length_nil] at hfuel ⊢
    rw [List.cons_append, List.append_assoc, List.cons_append, List.nil_append]
    have hopen : tooDeep (depth + 1) = false := hdeep _ (by omega)
    by_cases hne : entries = []
    · subst hne
      show (if tooDeep (depth + 1) then _ else _) = _
      rw [hopen]
      rfl
    · conv_rhs => rw [← dictOf_nodup hnodup]
      refine scanOnce_entries hopen ((joined_begins ?_ ?_).append _)
        (scanEntries_encode hne ?_ h (fun e he => ih e he (h e he)) (by omega))
      · simpa using hne
      · intro text htext
        obtain ⟨e, he, rfl⟩ := List.mem_map.mp htext
        exact ⟨'"', _, rfl, by decide⟩
      · intro e he d hd
        have hle := Json.depth_entry he
        exact hdeep d (by omega)

/-- `json.loads` reads back what `json.dumps` wrote, if it may open the containers. -/
theorem loads_encode (sep : Separators) {value : Json} (h : value.Readable f)
    (hdeep : ∀ d ≤ value.depth, tooDeep d = false) :
    loads (f.readerWith tooDeep) (String.ofList (value.encode sep f.digits)) = .ok value := by
  have hbegins : Begins (value.encode sep f.digits) := Json.encode_begins h
  have hscans : Scans f sep tooDeep value := scans_encode h
  have hscan := hscans (2 * (value.encode sep f.digits).length + 1) 0 [] (by simpa using hdeep)
    (by rintro c ⟨⟩) (Nat.lt_succ_self _)
  rw [List.append_nil] at hscan
  have hmark : (value.encode sep f.digits).head? ≠ some '\uFEFF' := by
    obtain ⟨c, rest, heq, hc⟩ := hbegins
    rw [heq]
    rintro ⟨⟩
    exact hc (by decide)
  rw [loads, String.toList_ofList, hbegins.skipWs, if_neg hmark, hscan]
  rfl

end

/-! ### Long integers -/

namespace Json

/-- `json.dumps(value, ensure_ascii=False)`: an integer that is too long is a `ValueError`. -/
def dumpsSpaced (digits : ℚ → String) (value : Json) : Except PyExc String :=
  if ∀ n ∈ value.ints, Prints n then .ok (String.ofList (value.encode .spaced digits))
  else .error .valueError

theorem mem_intsEntries {n : Int} {entries : List (String × Json)} :
    n ∈ intsEntries entries ↔ ∃ e ∈ entries, n ∈ e.2.ints := by
  induction entries with
  | nil => simp [intsEntries]
  | cons e rest ih =>
    rw [intsEntries, List.mem_append, ih]
    simp

/-- `json.loads` reads back what `json.dumps` wrote of a document without floats. -/
theorem loads_dumpsSpaced {r : JsonReader} {digits : ℚ → String} {value : Json}
    (hints : ∀ n ∈ value.ints, Prints n)
    (hreadable : ∀ f : FloatTexts, value.Readable f)
    (hdeep : ∀ d ≤ value.depth, r.tooDeep d = false) :
    ∃ text, value.dumpsSpaced digits = .ok text ∧ loads r text = .ok value := by
  let f : FloatTexts :=
    { isFloat := fun _ => false, digits := digits, floatOf := r.floatOf
      isFloatText := nofun, floatOf_digits := nofun }
  have hloads : loads (f.readerWith r.tooDeep) (String.ofList (value.encode .spaced f.digits)) =
      .ok value := loads_encode .spaced (hreadable f) hdeep
  exact ⟨_, if_pos hints, hloads⟩

end Json

end SafactoryServer
