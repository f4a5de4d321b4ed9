import Mathlib.Data.List.Basic

/-! Percent-encoding and form data: octets written as `%XX`, texts as the octets of their UTF-8, and
the pairs of a query.  The decoders follow `urllib.parse`: an octet that is no part of a character
is replaced, and a `%` without two hexadecimal digits stands for itself. -/

namespace Percent

/-! ### UTF-8 -/

def utf8 (text : List Char) : List UInt8 := text.flatMap String.utf8EncodeChar

/-- The octets that may follow a first octet: how many, and the range of the first of them. -/
def following (octet : UInt8) : Option (Nat × UInt8 × UInt8) :=
  if 0xC2 ≤ octet ∧ octet ≤ 0xDF then some (1, 0x80, 0xBF)
  else if octet = 0xE0 then some (2, 0xA0, 0xBF)
  else if octet = 0xED then some (2, 0x80, 0x9F)
  else if 0xE1 ≤ octet ∧ octet ≤ 0xEF then some (2, 0x80, 0xBF)
  else if octet = 0xF0 then some (3, 0x90, 0xBF)
  else if 0xF1 ≤ octet ∧ octet ≤ 0xF3 then some (3, 0x80, 0xBF)
  else if octet = 0xF4 then some (3, 0x80, 0x8F)
  else none

/-- The length of what one replacement character stands for: the longest start of a character, or
one octet. -/
def brokenLength : List UInt8 → Nat
  | [] => 0
  | octet :: rest =>
    match following octet, rest with
    | some (count, low, high), next :: rest =>
      if low ≤ next ∧ next ≤ high then
        2 + ((rest.take (count - 1)).takeWhile fun b => 0x80 ≤ b && b ≤ 0xBF).length
      else 1
    | _, _ => 1

/-- The characters of the first `fuel` characters or breaks. -/
def decodeFrom : (fuel : Nat) → List UInt8 → List Char
  | _, [] => []
  | 0, _ => []
  | fuel + 1, octets =>
    match octets.toByteArray.utf8DecodeChar? 0 with
    | some c => c :: decodeFrom fuel (octets.drop c.utf8Size)
    | none => '\uFFFD' :: decodeFrom fuel (octets.drop (brokenLength octets))

/-- `bytes.decode("utf-8", errors="replace")`. -/
def decode (octets : List UInt8) : List Char := decodeFrom octets.length octets

/-! ### Octets and texts -/

/-- The characters that are never encoded. -/
def unreserved (octet : UInt8) : Bool :=
  let c := Char.ofNat octet.toNat
  octet < 0x80 && (c.isAlphanum || c == '_' || c == '.' || c == '-' || c == '~')

def hexDigit (n : Nat) : Char := Char.ofNat (if n < 10 then '0'.toNat + n else 'A'.toNat + (n - 10))

def hexValue? (c : Char) : Option Nat :=
  if '0' ≤ c ∧ c ≤ '9' then some (c.toNat - '0'.toNat)
  else if 'A' ≤ c ∧ c ≤ 'F' then some (c.toNat - 'A'.toNat + 10)
  else if 'a' ≤ c ∧ c ≤ 'f' then some (c.toNat - 'a'.toNat + 10)
  else none

def quoteOctet (octet : UInt8) : List Char :=
  if unreserved octet then [Char.ofNat octet.toNat]
  else ['%', hexDigit (octet.toNat / 16), hexDigit (octet.toNat % 16)]

/-- `quote(text, safe='')`. -/
def quote (text : List Char) : List Char := (utf8 text).flatMap quoteOctet

/-- `unquote_to_bytes` of an ASCII text. -/
def octets : List Char → List UInt8
  | '%' :: a :: b :: rest =>
    match hexValue? a, hexValue? b with
    | some m, some n => UInt8.ofNat (16 * m + n) :: octets rest
    | _, _ => UInt8.ofNat '%'.toNat :: octets (a :: b :: rest)
  | c :: rest => UInt8.ofNat c.toNat :: octets rest
  | [] => []

/-- The text after the ASCII characters of `run`, which are in reverse. -/
def unquoteFrom (run : List Char) : List Char → List Char
  | [] => decode (octets run.reverse)
  | c :: rest =>
    if c.toNat < 0x80 then unquoteFrom (c :: run) rest
    else decode (octets run.reverse) ++ c :: unquoteFrom [] rest

/-- `unquote`. -/
def unquote (text : List Char) : List Char := unquoteFrom [] text

/-! ### The pairs of a query -/

/-- A part of a pair: `+` stands for a space. -/
def formText (part : List Char) : List Char :=
  unquote (part.map fun c => if c = '+' then ' ' else c)

/-- The name and the value of a pair. -/
def formPair (pair : List Char) : List Char × List Char :=
  (formText (pair.takeWhile (· ≠ '=')), formText ((pair.dropWhile (· ≠ '=')).drop 1))

/-- `parse_qsl(query, keep_blank_values=True)`. -/
def parseQsl (query : List Char) : List (List Char × List Char) :=
  ((query.splitOn '&').filter (!·.isEmpty)).map formPair

def quotePair (pair : List Char × List Char) : List Char := quote pair.1 ++ '=' :: quote pair.2

/-- The query with these pairs. -/
def query (pairs : List (List Char × List Char)) : List Char :=
  ['&'].intercalate (pairs.map quotePair)

/-! ### What is decoded of an encoded text -/

variable {text rest : List Char}

theorem hexValue?_hexDigit : ∀ n < 16, hexValue? (hexDigit n) = some n := by decide

theorem hexDigit_ascii : ∀ n < 16, (hexDigit n).toNat < 0x80 ∧ hexDigit n ∉ ['&', '=', '+'] := by
  decide

theorem toNat_octet (octet : UInt8) : (Char.ofNat octet.toNat).toNat = octet.toNat := by
  have hlt : octet.toNat < 256 := octet.toNat_lt
  have hvalid : octet.toNat.isValidChar := .inl (by omega)
  rw [Char.ofNat, dif_pos hvalid]
  rfl

/-- What stands for itself is ASCII and no mark of a query. -/
theorem unreserved_ascii {octet : UInt8} (h : unreserved octet = true) :
    octet.toNat < 0x80 ∧ Char.ofNat octet.toNat ∉ ['%', '&', '=', '+'] := by
  unfold unreserved at h
  obtain ⟨hlt, hchar⟩ := Bool.and_eq_true_iff.mp h
  refine ⟨by simpa [UInt8.lt_iff_toNat_lt] using hlt, fun hmem => ?_⟩
  simp only [List.mem_cons, List.not_mem_nil, or_false] at hmem
  rcases hmem with heq | heq | heq | heq <;> rw [heq] at hchar <;> revert hchar <;> decide

theorem octets_quoteOctet (octet : UInt8) :
    octets (quoteOctet octet ++ rest) = octet :: octets rest := by
  have hlt : octet.toNat < 256 := octet.toNat_lt
  unfold quoteOctet
  split
  · next h =>
    obtain ⟨-, hmark⟩ := unreserved_ascii h
    have hne : Char.ofNat octet.toNat ≠ '%' := fun heq => hmark (by simp [heq])
    rw [List.singleton_append, octets.eq_2 _ _ (fun _ _ _ heq _ => hne heq), toNat_octet]
    simp
  · have hhigh : hexValue? (hexDigit (octet.toNat / 16)) = some (octet.toNat / 16) :=
      hexValue?_hexDigit _ (by omega)
    have hlow : hexValue? (hexDigit (octet.toNat % 16)) = some (octet.toNat % 16) :=
      hexValue?_hexDigit _ (by omega)
    simp only [List.cons_append, List.nil_append, octets, hhigh, hlow]
    rw [show 16 * (octet.toNat / 16) + octet.toNat % 16 = octet.toNat by omega]
    simp

theorem octets_flatMap (bytes : List UInt8) : octets (bytes.flatMap quoteOctet) = bytes := by
  induction bytes with
  | nil => rfl
  | cons octet bytes ih => rw [List.flatMap_cons, octets_quoteOctet, ih]

theorem octets_quote (text : List Char) : octets (quote text) = utf8 text := octets_flatMap _

/-- An encoded text is ASCII without the marks of a query. -/
theorem mem_quote {c : Char} (h : c ∈ quote text) : c.toNat < 0x80 ∧ c ∉ ['&', '=', '+'] := by
  obtain ⟨octet, -, h⟩ := List.mem_flatMap.mp h
  have hlt : octet.toNat < 256 := octet.toNat_lt
  unfold quoteOctet at h
  split at h
  · next hplain =>
    obtain ⟨hascii, hmark⟩ := unreserved_ascii hplain
    rw [List.mem_singleton.mp h, toNat_octet]
    exact ⟨hascii, fun hmem => hmark (List.mem_cons_of_mem _ hmem)⟩
  · simp only [List.mem_cons, List.not_mem_nil, or_false] at h
    rcases h with rfl | rfl | rfl
    · decide
    · exact hexDigit_ascii _ (by omega)
    · exact hexDigit_ascii _ (by omega)

/-- The first character of the octets of a text. -/
theorem decodeFrom_char (fuel : Nat) (c : Char) (bytes : List UInt8) :
    decodeFrom (fuel + 1) (String.utf8EncodeChar c ++ bytes) = c :: decodeFrom fuel bytes := by
  have hfirst : (String.utf8EncodeChar c ++ bytes).toByteArray.utf8DecodeChar? 0 = some c := by
    rw [List.toByteArray_append]
    exact ByteArray.utf8DecodeChar?_utf8EncodeChar_append
  have hdrop : (String.utf8EncodeChar c ++ bytes).drop c.utf8Size = bytes := by
    rw [← String.length_utf8EncodeChar c, List.drop_left]
  obtain ⟨octet, others, heq⟩ := List.exists_cons_of_ne_nil (String.utf8EncodeChar_ne_nil (c := c))
  rw [heq, List.cons_append] at hfirst hdrop ⊢
  rw [decodeFrom.eq_3 _ _ (by simp), hfirst]
  simp [hdrop]

theorem decodeFrom_utf8 (text : List Char) {fuel : Nat} (h : (utf8 text).length ≤ fuel) :
    decodeFrom fuel (utf8 text) = text := by
  induction text generalizing fuel with
  | nil => cases fuel <;> rfl
  | cons c text ih =>
    have hpos : 0 < (String.utf8EncodeChar c).length :=
      List.length_pos_iff.mpr String.utf8EncodeChar_ne_nil
    simp only [utf8, List.flatMap_cons, List.length_append] at h
    obtain ⟨fuel, rfl⟩ : ∃ n, fuel = n + 1 := ⟨fuel - 1, by omega⟩
    show decodeFrom (fuel + 1) (String.utf8EncodeChar c ++ utf8 text) = _
    rw [decodeFrom_char, ih (by simp only [utf8]; omega)]

/-- A text is read back from its UTF-8. -/
theorem decode_utf8 (text : List Char) : decode (utf8 text) = text :=
  decodeFrom_utf8 text (Nat.le_refl _)

theorem unquoteFrom_ascii (run : List Char) (h : ∀ c ∈ text, c.toNat < 0x80) :
    unquoteFrom run text = decode (octets (run.reverse ++ text)) := by
  induction text generalizing run with
  | nil => rw [unquoteFrom, List.append_nil]
  | cons c text ih =>
    rw [unquoteFrom, if_pos (h c List.mem_cons_self),
      ih (c :: run) fun d hd => h d (List.mem_cons_of_mem c hd)]
    simp

/-- A text is read back from its encoding. -/
theorem unquote_quote (text : List Char) : unquote (quote text) = text := by
  rw [unquote, unquoteFrom_ascii [] fun c hc => (mem_quote hc).1, List.reverse_nil, List.nil_append,
    octets_quote, decode_utf8]

theorem map_quote {f : Char → Char} (h : ∀ c ∉ ['&', '=', '+'], f c = c) (text : List Char) :
    (quote text).map f = quote text := by
  conv => rhs; rw [← List.map_id (quote text)]
  exact List.map_congr_left fun c hc => h c (mem_quote hc).2

theorem formText_quote (text : List Char) : formText (quote text) = text := by
  rw [formText, map_quote (fun c hc => if_neg fun heq => hc (by simp [heq])), unquote_quote]

theorem formPair_quotePair (pair : List Char × List Char) : formPair (quotePair pair) = pair := by
  have hname : ∀ c ∈ quote pair.1, decide (c ≠ '=') = true := by
    intro c hc
    have hmark := (mem_quote hc).2
    exact decide_eq_true fun heq => hmark (by simp [heq])
  unfold formPair quotePair
  rw [List.takeWhile_append_of_pos hname, List.dropWhile_append_of_pos hname]
  simp [formText_quote]

/-- The pairs are read back from the query with them. -/
theorem parseQsl_query (pairs : List (List Char × List Char)) : parseQsl (query pairs) = pairs := by
  by_cases hpairs : pairs = []
  · subst hpairs; rfl
  have hsep : ∀ text ∈ pairs.map quotePair, '&' ∉ text := by
    intro text htext hmem
    obtain ⟨pair, -, rfl⟩ := List.mem_map.mp htext
    rcases List.mem_append.mp hmem with h | h
    · exact (mem_quote h).2 (by simp)
    · rcases List.mem_cons.mp h with h | h
      · exact absurd h (by decide)
      · exact (mem_quote h).2 (by simp)
  have hfilled : (pairs.map quotePair).filter (!·.isEmpty) = pairs.map quotePair := by
    refine List.filter_eq_self.mpr fun text htext => ?_
    obtain ⟨pair, -, rfl⟩ := List.mem_map.mp htext
    simp [quotePair]
  rw [parseQsl, query, List.splitOn_intercalate '&' hsep (by simpa using hpairs), hfilled,
    List.map_map]
  conv => rhs; rw [← List.map_id pairs]
  exact List.map_congr_left fun pair _ => formPair_quotePair pair

end Percent
