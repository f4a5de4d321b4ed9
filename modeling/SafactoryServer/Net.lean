import SafactoryServer.Python
import Mathlib.Algebra.Group.Nat.Defs

/-! IP addresses and URLs, as Python's `ipaddress` module reads them and the orchestrator writes
them. -/

namespace SafactoryServer

/-- The address that `ipaddress.ip_address` returns: its number, and the scope of an IPv6 one. -/
inductive IPAddress
  | v4 (ip : Nat)
  | v6 (ip : Nat) (scope : Option (List Char))
deriving DecidableEq, Repr

namespace IPAddress

def decimalDigit? (c : Char) : Option Nat := if c.isDigit then some (c.toNat - '0'.toNat) else none

def hexDigit? (c : Char) : Option Nat :=
  if c.isDigit then some (c.toNat - '0'.toNat)
  else if 'a' ≤ c ∧ c ≤ 'f' then some (c.toNat - 'a'.toNat + 10)
  else if 'A' ≤ c ∧ c ≤ 'F' then some (c.toNat - 'A'.toNat + 10)
  else none

/-- The number that digits of a base denote. -/
def digits? (base : Nat) (digit? : Char → Option Nat) (text : List Char) : Option Nat :=
  text.foldlM (fun n c => (digit? c).map (base * n + ·)) 0

/-- `IPv4Address._parse_octet`. -/
def parseOctet (text : List Char) : Option Nat :=
  if text.isEmpty || 3 < text.length || (text ≠ ['0'] && text.head? = some '0') then none
  else do
    let n ← digits? 10 decimalDigit? text
    if 255 < n then none else some n

/-- `IPv4Address._ip_int_from_string`. -/
def parse4 (text : List Char) : Option Nat :=
  match (text.splitOn '.').mapM parseOctet with
  | some [a, b, c, d] => some (((a * 256 + b) * 256 + c) * 256 + d)
  | _ => none

/-- `IPv6Address._parse_hextet`. -/
def parseHextet (text : List Char) : Option Nat :=
  if text.isEmpty || 4 < text.length then none else digits? 16 hexDigit? text

/-- The parts of an IPv6 address, an IPv4 suffix replaced by two hextets; a hextet computed from
the suffix is `.inr`. -/
def suffixed (parts : List (List Char)) : Option (List (List Char ⊕ Nat)) :=
  match parts.getLast? with
  | some last =>
    if last.contains '.' then do
      let n ← parse4 last
      some (parts.dropLast.map .inl ++ [.inr (n / 65536), .inr (n % 65536)])
    else some (parts.map .inl)
  | none => none

def isBlank : List Char ⊕ Nat → Bool
  | .inl text => text.isEmpty
  | .inr _ => false

def partValue : List Char ⊕ Nat → Option Nat
  | .inl text => parseHextet text
  | .inr n => some n

def joinParts (start : Nat) (parts : List (List Char ⊕ Nat)) : Option Nat :=
  parts.foldlM (fun n part => (partValue part).map (65536 * n + ·)) start

/-- The places of `::`: blank parts that are neither first nor last. -/
def skips (parts : List (List Char ⊕ Nat)) : List Nat :=
  (List.range parts.length).filter fun i =>
    1 ≤ i && i + 1 < parts.length && (parts[i]?.map isBlank).getD false

/-- `IPv6Address._ip_int_from_string`. -/
def parse6 (text : List Char) : Option Nat := do
  let pieces := text.splitOn ':'
  if pieces.length < 3 then none
  let parts ← suffixed pieces
  if 9 < parts.length then none
  let first := (parts.head?.map isBlank).getD true
  let last := (parts.getLast?.map isBlank).getD true
  match skips parts with
  | [] => if parts.length ≠ 8 || first || last then none else joinParts 0 parts
  | [skip] =>
    -- `parts_hi` and `parts_lo`: a blank end is allowed only next to `::`
    let hi := if first then skip - 1 else skip
    let lo := if last then parts.length - skip - 2 else parts.length - skip - 1
    if (first && hi ≠ 0) || (last && lo ≠ 0) || 8 < hi + lo + 1 then none
    else do
      let high ← joinParts 0 (parts.take hi)
      joinParts (high * 65536 ^ (8 - (hi + lo))) (parts.drop (parts.length - lo))
  | _ => none

/-- `IPv6Address._split_scope_id`. -/
def splitScope (text : List Char) : Option (List Char × Option (List Char)) :=
  match text.splitOn '%' with
  | [address] => some (address, none)
  | [address, scope] => if scope.isEmpty then none else some (address, some scope)
  | _ => none

/-- `ipaddress.ip_address`, with `none` for `ValueError`. -/
def parse (text : String) : Option IPAddress :=
  match parse4 text.toList with
  | some n => some (.v4 n)
  | none =>
    if text.toList.contains '/' then none
    else do
      let (address, scope) ← splitScope text.toList
      let n ← parse6 address
      some (.v6 n scope)

def version : IPAddress → Nat
  | .v4 _ => 4
  | .v6 _ _ => 6

def isLoopback : IPAddress → Bool
  | .v4 n => n / 2 ^ 24 = 127
  | .v6 n _ => n = 1

def isUnspecified : IPAddress → Bool
  | .v4 n => n = 0
  | .v6 n _ => n = 0

def isLinkLocal : IPAddress → Bool
  | .v4 n => n / 2 ^ 16 = 169 * 256 + 254
  | .v6 n _ => n / 2 ^ 118 = 0x3fa

def isMulticast : IPAddress → Bool
  | .v4 n => n / 2 ^ 28 = 14
  | .v6 n _ => n / 2 ^ 120 = 255

/-- `IPv4Address._string_from_ip_int`. -/
def str4 (n : Nat) : List Char :=
  ['.'].intercalate ([n / 2 ^ 24, n / 2 ^ 16 % 256, n / 2 ^ 8 % 256, n % 256].map (Nat.toDigits 10))

example : parse "127.0.0.1" = some (.v4 2130706433) := by decide

example : parse "::ffff:10.0.0.1" = some (.v6 281470849515521 none) := by decide

theorem toDigits_decimalDigit {c : Char} {n : Nat} (h : decimalDigit? c = some n) :
    n < 10 ∧ Nat.digitChar n = c := by
  unfold decimalDigit? at h
  split at h
  · next hc =>
    cases h
    obtain ⟨hlow, hhigh⟩ := Char.isDigit_iff_toNat.mp hc
    change 48 ≤ c.toNat at hlow
    change c.toNat ≤ 57 at hhigh
    have hd : c.toNat - 48 < 10 := by omega
    have hall : ∀ d < 10, Nat.digitChar d = Char.ofNat (d + 48) := by decide
    refine ⟨hd, ?_⟩
    change Nat.digitChar (c.toNat - 48) = c
    rw [hall _ hd, Nat.sub_add_cancel hlow, Char.ofNat_toNat]
  · cases h

/-- Digits behind a positive number are read as its last digits. -/
theorem toDigits_digits {text : List Char} {m n : Nat} (hm : 0 < m)
    (h : text.foldlM (fun n c => (decimalDigit? c).map (10 * n + ·)) m = some n) :
    Nat.toDigits 10 n = Nat.toDigits 10 m ++ text := by
  induction text generalizing m with
  | nil =>
    cases h
    rw [List.append_nil]
  | cons c text ih =>
    rw [List.foldlM_cons] at h
    cases hc : decimalDigit? c with
    | none =>
      rw [hc] at h
      cases h
    | some d =>
      rw [hc] at h
      obtain ⟨hd, hchar⟩ := toDigits_decimalDigit hc
      rw [ih (m := 10 * m + d) (by omega) h, ← Nat.toDigits_append_toDigits (by omega) hm hd,
        Nat.toDigits_of_lt_base hd, hchar, List.append_assoc]
      rfl

/-- An octet has no leading zero, so its number prints as it is. -/
theorem toDigits_octet {text : List Char} {n : Nat} (h : parseOctet text = some n) :
    n < 256 ∧ Nat.toDigits 10 n = text := by
  unfold parseOctet at h
  split at h
  · cases h
  · next hform =>
    obtain ⟨m, hm, hle⟩ := Option.bind_eq_some_iff.mp h
    split at hle
    · cases hle
    · next hsmall =>
      cases hle
      refine ⟨by omega, ?_⟩
      cases text with
      | nil => simp at hform
      | cons c text =>
        unfold digits? at hm
        rw [List.foldlM_cons] at hm
        cases hc : decimalDigit? c with
        | none =>
          rw [hc] at hm
          cases hm
        | some d =>
          rw [hc] at hm
          obtain ⟨hd, hchar⟩ := toDigits_decimalDigit hc
          change text.foldlM _ (10 * 0 + d) = _ at hm
          rw [Nat.mul_zero, Nat.zero_add] at hm
          by_cases hzero : d = 0
          · subst hzero
            subst hchar
            -- a zero stands alone
            cases text with
            | nil =>
              cases hm
              rfl
            | cons c text => simp [Nat.digitChar] at hform
          · rw [toDigits_digits (by omega) hm, Nat.toDigits_of_lt_base hd, hchar]
            rfl

theorem toDigits_octets {parts : List (List Char)} {octets : List Nat}
    (h : parts.mapM parseOctet = some octets) :
    (∀ n ∈ octets, n < 256) ∧ octets.map (Nat.toDigits 10) = parts := by
  induction parts generalizing octets with
  | nil =>
    cases h
    exact ⟨nofun, rfl⟩
  | cons part parts ih =>
    rw [List.mapM_cons] at h
    obtain ⟨n, hn, h⟩ := Option.bind_eq_some_iff.mp h
    obtain ⟨rest, hrest, h⟩ := Option.bind_eq_some_iff.mp h
    cases h
    obtain ⟨hsmall, hdigits⟩ := toDigits_octet hn
    obtain ⟨hall, hmap⟩ := ih hrest
    exact ⟨List.forall_mem_cons.mpr ⟨hsmall, hall⟩, by rw [List.map_cons, hdigits, hmap]⟩

/-- A parsed address prints as it was written. -/
theorem str4_parse4 {text : List Char} {n : Nat} (h : parse4 text = some n) : str4 n = text := by
  unfold parse4 at h
  split at h
  · next a b c d hparts =>
    cases h
    obtain ⟨hall, hmap⟩ := toDigits_octets hparts
    simp only [List.forall_mem_cons] at hall
    obtain ⟨ha, hb, hc, hd, -⟩ := hall
    have hbytes : [(((a * 256 + b) * 256 + c) * 256 + d) / 2 ^ 24,
        (((a * 256 + b) * 256 + c) * 256 + d) / 2 ^ 16 % 256,
        (((a * 256 + b) * 256 + c) * 256 + d) / 2 ^ 8 % 256,
        (((a * 256 + b) * 256 + c) * 256 + d) % 256] = [a, b, c, d] := by
      simp only [List.cons.injEq, and_true]
      omega
    rw [str4, hbytes, hmap, List.intercalate_splitOn]
  · cases h

end IPAddress

/-- `_append_url_path`. -/
def appendUrlPath (baseUrl path : String) : String :=
  rstrip ['/'] baseUrl ++ "/" ++ lstrip ['/'] path

/-- `_gateway_url`. -/
def gatewayUrl (scheme address : String) (port : Int) : String :=
  let host := match IPAddress.parse address with
    | some parsed => if parsed.version = 6 then "[" ++ address ++ "]" else address
    | none => address
  scheme ++ "://" ++ host ++ ":" ++ toString port

/-- Nothing is stripped behind another character. -/
theorem rstrip_eq {chars : List Char} {s : String} {before : List Char} {c : Char}
    (hs : s.toList = before ++ [c]) (hc : c ∉ chars) : rstrip chars s = s := by
  rw [rstrip, hs, List.reverse_append, List.reverse_singleton, List.singleton_append,
    List.dropWhile_cons, if_neg (by simpa using hc), List.reverse_cons, List.reverse_reverse, ← hs,
    String.ofList_toList]

theorem natRepr_last (n : Nat) :
    ∃ before c, (Nat.repr n).toList = before ++ [c] ∧ c.isDigit = true := by
  have hne : Nat.toDigits 10 n ≠ [] := by simp
  refine ⟨(Nat.toDigits 10 n).dropLast, (Nat.toDigits 10 n).getLast hne, ?_, ?_⟩
  · rw [Nat.toList_repr, List.dropLast_concat_getLast hne]
  · exact Nat.isDigit_of_mem_toDigits (by omega) (by omega) (List.getLast_mem hne)

theorem toString_last (n : Int) :
    ∃ before c, (toString n).toList = before ++ [c] ∧ c.isDigit = true := by
  rw [Int.toString_eq_repr, Int.repr_eq_if]
  split
  · exact natRepr_last _
  · obtain ⟨before, c, heq, hc⟩ := natRepr_last (-n).toNat
    exact ⟨'-' :: before, c, by rw [String.toList_append, heq]; rfl, hc⟩

/-- A Gateway URL ends in its port, so that a path is appended to all of it. -/
theorem appendUrlPath_gatewayUrl (scheme address path : String) (port : Int) :
    appendUrlPath (gatewayUrl scheme address port) path =
      gatewayUrl scheme address port ++ "/" ++ lstrip ['/'] path := by
  obtain ⟨before, c, hPort, hc⟩ := toString_last port
  have hLast : ∃ before, (gatewayUrl scheme address port).toList = before ++ [c] := by
    rw [gatewayUrl, String.toList_append, hPort, ← List.append_assoc]
    exact ⟨_, rfl⟩
  obtain ⟨before', hLast⟩ := hLast
  rw [appendUrlPath, rstrip_eq hLast fun hMem => ?_]
  rw [List.mem_singleton.mp hMem] at hc
  exact absurd hc (by decide)

end SafactoryServer
