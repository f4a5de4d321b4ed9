import SafactoryServer.Lines
import SafactoryServer.Success
import SafactoryServer.Uri

/-! The URL of a Gateway and the host that `_gateway_has_route` examined. -/

namespace SafactoryServer

/-! ### What the texts of addresses have -/

theorem mem_splitOn (sep : Char) {c : Char} {text : List Char} (hc : c ∈ text) :
    c = sep ∨ ∃ piece ∈ text.splitOn sep, c ∈ piece := by
  by_cases heq : c = sep
  · exact .inl heq
  · exact .inr (Lines.mem_splitOnP hc (beq_eq_false_iff_ne.mpr heq))

/-- A loop that returns has read every item. -/
theorem foldlM_reads {α β : Type} {f : β → α → Option β} {r : α → Bool}
    (hread : ∀ b a, (f b a).isSome = true → r a = true) {items : List α} {start : β}
    (h : (items.foldlM f start).isSome = true) : ∀ a ∈ items, r a = true := by
  induction items generalizing start with
  | nil => nofun
  | cons a rest ih =>
    rw [List.foldlM_cons] at h
    obtain ⟨b, hb⟩ : ∃ b, f start a = some b := by
      cases hb : f start a with
      | none => rw [hb] at h; cases h
      | some b => exact ⟨b, rfl⟩
    rw [hb] at h
    intro a' ha'
    rcases List.mem_cons.mp ha' with rfl | ha'
    · exact hread start a' (by rw [hb]; rfl)
    · exact ih h a' ha'

theorem mapM_reads {α β : Type} {f : α → Option β} {items : List α}
    (h : (items.mapM f).isSome = true) : ∀ a ∈ items, (f a).isSome = true := by
  rw [List.mapM_eq_reverse_foldlM_cons, Option.map_eq_map, Option.isSome_map] at h
  exact foldlM_reads (r := fun a => (f a).isSome) (fun _ _ ha => by simpa using ha) h

theorem of_guard {α : Type} {c : Prop} [Decidable c] {x : Option α} {a : α}
    (h : (if c then none else x) = some a) : ¬ c ∧ x = some a := by
  split at h
  · cases h
  · exact ⟨‹_›, h⟩

theorem of_refused {c : Prop} [Decidable c] {b : Bool} (h : (if c then false else b) = true) :
    ¬ c ∧ b = true := by
  split at h
  · cases h
  · exact ⟨‹_›, h⟩

namespace IPAddress

theorem digits_read {base : Nat} {digit? : Char → Option Nat} {text : List Char} {n : Nat}
    (h : digits? base digit? text = some n) : ∀ c ∈ text, (digit? c).isSome = true :=
  foldlM_reads (r := fun c => (digit? c).isSome) (fun _ _ hc => by simpa using hc)
    (Option.isSome_of_eq_some h)

theorem hexDigit_of_read {c : Char} (h : (hexDigit? c).isSome = true) : Uri.hexDigit c = true := by
  simp only [Uri.hexDigit, Bool.or_eq_true, Bool.and_eq_true, decide_eq_true_eq]
  unfold hexDigit? at h
  split at h
  · next hd => exact .inl (.inl hd)
  · split at h
    · next hd => exact .inl (.inr hd)
    · split at h
      · next hd => exact .inr hd
      · cases h

theorem parseOctet_read {text : List Char} (h : (parseOctet text).isSome = true) :
    ∀ c ∈ text, c.isDigit = true := by
  obtain ⟨n, hn⟩ := Option.isSome_iff_exists.mp h
  obtain ⟨m, hm, -⟩ := Option.bind_eq_some_iff.mp (of_guard hn).2
  intro c hc
  have hread := digits_read hm c hc
  unfold decimalDigit? at hread
  split at hread
  · assumption
  · cases hread

theorem parseHextet_read {text : List Char} (h : (parseHextet text).isSome = true) :
    ∀ c ∈ text, Uri.hexDigit c = true := by
  obtain ⟨n, hn⟩ := Option.isSome_iff_exists.mp h
  exact fun c hc => hexDigit_of_read (digits_read (of_guard hn).2 c hc)

/-- An IPv4 address has digits and points. -/
theorem parse4_read {text : List Char} {n : Nat} (h : parse4 text = some n) :
    ∀ c ∈ text, c.isDigit = true ∨ c = '.' := by
  have hpieces : ((text.splitOn '.').mapM parseOctet).isSome = true := by
    unfold parse4 at h
    split at h
    · next heq => rw [heq]; rfl
    · cases h
  intro c hc
  rcases mem_splitOn '.' hc with heq | ⟨piece, hpiece, hmem⟩
  · exact .inr heq
  · exact .inl (parseOctet_read (mapM_reads hpieces piece hpiece) c hmem)

theorem joinParts_read {start n : Nat} {parts : List (List Char ⊕ Nat)}
    (h : joinParts start parts = some n) :
    ∀ text, .inl text ∈ parts → ∀ c ∈ text, Uri.hexDigit c = true := by
  intro text hmem
  have hread := foldlM_reads (r := fun part => (partValue part).isSome)
    (fun _ _ ha => by simpa using ha) (Option.isSome_of_eq_some h) (.inl text) hmem
  exact parseHextet_read hread

/-- Every part of an IPv6 address is read or blank. -/
theorem joinParts_or_blank {parts : List (List Char ⊕ Nat)} {skip hi lo : Nat} {first last : Bool}
    (hskip : skips parts = [skip])
    (hfirst : first = (parts.head?.map isBlank).getD true)
    (hlast : last = (parts.getLast?.map isBlank).getD true)
    (hhi : hi = if first then skip - 1 else skip)
    (hlo : lo = if last then parts.length - skip - 2 else parts.length - skip - 1)
    (hends : ¬((first && hi ≠ 0) || (last && lo ≠ 0)) = true)
    {part : List Char ⊕ Nat} (hpart : part ∈ parts) :
    isBlank part = true ∨ part ∈ parts.take hi ∨ part ∈ parts.drop (parts.length - lo) := by
  obtain ⟨i, hi', rfl⟩ := List.getElem_of_mem hpart
  have hmem : skip ∈ skips parts := hskip ▸ List.mem_singleton_self skip
  unfold skips at hmem
  simp only [List.mem_filter, List.mem_range, Bool.and_eq_true, decide_eq_true_eq] at hmem
  obtain ⟨hlt, ⟨hone, hinner⟩, hblank⟩ := hmem
  rw [List.getElem?_eq_getElem hlt] at hblank
  by_cases htake : i < hi
  · exact .inr (.inl (List.mem_take_iff_getElem.mpr ⟨i, by omega, rfl⟩))
  · by_cases hdrop : parts.length - lo ≤ i
    · exact .inr (.inr (List.mem_drop_iff_getElem.mpr ⟨i - (parts.length - lo), by omega, by
        congr 1
        omega⟩))
    · left
      have hplaces : i = skip ∨ (first = true ∧ i = 0) ∨ (last = true ∧ i + 1 = parts.length) := by
        simp only [Bool.or_eq_true, Bool.and_eq_true, decide_eq_true_eq, not_or, not_and,
          not_not] at hends
        rcases Bool.eq_false_or_eq_true first with hf | hf <;>
          rcases Bool.eq_false_or_eq_true last with hl | hl <;>
          simp only [hf, hl, if_true, Bool.false_eq_true, if_false, forall_const, true_and,
            false_and, false_or, or_false] at hends hhi hlo ⊢ <;>
          omega
      rcases hplaces with rfl | ⟨hf, rfl⟩ | ⟨hl, hend⟩
      · exact hblank
      · rw [hf, List.head?_eq_getElem?, List.getElem?_eq_getElem hi'] at hfirst
        exact hfirst.symm
      · rw [hl, List.getLast?_eq_getElem?, List.getElem?_eq_getElem (by omega)] at hlast
        have hi_eq : i = parts.length - 1 := by omega
        subst hi_eq
        exact hlast.symm

/-- A piece of an IPv6 address is one of its parts or its IPv4 suffix. -/
theorem suffixed_read {pieces : List (List Char)} {parts : List (List Char ⊕ Nat)}
    (h : suffixed pieces = some parts) {piece : List Char} (hpiece : piece ∈ pieces) :
    .inl piece ∈ parts ∨ ∀ c ∈ piece, c.isDigit = true ∨ c = '.' := by
  unfold suffixed at h
  cases hlast : pieces.getLast? with
  | none => rw [hlast] at h; cases h
  | some last =>
    rw [hlast] at h
    simp only at h
    split at h
    · obtain ⟨n, hn, hparts⟩ := Option.bind_eq_some_iff.mp h
      cases hparts
      have hsplit : pieces = pieces.dropLast ++ [last] := by
        rw [List.dropLast_append_getLast? last hlast]
      rw [hsplit] at hpiece
      rcases List.mem_append.mp hpiece with hpiece | hpiece
      · exact .inl (List.mem_append_left _ (List.mem_map_of_mem hpiece))
      · rw [List.mem_singleton.mp hpiece]
        exact .inr (parse4_read hn)
    · cases h
      exact .inl (List.mem_map_of_mem hpiece)

/-- An IPv6 address has hexadecimal digits, colons and points. -/
theorem parse6_read {text : List Char} {n : Nat} (h : parse6 text = some n) :
    ∀ c ∈ text, Uri.hexDigit c = true ∨ c = ':' ∨ c = '.' := by
  unfold parse6 at h
  simp only at h
  split at h
  · cases h
  obtain ⟨parts, hparts, h⟩ := Option.bind_eq_some_iff.mp h
  split at h
  · cases h
  have hread : ∀ text, .inl text ∈ parts → ∀ c ∈ text, Uri.hexDigit c = true := by
    intro text hmem c hc
    split at h
    · exact joinParts_read (of_guard h).2 text hmem c hc
    · next skip hskip =>
      obtain ⟨hends, h⟩ := of_guard h
      obtain ⟨high, hhigh, hlow⟩ := Option.bind_eq_some_iff.mp h
      rw [Bool.or_eq_true, not_or] at hends
      rcases joinParts_or_blank hskip rfl rfl rfl rfl hends.1 hmem with hblank | hmem | hmem
      · rw [List.isEmpty_iff.mp hblank] at hc
        nomatch hc
      · exact joinParts_read hhigh text hmem c hc
      · exact joinParts_read hlow text hmem c hc
    · cases h
  have hdigit : ∀ c : Char, c.isDigit = true → Uri.hexDigit c = true := by
    intro c hc
    rw [Uri.hexDigit, hc]
    rfl
  intro c hc
  rcases mem_splitOn ':' hc with heq | ⟨piece, hpiece, hmem⟩
  · exact .inr (.inl heq)
  · rcases suffixed_read hparts hpiece with hinl | hsuffix
    · exact .inl (hread piece hinl c hmem)
    · rcases hsuffix c hmem with hd | heq
      · exact .inl (hdigit c hd)
      · exact .inr (.inr heq)

end IPAddress

/-! ### The URL of a Gateway -/

/-- The addresses that may stand in the brackets of a URL. -/
def ipv6Literal (address : List Char) : Bool := (IPAddress.parse6 address).isSome

theorem ipv6Literal_hexadecimal : Uri.Hexadecimal ipv6Literal := by
  intro address h c hc
  obtain ⟨n, hn⟩ := Option.isSome_iff_exists.mp h
  exact IPAddress.parse6_read hn c hc

/-- `ipaddress.ip_address` reads an IPv6 address, which may have a zone. -/
def isIpv6 (host : String) : Bool := (IPAddress.parse host).any fun parsed => parsed.version = 6

/-- The components of a URL that has only a scheme, a host and a port. -/
def plainUri (scheme host : String) (port : Int) : Uri where
  scheme := scheme.toList
  bracketed := isIpv6 host
  host := host.toList
  port := some (toString port).toList

/-- The URL is well-formed, and has this scheme, host and port and nothing else. -/
def ReadsAs (url scheme host : String) (port : Int) : Prop :=
  (∃ uri : Uri, uri.Valid ipv6Literal ∧ uri.text = url.toList) ∧
    ∀ uri : Uri, uri.Valid ipv6Literal → uri.text = url.toList → uri = plainUri scheme host port

namespace RealJobOrchestrator

variable (o : RealJobOrchestrator)

/-- The host that `_gateway_has_route` examines. -/
def examinedHost (snapshot : RJobSnapshot) : String :=
  rstrip ['.'] (o.unicode.lowered (o.unicode.strip (snapshot.address.getD "")))

end RealJobOrchestrator

/-- `_gateway_url` writes the address as it is. -/
theorem gatewayUrl_text (scheme address : String) (port : Int) :
    (gatewayUrl scheme address port).toList = (plainUri scheme address port).text := by
  unfold gatewayUrl
  rw [Uri.text, Uri.authority, Uri.hostText]
  unfold plainUri isIpv6
  simp only [Uri.portText, Uri.queryText, Uri.fragmentText, Uri.marked, String.toList_append,
    Option.elim_none, Option.elim_some, List.nil_append, List.append_nil, List.append_assoc]
  cases IPAddress.parse address with
  | none => rfl
  | some parsed =>
    by_cases hv : parsed.version = 6
    · simp [hv]
    · simp [hv]

/-- A host that the gate lets pass and that is no IPv6 address has the characters of a name. -/
theorem RealJobOrchestrator.examinedHost_name {o : RealJobOrchestrator} {snapshot : RJobSnapshot}
    (halnum : ∀ c, Unicode.isAscii c = false → o.unicode.isalnum c = true → Uri.ucschar c = true)
    (h : o.gatewayHasRoute snapshot = true) (hv : isIpv6 (o.examinedHost snapshot) = false) :
    ∀ c ∈ (o.examinedHost snapshot).toList, Uri.nameChar c = true := by
  have hpoint : Uri.nameChar '.' = true := by decide
  have halpha : ∀ c : Char, c.isAlphanum = true → Uri.nameChar c = true := by
    intro c hc
    rw [Uri.nameChar, Uri.unreserved, hc]
    rfl
  intro c hc
  cases hparse : IPAddress.parse (o.examinedHost snapshot) with
  | some parsed =>
    cases parsed with
    | v6 n scope =>
      rw [isIpv6, hparse] at hv
      cases hv
    | v4 n =>
      have hfour : IPAddress.parse4 (o.examinedHost snapshot).toList = some n := by
        unfold IPAddress.parse at hparse
        split at hparse
        · next heq => cases hparse; exact heq
        · obtain ⟨⟨address, scope⟩, -, hparse⟩ :=
            Option.bind_eq_some_iff.mp (of_guard hparse).2
          obtain ⟨m, -, hparse⟩ := Option.bind_eq_some_iff.mp hparse
          cases hparse
      rcases IPAddress.parse4_read hfour c hc with hd | rfl
      · exact halpha c (by rw [Char.isAlphanum, hd, Bool.or_true])
      · exact hpoint
  | none =>
    unfold gatewayHasRoute at h
    have hgate := (of_refused (of_refused (of_refused h).2).2).2
    rw [show IPAddress.parse (rstrip _ _) = none from hparse] at hgate
    have hlabels := (Bool.and_eq_true_iff.mp hgate).2
    rcases mem_splitOn '.' hc with rfl | ⟨label, hlabel, hmem⟩
    · exact hpoint
    · have hok := List.all_eq_true.mp hlabels label hlabel
      unfold hostLabel at hok
      split at hok
      · have hall := (Bool.and_eq_true_iff.mp hok).2
        rcases Bool.or_eq_true_iff.mp (List.all_eq_true.mp hall c hmem) with hc | hc
        · unfold Unicode.alnum at hc
          split at hc
          · exact halpha c hc
          · next hascii =>
            have hu := halnum c (by simpa using hascii) hc
            rw [Uri.nameChar, Uri.unreserved, hu, Bool.or_true, Bool.true_or]
        · rw [beq_iff_eq.mp hc]
          decide
      · cases hok

/-- An IPv6 address without a zone may stand in brackets. -/
theorem ipv6Literal_of_zoneless {host : String} (hv : isIpv6 host = true)
    (hzone : '%' ∉ host.toList) : ipv6Literal host.toList = true := by
  obtain ⟨parsed, hparse, hversion⟩ := (Option.any_eq_true _ _).mp hv
  unfold IPAddress.parse at hparse
  split at hparse
  · cases hparse
    cases hversion
  · obtain ⟨⟨address, scope⟩, hscope, hparse⟩ := Option.bind_eq_some_iff.mp (of_guard hparse).2
    obtain ⟨n, hn, -⟩ := Option.bind_eq_some_iff.mp hparse
    have hsplit : host.toList.splitOn '%' = [host.toList] := by
      apply List.splitOn_eq_singleton_of_beq_eq_false
      intro c hc
      rw [beq_eq_false_iff_ne]
      rintro rfl
      exact hzone hc
    unfold IPAddress.splitScope at hscope
    rw [hsplit] at hscope
    cases hscope
    rw [ipv6Literal, hn]
    rfl

/-- An IPv6 address is not what is examined of its text in brackets. -/
theorem examined_brackets {u : Unicode} {address host : String}
    (haddress : address.toList = '[' :: (host.toList ++ [']']))
    (hliteral : ipv6Literal host.toList = true) :
    rstrip ['.'] (u.lowered (u.strip address)) ≠ host := by
  have hascii : address.toList.all Unicode.isAscii = true := by
    refine List.all_eq_true.mpr fun c hc => ?_
    rw [haddress] at hc
    rcases List.mem_cons.mp hc with rfl | hc
    · rfl
    · rcases List.mem_append.mp hc with hc | hc
      · have hhex : ∀ c : Char, Uri.hexDigit c = true → Unicode.isAscii c = true := by
          intro c hc
          simp only [Uri.hexDigit, Char.isDigit, Bool.or_eq_true, Bool.and_eq_true,
            decide_eq_true_eq, Char.le_def, ge_iff_le, UInt32.le_iff_toNat_le] at hc
          rw [Unicode.isAscii, decide_eq_true_eq, UInt32.lt_iff_toNat_lt]
          show c.val.toNat < 128
          have h9 : '9'.val.toNat = 57 := rfl
          have hf : 'f'.val.toNat = 102 := rfl
          have hF : 'F'.val.toNat = 70 := rfl
          omega
        rcases ipv6Literal_hexadecimal _ hliteral c hc with h | rfl | rfl
        · exact hhex c h
        · rfl
        · rfl
      · rw [List.mem_singleton.mp hc]
        rfl
  have hstrip : u.strip address = address := by
    have hopen : u.space '[' = false := rfl
    have hclose : u.space ']' = false := rfl
    rw [Unicode.strip, haddress, List.dropWhile_cons, if_neg (by simp [hopen]), List.reverse_cons,
      List.reverse_append, List.reverse_singleton, List.singleton_append, List.cons_append,
      List.dropWhile_cons, if_neg (by simp [hclose]), ← List.cons_append, ← List.singleton_append,
      ← List.reverse_singleton, ← List.reverse_append, ← List.reverse_cons, List.reverse_reverse,
      ← haddress, String.ofList_toList]
  intro heq
  have hlength := congrArg (fun s : String => s.toList.length) heq
  have hend : (address.toList.map Char.toLower) =
      (('[' :: host.toList).map Char.toLower) ++ [']'] := by
    rw [haddress, ← List.cons_append, List.map_append]
    rfl
  rw [hstrip, Unicode.lowered, if_pos hascii,
    rstrip_eq (c := ']') (by rw [String.toList_ofList, hend]) (by decide)] at hlength
  simp only [String.toList_ofList, List.length_map, haddress, List.length_cons,
    List.length_append] at hlength
  omega

theorem port_digits {port : Int} (h : 1 ≤ port) :
    ∀ c ∈ (toString port).toList, c.isDigit = true := by
  obtain ⟨n, rfl⟩ := Int.eq_ofNat_of_zero_le (show 0 ≤ port by omega)
  intro c hc
  rw [show toString (n : Int) = Nat.repr n from rfl, Nat.toList_repr] at hc
  exact Nat.isDigit_of_mem_toDigits (by omega) (by omega) hc

/-- The port of a snapshot that the HTTP client makes. -/
theorem HttpRJobClient.get_port {u : Unicode} {rjobId : String} {reply : HttpReply}
    {snapshot : RJobSnapshot} (h : HttpRJobClient.get u rjobId reply = .ok snapshot) {port : Int}
    (hport : snapshot.port = some port) : 1 ≤ port := by
  obtain ⟨response, -, h⟩ := bind_ok h
  cases h
  obtain ⟨value, -, hport⟩ := Option.bind_eq_some_iff.mp hport
  obtain ⟨n, -, hport⟩ := Option.bind_eq_some_iff.mp hport
  split at hport
  · next hrange =>
    cases hport
    exact hrange.1
  · cases hport

theorem scheme_valid : ∀ scheme ∈ ["http", "https"],
    (∀ c ∈ scheme.toList.head?, c.isAlpha = true) ∧ scheme.toList ≠ [] ∧
      ∀ c ∈ scheme.toList, Uri.schemeChar c = true := by
  rw [List.forall_mem_cons, List.forall_mem_singleton]
  refine ⟨⟨?_, by decide, List.all_iff_forall_prop.mp (by decide)⟩,
    ⟨?_, by decide, List.all_iff_forall_prop.mp (by decide)⟩⟩
  · rintro c ⟨⟩
    decide
  · rintro c ⟨⟩
    decide

theorem plainUri_valid {scheme host : String} {port : Int} (hscheme : scheme ∈ ["http", "https"])
    (hport : 1 ≤ port) (hliteral : isIpv6 host = true → ipv6Literal host.toList = true)
    (hname : isIpv6 host = false → ∀ c ∈ host.toList, Uri.nameChar c = true) :
    (plainUri scheme host port).Valid ipv6Literal where
  schemeStart := (scheme_valid scheme hscheme).1
  scheme_ne := (scheme_valid scheme hscheme).2.1
  scheme := (scheme_valid scheme hscheme).2.2
  userinfo := nofun
  literal := hliteral
  name hv := .of_all (hname hv)
  port t ht := by
    rw [← Option.some.inj ht]
    exact port_digits hport
  pathStart := nofun
  path := .nil
  query := nofun
  fragment := nofun

theorem plainUri_host {scheme host address : String} {port : Int}
    (h : (plainUri scheme host port).text = (plainUri scheme address port).text) :
    (plainUri scheme host port).hostText = (plainUri scheme address port).hostText := by
  have hrest := (List.append_right_inj _).mp h
  have hauthority := (List.cons.inj (List.cons.inj (List.cons.inj hrest).2).2).2
  exact (List.append_left_inj _).mp ((List.append_left_inj _).mp hauthority)

/-- The URL of an address has the host that is examined of it only if that is the address. -/
theorem host_eq_address {u : Unicode} {scheme host address : String} {port : Int}
    (hexamined : rstrip ['.'] (u.lowered (u.strip address)) = host)
    (hvalid : (plainUri scheme host port).Valid ipv6Literal)
    (hname : isIpv6 host = false → ∀ c ∈ host.toList, Uri.nameChar c = true)
    (h : (plainUri scheme host port).text = (plainUri scheme address port).text) :
    host = address := by
  have hhost := plainUri_host h
  apply String.toList_inj.mp
  cases hv : isIpv6 host with
  | true =>
    cases ha : isIpv6 address with
    | true =>
      simp only [Uri.hostText, plainUri, hv, ha, if_true] at hhost
      exact List.append_cancel_right (List.cons.inj hhost).2
    | false =>
      simp only [Uri.hostText, plainUri, hv, ha, if_true, Bool.false_eq_true, if_false] at hhost
      exact absurd hexamined (examined_brackets hhost.symm (hvalid.literal hv))
  | false =>
    cases ha : isIpv6 address with
    | true =>
      simp only [Uri.hostText, plainUri, hv, ha, if_true, Bool.false_eq_true, if_false] at hhost
      have hbracket := hname hv '[' (hhost ▸ List.mem_cons_self)
      exact absurd hbracket (by decide)
    | false =>
      simp only [Uri.hostText, plainUri, hv, ha, Bool.false_eq_true, if_false] at hhost
      exact hhost

/-- A host in a well-formed URL has no zone. -/
theorem zoneless {scheme host : String} {port : Int}
    (hvalid : (plainUri scheme host port).Valid ipv6Literal)
    (hname : isIpv6 host = false → ∀ c ∈ host.toList, Uri.nameChar c = true) :
    '%' ∉ host.toList := by
  intro hzone
  cases hv : isIpv6 host with
  | true =>
    rcases ipv6Literal_hexadecimal _ (hvalid.literal hv) _ hzone with h | h | h
    · exact absurd h (by decide)
    · exact absurd h (by decide)
    · exact absurd h (by decide)
  | false => exact absurd (hname hv '%' hzone) (by decide)

/-- For a snapshot with a route, the URL of the Gateway has the examined host and the port, and
nothing else, exactly if the address is written as it was examined and has no zone. -/
theorem gateway_url_checked_iff {o : RealJobOrchestrator} {rjobId : String} {reply : HttpReply}
    {snapshot : RJobSnapshot} (hscheme : o.settings.gatewayScheme ∈ ["http", "https"])
    (halnum : ∀ c, Unicode.isAscii c = false → o.unicode.isalnum c = true → Uri.ucschar c = true)
    (hget : HttpRJobClient.get o.unicode rjobId reply = .ok snapshot)
    (hroute : o.gatewayHasRoute snapshot = true) :
    (∃ port, snapshot.port = some port ∧ ReadsAs (o.gatewayUrlOf snapshot)
        o.settings.gatewayScheme (o.examinedHost snapshot) port) ↔
      snapshot.address = some (o.examinedHost snapshot) ∧
        '%' ∉ (o.examinedHost snapshot).toList := by
  obtain ⟨haddress, hport⟩ := o.gatewayHasRoute_some hroute
  obtain ⟨address, haddress⟩ := Option.isSome_iff_exists.mp haddress
  obtain ⟨port, hport⟩ := Option.isSome_iff_exists.mp hport
  have hname := RealJobOrchestrator.examinedHost_name halnum hroute
  have htext : (o.gatewayUrlOf snapshot).toList =
      (plainUri o.settings.gatewayScheme address port).text := by
    rw [RealJobOrchestrator.gatewayUrlOf, haddress, hport]
    exact gatewayUrl_text _ address port
  have hexamined : rstrip ['.'] (o.unicode.lowered (o.unicode.strip address)) =
      o.examinedHost snapshot := by
    rw [RealJobOrchestrator.examinedHost, haddress]
    rfl
  rw [haddress, hport]
  generalize o.examinedHost snapshot = host at hname hexamined ⊢
  constructor
  · rintro ⟨port', hport', ⟨uri, hvalid, huri⟩, hunique⟩
    obtain rfl := Option.some.inj hport'
    obtain rfl := hunique uri hvalid huri
    exact ⟨congrArg some (host_eq_address hexamined hvalid hname (huri.trans htext)).symm,
      zoneless hvalid hname⟩
  · rintro ⟨hsame, hzone⟩
    obtain rfl := Option.some.inj hsame
    have hvalid := plainUri_valid hscheme (HttpRJobClient.get_port hget hport)
      (fun hv => ipv6Literal_of_zoneless hv hzone) hname
    exact ⟨port, rfl, ⟨_, hvalid, htext.symm⟩, fun uri huri heq =>
      huri.text_unique ipv6Literal_hexadecimal hvalid (heq.trans htext)⟩

/-- The answer of the platform for a Gateway that runs at this address. -/
def runningAt (address : String) : HttpReply :=
  .success (.json (.obj [("state", .str "running"), ("ready", .bool true),
    ("address", .str address), ("port", .int 8000)]))

/-- The snapshot of a Gateway that runs at this address. -/
def snapshotAt (address : String) : RJobSnapshot where
  rjobId := "gateway"
  state := .running
  ready := true
  address := some address
  port := some 8000

theorem gateway_url_checked_ipv6 :
    ∃ port, (snapshotAt "fd00::1").port = some port ∧
      ReadsAs (sampleOrchestrator.gatewayUrlOf (snapshotAt "fd00::1")) "http"
        (sampleOrchestrator.examinedHost (snapshotAt "fd00::1")) port :=
  (@gateway_url_checked_iff sampleOrchestrator "gateway" (runningAt "fd00::1")
    (snapshotAt "fd00::1") (by decide) nofun rfl (by decide)).mpr (by decide)

/-- The space before an address is not examined, and stays in the URL. -/
theorem spaced_address_unchecked :
    HttpRJobClient.get sampleOrchestrator.unicode "gateway" (runningAt " 10.0.0.1") =
        .ok (snapshotAt " 10.0.0.1") ∧
      sampleOrchestrator.gatewayHasRoute (snapshotAt " 10.0.0.1") = true ∧
      sampleOrchestrator.gatewayUrlOf (snapshotAt " 10.0.0.1") = "http:// 10.0.0.1:8000" ∧
      ¬ ∃ port, (snapshotAt " 10.0.0.1").port = some port ∧
        ReadsAs (sampleOrchestrator.gatewayUrlOf (snapshotAt " 10.0.0.1")) "http"
          (sampleOrchestrator.examinedHost (snapshotAt " 10.0.0.1")) port := by
  refine ⟨rfl, by decide, by decide, ?_⟩
  rintro ⟨port, hport, ⟨uri, hvalid, huri⟩, hunique⟩
  obtain rfl := Option.some.inj hport
  obtain rfl := hunique uri hvalid huri
  revert huri
  decide

end SafactoryServer
