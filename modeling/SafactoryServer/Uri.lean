import Mathlib.Data.Bool.AllAny
import Mathlib.Data.List.Basic

/-! The generic syntax of internationalized URIs with an authority: the components, the texts that
they allow, and that a text has one reading.  A predicate `ipv6` recognizes the addresses that may
stand in brackets. -/

/-- The components of a URI, as they are written. -/
structure Uri where
  scheme : List Char
  userinfo : Option (List Char) := none
  /-- Whether the host is in brackets. -/
  bracketed : Bool
  host : List Char
  port : Option (List Char) := none
  path : List Char := []
  query : Option (List Char) := none
  fragment : Option (List Char) := none

namespace Uri

/-! ### Characters -/

/-- The characters beyond ASCII that a component may have. -/
def ucschar (c : Char) : Bool :=
  let n := c.toNat
  (0xA0 ≤ n && n ≤ 0xD7FF) || (0xF900 ≤ n && n ≤ 0xFDCF) || (0xFDF0 ≤ n && n ≤ 0xFFEF) ||
    (0x10000 ≤ n && n < 0xE0000 && n % 0x10000 ≤ 0xFFFD) || (0xE1000 ≤ n && n ≤ 0xEFFFD)

/-- The private characters, which only a query may have. -/
def iprivate (c : Char) : Bool :=
  let n := c.toNat
  (0xE000 ≤ n && n ≤ 0xF8FF) || (0xF0000 ≤ n && n ≤ 0xFFFFD) || (0x100000 ≤ n && n ≤ 0x10FFFD)

def unreserved (c : Char) : Bool :=
  c.isAlphanum || ['-', '.', '_', '~'].contains c || ucschar c

def subDelim (c : Char) : Bool :=
  ['!', '$', '&', '\'', '(', ')', '*', '+', ',', ';', '='].contains c

def schemeChar (c : Char) : Bool := c.isAlphanum || ['+', '-', '.'].contains c

def nameChar (c : Char) : Bool := unreserved c || subDelim c

def userinfoChar (c : Char) : Bool := nameChar c || c == ':'

def pathChar (c : Char) : Bool := nameChar c || [':', '@', '/'].contains c

def fragmentChar (c : Char) : Bool := pathChar c || c == '?'

def queryChar (c : Char) : Bool := fragmentChar c || iprivate c

def hexDigit (c : Char) : Bool :=
  c.isDigit || ('a' ≤ c && c ≤ 'f') || ('A' ≤ c && c ≤ 'F')

/-- Allowed characters and octets in percent-encoding. -/
inductive Encoded (allowed : Char → Bool) : List Char → Prop
  | nil : Encoded allowed []
  | char {c : Char} {rest : List Char} (hc : allowed c = true) (hrest : Encoded allowed rest) :
    Encoded allowed (c :: rest)
  | octet {a b : Char} {rest : List Char} (ha : hexDigit a = true) (hb : hexDigit b = true)
    (hrest : Encoded allowed rest) : Encoded allowed ('%' :: a :: b :: rest)

namespace Encoded

variable {allowed : Char → Bool} {text : List Char} {c : Char}

theorem of_all (h : ∀ c ∈ text, allowed c = true) : Encoded allowed text := by
  induction text with
  | nil => exact .nil
  | cons c rest ih =>
    exact .char (h c List.mem_cons_self) (ih fun d hd => h d (List.mem_cons_of_mem c hd))

theorem mem (h : Encoded allowed text) (hc : c ∈ text) :
    allowed c = true ∨ c = '%' ∨ hexDigit c = true := by
  induction h with
  | nil => nomatch hc
  | char hd _ ih => exact (List.mem_cons.mp hc).elim (fun heq => .inl (heq ▸ hd)) ih
  | octet ha hb _ ih =>
    rcases List.mem_cons.mp hc with rfl | hc
    · exact .inr (.inl rfl)
    · rcases List.mem_cons.mp hc with rfl | hc
      · exact .inr (.inr ha)
      · exact (List.mem_cons.mp hc).elim (fun heq => .inr (.inr (heq ▸ hb))) ih

theorem avoids (h : Encoded allowed text)
    (hc : allowed c = false ∧ c ≠ '%' ∧ hexDigit c = false) : c ∉ text := by
  intro hmem
  rcases h.mem hmem with hallowed | heq | hhex
  · exact absurd hallowed (by simp [hc.1])
  · exact hc.2.1 heq
  · exact absurd hhex (by simp [hc.2.2])

end Encoded

/-! ### Texts -/

/-- A marked text that may be missing. -/
def marked (mark : Char) (t : Option (List Char)) : List Char := t.elim [] (mark :: ·)

/-- The host as it is written in a URI. -/
def hostText (u : Uri) : List Char := if u.bracketed then '[' :: (u.host ++ [']']) else u.host

def portText (u : Uri) : List Char := marked ':' u.port

def authority (u : Uri) : List Char := u.userinfo.elim [] (· ++ ['@']) ++ (u.hostText ++ u.portText)

def fragmentText (u : Uri) : List Char := marked '#' u.fragment

def queryText (u : Uri) : List Char := marked '?' u.query

def text (u : Uri) : List Char :=
  u.scheme ++ ':' :: '/' :: '/' ::
    (u.authority ++ (u.path ++ (u.queryText ++ u.fragmentText)))

/-- The components of a well-formed URI. -/
structure Valid (ipv6 : List Char → Bool) (u : Uri) : Prop where
  schemeStart : ∀ c ∈ u.scheme.head?, c.isAlpha = true
  scheme_ne : u.scheme ≠ []
  scheme : ∀ c ∈ u.scheme, schemeChar c = true
  userinfo : ∀ t ∈ u.userinfo, Encoded userinfoChar t
  literal : u.bracketed = true → ipv6 u.host = true
  name : u.bracketed = false → Encoded nameChar u.host
  port : ∀ t ∈ u.port, ∀ c ∈ t, c.isDigit = true
  pathStart : ∀ c ∈ u.path.head?, c = '/'
  path : Encoded pathChar u.path
  query : ∀ t ∈ u.query, Encoded queryChar t
  fragment : ∀ t ∈ u.fragment, Encoded fragmentChar t

/-- The addresses that `ipv6` recognizes have only hexadecimal digits, colons and points. -/
def Hexadecimal (ipv6 : List Char → Bool) : Prop :=
  ∀ a, ipv6 a = true → ∀ c ∈ a, hexDigit c = true ∨ c = ':' ∨ c = '.'

/-! ### One reading -/

/-- A text is split at its first stop in one way. -/
theorem split_unique (stops : List Char) {xs ys s t : List Char}
    (hxs : ∀ c ∈ stops, c ∉ xs) (hys : ∀ c ∈ stops, c ∉ ys)
    (hs : ∀ c ∈ s.head?, c ∈ stops) (ht : ∀ c ∈ t.head?, c ∈ stops)
    (h : xs ++ s = ys ++ t) : xs = ys ∧ s = t := by
  induction xs generalizing ys with
  | nil =>
    cases ys with
    | nil => exact ⟨rfl, h⟩
    | cons y rest =>
      have hy := hs y (by rw [show s = _ from h]; rfl)
      exact absurd List.mem_cons_self (hys y hy)
  | cons x rest ih =>
    cases ys with
    | nil =>
      have hx := ht x (by rw [← show _ = t from h]; rfl)
      exact absurd List.mem_cons_self (hxs x hx)
    | cons y rest' =>
      obtain ⟨rfl, hrest⟩ := List.cons.inj h
      obtain ⟨rfl, hst⟩ := ih (fun c hc hmem => hxs c hc (List.mem_cons_of_mem _ hmem))
        (fun c hc hmem => hys c hc (List.mem_cons_of_mem _ hmem)) hrest
      exact ⟨rfl, hst⟩

theorem marked_inj {mark : Char} {t t' : Option (List Char)} (h : marked mark t = marked mark t') :
    t = t' := by
  cases t <;> cases t' <;> first | rfl | cases h
  rfl

theorem marked_head {mark c : Char} {t : Option (List Char)} (h : c ∈ (marked mark t).head?) :
    c = mark := by
  cases t with
  | none => nomatch h
  | some t => exact (Option.some.inj h).symm

namespace Valid

variable {ipv6 : List Char → Bool} {u v : Uri} {c : Char}

theorem port_digit (hu : u.Valid ipv6) (hc : c ∈ u.portText) : c = ':' ∨ c.isDigit = true := by
  unfold portText at hc
  cases hport : u.port with
  | none => rw [hport] at hc; nomatch hc
  | some t =>
    rw [hport] at hc
    exact (List.mem_cons.mp hc).imp_right fun hc => hu.port t hport c hc

/-- What the text of a host has not. -/
theorem host_avoids (hipv6 : Hexadecimal ipv6) (hu : u.Valid ipv6)
    (hc : nameChar c = false ∧ c ≠ '%' ∧ hexDigit c = false)
    (hb : c ≠ '[' ∧ c ≠ ']' ∧ c ≠ ':' ∧ c ≠ '.') : c ∉ u.hostText := by
  unfold hostText
  split
  · next hbracketed =>
    intro hmem
    rcases List.mem_cons.mp hmem with heq | hmem
    · exact hb.1 heq
    · rcases List.mem_append.mp hmem with hmem | hmem
      · rcases hipv6 _ (hu.literal hbracketed) c hmem with hhex | heq | heq
        · exact absurd hhex (by simp [hc.2.2])
        · exact hb.2.2.1 heq
        · exact hb.2.2.2 heq
      · exact hb.2.1 (List.mem_singleton.mp hmem)
  · next hbracketed => exact (hu.name (by simpa using hbracketed)).avoids hc

theorem authority_avoids (hipv6 : Hexadecimal ipv6) (hu : u.Valid ipv6)
    (hc : userinfoChar c = false ∧ c ≠ '%' ∧ hexDigit c = false)
    (hb : c ≠ '[' ∧ c ≠ ']' ∧ c ≠ '.' ∧ c ≠ '@') : c ∉ u.authority := by
  have hname : nameChar c = false ∧ c ≠ ':' := by simpa [userinfoChar] using hc.1
  have hdigit : c.isDigit = false := by
    have := hc.2.2
    simp only [hexDigit, Bool.or_eq_false_iff] at this
    exact this.1.1
  intro hmem
  rcases List.mem_append.mp hmem with hmem | hmem
  · cases huserinfo : u.userinfo with
    | none => rw [huserinfo] at hmem; nomatch hmem
    | some t =>
      rw [huserinfo] at hmem
      rcases List.mem_append.mp hmem with hmem | hmem
      · exact (hu.userinfo t huserinfo).avoids hc hmem
      · exact hb.2.2.2 (List.mem_singleton.mp hmem)
  · rcases List.mem_append.mp hmem with hmem | hmem
    · exact hu.host_avoids hipv6 ⟨hname.1, hc.2⟩ ⟨hb.1, hb.2.1, hname.2, hb.2.2.1⟩ hmem
    · rcases hu.port_digit hmem with heq | hd
      · exact hname.2 heq
      · exact absurd hd (by simp [hdigit])

theorem userinfo_unique (hipv6 : Hexadecimal ipv6) (hu : u.Valid ipv6) (hv : v.Valid ipv6)
    (h : u.authority = v.authority) :
    u.userinfo = v.userinfo ∧ u.hostText ++ u.portText = v.hostText ++ v.portText := by
  have hat {w : Uri} (hw : w.Valid ipv6) : '@' ∉ w.hostText ++ w.portText := by
    intro hmem
    rcases List.mem_append.mp hmem with hmem | hmem
    · exact hw.host_avoids hipv6 (by decide) (by decide) hmem
    · rcases hw.port_digit hmem with heq | hd
      · exact absurd heq (by decide)
      · exact absurd hd (by decide)
  unfold authority at h
  cases huser : u.userinfo with
  | none =>
    cases hvser : v.userinfo with
    | none => rw [huser, hvser] at h; exact ⟨rfl, h⟩
    | some t' =>
      rw [huser, hvser] at h
      exact absurd (h ▸ by simp) (hat hu)
  | some t =>
    cases hvser : v.userinfo with
    | none =>
      rw [huser, hvser] at h
      exact absurd (h ▸ by simp) (hat hv)
    | some t' =>
      rw [huser, hvser] at h
      simp only [Option.elim_some, List.append_assoc, List.singleton_append] at h
      have havoids {w : Uri} {t : List Char} (hw : w.Valid ipv6) (ht : w.userinfo = some t) :
          ∀ c ∈ ['@'], c ∉ t := by
        intro c hc
        rw [List.mem_singleton.mp hc]
        exact (hw.userinfo t ht).avoids (by decide)
      obtain ⟨rfl, hrest⟩ := split_unique ['@'] (havoids hu huser) (havoids hv hvser)
        (by simp) (by simp) h
      exact ⟨rfl, (List.cons.inj hrest).2⟩

theorem host_unique (hipv6 : Hexadecimal ipv6) (hu : u.Valid ipv6) (hv : v.Valid ipv6)
    (h : u.hostText ++ u.portText = v.hostText ++ v.portText) :
    u.bracketed = v.bracketed ∧ u.host = v.host ∧ u.port = v.port := by
  have hport {w : Uri} : ∀ c ∈ w.portText.head?, c ∈ [':'] := fun c hc => by
    rw [marked_head hc]
    exact List.mem_cons_self
  have hname {w : Uri} (hw : w.Valid ipv6) (hb : w.bracketed = false) :
      ∀ c ∈ ['[', ':'], c ∉ w.host := by
    have hfacts : ∀ c ∈ ['[', ':'], nameChar c = false ∧ c ≠ '%' ∧ hexDigit c = false :=
      List.all_iff_forall_prop.mp (by decide)
    exact fun c hc => (hw.name hb).avoids (hfacts c hc)
  have hclose {w : Uri} (hw : w.Valid ipv6) (hb : w.bracketed = true) :
      ∀ c ∈ [']'], c ∉ w.host := by
    intro c hc hmem
    rw [List.mem_singleton.mp hc] at hmem
    rcases hipv6 _ (hw.literal hb) _ hmem with hhex | heq | heq
    · exact absurd hhex (by decide)
    · exact absurd heq (by decide)
    · exact absurd heq (by decide)
  -- no name begins with a bracket, and no port
  have hmixed {w w' : Uri} (hw' : w'.Valid ipv6) (hb : w.bracketed = true)
      (hb' : w'.bracketed = false) : w.hostText ++ w.portText ≠ w'.hostText ++ w'.portText := by
    intro h
    rw [hostText, hostText, hb, hb', if_pos rfl, if_neg Bool.false_ne_true] at h
    cases hhost : w'.host with
    | nil =>
      rw [hhost] at h
      have hhead := hport (w := w') '[' (by rw [← show _ = w'.portText from h]; rfl)
      exact absurd hhead (by decide)
    | cons c rest =>
      rw [hhost] at h
      obtain ⟨rfl, -⟩ := List.cons.inj h
      exact hname hw' hb' '[' List.mem_cons_self (hhost ▸ List.mem_cons_self)
  cases hb : u.bracketed with
  | true =>
    cases hb' : v.bracketed with
    | false => exact absurd h (hmixed hv hb hb')
    | true =>
      rw [hostText, hostText, hb, hb', if_pos rfl, if_pos rfl] at h
      simp only [List.cons_append, List.append_assoc] at h
      obtain ⟨hhost, hrest⟩ := split_unique [']'] (hclose hu hb) (hclose hv hb')
        (by simp) (by simp) (List.cons.inj h).2
      exact ⟨rfl, hhost, marked_inj (List.cons.inj hrest).2⟩
  | false =>
    cases hb' : v.bracketed with
    | true => exact absurd h.symm (hmixed hu hb' hb)
    | false =>
      rw [hostText, hostText, hb, hb', if_neg Bool.false_ne_true, if_neg Bool.false_ne_true] at h
      obtain ⟨hhost, hrest⟩ := split_unique [':']
        (fun c hc => hname hu hb c (List.mem_cons_of_mem _ hc))
        (fun c hc => hname hv hb' c (List.mem_cons_of_mem _ hc)) hport hport h
      exact ⟨rfl, hhost, marked_inj hrest⟩

theorem tail_unique (hu : u.Valid ipv6) (hv : v.Valid ipv6)
    (h : u.path ++ (u.queryText ++ u.fragmentText) = v.path ++ (v.queryText ++ v.fragmentText)) :
    u.path = v.path ∧ u.query = v.query ∧ u.fragment = v.fragment := by
  have hfragment {w : Uri} : ∀ c ∈ w.fragmentText.head?, c ∈ ['#'] := fun c hc => by
    rw [marked_head hc]
    exact List.mem_cons_self
  have hquery {w : Uri} : ∀ c ∈ (w.queryText ++ w.fragmentText).head?, c ∈ ['?', '#'] := by
    intro c hc
    cases hw : w.query with
    | none =>
      rw [queryText, hw] at hc
      exact List.mem_cons_of_mem _ (hfragment c hc)
    | some t =>
      rw [queryText, hw] at hc
      rw [← Option.some.inj hc]
      exact List.mem_cons_self
  have hpath {w : Uri} (hw : w.Valid ipv6) : ∀ c ∈ ['?', '#'], c ∉ w.path := by
    have hfacts : ∀ c ∈ ['?', '#'], pathChar c = false ∧ c ≠ '%' ∧ hexDigit c = false :=
      List.all_iff_forall_prop.mp (by decide)
    exact fun c hc => hw.path.avoids (hfacts c hc)
  have hmark {w : Uri} {t : List Char} (hw : w.Valid ipv6) (ht : w.query = some t) :
      ∀ c ∈ ['#'], c ∉ t := by
    intro c hc
    rw [List.mem_singleton.mp hc]
    exact (hw.query t ht).avoids (by decide)
  obtain ⟨hpaths, hrest⟩ := split_unique ['?', '#'] (hpath hu) (hpath hv) hquery hquery h
  refine ⟨hpaths, ?_⟩
  -- a query is told from a fragment by its mark
  have hmixed {w w' : Uri} {t : List Char} (ht : w.query = some t) (ht' : w'.query = none) :
      w.queryText ++ w.fragmentText ≠ w'.queryText ++ w'.fragmentText := by
    intro h
    rw [queryText, queryText, ht, ht'] at h
    have hhead := hfragment (w := w') '?' (by rw [← show _ = w'.fragmentText from h]; rfl)
    exact absurd hhead (by decide)
  cases hq : u.query with
  | none =>
    cases hq' : v.query with
    | some t' => exact absurd hrest.symm (hmixed hq' hq)
    | none =>
      rw [queryText, queryText, hq, hq'] at hrest
      exact ⟨rfl, marked_inj hrest⟩
  | some t =>
    cases hq' : v.query with
    | none => exact absurd hrest (hmixed hq hq')
    | some t' =>
      rw [queryText, queryText, hq, hq'] at hrest
      obtain ⟨rfl, hmarked⟩ := split_unique ['#'] (hmark hu hq) (hmark hv hq') hfragment hfragment
        (List.cons.inj hrest).2
      exact ⟨rfl, marked_inj hmarked⟩

/-- A text is read as components in one way. -/
theorem text_unique (hipv6 : Hexadecimal ipv6) (hu : u.Valid ipv6) (hv : v.Valid ipv6)
    (h : u.text = v.text) : u = v := by
  have hscheme {w : Uri} (hw : w.Valid ipv6) : ∀ c ∈ [':'], c ∉ w.scheme := by
    intro c hc hmem
    rw [List.mem_singleton.mp hc] at hmem
    exact absurd (hw.scheme ':' hmem) (by decide)
  have hauthority {w : Uri} (hw : w.Valid ipv6) : ∀ c ∈ ['/', '?', '#'], c ∉ w.authority := by
    have hfacts : ∀ c ∈ ['/', '?', '#'],
        (userinfoChar c = false ∧ c ≠ '%' ∧ hexDigit c = false) ∧
          (c ≠ '[' ∧ c ≠ ']' ∧ c ≠ '.' ∧ c ≠ '@') :=
      List.all_iff_forall_prop.mp (by decide)
    exact fun c hc => hw.authority_avoids hipv6 (hfacts c hc).1 (hfacts c hc).2
  have htail {w : Uri} (hw : w.Valid ipv6) :
      ∀ c ∈ (w.path ++ (w.queryText ++ w.fragmentText)).head?, c ∈ ['/', '?', '#'] := by
    intro c hc
    cases hpath : w.path with
    | cons d rest =>
      rw [hpath] at hc
      rw [← Option.some.inj hc, hw.pathStart d (by rw [hpath]; rfl)]
      exact List.mem_cons_self
    | nil =>
      rw [hpath, List.nil_append, queryText, fragmentText] at hc
      cases hquery : w.query with
      | none =>
        rw [hquery] at hc
        rw [marked_head hc]
        decide
      | some t =>
        rw [hquery] at hc
        rw [← Option.some.inj hc]
        decide
  obtain ⟨hs, hrest⟩ := split_unique [':'] (hscheme hu) (hscheme hv) (by simp) (by simp) h
  obtain ⟨ha, hrest⟩ := split_unique ['/', '?', '#'] (hauthority hu) (hauthority hv) (htail hu)
    (htail hv) (List.cons.inj (List.cons.inj (List.cons.inj hrest).2).2).2
  obtain ⟨huser, hhost⟩ := userinfo_unique hipv6 hu hv ha
  obtain ⟨hbracketed, hname, hport⟩ := host_unique hipv6 hu hv hhost
  obtain ⟨hpath, hquery, hfragment⟩ := tail_unique hu hv hrest
  cases u
  cases v
  cases hs
  cases huser
  cases hbracketed
  cases hname
  cases hport
  cases hpath
  cases hquery
  cases hfragment
  rfl

end Valid

end Uri
