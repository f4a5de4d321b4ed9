import SafactoryServer.Payload
import SafactoryServer.Net
import SafactoryServer.Value
import SafactoryServer.Regex.Shapes
import Mathlib.Data.List.Sort
import Mathlib.Data.List.Infix

/-! `_extract_rjob_ips`: the search of an SDK value for the address of its pod, and the list of
addresses that a document of dicts and lists ranks. -/

namespace SafactoryServer

open Regex

/-- The characters that an address is made of. -/
def isAddressChar (c : Char) : Bool := c.isDigit || c == '.'

/-- `[0-9]{1,3}\.` -/
def octetDot : Pattern := .seq (.upTo Char.isDigit 2) (.char (· == '.'))

/-- `(?<![0-9.])(?:[0-9]{1,3}\.){3}[0-9]{1,3}(?![0-9.])` -/
def ipCandidate : Pattern :=
  .delimited isAddressChar
    (.seq octetDot (.seq octetDot (.seq octetDot (.upTo Char.isDigit 2))))

/-- `re.sub(r"[^a-z0-9]", "", part.lower())`. -/
def reducedName (u : Unicode) (part : String) : String :=
  String.ofList ((u.lowered part).toList.filter fun c => c.isLower || c.isDigit)

/-- The `priority` of the addresses at a path. -/
def ipPriority (u : Unicode) (path : List String) : Option Nat :=
  let key := (path.getLast?.map (reducedName u)).getD ""
  let statusPath := path.dropLast.any fun part =>
    decide ("status".toList <:+: (reducedName u part).toList) ||
      decide ("network".toList <:+: (reducedName u part).toList)
  if ["podip", "containerip", "privateip", "ipaddress"].contains key then some 100
  else if key = "ip" then some 90
  else if ["hostip", "nodeip"].contains key then some 80
  else if statusPath && ["address", "endpoint", "host"].contains key then some 50
  else none

/-- What the search carries along: `matches` and `visited`, the next place in `matches`, and how
many dictionaries it has built. -/
structure IpSearch where
  found : List (Nat × Nat × String)
  visited : List Nat
  sequence : Nat
  built : Nat

namespace IpSearch

def start : IpSearch := ⟨[], [], 0, 0⟩

/-- `visited.add(identity)`. -/
def visit (s : IpSearch) (id : Nat) : IpSearch := { s with visited := id :: s.visited }

/-- The search goes on to this container. -/
def enters (s : IpSearch) (depth id : Nat) : Bool := !(12 < depth || s.visited.contains id)

theorem enters_visited {s : IpSearch} {depth id : Nat} (h : id ∈ s.visited) :
    s.enters depth id = false := by
  rw [enters, List.contains_iff_mem.mpr h, Bool.or_true, Bool.not_true]

theorem enters_new {s : IpSearch} {depth id : Nat} (hdepth : depth ≤ 12) (h : id ∉ s.visited) :
    s.enters depth id = true := by
  have hnot : s.visited.contains id = false :=
    Bool.eq_false_iff.mpr fun hcontains => h (List.contains_iff_mem.mp hcontains)
  rw [enters, hnot, decide_eq_false (Nat.not_lt.mpr hdepth), Bool.false_or, Bool.not_false]

/-- One candidate of `add`: without a colon, `ip_address` takes no other text than an IPv4
address. -/
def addCandidate (u : Unicode) (path : List String) (s : IpSearch) (candidate : List Char) :
    IpSearch :=
  match IPAddress.parse4 candidate with
  | none => s
  | some ip =>
    let address := IPAddress.v4 ip
    if address.isLoopback || address.isLinkLocal || address.isMulticast || address.isUnspecified
    then s
    else
      match ipPriority u path with
      | none => s
      | some priority =>
        { s with
          found := s.found ++ [(priority, s.sequence, String.ofList (IPAddress.str4 ip))]
          sequence := s.sequence + 1 }

/-- `add`. -/
def add (u : Unicode) (path : List String) (text : String) (s : IpSearch) : IpSearch :=
  ((ipCandidate.finditer text.toList).map (·.text)).foldl (addCandidate u path) s

end IpSearch

/-- The attributes that the search looks up first. -/
def ipAttributes : List String :=
  ["pod_ip", "podIP", "container_ip", "containerIP", "private_ip", "privateIP", "ip_address",
    "ipAddress", "ip", "host_ip", "hostIP", "node_ip", "nodeIP"]

section

variable (u : Unicode) (alloc : Allocator)

mutual

/-- `visit`, with the identities that are alive around it. -/
def visit (live : List Nat) (path : List String) (depth : Nat) :
    SdkValue → IpSearch → IpSearch
  | .null, s | .bool _, s | .int _, s | .float _, s | .bytes _, s => s
  | .str text, s => if 12 < depth then s else s.add u path text
  | .list id items, s =>
    if s.enters depth id then visitItems live path (depth + 1) 0 items (s.visit id) else s
  | .dict id entries, s =>
    if s.enters depth id then
      visitEntries live path (depth + 1) (fun _ => true) entries (s.visit id)
    else s
  | .object id attributes, s =>
    if s.enters depth id then
      let s := ipAttributes.foldl
        (fun s name => visitAttribute live path (depth + 1) name attributes s) (s.visit id)
      -- the dictionary of the attributes is alive until its visit ends, but stays visited
      let vars := alloc.next s.built live
      let s := { s with built := s.built + 1 }
      if s.enters (depth + 1) vars then
        visitEntries (vars :: live) path (depth + 2) isPublic attributes (s.visit vars)
      else s
    else s

def visitItems (live : List Nat) (path : List String) (depth : Nat) (index : Nat) :
    List SdkValue → IpSearch → IpSearch
  | [], s => s
  | item :: rest, s =>
    visitItems live path depth (index + 1) rest
      (visit live (path ++ [toString index]) depth item s)

def visitEntries (live : List Nat) (path : List String) (depth : Nat) (shown : String → Bool) :
    List (String × SdkValue) → IpSearch → IpSearch
  | [], s => s
  | (key, value) :: rest, s =>
    visitEntries live path depth shown rest
      (if shown key then visit live (path ++ [key]) depth value s else s)

/-- `visit(getattr(value, name), ...)`, for an attribute that exists. -/
def visitAttribute (live : List Nat) (path : List String) (depth : Nat) (name : String) :
    List (String × SdkValue) → IpSearch → IpSearch
  | [], s => s
  | (key, value) :: rest, s =>
    if key = name then visit live (path ++ [name]) depth value s
    else visitAttribute live path depth name rest s

end

/-- The `matches` of a payload. -/
def ipMatches (payload : SdkValue) : List (Nat × Nat × String) :=
  (visit u alloc payload.ids [] 0 payload .start).found

/-- `_extract_rjob_ips`. -/
def extractRjobIps (payload : SdkValue) : List String :=
  ((ipMatches u alloc payload).insertionSort
    fun m m' => m'.1 < m.1 ∨ m.1 = m'.1 ∧ m.2.1 ≤ m'.2.1).foldl
      (fun ordered m => if ordered.contains m.2.2 then ordered else ordered ++ [m.2.2]) []

end

/-! ### The addresses of a document -/

namespace SdkValue

mutual

/-- The strings of a value with their paths, in document order. -/
def texts (path : List String) : SdkValue → List (List String × String)
  | .str text => [(path, text)]
  | .list _ items => textsItems path 0 items
  | .dict _ entries | .object _ entries => textsEntries path entries
  | _ => []

def textsItems (path : List String) (index : Nat) : List SdkValue → List (List String × String)
  | [] => []
  | item :: rest => texts (path ++ [toString index]) item ++ textsItems path (index + 1) rest

def textsEntries (path : List String) :
    List (String × SdkValue) → List (List String × String)
  | [] => []
  | (key, value) :: rest => texts (path ++ [key]) value ++ textsEntries path rest

end

end SdkValue

/-- Four numbers of one to three digits with dots between them. -/
def isQuad (run : List Char) : Bool :=
  let parts := run.splitOn '.'
  parts.length == 4 &&
    parts.all fun part => !part.isEmpty && part.length ≤ 3 && part.all Char.isDigit

/-- The dotted quads of a text that no further digit or dot adjoins. -/
def quads (text : String) : List (List Char) := (runs isAddressChar text.toList).filter isQuad

/-- The text is an address of another machine. -/
def isRemote (quad : List Char) : Bool :=
  match IPAddress.parse4 quad with
  | none => false
  | some ip =>
    let address := IPAddress.v4 ip
    !(address.isLoopback || address.isLinkLocal || address.isMulticast || address.isUnspecified)

/-- The rank of an address by the last component of its path and by those above. -/
def pathRank (u : Unicode) (path : List String) : Option Nat :=
  match path.getLast? with
  | none => none
  | some last =>
    let name := reducedName u last
    if name ∈ ["podip", "containerip", "privateip", "ipaddress"] then some 100
    else if name = "ip" then some 90
    else if name ∈ ["hostip", "nodeip"] then some 80
    else if (∃ above ∈ path.dropLast, "status".toList <:+: (reducedName u above).toList ∨
        "network".toList <:+: (reducedName u above).toList) ∧
        name ∈ ["address", "endpoint", "host"] then some 50
    else none

/-- The ranked addresses of a string. -/
def rankedIn (u : Unicode) (place : List String × String) : List (Nat × String) :=
  ((quads place.2).filter isRemote).filterMap fun quad =>
    (pathRank u place.1).map fun rank => (rank, String.ofList quad)

/-- The ranked addresses of a document down to a depth of 12, in document order. -/
def rankedAddresses (u : Unicode) (payload : SdkValue) : List (Nat × String) :=
  ((payload.texts []).filter (·.1.length ≤ 12)).flatMap (rankedIn u)

/-- The addresses of a document, those of the best rank first, each once. -/
def addressList (u : Unicode) (payload : SdkValue) : List String :=
  (((rankedAddresses u payload).insertionSort fun a b => b.1 ≤ a.1).map (·.2)).eraseDups

section

variable {u : Unicode} {alloc : Allocator} {live : List Nat} {path : List String} {depth : Nat}
variable {s s' s'' : IpSearch}

theorem isAddressChar_dot : isAddressChar '.' = true := by decide

theorem isAddressChar_digit {c : Char} (h : c.isDigit = true) : isAddressChar c = true := by
  rw [isAddressChar, h]
  rfl

theorem digit_ne_dot {c : Char} (h : c.isDigit = true) : c ≠ '.' := by
  rintro rfl
  cases h

/-- The candidate pattern without the look-around. -/
def quadPattern : Pattern :=
  .seq octetDot (.seq octetDot (.seq octetDot (.upTo Char.isDigit 2)))

theorem octet_accepts {part : List Char} : (Pattern.upTo Char.isDigit 2).Accepts part ↔
    (!part.isEmpty && part.length ≤ 3 && part.all Char.isDigit) = true := by
  rw [Pattern.upTo_accepts]
  simp [and_assoc]

theorem octetDot_accepts {m : List Char} : octetDot.Accepts m ↔
    ∃ part, (Pattern.upTo Char.isDigit 2).Accepts part ∧ m = part ++ ['.'] := by
  constructor
  · rintro ⟨part, _, rfl, hpart, c, hc, rfl⟩
    exact ⟨part, hpart, by rw [beq_iff_eq.mp hc]⟩
  · rintro ⟨part, hpart, rfl⟩
    exact ⟨part, ['.'], rfl, hpart, '.', rfl, rfl⟩

theorem quad_accepts {m : List Char} : quadPattern.Accepts m ↔
    ∃ a b c d, (∀ part ∈ [a, b, c, d], (Pattern.upTo Char.isDigit 2).Accepts part) ∧
      m = ['.'].intercalate [a, b, c, d] := by
  constructor
  · rintro ⟨_, _, rfl, hadot, _, _, rfl, hbdot, _, d, rfl, hcdot, hd⟩
    obtain ⟨a, ha, rfl⟩ := octetDot_accepts.mp hadot
    obtain ⟨b, hb, rfl⟩ := octetDot_accepts.mp hbdot
    obtain ⟨c, hc, rfl⟩ := octetDot_accepts.mp hcdot
    refine ⟨a, b, c, d, by simp [ha, hb, hc, hd], ?_⟩
    simp [List.intercalate]
  · rintro ⟨a, b, c, d, hall, rfl⟩
    simp only [List.forall_mem_cons] at hall
    obtain ⟨ha, hb, hc, hd, -⟩ := hall
    refine ⟨a ++ ['.'], b ++ ['.'] ++ (c ++ ['.'] ++ d), ?_, octetDot_accepts.mpr ⟨a, ha, rfl⟩,
      b ++ ['.'], c ++ ['.'] ++ d, rfl, octetDot_accepts.mpr ⟨b, hb, rfl⟩,
      c ++ ['.'], d, rfl, octetDot_accepts.mpr ⟨c, hc, rfl⟩, hd⟩
    simp [List.intercalate]

theorem isQuad_accepts (m : List Char) : isQuad m = true ↔ quadPattern.Accepts m := by
  rw [quad_accepts, isQuad, Bool.and_eq_true_iff, beq_iff_eq, List.all_eq_true]
  constructor
  · rintro ⟨hlen, hall⟩
    obtain ⟨a, b, c, d, hparts⟩ := List.length_eq_four.mp hlen
    refine ⟨a, b, c, d, fun part hpart => octet_accepts.mpr (hall part (hparts ▸ hpart)), ?_⟩
    rw [← hparts, List.intercalate_splitOn]
  · rintro ⟨a, b, c, d, hall, rfl⟩
    have hdot : ∀ part ∈ [a, b, c, d], '.' ∉ part := by
      intro part hpart hmem
      have hdigit := (Pattern.upTo_accepts.mp (hall part hpart)).2.2 '.' hmem
      exact digit_ne_dot hdigit rfl
    rw [List.splitOn_intercalate _ hdot (List.cons_ne_nil _ _)]
    exact ⟨rfl, fun part hpart => octet_accepts.mp (hall part hpart)⟩

theorem quad_chars (m : List Char) (h : quadPattern.Accepts m) :
    ∀ c ∈ m, isAddressChar c = true := by
  obtain ⟨a, b, c, d, hall, rfl⟩ := quad_accepts.mp h
  intro x hx
  have hpart : ∀ part ∈ [a, b, c, d], x ∈ part → isAddressChar x = true := by
    intro part hpart hmem
    exact isAddressChar_digit ((Pattern.upTo_accepts.mp (hall part hpart)).2.2 x hmem)
  have hplace : x = '.' ∨ ∃ part ∈ [a, b, c, d], x ∈ part := by
    simp [List.intercalate] at hx
    simp
    tauto
  rcases hplace with rfl | ⟨part, hmem, hx⟩
  · exact isAddressChar_dot
  · exact hpart part hmem hx

/-- `re.findall` finds the quads. -/
theorem findall_quads (text : String) :
    (ipCandidate.finditer text.toList).map (·.text) = quads text :=
  Pattern.matched_delimited quad_chars rfl isQuad_accepts (.inl rfl)

theorem ipPriority_eq (path : List String) : ipPriority u path = pathRank u path := by
  unfold ipPriority pathRank
  cases path.getLast? with
  | none =>
    have hlast : ["address", "endpoint", "host"].contains "" = false := by decide
    simp only [Option.map_none, Option.getD_none, hlast, Bool.and_false]
    decide
  | some last =>
    simp only [Option.map_some, Option.getD_some, List.contains_iff_mem, Bool.and_eq_true,
      List.any_eq_true, Bool.or_eq_true, decide_eq_true_eq]

namespace IpSearch

/-- The search with some ranked addresses more in `matches`. -/
def note (s : IpSearch) (ranked : List (Nat × String)) : IpSearch :=
  { s with
    found := s.found ++ (ranked.zipIdx s.sequence).map fun m => (m.1.1, m.2, m.1.2)
    sequence := s.sequence + ranked.length }

theorem note_append (a b : List (Nat × String)) : s.note (a ++ b) = (s.note a).note b := by
  simp [note, List.zipIdx_append, List.append_assoc, Nat.add_assoc]

theorem addCandidate_eq (candidate : List Char) :
    s.addCandidate u path candidate = s.note (([candidate].filter isRemote).filterMap fun quad =>
      (pathRank u path).map fun rank => (rank, String.ofList quad)) := by
  unfold addCandidate
  rw [ipPriority_eq]
  cases hparse : IPAddress.parse4 candidate with
  | none => simp [isRemote, hparse, note]
  | some ip =>
    dsimp only
    split
    · next hlocal => simp [isRemote, hparse, hlocal, note]
    · next hremote =>
      have hremote : isRemote candidate = true := by simpa [isRemote, hparse] using hremote
      rw [IPAddress.str4_parse4 hparse, List.filter_cons_of_pos hremote]
      cases pathRank u path <;> simp [note]

theorem add_eq (text : String) : s.add u path text = s.note (rankedIn u (path, text)) := by
  unfold add rankedIn
  rw [findall_quads]
  generalize quads text = found
  induction found generalizing s with
  | nil => simp [note]
  | cons quad rest ih =>
    rw [List.foldl_cons, addCandidate_eq, ih, ← note_append, ← List.filterMap_append,
      ← List.filter_append]
    rfl

/-- From one state of the search to another, the strings at these places are added. -/
structure Notes (u : Unicode) (places : List (List String × String)) (s s' : IpSearch) : Prop where
  found : s'.found = (s.note (places.flatMap (rankedIn u))).found
  sequence : s'.sequence = (s.note (places.flatMap (rankedIn u))).sequence

theorem Notes.none (hfound : s'.found = s.found) (hsequence : s'.sequence = s.sequence) :
    Notes u [] s s' :=
  ⟨by simp [note, hfound], by simp [note, hsequence]⟩

theorem Notes.trans {places places' : List (List String × String)} (h : Notes u places s s')
    (h' : Notes u places' s' s'') : Notes u (places ++ places') s s'' := by
  constructor
  · rw [h'.found, List.flatMap_append, note_append]
    simp only [note, h.found, h.sequence]
  · rw [h'.sequence, List.flatMap_append, note_append]
    simp only [note, h.sequence]

end IpSearch

namespace SdkValue

mutual

/-- The path of a string begins with the path of the value around it. -/
theorem texts_length {path : List String} : ∀ {value : SdkValue} {place : List String × String},
    place ∈ value.texts path → path.length ≤ place.1.length
  | .str _, _, h => by
    obtain rfl := List.mem_singleton.mp h
    exact Nat.le_refl _
  | .list _ _, _, h => Nat.le_of_succ_le (textsItems_length h)
  | .dict _ _, _, h | .object _ _, _, h => Nat.le_of_succ_le (textsEntries_length h)
  | .null, _, h | .bool _, _, h | .int _, _, h | .float _, _, h | .bytes _, _, h => by cases h

theorem textsItems_length {path : List String} {index : Nat} : ∀ {items : List SdkValue}
    {place : List String × String}, place ∈ textsItems path index items →
    path.length + 1 ≤ place.1.length
  | [], _, h => by cases h
  | _ :: _, _, h => by
    rcases List.mem_append.mp h with h | h
    · have := texts_length h
      rwa [List.length_append] at this
    · exact textsItems_length h

theorem textsEntries_length {path : List String} : ∀ {entries : List (String × SdkValue)}
    {place : List String × String}, place ∈ textsEntries path entries →
    path.length + 1 ≤ place.1.length
  | [], _, h => by cases h
  | (_, _) :: _, _, h => by
    rcases List.mem_append.mp h with h | h
    · have := texts_length h
      rwa [List.length_append] at this
    · exact textsEntries_length h

end

end SdkValue

/-- The places down to a depth of 12. -/
def within (places : List (List String × String)) : List (List String × String) :=
  places.filter (·.1.length ≤ 12)

theorem within_eq_nil {places : List (List String × String)}
    (h : ∀ place ∈ places, 12 < place.1.length) : within places = [] :=
  List.filter_eq_nil_iff.mpr fun place hplace => by
    have := h place hplace
    simpa using this

theorem within_append (places places' : List (List String × String)) :
    within (places ++ places') = within places ++ within places' :=
  List.filter_append ..

open IpSearch SdkValue

/-- A search that notes the strings at these places, down to the depth limit, and visits no other
containers than these. -/
structure Covers (u : Unicode) (places : List (List String × String)) (ids : List Nat)
    (s s' : IpSearch) : Prop where
  notes : Notes u (within places) s s'
  visited : ∀ id ∈ s'.visited, id ∈ s.visited ∨ id ∈ ids

theorem Covers.nothing : Covers u [] [] s s := ⟨.none rfl rfl, fun _ hid => .inl hid⟩

theorem Covers.append {places places' : List (List String × String)} {ids ids' : List Nat}
    (h : Covers u places ids s s') (h' : Covers u places' ids' s' s'') :
    Covers u (places ++ places') (ids ++ ids') s s'' := by
  refine ⟨?_, fun id hid => ?_⟩
  · rw [within_append]
    exact h.notes.trans h'.notes
  · rcases h'.visited id hid with hid | hid
    · exact (h.visited id hid).imp_right (List.mem_append_left _)
    · exact .inr (List.mem_append_right _ hid)

/-- A new container is entered, unless it is too deep for its strings to count. -/
theorem Covers.container {places : List (List String × String)} {id : Nat} {ids : List Nat}
    (hnew : id ∉ s.visited) (hplaces : ∀ place ∈ places, depth + 1 ≤ place.1.length)
    (h : Covers u places ids (s.visit id) s') :
    Covers u places (id :: ids) s (if s.enters depth id then s' else s) := by
  by_cases hdepth : 12 < depth
  · have hnot : s.enters depth id = false := by simp [enters, hdepth]
    rw [hnot, if_neg Bool.false_ne_true]
    have hnil := within_eq_nil fun place hplace => Nat.lt_of_lt_of_le hdepth
      (Nat.le_of_succ_le (hplaces place hplace))
    exact ⟨by rw [hnil]; exact .none rfl rfl, fun _ hid => .inl hid⟩
  · have henters : s.enters depth id = true := by simp [enters, hdepth, hnew]
    rw [henters, if_pos rfl]
    refine ⟨⟨h.notes.found, h.notes.sequence⟩, fun other hother => ?_⟩
    rcases h.visited other hother with hother | hother
    · rcases List.mem_cons.mp hother with rfl | hother
      · exact .inr List.mem_cons_self
      · exact .inl hother
    · exact .inr (List.mem_cons_of_mem _ hother)

/-- What is new and no part of `ids` is still new. -/
theorem Covers.still_new {places : List (List String × String)} {ids ids' : List Nat}
    (h : Covers u places ids s s') (hnodup : (ids ++ ids').Nodup)
    (hnew : ∀ id ∈ ids ++ ids', id ∉ s.visited) : ∀ id ∈ ids', id ∉ s'.visited := by
  intro id hid hvisited
  rcases h.visited id hvisited with hold | hold
  · exact hnew id (List.mem_append_right _ hid) hold
  · exact (List.nodup_append.mp hnodup).2.2 id hold id hid rfl

theorem new_visit {id : Nat} {ids : List Nat} (hnodup : (id :: ids).Nodup)
    (hnew : ∀ other ∈ id :: ids, other ∉ s.visited) :
    ∀ other ∈ ids, other ∉ (s.visit id).visited := by
  intro other hother hvisited
  rcases List.mem_cons.mp hvisited with rfl | hvisited
  · exact (List.nodup_cons.mp hnodup).1 hother
  · exact hnew other (List.mem_cons_of_mem _ hother) hvisited

/-! A document whose containers are all new is covered. -/

mutual

theorem visit_json : ∀ {value : SdkValue} (path : List String) {s : IpSearch},
    value.isJson = true → value.ids.Nodup → (∀ id ∈ value.ids, id ∉ s.visited) →
    Covers u (value.texts path) value.ids s (visit u alloc live path path.length value s)
  | .null, _, _, _, _, _ | .bool _, _, _, _, _, _ | .int _, _, _, _, _, _
  | .float _, _, _, _, _, _ => by
    rw [visit]
    exact .nothing
  | .str text, path, s, _, _, _ => by
    rw [visit, texts]
    refine ⟨?_, fun id hid => .inl ?_⟩
    · by_cases hdepth : 12 < path.length
      · rw [if_pos hdepth, within_eq_nil (by simpa using hdepth)]
        exact .none rfl rfl
      · rw [if_neg hdepth, add_eq, within, List.filter_cons_of_pos (by simpa using hdepth)]
        exact ⟨by simp, by simp⟩
    · split at hid
      · exact hid
      · rwa [add_eq] at hid
  | .list id items, path, s, hjson, hnodup, hnew => by
    rw [visit]
    exact .container (hnew id List.mem_cons_self) (fun _ => textsItems_length)
      (visitItems_json hjson (List.nodup_cons.mp hnodup).2 (new_visit hnodup hnew))
  | .dict id entries, path, s, hjson, hnodup, hnew => by
    rw [visit]
    exact .container (hnew id List.mem_cons_self) (fun _ => textsEntries_length)
      (visitEntries_json hjson (List.nodup_cons.mp hnodup).2 (new_visit hnodup hnew))

theorem visitItems_json : ∀ {items : List SdkValue} {path : List String} {index : Nat}
    {s : IpSearch}, jsonItems items = true → (idsItems items).Nodup →
    (∀ id ∈ idsItems items, id ∉ s.visited) →
    Covers u (textsItems path index items) (idsItems items) s
      (visitItems u alloc live path (path.length + 1) index items s)
  | [], _, _, _, _, _, _ => by
    rw [visitItems]
    exact .nothing
  | item :: rest, path, index, s, hjson, hnodup, hnew => by
    obtain ⟨hitem, hrest⟩ := Bool.and_eq_true_iff.mp hjson
    obtain ⟨hleft, hright, -⟩ := List.nodup_append.mp hnodup
    have h := visit_json (path ++ [toString index]) hitem hleft fun id hid =>
      hnew id (List.mem_append_left _ hid)
    rw [List.length_append] at h
    rw [visitItems]
    exact h.append (visitItems_json hrest hright (h.still_new hnodup hnew))

theorem visitEntries_json : ∀ {entries : List (String × SdkValue)} {path : List String}
    {s : IpSearch}, jsonEntries entries = true → (idsEntries entries).Nodup →
    (∀ id ∈ idsEntries entries, id ∉ s.visited) →
    Covers u (textsEntries path entries) (idsEntries entries) s
      (visitEntries u alloc live path (path.length + 1) (fun _ => true) entries s)
  | [], _, _, _, _, _ => by
    rw [visitEntries]
    exact .nothing
  | (key, value) :: rest, path, s, hjson, hnodup, hnew => by
    obtain ⟨hvalue, hrest⟩ := Bool.and_eq_true_iff.mp hjson
    obtain ⟨hleft, hright, -⟩ := List.nodup_append.mp hnodup
    have h := visit_json (path ++ [key]) hvalue hleft fun id hid =>
      hnew id (List.mem_append_left _ hid)
    rw [List.length_append] at h
    rw [visitEntries, if_pos rfl]
    exact h.append (visitEntries_json hrest hright (h.still_new hnodup hnew))

end

/-! The order of the list. -/

/-- The entries of `matches` from a place on. -/
def numberedMatches (n : Nat) (ranked : List (Nat × String)) : List (Nat × Nat × String) :=
  (ranked.zipIdx n).map fun m => (m.1.1, m.2, m.1.2)

theorem le_numberedMatches {n : Nat} {ranked : List (Nat × String)} {m : Nat × Nat × String}
    (h : m ∈ numberedMatches n ranked) : n ≤ m.2.1 := by
  obtain ⟨⟨entry, i⟩, hentry, rfl⟩ := List.mem_map.mp h
  exact List.le_snd_of_mem_zipIdx hentry

/-- An entry in front of later ones is placed by its rank alone. -/
theorem orderedInsert_numberedMatches (a : Nat × String) {n : Nat}
    {later : List (Nat × Nat × String)} (h : ∀ m ∈ later, n ≤ m.2.1) :
    (later.orderedInsert (fun m m' => m'.1 < m.1 ∨ m.1 = m'.1 ∧ m.2.1 ≤ m'.2.1)
        (a.1, n, a.2)).map (fun m => (m.1, m.2.2)) =
      (later.map fun m => (m.1, m.2.2)).orderedInsert (fun a b => b.1 ≤ a.1) a := by
  induction later with
  | nil => rfl
  | cons m later ih =>
    obtain ⟨hm, hlater⟩ := List.forall_mem_cons.mp h
    rw [List.orderedInsert_cons, List.map_cons, List.orderedInsert_cons]
    by_cases hle : m.1 ≤ a.1
    · rw [if_pos (by dsimp only; omega), if_pos hle]
      rfl
    · rw [if_neg (by dsimp only; omega), if_neg hle, List.map_cons, ih hlater]

/-- Sorting by rank and place is sorting by rank, stably. -/
theorem sorted_numberedMatches (n : Nat) (ranked : List (Nat × String)) :
    ((numberedMatches n ranked).insertionSort
        fun m m' => m'.1 < m.1 ∨ m.1 = m'.1 ∧ m.2.1 ≤ m'.2.1).map (fun m => (m.1, m.2.2)) =
      ranked.insertionSort fun a b => b.1 ≤ a.1 := by
  induction ranked generalizing n with
  | nil => rfl
  | cons a ranked ih =>
    have hlater : ∀ m ∈ (numberedMatches (n + 1) ranked).insertionSort
        (fun m m' => m'.1 < m.1 ∨ m.1 = m'.1 ∧ m.2.1 ≤ m'.2.1), n ≤ m.2.1 := fun m hm =>
      Nat.le_of_succ_le (le_numberedMatches ((List.perm_insertionSort _ _).mem_iff.mp hm))
    rw [show numberedMatches n (a :: ranked) = (a.1, n, a.2) :: numberedMatches (n + 1) ranked
      from rfl,
      List.insertionSort_cons, List.insertionSort_cons, orderedInsert_numberedMatches a hlater, ih]

/-- The loop that collects the addresses keeps the first of each. -/
theorem foldl_first (found : List (Nat × Nat × String)) (ordered : List String) :
    found.foldl (fun ordered m => if ordered.contains m.2.2 then ordered else ordered ++ [m.2.2])
      ordered = ordered ++ ((found.map (·.2.2)).filter fun a => !ordered.contains a).eraseDups := by
  induction found generalizing ordered with
  | nil => simp
  | cons m rest ih =>
    rw [List.foldl_cons, List.map_cons]
    by_cases ha : ordered.contains m.2.2 = true
    · rw [if_pos ha, ih, List.filter_cons_of_neg (by simpa using ha)]
    · rw [if_neg ha, ih, List.filter_cons_of_pos (by simpa using ha), List.eraseDups_cons,
        List.filter_filter, List.append_assoc]
      have hsame : ((rest.map (·.2.2)).filter fun b => !(ordered ++ [m.2.2]).contains b) =
          (rest.map (·.2.2)).filter fun b => !b == m.2.2 && !ordered.contains b :=
        List.filter_congr fun b _ => by by_cases hb : b = m.2.2 <;> simp [hb]
      rw [hsame]
      rfl

/-- The search of a document collects its ranked addresses in order. -/
theorem matches_listed (u : Unicode) (alloc : Allocator) (payload : SdkValue)
    (hjson : payload.isJson = true) (hunshared : payload.Unshared) :
    ipMatches u alloc payload = numberedMatches 0 (rankedAddresses u payload) := by
  have hnew : ∀ id ∈ payload.ids, id ∉ IpSearch.start.visited := fun _ _ => List.not_mem_nil
  have hcovers : Covers u (payload.texts []) payload.ids .start
      (visit u alloc payload.ids [] 0 payload .start) := visit_json [] hjson hunshared hnew
  exact hcovers.notes.found.trans (List.nil_append _)

/-- The search of a document lists its addresses. -/
theorem addresses_listed (u : Unicode) (alloc : Allocator) (payload : SdkValue)
    (hjson : payload.isJson = true) (hunshared : payload.Unshared) :
    extractRjobIps u alloc payload = addressList u payload := by
  have hsorted := congrArg (List.map (·.2)) (sorted_numberedMatches 0 (rankedAddresses u payload))
  rw [List.map_map] at hsorted
  have hall (found : List String) :
      (found.filter fun a => !([] : List String).contains a) = found :=
    List.filter_eq_self.mpr fun _ _ => rfl
  rw [addressList, ← hsorted, extractRjobIps, matches_listed u alloc payload hjson hunshared,
    foldl_first, List.nil_append, hall]
  rfl

/-- Two replicas of a job: the second one's pod address outranks the first one's host address. -/
def sampleReplicas : SdkValue :=
  .list 1 [.dict 2 [("hostIP", .str "10.0.0.9"), ("name", .str "10.9.9.9")],
    .dict 3 [("status", .dict 4 [("endpoint", .str "http://10.0.0.8:80/"),
      ("pod_ip", .str "10.0.0.7, 127.0.0.1")])]]

theorem addresses_listed_replicas :
    extractRjobIps plainPython.toUnicode stackAllocator sampleReplicas =
      ["10.0.0.7", "10.0.0.9", "10.0.0.8"] :=
  (addresses_listed plainPython.toUnicode stackAllocator sampleReplicas (by decide)
    (by rw [SdkValue.Unshared]; decide)).trans (by decide)

end

end SafactoryServer
