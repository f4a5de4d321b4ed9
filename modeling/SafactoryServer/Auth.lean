import Mathlib.Data.Bool.AllAny
import SafactoryServer.Landing
import SafactoryServer.Lines

/-! Bearer authentication: the trusted users, the comparison of the presented key with theirs, and
the middleware that lets a request through. -/

namespace SafactoryServer

/-! ### Latin-1 texts -/

/-- A Latin-1 letter in lower case. -/
def lowerLatin1 (c : Char) : Char :=
  if Unicode.isAscii c then c.toLower
  else if 0xC0 ≤ c.toNat ∧ c.toNat ≤ 0xDE ∧ c.toNat ≠ 0xD7 then Char.ofNat (c.toNat + 32)
  else c

/-- The Unicode database on Latin-1, in which HTTP servers decode headers. -/
def latin1 : Unicode where
  isspace c := c.toNat = 0x85 || c.toNat = 0xA0
  isalnum c := [0xAA, 0xB2, 0xB3, 0xB5, 0xB9, 0xBA, 0xBC, 0xBD, 0xBE].contains c.toNat ||
    (0xC0 ≤ c.toNat && c.toNat ≠ 0xD7 && c.toNat ≠ 0xF7)
  isprintable c := 0xA1 ≤ c.toNat && c.toNat ≠ 0xAD
  lower s := String.ofList (s.toList.map lowerLatin1)

/-- A text that a header may hold. -/
def IsLatin1 (s : String) : Prop := ∀ c ∈ s.toList, c.toNat < 256

/-- `str.isascii`. -/
def isAsciiText (s : String) : Bool := s.toList.all Unicode.isAscii

theorem latin1_forall {P : Char → Prop} (h : ∀ n < 256, P (Char.ofNat n)) {c : Char}
    (hc : c.toNat < 256) : P c := by
  have hn := h c.toNat hc
  rwa [Char.ofNat_toNat] at hn

/-- Lower case keeps the texts apart that are ASCII and that are not. -/
theorem isAscii_lowerLatin1 {c : Char} (hc : c.toNat < 256) :
    Unicode.isAscii (lowerLatin1 c) = Unicode.isAscii c :=
  latin1_forall (P := fun c => Unicode.isAscii (lowerLatin1 c) = Unicode.isAscii c)
    (by decide +kernel) hc

theorem isAscii_toLower {c : Char} (hc : c.toNat < 256) :
    Unicode.isAscii c.toLower = Unicode.isAscii c :=
  latin1_forall (P := fun c => Unicode.isAscii c.toLower = Unicode.isAscii c)
    (by decide +kernel) hc

/-- Of Latin-1 texts, lower case makes those an ASCII text that are it but for the case of ASCII
letters. -/
theorem lowered_latin1 {s t : String} (hs : IsLatin1 s) (ht : isAsciiText t = true) :
    latin1.lowered s = t ↔ s.toList.map Char.toLower = t.toList := by
  unfold Unicode.lowered
  split
  · rw [String.ext_iff, String.toList_ofList]
  · next hascii =>
    -- a letter of `s` beyond ASCII has no counterpart in `t`
    obtain ⟨c, hc, hbeyond⟩ : ∃ c ∈ s.toList, Unicode.isAscii c = false := by
      simpa using hascii
    have hout : ∀ f : Char → Char, Unicode.isAscii (f c) = Unicode.isAscii c →
        s.toList.map f ≠ t.toList := by
      intro f hf heq
      have hmem : f c ∈ t.toList := heq ▸ List.mem_map_of_mem hc
      have := List.all_eq_true.mp ht (f c) hmem
      rw [hf, hbeyond] at this
      cases this
    have hlatin : latin1.lower s ≠ t := by
      intro heq
      refine hout lowerLatin1 (isAscii_lowerLatin1 (hs c hc)) ?_
      rw [← heq]
      exact (String.toList_ofList).symm
    exact iff_of_false hlatin (hout Char.toLower (isAscii_toLower (hs c hc)))

/-- `str.split()`. -/
def Unicode.split (u : Unicode) (s : String) : List String :=
  ((s.toList.splitOnP u.space).filter fun word => !word.isEmpty).map String.ofList

/-- The words of a text consist of its characters. -/
theorem split_isLatin1 {u : Unicode} {s word : String} (hs : IsLatin1 s)
    (hword : word ∈ u.split s) : IsLatin1 word := by
  obtain ⟨chars, hchars, rfl⟩ := List.mem_map.mp hword
  intro c hc
  rw [String.toList_ofList] at hc
  exact hs c (Lines.mem_of_mem_splitOnP (List.mem_filter.mp hchars).1 hc)

/-! ### The trusted users -/

/-- The pattern and the bounds of `username`. -/
def validUsername (username : String) : Bool :=
  match username.toList with
  | [] => false
  | c :: rest => Unicode.isAscii c && c.isAlphanum && rest.length ≤ 127 &&
    rest.all fun c => Unicode.isAscii c && (c.isAlphanum || ['.', '_', '@', '-'].contains c)

/-- `validate_api_key`. -/
def validApiKey (apiKey : String) : Bool :=
  apiKey ≠ "" && apiKey.length ≤ 512 && !apiKey.toList.any latin1.space && isAsciiText apiKey

structure TrustedUser where
  username : String
  apiKey : String
  usernameValid : validUsername username = true
  apiKeyValid : validApiKey apiKey = true

structure AuthConfig where
  users : List TrustedUser
  nonempty : users ≠ []
  uniqueUsernames : (users.map (·.username)).Nodup
  uniqueApiKeys : (users.map (·.apiKey)).Nodup

/-! ### The authenticator -/

/-- `hmac.compare_digest` of two strings: it compares ASCII texts only. -/
def compareDigest (a b : String) : Except PyExc Bool :=
  if isAsciiText a && isAsciiText b then .ok (a == b) else .error .typeError

structure BearerAuthenticator where
  credentials : List (String × String)

namespace BearerAuthenticator

/-- `from_config`. -/
def fromConfig (config : AuthConfig) : BearerAuthenticator :=
  ⟨config.users.map fun user => (user.username, user.apiKey)⟩

/-- The loop of `authenticate`. -/
def findUser (presentedKey : String) (username : Option String) :
    List (String × String) → Except PyExc (Option String)
  | [] => .ok username
  | (trustedUsername, trustedKey) :: rest => do
    let username :=
      if ← compareDigest presentedKey trustedKey then some trustedUsername else username
    findUser presentedKey username rest

/-- `authenticate`. -/
def authenticate (a : BearerAuthenticator) (authorizationHeaders : List String) :
    Except PyExc (Option String) :=
  match authorizationHeaders with
  | [header] =>
    match latin1.split header with
    | [scheme, presentedKey] =>
      if latin1.lowered scheme ≠ "bearer" then .ok none
      else findUser presentedKey none a.credentials
    | _ => .ok none
  | _ => .ok none

end BearerAuthenticator

/-! ### The middleware -/

structure HttpResponse where
  statusCode : Nat
  headers : List (String × String)
  body : Json

/-- `_forbidden_response`. -/
def forbiddenResponse (requestId : String) : HttpResponse where
  statusCode := 403
  headers := [("Content-Type", "application/json")]
  body := .obj [
    ("error", .obj [("code", .str "FORBIDDEN"),
      ("message", .str "Authentication credentials are missing or invalid."),
      ("details", .obj []), ("retryable", .bool false)]),
    ("request_id", .str requestId)]

/-- The headers that `request_context` sets on every response. -/
def HttpResponse.tagged (requestId : String) (response : HttpResponse) : HttpResponse :=
  let headers := Landing.assign "X-Request-ID" requestId response.headers
  { response with
    headers := if lookup "Content-Type" headers = some "application/json" then
        Landing.assign "Content-Type" "application/json; charset=utf-8" headers
      else headers }

/-- `request_context`: `callNext` is the application, called with the username in its context, with
whatever effects it has besides exceptions. -/
def requestContext {m : Type → Type} [Monad m] [MonadLiftT (Except PyExc) m]
    (authenticator : BearerAuthenticator) (requestId : String)
    (callNext : String → m HttpResponse) (authorizationHeaders : List String) :
    m HttpResponse := do
  let response ← match ← authenticator.authenticate authorizationHeaders with
    | none => pure (forbiddenResponse requestId)
    | some username => callNext username
  return response.tagged requestId

/-! ### What the authenticator answers -/

/-- The headers present `key`: there is one header, and it has two words, of which the first is
"bearer" but for case. -/
def PresentsKey (authorizationHeaders : List String) (key : String) : Prop :=
  ∃ header scheme, authorizationHeaders = [header] ∧ latin1.split header = [scheme, key] ∧
    scheme.toList.map Char.toLower = "bearer".toList

theorem PresentsKey.unique {headers : List String} {key key' : String}
    (h : PresentsKey headers key) (h' : PresentsKey headers key') : key = key' := by
  obtain ⟨header, scheme, rfl, hsplit, -⟩ := h
  obtain ⟨header', scheme', heq, hsplit', -⟩ := h'
  cases heq
  rw [hsplit] at hsplit'
  cases hsplit'
  rfl

/-- The headers present the API key of a user. -/
def PresentsUser (config : AuthConfig) (authorizationHeaders : List String) (username : String) :
    Prop :=
  ∃ user ∈ config.users, user.username = username ∧
    PresentsKey authorizationHeaders user.apiKey

/-- What is expected of the authenticator and of the middleware around it: it answers with the user
whose key is presented, and with nobody else; and the application is called for that user only. -/
structure Authenticates (config : AuthConfig) (headers : List String) : Prop where
  returns : ∃ answer, (BearerAuthenticator.fromConfig config).authenticate headers = .ok answer
  username (username : String) :
    (BearerAuthenticator.fromConfig config).authenticate headers = .ok (some username) ↔
      PresentsUser config headers username
  middleware (requestId : String) (callNext : String → Except PyExc HttpResponse) :
    (∃ username, PresentsUser config headers username ∧
      requestContext (.fromConfig config) requestId callNext headers =
        (callNext username).map (·.tagged requestId)) ∨
    (∀ username, ¬ PresentsUser config headers username) ∧
      requestContext (.fromConfig config) requestId callNext headers =
        .ok ((forbiddenResponse requestId).tagged requestId)

section

variable {config : AuthConfig} {headers : List String} {key : String}

theorem TrustedUser.isAsciiText_apiKey (user : TrustedUser) : isAsciiText user.apiKey = true := by
  have h := user.apiKeyValid
  unfold validApiKey at h
  exact (Bool.and_eq_true_iff.mp h).2

/-- With an ASCII key, the loop ends with the user of that key, if there is one. -/
theorem findUser_ascii (hkey : isAsciiText key = true) (users : List TrustedUser)
    (hunique : (users.map (·.apiKey)).Nodup) (username : Option String) :
    BearerAuthenticator.findUser key username
        (users.map fun user => (user.username, user.apiKey)) =
      .ok (((users.find? (·.apiKey == key)).map (·.username)).or username) := by
  induction users generalizing username with
  | nil => rfl
  | cons user rest ih =>
    rw [List.map_cons, List.nodup_cons] at hunique
    have hcompare : compareDigest key user.apiKey = .ok (key == user.apiKey) := by
      rw [compareDigest, hkey, user.isAsciiText_apiKey]
      rfl
    rw [List.map_cons, BearerAuthenticator.findUser, hcompare]
    show BearerAuthenticator.findUser key (if (key == user.apiKey) = true then _ else _) _ = _
    rw [ih hunique.2, List.find?_cons]
    by_cases heq : user.apiKey = key
    · -- no other user has this key
      have hnone : rest.find? (·.apiKey == key) = none := by
        refine List.find?_eq_none.mpr fun other hother hsame => hunique.1 ?_
        rw [heq, ← eq_of_beq hsame]
        exact List.mem_map_of_mem hother
      simp [heq, hnone]
    · have hother : (user.apiKey == key) = false := by simpa using heq
      simp [hother, Ne.symm heq]

/-- With any other key the first comparison raises. -/
theorem findUser_beyond (hkey : isAsciiText key = false) (username : Option String) :
    BearerAuthenticator.findUser key username
      (BearerAuthenticator.fromConfig config).credentials = .error .typeError := by
  obtain ⟨users, hnonempty, -, -⟩ := config
  cases users with
  | nil => exact absurd rfl hnonempty
  | cons user rest =>
    show BearerAuthenticator.findUser key username ((user.username, user.apiKey) :: _) = _
    rw [BearerAuthenticator.findUser, compareDigest, hkey]
    rfl

/-- Headers that present no key are answered with nobody. -/
theorem authenticate_none (a : BearerAuthenticator) (hlatin : ∀ h ∈ headers, IsLatin1 h)
    (hnone : ∀ key, ¬ PresentsKey headers key) : a.authenticate headers = .ok none := by
  unfold BearerAuthenticator.authenticate
  split
  · next header =>
    split
    · next scheme presented hsplit =>
      refine if_pos fun hlowered => hnone presented ⟨header, scheme, rfl, hsplit, ?_⟩
      have hscheme : IsLatin1 scheme :=
        split_isLatin1 (hlatin header List.mem_cons_self) (hsplit ▸ List.mem_cons_self)
      exact (lowered_latin1 hscheme rfl).mp hlowered
    · rfl
  · rfl

/-- Headers that present a key are answered by the loop. -/
theorem authenticate_key (a : BearerAuthenticator) (hlatin : ∀ h ∈ headers, IsLatin1 h)
    (h : PresentsKey headers key) :
    a.authenticate headers = BearerAuthenticator.findUser key none a.credentials := by
  obtain ⟨header, scheme, rfl, hsplit, hbearer⟩ := h
  have hscheme : IsLatin1 scheme :=
    split_isLatin1 (hlatin header List.mem_cons_self) (hsplit ▸ List.mem_cons_self)
  unfold BearerAuthenticator.authenticate
  simp only [hsplit]
  exact if_neg (not_not.mpr ((lowered_latin1 hscheme rfl).mpr hbearer))

/-- The user whose key is presented. -/
theorem find_user (h : PresentsKey headers key) (username : String) :
    (config.users.find? (·.apiKey == key)).map (·.username) = some username ↔
      PresentsUser config headers username := by
  constructor
  · intro hfind
    obtain ⟨user, huser, hname⟩ := Option.map_eq_some_iff.mp hfind
    have hkey : user.apiKey = key := by simpa using List.find?_some huser
    exact ⟨user, List.mem_of_find?_eq_some huser, hname, hkey ▸ h⟩
  · rintro ⟨user, hmem, hname, hpresents⟩
    have hkey : user.apiKey = key := hpresents.unique h
    cases hfind : config.users.find? (·.apiKey == key) with
    | none => exact absurd (beq_iff_eq.mpr hkey) (List.find?_eq_none.mp hfind user hmem)
    | some found =>
      have hfound : found.apiKey = key := by simpa using List.find?_some hfind
      have hsame : found = user := List.inj_on_of_nodup_map config.uniqueApiKeys
        (List.mem_of_find?_eq_some hfind) hmem (hfound.trans hkey.symm)
      rw [Option.map_some, hsame, hname]

/-- An answer that is the user of the presented key is all that is expected. -/
theorem Authenticates.ofAnswer {answer : Option String}
    (h : (BearerAuthenticator.fromConfig config).authenticate headers = .ok answer)
    (hanswer : ∀ username, answer = some username ↔ PresentsUser config headers username) :
    Authenticates config headers := by
  refine ⟨⟨answer, h⟩, fun username => ?_, fun requestId callNext => ?_⟩
  · rw [h, Except.ok.injEq]
    exact hanswer username
  · unfold requestContext
    rw [h]
    cases answer with
    | none => exact .inr ⟨fun username hu => (nomatch (hanswer username).mpr hu), rfl⟩
    | some username =>
      refine .inl ⟨username, (hanswer username).mp rfl, ?_⟩
      show (callNext username >>= _) = _
      cases callNext username <;> rfl

/-- The authenticator and the middleware do what is expected of them if and only if no key beyond
ASCII is presented. -/
theorem authenticates_iff (config : AuthConfig) (headers : List String)
    (hlatin : ∀ header ∈ headers, IsLatin1 header) :
    Authenticates config headers ↔
      ∀ key, PresentsKey headers key → isAsciiText key = true := by
  constructor
  · intro h key hpresents
    obtain ⟨answer, hanswer⟩ := h.returns
    rw [authenticate_key _ hlatin hpresents] at hanswer
    by_contra hkey
    rw [findUser_beyond (by simpa using hkey)] at hanswer
    cases hanswer
  · intro hascii
    by_cases hpresents : ∃ key, PresentsKey headers key
    · obtain ⟨key, hkey⟩ := hpresents
      refine .ofAnswer ?_ (find_user hkey)
      rw [authenticate_key _ hlatin hkey]
      refine (findUser_ascii (hascii key hkey) config.users config.uniqueApiKeys none).trans ?_
      rw [Option.or_none]
    · have hnone : ∀ key, ¬ PresentsKey headers key := fun key h => hpresents ⟨key, h⟩
      refine .ofAnswer (authenticate_none _ hlatin hnone) fun username => ?_
      refine iff_of_false nofun ?_
      rintro ⟨user, -, -, h⟩
      exact hnone _ h

end

def sampleAuth : AuthConfig where
  users := [{ username := "alice", apiKey := "secret", usernameValid := rfl, apiKeyValid := rfl }]
  nonempty := by simp
  uniqueUsernames := by simp
  uniqueApiKeys := by simp

theorem authenticates_alice : Authenticates sampleAuth ["bEARER secret"] := by
  have hlatin : IsLatin1 "bEARER secret" := List.all_iff_forall_prop.mp (by decide)
  refine (authenticates_iff sampleAuth ["bEARER secret"]
    (List.forall_mem_singleton.mpr hlatin)).mpr ?_
  rintro key ⟨header, scheme, heq, hsplit, -⟩
  cases heq
  cases hsplit
  rfl

/-- A key beyond ASCII makes the comparison raise, and the exception leaves the middleware. -/
theorem latin1_key_raises :
    (∀ header ∈ ["Bearer \u00e9"], IsLatin1 header) ∧
      ¬ Authenticates sampleAuth ["Bearer \u00e9"] ∧
      ∀ requestId (callNext : String → Except PyExc HttpResponse),
        requestContext (.fromConfig sampleAuth) requestId callNext ["Bearer \u00e9"] =
          .error .typeError := by
  have hlatin : IsLatin1 "Bearer \u00e9" := List.all_iff_forall_prop.mp (by decide)
  refine ⟨List.forall_mem_singleton.mpr hlatin, fun h => ?_, fun _ _ => rfl⟩
  obtain ⟨answer, hanswer⟩ := h.returns
  cases hanswer

end SafactoryServer
