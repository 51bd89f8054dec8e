import ZcashPayment.PaymentStatus

/-!
Where a payer may be sent back to.

A session may name a return URL, and the settings may list the origins it has to be on. Both are
read by the URI parser of the HTTP library, which is a parameter here. Two URLs are on one origin
when scheme, host and port agree, letter case and a default port aside; the code compares the texts
it writes for them.
-/

namespace ZcashPayment

open DecimalText

/-- The part of a URL between `//` and the path. -/
structure Authority where
  text : String
  host : String
  portU16 : Option ℕ

structure Uri where
  schemeStr : Option String
  authority : Option Authority
  path : String
  query : Option String

/-- `str::parse::<Uri>`, with the text of its error. -/
abbrev UriParser := String → Except String Uri

def toAsciiLowercase (s : String) : String := String.ofList (s.toList.map Char.toLower)

/-! ### config.rs -/

section

variable (parse : UriParser)

def validateHttpUrl (name value : String) : Except String Unit :=
  match parse value with
  | .error error => .error s!"{name} must be a valid absolute http(s) URL; got {value}: {error}"
  | .ok uri =>
    match uri.schemeStr with
    | none => .error s!"{name} must be an absolute http(s) URL; got {value}"
    | some scheme =>
      if scheme ≠ "http" ∧ scheme ≠ "https" then
        .error s!"{name} must use http or https; got {value}"
      else if uri.authority.isNone then .error s!"{name} must include a host; got {value}"
      else .ok ()

def urlOrigin (uri : Uri) : Except String String :=
  match uri.authority with
  | none => .error "URL must include a host"
  | some authority =>
    if '@' ∈ authority.text.toList then .error "URL must not include user info"
    else
      let scheme := toAsciiLowercase (uri.schemeStr.getD "")
      let host := toAsciiLowercase authority.host
      match authority.portU16 with
      | none => .ok s!"{scheme}://{host}"
      | some port =>
        if scheme = "http" ∧ port = 80 ∨ scheme = "https" ∧ port = 443 then
          .ok s!"{scheme}://{host}"
        else .ok s!"{scheme}://{host}:{port}"

/-- The entries of a comma-separated list, without slashes at their ends. -/
def originItems (value : String) : List String :=
  (((value.toList.splitOn ',').map (trimBy isWhitespace)).filter (· ≠ [])).map
    fun item => String.ofList (item.rdropWhile (· = '/'))

def allowedOrigin (item : String) : Except String String := do
  validateHttpUrl parse "RETURN_URL_ALLOWED_ORIGINS" item
  let uri ← parse item
  if uri.path ≠ "/" ∧ uri.path ≠ "" ∨ uri.query.isSome then
    .error ("RETURN_URL_ALLOWED_ORIGINS entries must be origins without a path; got " ++ item)
  else urlOrigin uri

def parseAllowedOrigins (value : String) : Except String (List String) :=
  (originItems value).mapM (allowedOrigin parse)

def validateReturnUrl (value : String) (allowed : List String) : Except String Unit := do
  validateHttpUrl parse "return_url" value
  let uri ← (parse value).mapError ("return_url is invalid: " ++ ·)
  let origin ← (urlOrigin uri).mapError ("return_url: " ++ ·)
  if ¬allowed.isEmpty ∧ origin ∉ allowed then
    .error s!"return_url origin {origin} is not in RETURN_URL_ALLOWED_ORIGINS"
  else .ok ()

end

/-! ### Origins -/

/-- Scheme, host and port, in lower case and without a default port. -/
structure Origin where
  scheme : String
  host : String
  port : Option ℕ
  deriving DecidableEq, Repr

def effectivePort (scheme : String) : Option ℕ → Option ℕ
  | none => none
  | some port =>
    if scheme = "http" ∧ port = 80 ∨ scheme = "https" ∧ port = 443 then none else some port

/-- An absolute web URL without user info, on the origin `o`. -/
structure Uri.On (uri : Uri) (o : Origin) : Prop where
  web : o.scheme = "http" ∨ o.scheme = "https"
  scheme : uri.schemeStr = some o.scheme
  authority : ∃ a, uri.authority = some a ∧ '@' ∉ a.text.toList ∧ o.host = toAsciiLowercase a.host ∧
    o.port = effectivePort o.scheme a.portU16

def Origin.text (o : Origin) : String :=
  match o.port with
  | none => o.scheme ++ "://" ++ o.host
  | some port => o.scheme ++ "://" ++ o.host ++ ":" ++ toString port

/-- What the library documents of a host: a colon stands between brackets, as in `[::1]`. -/
def HostsBracketed (parse : UriParser) : Prop :=
  ∀ text uri a, parse text = .ok uri → uri.authority = some a →
    ':' ∉ a.host.toList ∨ a.host.toList.getLast? = some ']'

variable {parse : UriParser} {uri uri' : Uri} {o o' : Origin} {l m : List Char}

/-! ### The text of an origin -/

/-- The digits at the end are not a port. -/
def Unported (l : List Char) : Prop := (l.rdropWhile Char.isDigit).getLast? ≠ some ':'

/-- A text, split at a colon that only digits follow. -/
def splitPort (l : List Char) : List Char × Option ℕ :=
  if (l.rdropWhile Char.isDigit).getLast? = some ':' then
    ((l.rdropWhile Char.isDigit).dropLast, some (value (l.rtakeWhile Char.isDigit)))
  else (l, none)

lemma splitPort_of_unported (h : Unported l) : splitPort l = (l, none) := if_neg h

lemma splitPort_port (l : List Char) (port : ℕ) :
    splitPort (l ++ ':' :: digits port) = (l, some port) := by
  have hd := allDigits_digits port
  have hc : (':' : Char).isDigit = false := rfl
  unfold splitPort
  rw [rdropWhile_digits_append hd hc, rtakeWhile_digits_append hd hc, if_pos (by simp)]
  simp

lemma toLower_eq_colon {c : Char} (h : c.toLower = ':') : c = ':' := by
  unfold Char.toLower at h
  split at h
  · next hc =>
    have hr : 65 ≤ c.toNat ∧ c.toNat ≤ 90 := hc
    have hle : c.val.toNat ≤ 90 := hr.2
    have hsum : (c.val + ('a'.val - 'A'.val)).toNat = (c.val.toNat + 32) % 2 ^ 32 :=
      UInt32.toNat_add ..
    rw [Nat.mod_eq_of_lt (by omega)] at hsum
    have hn : c.val.toNat + 32 = 58 := hsum.symm.trans (congrArg Char.toNat h)
    have := hr.1
    simp only [Char.toNat] at this
    omega
  · exact h

lemma toList_toAsciiLowercase (s : String) :
    (toAsciiLowercase s).toList = s.toList.map Char.toLower := String.toList_ofList

/-- A host is not cut off at a colon. -/
lemma unported_host {host : String}
    (h : ':' ∉ host.toList ∨ host.toList.getLast? = some ']') :
    Unported (toAsciiLowercase host).toList := by
  rw [Unported, toList_toAsciiLowercase]
  rcases h with h | h
  · intro hc
    have hmem := (List.rdropWhile_prefix Char.isDigit _).subset (List.mem_of_getLast? hc)
    obtain ⟨c, hc, heq⟩ := List.mem_map.mp hmem
    exact h (toLower_eq_colon heq ▸ hc)
  · have hlast : (host.toList.map Char.toLower).getLast? = some ']' := by
      rw [List.getLast?_map, h]
      rfl
    rw [List.rdropWhile_eq_self_iff.mpr fun hne => ?_, hlast]
    · simp
    · rw [List.getLast?_eq_some_getLast hne] at hlast
      rw [Option.some.inj hlast]
      decide

/-- The texts of two origins are equal only when the origins are. -/
lemma text_inj (hw : o.scheme = "http" ∨ o.scheme = "https")
    (hw' : o'.scheme = "http" ∨ o'.scheme = "https") (hh : Unported o.host.toList)
    (hh' : Unported o'.host.toList) (h : o.text = o'.text) : o = o' := by
  have htext : ∀ o : Origin, Unported o.host.toList → ∃ rest, o.text.toList =
      o.scheme.toList ++ ':' :: '/' :: '/' :: rest ∧ splitPort rest = (o.host.toList, o.port) := by
    intro o hh
    obtain ⟨scheme, host, port⟩ := o
    cases port with
    | none => exact ⟨host.toList, by simp [Origin.text], splitPort_of_unported hh⟩
    | some port =>
      exact ⟨host.toList ++ ':' :: digits port, by simp [Origin.text, digits], splitPort_port _ _⟩
  obtain ⟨rest, hr, hs⟩ := htext o hh
  obtain ⟨rest', hr', hs'⟩ := htext o' hh'
  have heq := hr.symm.trans ((congrArg String.toList h).trans hr')
  have hsame : o.scheme = o'.scheme ∧ rest = rest' := by
    rcases hw with hw | hw <;> rcases hw' with hw' | hw' <;> rw [hw, hw'] at heq ⊢ <;>
      simp at heq ⊢ <;> exact heq
  obtain ⟨hscheme, rfl⟩ := hsame
  obtain ⟨hhost, hport⟩ := Prod.mk.inj (hs.symm.trans hs')
  obtain ⟨scheme, host, port⟩ := o
  obtain ⟨scheme', host', port'⟩ := o'
  simp only [Origin.mk.injEq]
  exact ⟨hscheme, String.ext hhost, hport⟩

/-! ### What is accepted -/

lemma validateHttpUrl_iff {name value : String} : validateHttpUrl parse name value = .ok () ↔
    ∃ uri, parse value = .ok uri ∧ (uri.schemeStr = some "http" ∨ uri.schemeStr = some "https") ∧
      uri.authority ≠ none := by
  unfold validateHttpUrl
  rcases parse value with error | uri
  · simp
  · dsimp only
    rcases hs : uri.schemeStr with _ | scheme
    · simp [hs]
    · dsimp only
      by_cases hw : scheme = "http" ∨ scheme = "https"
      · rw [if_neg fun h : scheme ≠ "http" ∧ scheme ≠ "https" => hw.elim h.1 h.2]
        rcases ha : uri.authority with _ | a <;> simp [hs, hw, ha]
      · rw [if_pos (not_or.mp hw)]
        simp [hs, hw]

/-- The origin of a web URL is written as its text. -/
lemma urlOrigin_iff (hw : uri.schemeStr = some "http" ∨ uri.schemeStr = some "https")
    {text : String} : urlOrigin uri = .ok text ↔ ∃ o, uri.On o ∧ text = o.text := by
  have hscheme : ∃ scheme, uri.schemeStr = some scheme ∧ (scheme = "http" ∨ scheme = "https") := by
    rcases hw with h | h
    · exact ⟨_, h, .inl rfl⟩
    · exact ⟨_, h, .inr rfl⟩
  obtain ⟨scheme, hs, hw⟩ := hscheme
  have hlower : toAsciiLowercase scheme = scheme := by
    rcases hw with rfl | rfl <;> decide
  have hscheme : ∀ {o}, uri.On o → o.scheme = scheme := fun h =>
    Option.some.inj (h.scheme.symm.trans hs)
  unfold urlOrigin
  rcases ha : uri.authority with _ | a
  · dsimp only
    refine iff_of_false (by simp) ?_
    rintro ⟨o, h, -⟩
    obtain ⟨a, ha', -⟩ := h.authority
    simp [ha] at ha'
  · dsimp only
    by_cases hat : '@' ∈ a.text.toList
    · rw [if_pos hat]
      refine iff_of_false (by simp) ?_
      rintro ⟨o, h, -⟩
      obtain ⟨a', ha', hat', -⟩ := h.authority
      obtain rfl := Option.some.inj (ha.symm.trans ha')
      exact hat' hat
    · rw [if_neg hat, hs, Option.getD_some, hlower]
      have hon : uri.On ⟨scheme, toAsciiLowercase a.host, effectivePort scheme a.portU16⟩ :=
        ⟨hw, hs, a, ha, hat, rfl, rfl⟩
      have htext : (match a.portU16 with
          | none => Except.ok s!"{scheme}://{toAsciiLowercase a.host}"
          | some port =>
            if scheme = "http" ∧ port = 80 ∨ scheme = "https" ∧ port = 443 then
              .ok s!"{scheme}://{toAsciiLowercase a.host}"
            else .ok s!"{scheme}://{toAsciiLowercase a.host}:{port}") =
          Except.ok (ε := String) (Origin.text
            ⟨scheme, toAsciiLowercase a.host, effectivePort scheme a.portU16⟩) := by
        rcases a.portU16 with _ | port
        · rfl
        · dsimp only
          split_ifs with h
          · rw [show effectivePort scheme (some port) = none from if_pos h]
            rfl
          · rw [show effectivePort scheme (some port) = some port from if_neg h]
            rfl
      rw [htext, Except.ok.injEq, eq_comm]
      refine ⟨fun h => ⟨_, hon, h⟩, ?_⟩
      rintro ⟨o, h, rfl⟩
      obtain ⟨a', ha', -, hhost, hport⟩ := h.authority
      obtain rfl := Option.some.inj (ha.symm.trans ha')
      obtain rfl := hscheme h
      rw [← hhost, ← hport]

lemma Uri.On.unported (h : uri.On o) (hb : HostsBracketed parse) {value : String}
    (hp : parse value = .ok uri) : Unported o.host.toList := by
  obtain ⟨a, ha, -, hhost, -⟩ := h.authority
  rw [hhost]
  exact unported_host (hb value uri a hp ha)

lemma Uri.On.unique (h : uri.On o) (h' : uri.On o') : o = o' := by
  obtain ⟨scheme, host, port⟩ := o
  obtain ⟨scheme', host', port'⟩ := o'
  obtain rfl : scheme = scheme' := Option.some.inj (h.scheme.symm.trans h'.scheme)
  obtain ⟨a, ha, -, hhost, hport⟩ := h.authority
  obtain ⟨a', ha', -, hhost', hport'⟩ := h'.authority
  obtain rfl := Option.some.inj (ha.symm.trans ha')
  simp only [Origin.mk.injEq]
  exact ⟨trivial, hhost.trans hhost'.symm, hport.trans hport'.symm⟩

/-- What a fallible map over a list collects. -/
lemma mem_of_mapM_ok {ε α β : Type} {f : α → Except ε β} {l : List α} {m : List β}
    (h : l.mapM f = .ok m) :
    (∀ b, b ∈ m ↔ ∃ a ∈ l, f a = .ok b) ∧ (∀ a ∈ l, ∃ b, f a = .ok b) ∧ (m = [] ↔ l = []) := by
  induction l generalizing m with
  | nil =>
    cases h
    simp
  | cons a l ih =>
    rw [List.mapM_cons] at h
    obtain ⟨b, hb, h⟩ := bind_ok h
    obtain ⟨m', hm, h⟩ := bind_ok h
    cases h
    obtain ⟨hmem, hall, -⟩ := ih hm
    refine ⟨fun c => ?_, fun c hc => ?_, by simp⟩
    · simp only [List.mem_cons, hmem, exists_eq_or_imp, hb, Except.ok.injEq]
      rw [eq_comm]
    · rcases List.mem_cons.mp hc with rfl | hc
      · exact ⟨b, hb⟩
      · exact hall c hc

lemma allowedOrigin_ok {item text : String} (h : allowedOrigin parse item = .ok text) :
    ∃ uri o, parse item = .ok uri ∧ uri.On o ∧ text = o.text := by
  unfold allowedOrigin at h
  obtain ⟨_, hv, h⟩ := bind_ok h
  obtain ⟨uri, hp, h⟩ := bind_ok h
  obtain ⟨uri', hp', hw, -⟩ := validateHttpUrl_iff.mp hv
  obtain rfl : uri' = uri := Except.ok.inj (hp'.symm.trans hp)
  split_ifs at h
  obtain ⟨o, hon, htext⟩ := (urlOrigin_iff hw).mp h
  exact ⟨uri', o, hp, hon, htext⟩

/-- The texts the settings are read to are those of the origins its entries are on. -/
lemma mem_parseAllowedOrigins {config : String} {origins : List String}
    (h : parseAllowedOrigins parse config = .ok origins) {text : String} :
    text ∈ origins ↔ ∃ item ∈ originItems config, ∃ uri o, parse item = .ok uri ∧ uri.On o ∧
      text = o.text := by
  obtain ⟨hmem, hall, -⟩ := mem_of_mapM_ok h
  rw [hmem]
  refine exists_congr fun item => and_congr_right fun hi => ⟨allowedOrigin_ok, ?_⟩
  rintro ⟨uri, o, hp, hon, rfl⟩
  obtain ⟨text, htext⟩ := hall item hi
  obtain ⟨uri', o', hp', hon', rfl⟩ := allowedOrigin_ok htext
  obtain rfl := Except.ok.inj (hp.symm.trans hp')
  rw [htext, hon.unique hon']

lemma mapError_ok {ε ε' α : Type} {x : Except ε α} {f : ε → ε'} {a : α}
    (h : x.mapError f = .ok a) : x = .ok a := by
  cases x with
  | error e => cases h
  | ok b => exact congrArg Except.ok (Except.ok.inj h)

lemma validateReturnUrl_iff {value : String} {allowed : List String} :
    validateReturnUrl parse value allowed = .ok () ↔ ∃ uri o, parse value = .ok uri ∧ uri.On o ∧
      (allowed ≠ [] → o.text ∈ allowed) := by
  unfold validateReturnUrl
  constructor
  · intro h
    obtain ⟨_, hv, h⟩ := bind_ok h
    obtain ⟨uri, hp, h⟩ := bind_ok h
    obtain ⟨text, ho, h⟩ := bind_ok h
    obtain ⟨uri', hp', hw, -⟩ := validateHttpUrl_iff.mp hv
    obtain rfl : uri' = uri := Except.ok.inj (hp'.symm.trans (mapError_ok hp))
    obtain ⟨o, hon, rfl⟩ := (urlOrigin_iff hw).mp (mapError_ok ho)
    refine ⟨uri', o, hp', hon, fun hne => ?_⟩
    by_contra hn
    rw [if_pos ⟨by simpa using hne, hn⟩] at h
    cases h
  · rintro ⟨uri, o, hp, hon, hmem⟩
    have hw : uri.schemeStr = some "http" ∨ uri.schemeStr = some "https" := by
      rw [hon.scheme]
      exact hon.web.imp (congrArg some) (congrArg some)
    have ha : uri.authority ≠ none := by
      obtain ⟨a, ha, -⟩ := hon.authority
      simp [ha]
    rw [validateHttpUrl_iff.mpr ⟨uri, hp, hw, ha⟩, hp]
    show ((urlOrigin uri).mapError _ >>= _) = Except.ok ()
    rw [(urlOrigin_iff hw).mpr ⟨o, hon, rfl⟩]
    show (if ¬allowed.isEmpty ∧ o.text ∉ allowed then _ else Except.ok ()) = _
    rw [if_neg]
    rintro ⟨hne, hn⟩
    exact hn (hmem (by simpa using hne))

/-- **Where a payer is sent back to**: the settings having been read, a return URL is accepted
exactly when it is an absolute web URL without user info, and on the origin of one of the entries,
if there are any. -/
theorem return_url_accepted_iff (hb : HostsBracketed parse) {config : String}
    {origins : List String} (h : parseAllowedOrigins parse config = .ok origins) (value : String) :
    validateReturnUrl parse value origins = .ok () ↔ ∃ uri o, parse value = .ok uri ∧ uri.On o ∧
      (originItems config ≠ [] → ∃ item ∈ originItems config, ∃ allowed,
        parse item = .ok allowed ∧ allowed.On o) := by
  rw [validateReturnUrl_iff]
  refine exists_congr fun uri => exists_congr fun o => and_congr_right fun hp =>
    and_congr_right fun hon => ?_
  rw [ne_eq, (mem_of_mapM_ok h).2.2, mem_parseAllowedOrigins h]
  refine imp_congr_right fun _ => exists_congr fun item => and_congr_right fun _ => ?_
  constructor
  · rintro ⟨allowed, o', hp', hon', htext⟩
    obtain rfl := text_inj hon.web hon'.web (hon.unported hb hp) (hon'.unported hb hp') htext
    exact ⟨allowed, hp', hon'⟩
  · rintro ⟨allowed, hp', hon'⟩
    exact ⟨allowed, o, hp', hon', rfl⟩

theorem return_url_accepted_on_a_default_port :
    let parse : UriParser := fun text =>
      if text = "https://shop.example" then
        .ok ⟨some "https", some ⟨"shop.example", "shop.example", none⟩, "/", none⟩
      else if text = "https://Shop.example:443/thanks" then
        .ok ⟨some "https", some ⟨"Shop.example:443", "Shop.example", some 443⟩, "/thanks", none⟩
      else .error "invalid uri character"
    validateReturnUrl parse "https://Shop.example:443/thanks" ["https://shop.example"] = .ok () ↔
      ∃ uri o, parse "https://Shop.example:443/thanks" = .ok uri ∧ uri.On o ∧
        (originItems " https://shop.example/ ," ≠ [] →
          ∃ item ∈ originItems " https://shop.example/ ,", ∃ allowed,
            parse item = .ok allowed ∧ allowed.On o) := by
  intro parse
  have hb : HostsBracketed parse := by
    intro text uri a hp ha
    simp only [parse] at hp
    split_ifs at hp <;> cases hp <;> cases ha <;> exact .inl (by decide)
  exact return_url_accepted_iff hb (by decide) _

end ZcashPayment
