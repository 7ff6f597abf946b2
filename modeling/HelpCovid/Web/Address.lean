import HelpCovid.Lib.Decimal

/-!
# The address that is served

`hcv_webserver_run` takes the host and the port to listen on from the web url, by
four attempts of `sscanf` that share a buffer and a variable. No attempt looks at
what follows the part it reads: a host is cut after 60 characters, a port that
was not understood is replaced by the default one, and a port may be any number
that is not zero in 32 bits.
-/

namespace HelpCovid.Web

open CText

/-! ## The code -/

/-- The scan set `[a-zA-Z0-9_.-]`. -/
def isHostChar (c : Char) : Bool := isNameChar c || c == '.' || c == '-'

/-- The variables that the attempts share. -/
structure UrlVars where
  webhost : Text
  webport : Nat
  endpos : Int
deriving Repr, DecidableEq

/-- What `listen` is called with. -/
structure Address where
  webhost : Text
  webport : Nat
deriving Repr, DecidableEq

/-- `sscanf(url, SCHEME "%60[a-zA-Z0-9_.-]:%u%n", ...)`: the number of conversions
and the variables. -/
def scanHostPort (scheme url : Text) (vars : UrlVars) : Nat × UrlVars :=
  match literal scheme url with
  | none => (0, vars)
  | some rest =>
    match scanSet 60 isHostChar rest with
    | none => (0, vars)
    | some (webhost, rest) =>
      let vars := { vars with webhost := webhost }
      match literal [':'] rest with
      | none => (1, vars)
      | some rest =>
        match scanUnsigned rest with
        | none => (1, vars)
        | some (webport, rest) =>
          (2, { vars with webport := webport, endpos := url.length - rest.length })

/-- `sscanf(url, SCHEME "%60[a-zA-Z0-9_.-]%n", ...)` -/
def scanHost (scheme url : Text) (vars : UrlVars) : Nat × UrlVars :=
  match literal scheme url with
  | none => (0, vars)
  | some rest =>
    match scanSet 60 isHostChar rest with
    | none => (0, vars)
    | some (webhost, rest) =>
      (1, { vars with webhost := webhost, endpos := url.length - rest.length })

def httpScheme : Text := ['h', 't', 't', 'p', ':', '/', '/']

def httpsScheme : Text := ['h', 't', 't', 'p', 's', ':', '/', '/']

/-- The default port, by `getuid() == 0`. -/
def defaultWebport (root : Bool) : Nat := if root then 80 else 8080

/-- The condition after an attempt to read a host and a port. -/
def hostPortRead (n : Nat) (vars : UrlVars) : Bool :=
  decide (2 ≤ n) && decide (0 < vars.endpos) && !vars.webhost.isEmpty && decide (0 < vars.webport)

/-- The condition after an attempt to read a host. -/
def hostRead (n : Nat) (vars : UrlVars) : Bool :=
  decide (1 ≤ n) && !vars.webhost.isEmpty && decide (0 < vars.endpos)

/-- `memset(webhost, 0, sizeof(webhost)), endpos = -1` -/
def UrlVars.clear (vars : UrlVars) : UrlVars := { vars with webhost := [], endpos := -1 }

/-- The cascade of `hcv_webserver_run`, which ends in `listen`; `none` when it
aborts. -/
def serveAddress (root : Bool) (weburl : Text) : Option Address :=
  let defaultwebport := defaultWebport root
  if weburl.isEmpty then none
  else
    let url := cstr weburl
    let (n, vars) := scanHostPort httpScheme url ⟨[], defaultwebport, -1⟩
    if hostPortRead n vars then some ⟨vars.webhost, vars.webport⟩
    else
      let (n, vars) := scanHostPort httpsScheme url vars.clear
      if hostPortRead n vars then some ⟨vars.webhost, vars.webport⟩
      else
        let (n, vars) := scanHost httpScheme url vars.clear
        if hostRead n vars then some ⟨vars.webhost, defaultwebport⟩
        else
          let (n, vars) := scanHost httpsScheme url vars.clear
          if hostRead n vars then some ⟨vars.webhost, defaultwebport⟩
          else none

/-! ## What a url denotes -/

/-- `http` or `https`. -/
def IsScheme (scheme : Text) : Prop := scheme = httpScheme ∨ scheme = httpsScheme

/-- A host of letters, digits, dots, underscores and dashes. -/
def IsHost (host : Text) : Prop := host ≠ [] ∧ ∀ c ∈ host, isHostChar c = true

/-- What may follow the address: nothing, or a path. -/
def IsPath (path : Text) : Prop := path = [] ∨ ∃ rest, path = '/' :: rest

/-- A port as it is written. -/
structure IsPort (digits : Text) (port : Nat) : Prop where
  ne_nil : digits ≠ []
  isDigit : ∀ c ∈ digits, c.isDigit = true
  value : decimalNumber digits = port
  range : 1 ≤ port ∧ port ≤ 65535

/-- The url denotes the address; the default port applies when none is written. -/
inductive Denotes (root : Bool) : Text → Address → Prop where
  | written {scheme host digits path port} (hscheme : IsScheme scheme) (hhost : IsHost host)
      (hport : IsPort digits port) (hpath : IsPath path) :
      Denotes root (scheme ++ (host ++ ':' :: (digits ++ path))) ⟨host, port⟩
  | default {scheme host path} (hscheme : IsScheme scheme) (hhost : IsHost host)
      (hpath : IsPath path) :
      Denotes root (scheme ++ (host ++ path)) ⟨host, defaultWebport root⟩

/-- The server listens where the url says, or not at all. -/
def AddressCorrect (root : Bool) (weburl : Text) : Prop :=
  ∀ address, serveAddress root weburl = some address → Denotes root weburl address

/-- The url goes as far as the first character of a host. -/
def StartsHost (weburl : Text) : Prop :=
  ∃ scheme c rest, IsScheme scheme ∧ isHostChar c = true ∧ weburl = scheme ++ c :: rest

/-! ## One attempt -/

theorem isScheme_noNul {scheme : Text} (h : IsScheme scheme) : '\x00' ∉ scheme := by
  rcases h with rfl | rfl <;> decide

theorem isHostChar_noNul {c : Char} (h : isHostChar c = true) : c ≠ '\x00' := by
  rintro rfl
  exact absurd h (by decide)

/-- The scheme of an attempt that is not the one of the url. -/
theorem literal_other_scheme (rest : Text) :
    literal httpScheme (httpsScheme ++ rest) = none ∧
      literal httpsScheme (httpScheme ++ rest) = none := ⟨rfl, rfl⟩

/-- What an attempt reads: the scheme and at least one character of a host. -/
def ReadsHost (scheme url host : Text) : Prop :=
  ∃ rest rest', literal scheme url = some rest ∧ scanSet 60 isHostChar rest = some (host, rest')

/-- An attempt at a host succeeds where there is one. -/
theorem scanHost_read {scheme url host : Text} (h : ReadsHost scheme url host) (vars : UrlVars) :
    hostRead (scanHost scheme url vars).1 (scanHost scheme url vars).2 = true ∧
      (scanHost scheme url vars).2.webhost = host := by
  rcases h with ⟨rest, rest', hscheme, hscan⟩
  rcases scanSet_spec hscan with ⟨hsplit, hne, -⟩
  have hurl := eq_append_of_literal hscheme
  have hpos : rest'.length < url.length := by
    have hlength : 0 < host.length := List.length_pos_iff.mpr hne
    rw [hurl, hsplit, List.length_append, List.length_append]
    omega
  have hempty : host.isEmpty = false := by simpa using hne
  simp [scanHost, hscheme, hscan, hostRead, hempty, hpos]

/-- And only there. -/
theorem scanHost_not_read {scheme url : Text} (h : ¬ ∃ host, ReadsHost scheme url host)
    (vars : UrlVars) : hostRead (scanHost scheme url vars).1 (scanHost scheme url vars).2 = false := by
  unfold scanHost
  split
  · rfl
  · next rest hscheme =>
      split
      · rfl
      · next host rest' hscan => exact absurd ⟨host, rest, rest', hscheme, hscan⟩ h

/-- An attempt at a host and a port needs a host. -/
theorem scanHostPort_read {scheme url : Text} {vars : UrlVars}
    (h : hostPortRead (scanHostPort scheme url vars).1 (scanHostPort scheme url vars).2 = true) :
    ReadsHost scheme url (scanHostPort scheme url vars).2.webhost := by
  unfold scanHostPort at h ⊢
  cases hscheme : literal scheme url with
  | none =>
    rw [hscheme] at h
    cases h
  | some rest =>
    cases hscan : scanSet 60 isHostChar rest with
    | none =>
      simp only [hscheme, hscan] at h
      cases h
    | some field =>
      rcases field with ⟨host, rest'⟩
      simp only [hscan]
      refine ⟨rest, rest', hscheme, ?_⟩
      rw [hscan]
      split
      · rfl
      · split <;> rfl

/-! ## The cascade -/

/-- What an attempt at a host and a port comes to. -/
def tryHostPort (scheme url : Text) (vars : UrlVars) : Option Address :=
  if hostPortRead (scanHostPort scheme url vars).1 (scanHostPort scheme url vars).2 then
    some ⟨(scanHostPort scheme url vars).2.webhost, (scanHostPort scheme url vars).2.webport⟩
  else none

/-- What an attempt at a host comes to. -/
def tryHost (root : Bool) (scheme url : Text) (vars : UrlVars) : Option Address :=
  if hostRead (scanHost scheme url vars).1 (scanHost scheme url vars).2 then
    some ⟨(scanHost scheme url vars).2.webhost, defaultWebport root⟩
  else none

/-- The first attempt that succeeds decides, whatever the ones before left in the
variables. -/
theorem serveAddress_attempts (root : Bool) {weburl : Text} (hne : weburl ≠ []) :
    ∃ vars₁ vars₂ vars₃ vars₄, serveAddress root weburl =
      (tryHostPort httpScheme (cstr weburl) vars₁).or
        ((tryHostPort httpsScheme (cstr weburl) vars₂).or
          ((tryHost root httpScheme (cstr weburl) vars₃).or
            (tryHost root httpsScheme (cstr weburl) vars₄))) := by
  have hor : ∀ (c : Bool) (a : Address) (x : Option Address),
      (if c then some a else none).or x = if c then some a else x := by
    intro c a x
    cases c <;> rfl
  have hempty : ¬ weburl.isEmpty = true := by simpa using hne
  refine ⟨⟨[], defaultWebport root, -1⟩,
    (scanHostPort httpScheme (cstr weburl) ⟨[], defaultWebport root, -1⟩).2.clear,
    (scanHostPort httpsScheme (cstr weburl)
      (scanHostPort httpScheme (cstr weburl) ⟨[], defaultWebport root, -1⟩).2.clear).2.clear,
    (scanHost httpScheme (cstr weburl) (scanHostPort httpsScheme (cstr weburl)
      (scanHostPort httpScheme (cstr weburl)
        ⟨[], defaultWebport root, -1⟩).2.clear).2.clear).2.clear, ?_⟩
  simp only [tryHostPort, tryHost, hor]
  rw [serveAddress, if_neg hempty]

theorem tryHostPort_some {scheme url : Text} {vars : UrlVars} {a : Address}
    (h : tryHostPort scheme url vars = some a) : ReadsHost scheme url a.webhost := by
  unfold tryHostPort at h
  split at h
  · next hread =>
      obtain rfl := Option.some.inj h
      exact scanHostPort_read hread
  · cases h

theorem tryHost_of_reads (root : Bool) {scheme url host : Text} (h : ReadsHost scheme url host)
    (vars : UrlVars) : tryHost root scheme url vars = some ⟨host, defaultWebport root⟩ := by
  rcases scanHost_read h vars with ⟨hread, hhost⟩
  rw [tryHost, if_pos hread, hhost]

theorem tryHost_some {root : Bool} {scheme url : Text} {vars : UrlVars} {a : Address}
    (h : tryHost root scheme url vars = some a) : ReadsHost scheme url a.webhost := by
  by_cases hreads : ∃ host, ReadsHost scheme url host
  · rcases hreads with ⟨host, hreads⟩
    rw [tryHost_of_reads root hreads] at h
    obtain rfl := Option.some.inj h
    exact hreads
  · rw [tryHost, scanHost_not_read hreads] at h
    cases h

/-- Only an address whose host was read is served. -/
theorem readsHost_of_serveAddress {root : Bool} {weburl : Text} {a : Address}
    (h : serveAddress root weburl = some a) :
    ∃ scheme, IsScheme scheme ∧ ReadsHost scheme (cstr weburl) a.webhost := by
  have hne : weburl ≠ [] := by
    rintro rfl
    cases h
  rcases serveAddress_attempts root hne with ⟨vars₁, vars₂, vars₃, vars₄, hserve⟩
  rw [hserve, Option.or_eq_some_iff, Option.or_eq_some_iff, Option.or_eq_some_iff] at h
  rcases h with h | ⟨-, h | ⟨-, h | ⟨-, h⟩⟩⟩
  · exact ⟨_, Or.inl rfl, tryHostPort_some h⟩
  · exact ⟨_, Or.inr rfl, tryHostPort_some h⟩
  · exact ⟨_, Or.inl rfl, tryHost_some h⟩
  · exact ⟨_, Or.inr rfl, tryHost_some h⟩

/-- The server is refused exactly when the url does not go as far as a host. -/
theorem serveAddress_eq_none_iff (root : Bool) (weburl : Text) :
    serveAddress root weburl = none ↔ ¬ StartsHost weburl := by
  constructor
  · rintro hnone ⟨scheme, c, rest, hscheme, hc, rfl⟩
    have hnul := isScheme_noNul hscheme
    have hcstr : cstr (scheme ++ c :: rest) = scheme ++ c :: cstr rest := by
      rw [cstr_append hnul, cstr_cons (isHostChar_noNul hc)]
    have hreads : ∃ host, ReadsHost scheme (cstr (scheme ++ c :: rest)) host := by
      rcases exists_scanSet 59 hc (cstr rest) with ⟨host, rest', hscan⟩
      exact ⟨host, c :: cstr rest, rest', by rw [hcstr, literal_append], hscan⟩
    rcases hreads with ⟨host, hreads⟩
    obtain ⟨vars₁, vars₂, vars₃, vars₄, hserve⟩ :=
      @serveAddress_attempts root (scheme ++ c :: rest) (by simp)
    rw [hserve, Option.or_eq_none_iff, Option.or_eq_none_iff, Option.or_eq_none_iff] at hnone
    rcases hscheme with rfl | rfl
    · rw [tryHost_of_reads root hreads] at hnone
      cases hnone.2.2.1
    · rw [tryHost_of_reads root hreads] at hnone
      cases hnone.2.2.2
  · intro hstarts
    cases hserve : serveAddress root weburl with
    | none => rfl
    | some a =>
      rcases readsHost_of_serveAddress hserve with ⟨scheme, hscheme, rest, rest', hliteral, hscan⟩
      rcases scanSet_spec hscan with ⟨hsplit, hne, hchars⟩
      rcases List.exists_cons_of_ne_nil hne with ⟨c, host, hhost⟩
      -- what stands before the first NUL begins the url
      have hwhole : weburl = cstr weburl ++ weburl.dropWhile (· != '\x00') :=
        List.takeWhile_append_dropWhile.symm
      refine absurd ⟨scheme, c, host ++ (rest' ++ weburl.dropWhile (· != '\x00')), hscheme,
        hchars c (by simp [hhost]), ?_⟩ hstarts
      conv_lhs => rw [hwhole]
      rw [eq_append_of_literal hliteral, hsplit, hhost]
      simp

/-! ## A url that denotes an address -/

theorem IsPath.cstr {path : Text} (h : IsPath path) : IsPath (cstr path) := by
  rcases h with rfl | ⟨rest, rfl⟩
  · exact Or.inl rfl
  · exact Or.inr ⟨CText.cstr rest, rfl⟩

/-- A path does not go on with a host, a port or a colon. -/
theorem IsPath.head {path : Text} (h : IsPath path) :
    ∀ c ∈ path.head?, isHostChar c = false ∧ c.isDigit = false ∧ c ≠ ':' := by
  rcases h with rfl | ⟨rest, rfl⟩
  · simp
  · intro c hc
    obtain rfl : '/' = c := by simpa using hc
    decide

theorem isHost_noNul {host : Text} (h : IsHost host) : '\x00' ∉ host :=
  fun hmem => isHostChar_noNul (h.2 _ hmem) rfl

theorem isPort_noNul {digits : Text} {port : Nat} (h : IsPort digits port) : '\x00' ∉ digits :=
  fun hmem => absurd (h.isDigit _ hmem) (by decide)

variable {scheme host digits path : Text} {port : Nat}

/-- A host that fits the buffer is read whole. -/
theorem scanSet_host (hhost : IsHost host) (hshort : host.length ≤ 60) {rest : Text}
    (hrest : ∀ c ∈ rest.head?, isHostChar c = false) :
    scanSet 60 isHostChar (host ++ rest) = some (host, rest) := by
  refine scanSet_append rest hhost.1 hhost.2 hshort (Or.inr ?_)
  intro c hc
  rw [hrest c hc]
  exact Bool.false_ne_true

/-- A port that is written is read. -/
theorem tryHostPort_written (hhost : IsHost host) (hshort : host.length ≤ 60)
    (hport : IsPort digits port) (hpath : IsPath path) (vars : UrlVars) :
    tryHostPort scheme (scheme ++ (host ++ ':' :: (digits ++ path))) vars =
      some ⟨host, port⟩ := by
  have hscan : scanSet 60 isHostChar (host ++ ':' :: (digits ++ path)) =
      some (host, ':' :: (digits ++ path)) := by
    refine scanSet_host hhost hshort fun c hc => ?_
    obtain rfl : ':' = c := by simpa using hc
    decide
  have hcolon : literal [':'] (':' :: (digits ++ path)) = some (digits ++ path) :=
    literal_append [':'] _
  have hfits : decimalNumber digits < 2 ^ 32 := by
    have hrange := hport.range
    have hvalue := hport.value
    omega
  have hnumber : scanUnsigned (digits ++ path) = some (port, path) := by
    rw [scanUnsigned_digits hport.ne_nil hport.isDigit (fun c hc => (hpath.head c hc).2.1) hfits,
      hport.value]
  have hend : path.length < (scheme ++ (host ++ ':' :: (digits ++ path))).length := by
    simp only [List.length_append, List.length_cons]
    omega
  have hempty : host.isEmpty = false := by simpa using hhost.1
  have hpos : 0 < port := hport.range.1
  have hattempt : scanHostPort scheme (scheme ++ (host ++ ':' :: (digits ++ path))) vars =
      (2, ⟨host, port, (scheme ++ (host ++ ':' :: (digits ++ path))).length - path.length⟩) := by
    simp only [scanHostPort, literal_append, hscan, hcolon, hnumber]
  have hread : hostPortRead 2
      ⟨host, port, (scheme ++ (host ++ ':' :: (digits ++ path))).length - path.length⟩ = true := by
    have hend' : (0 : Int) <
        (scheme ++ (host ++ ':' :: (digits ++ path))).length - path.length := by omega
    simp only [hostPortRead, hempty, hpos, hend', decide_true, Bool.not_false, Bool.and_self,
      le_refl]
  rw [tryHostPort, hattempt, if_pos hread]

/-- Without a colon no port is read. -/
theorem tryHostPort_unwritten (hhost : IsHost host) (hshort : host.length ≤ 60)
    (hpath : IsPath path) (vars : UrlVars) :
    tryHostPort scheme (scheme ++ (host ++ path)) vars = none := by
  have hscan := scanSet_host hhost hshort fun c hc => (hpath.head c hc).1
  have hcolon : literal [':'] path = none := by
    rcases hpath with rfl | ⟨rest, rfl⟩
    · rfl
    · rfl
  have hattempt : scanHostPort scheme (scheme ++ (host ++ path)) vars =
      (1, { vars with webhost := host }) := by
    simp only [scanHostPort, literal_append, hscan, hcolon]
  rw [tryHostPort, hattempt]
  exact if_neg (by simp [hostPortRead])

theorem tryHostPort_other {url : Text} (h : literal scheme url = none) (vars : UrlVars) :
    tryHostPort scheme url vars = none := by
  have hattempt : scanHostPort scheme url vars = (0, vars) := by
    simp only [scanHostPort, h]
  rw [tryHostPort, hattempt]
  exact if_neg (by simp [hostPortRead])

theorem tryHost_other (root : Bool) {url : Text} (h : literal scheme url = none)
    (vars : UrlVars) : tryHost root scheme url vars = none := by
  have hattempt : scanHost scheme url vars = (0, vars) := by
    simp only [scanHost, h]
  rw [tryHost, hattempt]
  exact if_neg (by simp [hostRead])

/-- The address that a url denotes is served, when the host fits the buffer. -/
theorem serveAddress_of_denotes {root : Bool} {weburl : Text} {a : Address}
    (h : Denotes root weburl a) (hshort : a.webhost.length ≤ 60) :
    serveAddress root weburl = some a := by
  cases h with
  | @written scheme host digits path port hscheme hhost hport hpath =>
    have hcstr : cstr (scheme ++ (host ++ ':' :: (digits ++ path))) =
        scheme ++ (host ++ ':' :: (digits ++ cstr path)) := by
      rw [cstr_append (isScheme_noNul hscheme), cstr_append (isHost_noNul hhost),
        cstr_cons (by decide), cstr_append (isPort_noNul hport)]
    have hne : scheme ++ (host ++ ':' :: (digits ++ path)) ≠ [] := by simp
    have hread := @tryHostPort_written scheme host digits (cstr path) port hhost hshort hport
      hpath.cstr
    rcases serveAddress_attempts root hne with ⟨vars₁, vars₂, vars₃, vars₄, hserve⟩
    rw [hserve, hcstr]
    rcases hscheme with rfl | rfl
    · rw [hread]
      rfl
    · rw [tryHostPort_other (literal_other_scheme _).1, hread]
      rfl
  | @default scheme host path hscheme hhost hpath =>
    have hcstr : cstr (scheme ++ (host ++ path)) = scheme ++ (host ++ cstr path) := by
      rw [cstr_append (isScheme_noNul hscheme), cstr_append (isHost_noNul hhost)]
    have hne : scheme ++ (host ++ path) ≠ [] := by simp [hhost.1]
    have hport := @tryHostPort_unwritten scheme host (cstr path) hhost hshort hpath.cstr
    have hreads : ReadsHost scheme (scheme ++ (host ++ cstr path)) host :=
      ⟨host ++ cstr path, cstr path, literal_append _ _,
        scanSet_host hhost hshort fun c hc => (hpath.cstr.head c hc).1⟩
    rcases serveAddress_attempts root hne with ⟨vars₁, vars₂, vars₃, vars₄, hserve⟩
    rw [hserve, hcstr]
    rcases hscheme with rfl | rfl
    · rw [hport, tryHostPort_other (literal_other_scheme _).2, tryHost_of_reads root hreads]
      rfl
    · rw [tryHostPort_other (literal_other_scheme _).1, hport,
        tryHost_other root (literal_other_scheme _).1, tryHost_of_reads root hreads]
      rfl

/-- **Exactness.** The server listens where the url says, or not at all, exactly
when the url does not go as far as a host or denotes an address whose host fits
the buffer. -/
theorem addressCorrect_iff (root : Bool) (weburl : Text) :
    AddressCorrect root weburl ↔
      ¬ StartsHost weburl ∨ ∃ a, Denotes root weburl a ∧ a.webhost.length ≤ 60 := by
  constructor
  · intro hcorrect
    cases hserve : serveAddress root weburl with
    | none => exact Or.inl ((serveAddress_eq_none_iff root weburl).mp hserve)
    | some a =>
      rcases readsHost_of_serveAddress hserve with ⟨scheme, -, rest, rest', -, hscan⟩
      exact Or.inr ⟨a, hcorrect a hserve, length_le_of_scanSet hscan⟩
  · rintro (hrefused | ⟨a, hdenotes, hshort⟩) a' hserve
    · rw [(serveAddress_eq_none_iff root weburl).mpr hrefused] at hserve
      cases hserve
    · rw [serveAddress_of_denotes hdenotes hshort] at hserve
      obtain rfl := Option.some.inj hserve
      exact hdenotes

/-- A port above the range is passed to `listen`. -/
theorem serveAddress_port :
    serveAddress false "http://localhost:99999".toList = some ⟨"localhost".toList, 99999⟩ ∧
      ¬ AddressCorrect false "http://localhost:99999".toList := by
  have hserve : serveAddress false "http://localhost:99999".toList =
      some ⟨"localhost".toList, 99999⟩ := by decide
  refine ⟨hserve, fun hcorrect => ?_⟩
  have hrange : ∀ {weburl : Text} {a : Address}, Denotes false weburl a → a.webport ≤ 65535 := by
    intro weburl a h
    cases h with
    | written _ _ hport _ => exact hport.range.2
    | default _ _ _ => exact (by decide : defaultWebport false ≤ 65535)
  exact absurd (hrange (hcorrect _ hserve)) (by decide)

/-- A port with letters after it is served all the same. -/
example : serveAddress false "http://localhost:80abc".toList = some ⟨"localhost".toList, 80⟩ := by
  decide

/-- A port of zero is replaced by the default one. -/
example : serveAddress false "http://localhost:0".toList = some ⟨"localhost".toList, 8080⟩ := by
  decide

end HelpCovid.Web
