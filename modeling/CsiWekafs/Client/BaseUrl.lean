import CsiWekafs.Client.EndpointUpdates
import CsiWekafs.Lib.GoNetIP

namespace CsiWekafs

/-- Of the letters outside of ASCII one has an upper case that occurs in the schemes. -/
def upperChar (c : Char) : Char := if c = 'ſ' then 'S' else c.toUpper

def urlScheme (httpScheme : Str) : Str :=
  if httpScheme.map upperChar = "HTTP" then "http"
  else if httpScheme.map upperChar = "HTTPS" then "https"
  else "http"

def ApiEndPoint.baseUrl (e : ApiEndPoint) (httpScheme : Str) : Str :=
  urlScheme httpScheme ++ "://" ++ e.ipAddress ++ ":" ++ itoa e.mgmtPort ++ "/api/v2"

/-- No URL where the endpoint is a nil pointer. -/
def Endpoints.getBaseUrl (s : Endpoints) (httpScheme : Str) (now : ℤ) (pick : Nat) :
    Endpoints × Option Str :=
  let r := s.getEndpoint now pick
  (r.1, r.2.map (·.baseUrl httpScheme))

/-- What stands between the scheme and the path of a URL. -/
def urlAuthority (url : Str) : Str := ((url.dropWhile (· ≠ ':')).drop 3).takeWhile (· ≠ '/')

/-- The host and the port that an authority denotes. A host with colons stands in brackets. -/
def splitAuthority (authority : Str) : Option (Str × Str) :=
  if authority.head? = some '[' then
    match (authority.drop 1).dropWhile (· ≠ ']') with
    | ']' :: ':' :: port => some ((authority.drop 1).takeWhile (· ≠ ']'), port)
    | _ => none
  else
    match authority.splitOn ':' with
    | [host, port] => some (host, port)
    | _ => none

example : splitAuthority "[fe80::1]:14000".toList = some ("fe80::1".toList, "14000".toList) := by decide

def Denotes (url host : Str) (port : Int64) : Prop :=
  splitAuthority (urlAuthority url) = some (host, itoa port)

def isIPv4Literal (host : Str) : Bool := (GoNet.parseIPv4Fields host).isSome

def isIPv6Literal (host : Str) : Bool := ':' ∈ host && (GoNet.parseIP host).isSome

/-- The grammar of hostnames, with labels of one character also at the end. -/
def isHostname (host : Str) : Bool := host.length ≤ 253 && (host.splitOn '.').all isHostnameLabel

def isHost (host : Str) : Bool := isIPv4Literal host || isIPv6Literal host || isHostname host

/-- The configured text becomes an endpoint with the host and the port, and so does the URL of that
endpoint. -/
def Configures (e host : Str) (port : Int64) : Prop :=
  ∀ (s : Endpoints) (now : ℤ), e ∈ s.configured →
    (s.resetDefaultEndpoints now).actualApiEndpoints.lookup e = some ⟨host, port, now⟩ ∧
      ∀ httpScheme now' pick, ∃ url,
        ({ s.resetDefaultEndpoints now with currentEndpoint := e }.getBaseUrl httpScheme now' pick).2 = some url ∧
          Denotes url host port

def ConfiguresHost (host : Str) (port : Int64) : Prop :=
  Configures (endpointKey host port) host port ∧
    (isIPv6Literal host = false → Configures host host defaultPort)

theorem urlScheme_eq (httpScheme : Str) : urlScheme httpScheme = "http" ∨ urlScheme httpScheme = "https" := by
  unfold urlScheme
  split
  next => exact Or.inl rfl
  next =>
    split
    next => exact Or.inr rfl
    next => exact Or.inl rfl

theorem slash_notMem_endpointKey {host : Str} (h : '/' ∉ host) (port : Int64) :
    '/' ∉ endpointKey host port := by
  intro hmem
  simp only [endpointKey, List.mem_append] at hmem
  obtain (hmem | hmem) | hmem := hmem
  · exact h hmem
  · exact absurd hmem (by decide)
  · exact (char_of_itoa hmem).elim (by decide) (by decide)

theorem urlAuthority_baseUrl {e : ApiEndPoint} (h : '/' ∉ e.ipAddress) (httpScheme : Str) :
    urlAuthority (e.baseUrl httpScheme) = endpointKey e.ipAddress e.mgmtPort := by
  have hkey : e.baseUrl httpScheme =
      urlScheme httpScheme ++ ("://" ++ (endpointKey e.ipAddress e.mgmtPort ++ "/api/v2")) := by
    simp [ApiEndPoint.baseUrl, endpointKey]
  have hdrop : ((e.baseUrl httpScheme).dropWhile (· ≠ ':')).drop 3 =
      endpointKey e.ipAddress e.mgmtPort ++ "/api/v2" := by
    rw [hkey]
    rcases urlScheme_eq httpScheme with hs | hs <;> rw [hs] <;> rfl
  have hslash : ∀ c ∈ endpointKey e.ipAddress e.mgmtPort, decide (c ≠ '/') = true := by
    intro c hc
    refine decide_eq_true ?_
    rintro rfl
    exact slash_notMem_endpointKey h e.mgmtPort hc
  rw [urlAuthority, hdrop, List.takeWhile_append_of_pos hslash]
  exact List.append_nil _

/-- An address is read from an authority exactly where its host has no colons. -/
theorem splitAuthority_endpointKey {host : Str} (hbracket : host.head? ≠ some '[') (hne : host ≠ [])
    (port : Int64) :
    splitAuthority (endpointKey host port) = some (host, itoa port) ↔ ':' ∉ host := by
  have hhead : (endpointKey host port).head? ≠ some '[' := by
    obtain ⟨c, t, rfl⟩ := List.exists_cons_of_ne_nil hne
    exact hbracket
  rw [splitAuthority, if_neg hhead, splitOn_endpointKey]
  constructor
  · intro h hcolon
    cases hs : host.splitOn ':' with
    | nil => exact List.splitOn_ne_nil ':' host hs
    | cons x xs =>
      cases xs with
      | nil =>
        have hjoin : [':'].intercalate (host.splitOn ':') = host := List.intercalate_splitOn ':'
        rw [hs, List.intercalate_singleton] at hjoin
        have hx : ':' ∉ x := Split.notMem_of_mem_splitOn (l := host) (by rw [hs]; simp)
        exact hx (by rwa [hjoin])
      | cons y ys =>
        rw [hs] at h
        cases ys <;> cases h
  · intro hcolon
    rw [List.splitOn_eq_singleton hcolon]
    rfl

def hyphenated (c : Char) : Bool := isAlphanumeric c || c = '-'

theorem char_of_isHostname {host : Str} (h : isHostname host = true) :
    ∀ c ∈ host, hyphenated c = true ∨ c = '.' := by
  intro c hc
  have hall := List.all_eq_true.mp (Bool.and_eq_true_iff.mp h).2
  have hjoin : ['.'].intercalate (host.splitOn '.') = host := List.intercalate_splitOn '.'
  rw [← hjoin] at hc
  rcases Split.of_mem_intercalate hc with rfl | ⟨l, hl, hc⟩
  · exact Or.inr rfl
  · have hlabel := hall l hl
    simp only [isHostnameLabel, Bool.and_eq_true] at hlabel
    exact Or.inl (List.all_eq_true.mp hlabel.1.1.2 c hc)

section
variable {host : Str}

theorem isIPv4Literal_iff : isIPv4Literal host = true ↔ ∃ fields, GoNet.parseIPv4Fields host = some fields :=
  Option.isSome_iff_exists

theorem colon_notMem_of_isIPv4Literal (h : isIPv4Literal host = true) : ':' ∉ host := by
  obtain ⟨fields, hfields⟩ := isIPv4Literal_iff.mp h
  exact fun hc => (GoNet.char_of_parseIPv4Fields hfields _ hc).elim (by decide) (by decide)

/-- Hosts are not empty, and have no characters that delimit the authority of a URL. -/
theorem isHost_spec (h : isHost host = true) : host ≠ [] ∧ '/' ∉ host ∧ '[' ∉ host := by
  simp only [isHost, Bool.or_eq_true] at h
  obtain (h | h) | h := h
  · obtain ⟨fields, hfields⟩ := isIPv4Literal_iff.mp h
    have hchar := GoNet.char_of_parseIPv4Fields hfields
    refine ⟨List.ne_nil_of_mem (GoNet.dot_mem_of_parseIPv4Fields hfields), fun hc => ?_, fun hc => ?_⟩
    all_goals exact (hchar _ hc).elim (by decide) (by decide)
  · obtain ⟨hcolon, hip⟩ := Bool.and_eq_true_iff.mp h
    obtain ⟨groups, hgroups⟩ := Option.isSome_iff_exists.mp hip
    have hparse : GoNet.parse host = some (GoNet.ofGroups groups) := by
      rw [GoNet.parse, GoNet.parseAddr, hgroups]
      rfl
    have hchar := GoNet.isAddrChar_of_parse hparse
    refine ⟨List.ne_nil_of_mem (of_decide_eq_true hcolon), fun hc => ?_, fun hc => ?_⟩
    all_goals exact absurd (hchar _ hc) (by decide)
  · refine ⟨?_, fun hc => ?_, fun hc => ?_⟩
    · rintro rfl
      exact absurd h (by decide)
    all_goals exact (char_of_isHostname h _ hc).elim (by decide) (by decide)

theorem isValidIPv4Address_of_literal (h : isIPv4Literal host = true) : isValidIPv4Address host = true := by
  obtain ⟨fields, hfields⟩ := isIPv4Literal_iff.mp h
  have hfind := GoNet.find?_dot (GoNet.char_of_parseIPv4Fields hfields)
    (GoNet.dot_mem_of_parseIPv4Fields hfields)
  rw [isValidIPv4Address, GoNet.parseIP, hfind, hfields]
  rfl

theorem isIPv4Literal_of_parseIP {groups : List Nat} (h : GoNet.parseIP host = some groups)
    (hcolon : ':' ∉ host) : isIPv4Literal host = true := by
  unfold GoNet.parseIP at h
  split at h
  next =>
    obtain ⟨fields, hfields, -⟩ := Option.map_eq_some_iff.mp h
    exact isIPv4Literal_iff.mpr ⟨fields, hfields⟩
  next hfind => exact absurd (List.mem_of_find?_eq_some hfind) hcolon
  next => cases h

theorem utf8Size_of_hyphenated {c : Char} (h : hyphenated c = true ∨ c = '.') : c.utf8Size = 1 := by
  have hle : c ≤ 'z' := by
    simp only [hyphenated, isAlphanumeric, Bool.or_eq_true, Bool.and_eq_true, decide_eq_true_eq] at h
    obtain ((((h | h) | h) | rfl) | rfl) := h
    · exact h.2
    · exact Char.le_trans h.2 (by decide)
    · exact Char.le_trans h.2 (by decide)
    all_goals decide
  have h127 : 'z'.val ≤ 127 := by decide
  exact Char.utf8Size_eq_one_iff.mpr (UInt32.le_trans hle h127)

theorem byteLen_of_isHostname (h : isHostname host = true) : byteLen host = host.length := by
  have hone : host.map Char.utf8Size = host.map fun _ => 1 :=
    List.map_congr_left fun c hc => utf8Size_of_hyphenated (char_of_isHostname h c hc)
  rw [byteLen, hone, List.map_const', List.sum_replicate]
  simp

/-- A host without colons is taken where it is an address, or its last label has two characters. -/
theorem isValidHost_iff (h : isHost host = true) (hcolon : ':' ∉ host) :
    isValidHost host = true ↔ isIPv4Literal host = true ∨ 2 ≤ ((host.splitOn '.').getLastD []).length := by
  constructor
  · intro hvalid
    simp only [isValidHost, Bool.or_eq_true] at hvalid
    obtain (hvalid | hvalid) | hvalid := hvalid
    · unfold isValidIPv4Address at hvalid
      split at hvalid
      next groups hgroups => exact Or.inl (isIPv4Literal_of_parseIP hgroups hcolon)
      next => cases hvalid
    · unfold isValidIPv6Address at hvalid
      split at hvalid
      next groups hgroups => exact Or.inl (isIPv4Literal_of_parseIP hgroups hcolon)
      next => cases hvalid
    · simp only [isValidHostname, Bool.and_eq_true, decide_eq_true_eq] at hvalid
      exact Or.inr hvalid.2
  · intro hcase
    by_cases h4 : isIPv4Literal host = true
    · rw [isValidHost, isValidIPv4Address_of_literal h4]
      rfl
    · have hname : isHostname host = true := by
        simp only [isHost, Bool.or_eq_true] at h
        obtain (h | h) | h := h
        · exact absurd h h4
        · exact absurd (of_decide_eq_true (Bool.and_eq_true_iff.mp h).1) hcolon
        · exact h
      have hvalid : isValidHostname host = true := by
        obtain ⟨hlen, hall⟩ := Bool.and_eq_true_iff.mp hname
        simp only [isValidHostname, Bool.and_eq_true, decide_eq_true_eq, byteLen_of_isHostname hname]
        exact ⟨⟨of_decide_eq_true hlen, hall⟩, hcase.resolve_left h4⟩
      rw [isValidHost, hvalid, Bool.or_true]

end

theorem denotes_baseUrl {host : Str} (h : isHost host = true) (port : Int64) (now : ℤ) (httpScheme : Str) :
    Denotes ((⟨host, port, now⟩ : ApiEndPoint).baseUrl httpScheme) host port ↔ ':' ∉ host := by
  obtain ⟨hne, hslash, hbracket⟩ := isHost_spec h
  have hhead : host.head? ≠ some '[' := fun hhead => hbracket (List.mem_of_head? hhead)
  rw [Denotes, urlAuthority_baseUrl hslash]
  exact splitAuthority_endpointKey hhead hne port

theorem configures_iff {e host : Str} {port : Int64} (he : splitEndpoint e = (host, port)) (hne : e ≠ [])
    (h : isHost host = true) : Configures e host port ↔ isValidHost host = true ∧ ':' ∉ host := by
  have hvalid : isValidEndpoint e = isValidHost host := by rw [isValidEndpoint, he]
  have hnew : ∀ now, newEndpoint e now = ⟨host, port, now⟩ := fun now => by rw [newEndpoint, he]
  constructor
  · intro hconf
    obtain ⟨hlookup, hurl⟩ := hconf ⟨[e], ∅, []⟩ 0 (by simp)
    have hvalid' : isValidHost host = true := by
      rw [lookup_resetDefaultEndpoints] at hlookup
      split at hlookup
      next hmem => exact hvalid.symm.trans hmem.2
      next => cases hlookup
    obtain ⟨url, hbase, hdenotes⟩ := hurl [] 0 0
    rw [Endpoints.getBaseUrl, getEndpoint_chosen hne, hlookup, Option.map_some] at hbase
    cases hbase
    exact ⟨hvalid', (denotes_baseUrl h port 0 []).mp hdenotes⟩
  · rintro ⟨hhost, hcolon⟩ s now hmem
    have hlookup : (s.resetDefaultEndpoints now).actualApiEndpoints.lookup e = some ⟨host, port, now⟩ := by
      rw [lookup_resetDefaultEndpoints, if_pos ⟨hmem, hvalid.trans hhost⟩, hnew]
    refine ⟨hlookup, fun httpScheme now' pick => ⟨_, ?_, (denotes_baseUrl h port now httpScheme).mpr hcolon⟩⟩
    rw [Endpoints.getBaseUrl, getEndpoint_chosen hne, hlookup, Option.map_some]

/-- A configured host is taken over and written into URLs exactly where it is an address of IPv4, or has
no colons and a last label of two characters at least. -/
theorem configuresHost_iff {host : Str} (h : isHost host = true) (port : Int64) :
    ConfiguresHost host port ↔
      isIPv4Literal host = true ∨ (':' ∉ host ∧ 2 ≤ ((host.splitOn '.').getLastD []).length) := by
  obtain ⟨hne, -, -⟩ := isHost_spec h
  have hkey : endpointKey host port ≠ [] := by
    obtain ⟨c, t, rfl⟩ := List.exists_cons_of_ne_nil hne
    exact List.cons_ne_nil _ _
  have hboth : ConfiguresHost host port ↔ isValidHost host = true ∧ ':' ∉ host := by
    rw [ConfiguresHost, configures_iff (splitEndpoint_endpointKey host port) hkey h]
    refine and_iff_left_of_imp fun hvalid _ => ?_
    have halone : splitEndpoint host = (host, defaultPort) := by
      rw [splitEndpoint, List.splitOn_eq_singleton hvalid.2]
      rfl
    exact (configures_iff halone hne h).mpr hvalid
  rw [hboth]
  constructor
  · rintro ⟨hvalid, hcolon⟩
    exact ((isValidHost_iff h hcolon).mp hvalid).imp_right fun hlen => ⟨hcolon, hlen⟩
  · rintro (h4 | ⟨hcolon, hlen⟩)
    · have hcolon := colon_notMem_of_isIPv4Literal h4
      exact ⟨(isValidHost_iff h hcolon).mpr (Or.inl h4), hcolon⟩
    · exact ⟨(isValidHost_iff h hcolon).mpr (Or.inr hlen), hcolon⟩

theorem configuresHost_iff_named : ConfiguresHost "weka-1.local" 14001 :=
  (configuresHost_iff (by decide) 14001).mpr (Or.inr (by decide))

theorem configuresHost_short_label :
    (isHost "host.a" = true ∧ ¬ ConfiguresHost "host.a" 14000) ∧
      isHost "fe80::1" = true ∧ ¬ ConfiguresHost "fe80::1" 14000 := by
  refine ⟨⟨by decide, fun h => ?_⟩, by decide, fun h => ?_⟩
  · obtain ⟨hvalid, -⟩ := (configures_iff (splitEndpoint_endpointKey _ _) (by decide) (by decide)).mp h.1
    exact absurd hvalid (by decide)
  · obtain ⟨-, hcolon⟩ := (configures_iff (splitEndpoint_endpointKey _ _) (by decide) (by decide)).mp h.1
    exact absurd hcolon (by decide)

end CsiWekafs
