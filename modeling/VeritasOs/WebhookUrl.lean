import VeritasOs.BindArtifacts
import VeritasOs.UrlParse

namespace VeritasOs.WebhookUrl
open Text JsonText BindArtifacts UrlParse

def badUrl : Exc := valueError "BIND_WEBHOOK_URL_INVALID"

def parseHttpsUrl (unicode : Unicode) (url : Chars) : Except Exc ParseResult :=
  if strip (String.ofList url) = "" then .error badUrl
  else
    match urlparse unicode url with
    | none => .error badUrl
    | some parsed =>
      if parsed.port = none then .error badUrl
      else if parsed.scheme ≠ https then .error (valueError "BIND_WEBHOOK_URL_SCHEME_INVALID")
      else if parsed.hostname unicode = [] then .error (valueError "BIND_WEBHOOK_URL_HOST_MISSING")
      else if parsed.namesUser then .error (valueError "BIND_WEBHOOK_URL_USERINFO_FORBIDDEN")
      else if parsed.fragment ≠ [] then .error (valueError "BIND_WEBHOOK_URL_FRAGMENT_FORBIDDEN")
      else .ok parsed

-- The port is written where it is not the one of https.
def hostPort (unicode : Unicode) (parsed : ParseResult) : Chars :=
  match parsed.port with
  | some (some number) => if number = 443 then parsed.hostname unicode else parsed.hostname unicode ++ ':' :: digits number
  | _ => parsed.hostname unicode

def rootedPath (parsed : ParseResult) : Chars := if parsed.path = [] then ['/'] else parsed.path

def normalizedUrl (unicode : Unicode) (url : Chars) : Except Exc Chars := do
  let parsed ← parseHttpsUrl unicode url
  return urlunparse ⟨https,hostPort unicode parsed,rootedPath parsed,[],parsed.query,[]⟩

-- What the adapter takes from its surroundings: the addresses of a host, unless the resolver
-- raises, and what ipaddress says of one.
structure Network where
  unicode : Unicode
  resolve : Chars → Option (List String)
  addressIsSafe : String → Bool

def hostnameAddressesAreSafe (network : Network) (hostname : Chars) : Bool :=
  match network.resolve hostname with
  | none => false
  | some addresses => !addresses.isEmpty && addresses.all network.addressIsSafe

def urlAllowed (network : Network) (allowedHosts : List Chars) (url : Chars) : Bool :=
  match parseHttpsUrl network.unicode url with
  | .error _ => false
  | .ok parsed =>
    decide (parsed.hostname network.unicode ∈ allowedHosts) && hostnameAddressesAreSafe network (parsed.hostname network.unicode)

def effectivePort (parsed : ParseResult) : Option Nat := parsed.port.map (·.getD 443)

-- One resource: an address in brackets is not the name that its text spells, and the empty path is the root.
structure SameResource (unicode : Unicode) (a b : ParseResult) : Prop where
  bracketed : a.bracketed = b.bracketed
  hostname : a.hostname unicode = b.hostname unicode
  port : effectivePort a = effectivePort b
  path : rootedPath a = rootedPath b
  params : a.params = b.params
  query : a.query = b.query

-- The URL handed to the transport denotes what was approved, passes the parser and has an allowed host.
def SentAsApproved (unicode : Unicode) (allowedHosts : List Chars) (url : Chars) : Prop :=
  ∃ approved sent reparsed, parseHttpsUrl unicode url = .ok approved ∧ normalizedUrl unicode url = .ok sent ∧
    parseHttpsUrl unicode sent = .ok reparsed ∧ SameResource unicode approved reparsed ∧ reparsed.hostname unicode ∈ allowedHosts

def delimiters : Chars := ['/','?','#','@',':']

structure Harmless (unicode : Unicode) (c : Char) : Prop where
  plain : c ∉ delimiters ++ ['[',']','%'] ++ removed
  expanded : ∀ d ∈ delimiters, d ∉ unicode.nfkc [c]

structure HostTexts (unicode : Unicode) : Prop where
  idempotent : ∀ s, unicode.lower (unicode.lower s) = unicode.lower s
  filled : ∀ s, unicode.lower s = [] → s = []
  lowered : ∀ s, ∀ c ∈ unicode.lower s, c ∈ s ∨ Harmless unicode c
  -- No delimiter comes from several characters, or is lost among them.
  expands : ∀ s, ∀ d ∈ delimiters, d ∈ unicode.nfkc s ↔ ∃ c ∈ s, d ∈ unicode.nfkc [c]
  ascii : ∀ c, isAscii c = true → unicode.nfkc [c] = [c]

structure Accepted (unicode : Unicode) (parsed : ParseResult) : Prop where
  port : parsed.port ≠ none
  scheme : parsed.scheme = https
  host : parsed.hostname unicode ≠ []
  nobody : parsed.namesUser = false
  fragment : parsed.fragment = []

variable {unicode : Unicode} {url : Chars} {parsed : ParseResult}

theorem parseHttpsUrl_ok : parseHttpsUrl unicode url = .ok parsed ↔
    strip (String.ofList url) ≠ "" ∧ urlparse unicode url = some parsed ∧ Accepted unicode parsed := by
  unfold parseHttpsUrl
  by_cases blank : strip (String.ofList url) = ""
  · rw [if_pos blank]
    exact iff_of_false (by simp) fun told => told.1 blank
  · rw [if_neg blank]
    cases done : urlparse unicode url with
    | none => exact iff_of_false (by simp) fun told => by cases told.2.1
    | some found =>
      dsimp only
      constructor
      · intro accepted
        split at accepted
        · cases accepted
        rename_i port
        split at accepted
        · cases accepted
        rename_i scheme
        split at accepted
        · cases accepted
        rename_i host
        split at accepted
        · cases accepted
        rename_i nobody
        split at accepted
        · cases accepted
        rename_i fragment
        cases accepted
        exact ⟨blank,rfl,port,not_not.mp scheme,host,Bool.eq_false_of_not_eq_true nobody,not_not.mp fragment⟩
      · rintro ⟨-,same,port,scheme,host,nobody,fragment⟩
        obtain rfl := Option.some.inj same
        rw [if_neg port,if_neg (not_not.mpr scheme),if_neg host,nobody,if_neg Bool.false_ne_true,if_neg (not_not.mpr fragment)]

-- Nothing but marks stands before the host.
theorem host_first (nobody : parsed.namesUser = false) : ∀ c ∈ upToLast '@' parsed.netloc, c = ':' ∨ c = '@' := by
  intro c listed
  unfold ParseResult.namesUser ParseResult.userInfo at nobody
  by_cases named : '@' ∈ parsed.netloc
  · rw [if_pos named] at nobody
    have nameless : before ':' (upToLast '@' parsed.netloc).dropLast = [] ∧ after ':' (upToLast '@' parsed.netloc).dropLast = [] := by
      simpa using nobody
    rw [← upToLast_mark named] at listed
    rcases List.mem_append.mp listed with inInfo | mark
    · by_cases parted : ':' ∈ (upToLast '@' parsed.netloc).dropLast
      · have whole := before_after parted
        rw [nameless.1,nameless.2] at whole
        rw [← whole] at inInfo
        exact .inl (List.mem_singleton.mp inInfo)
      · rw [← before_absent parted,nameless.1] at inInfo
        cases inInfo
    · exact .inr (List.mem_singleton.mp mark)
  · have alone : afterLast '@' parsed.netloc = parsed.netloc := afterLast_absent named
    have whole := upTo_afterLast '@' parsed.netloc
    rw [alone] at whole
    rw [List.append_left_eq_self.mp whole] at listed
    cases listed

theorem mem_hostInfo (listed : c ∈ parsed.hostInfo) : c ∈ parsed.netloc ∧ c ≠ '@' := by
  refine ⟨mem_afterLast listed,?_⟩
  rintro rfl
  exact mark_not_afterLast listed

theorem mem_rawHost {c : Char} (listed : c ∈ parsed.rawHost) : c ∈ parsed.hostInfo ∧ (parsed.bracketed = true → c ≠ ']') ∧
    (parsed.bracketed = false → c ≠ ':') := by
  unfold ParseResult.rawHost at listed
  split at listed
  · rename_i bracketed
    refine ⟨mem_after (mem_before listed),fun _ => ?_,fun unbracketed => absurd bracketed (by simp [unbracketed])⟩
    rintro rfl
    exact mark_not_before listed
  · rename_i unbracketed
    refine ⟨mem_before listed,fun bracketed => absurd bracketed unbracketed,fun _ => ?_⟩
    rintro rfl
    exact mark_not_before listed

theorem rawHost_given (host : parsed.hostname unicode ≠ []) : parsed.rawHost ≠ [] ∧ parsed.hostname unicode = ParseResult.lowered unicode parsed.rawHost := by
  unfold ParseResult.hostname at host ⊢
  split
  · rename_i empty
    exact absurd (if_pos empty) host
  · rename_i given
    exact ⟨given,rfl⟩

theorem unbracketed_netloc (nobody : parsed.namesUser = false) (brackets : bracketsOk unicode parsed.netloc = true)
    (unbracketed : parsed.bracketed = false) : '[' ∉ parsed.netloc ∧ ']' ∉ parsed.netloc := by
  have absent : '[' ∉ parsed.netloc := by
    rw [← upTo_afterLast '@' parsed.netloc]
    intro listed
    rcases List.mem_append.mp listed with early | late
    · rcases host_first nobody _ early with same | same
      · exact absurd same (by decide)
      · exact absurd same (by decide)
    · exact of_decide_eq_false unbracketed late
  unfold bracketsOk at brackets
  rw [if_neg absent] at brackets
  exact ⟨absent,of_decide_eq_true brackets⟩

section Texts
variable (texts : HostTexts unicode)

include texts in
theorem mem_lowered (listed : c ∈ ParseResult.lowered unicode raw) : c ∈ raw ∨ Harmless unicode c := by
  unfold ParseResult.lowered at listed
  rcases List.mem_append.mp listed with name | zone
  · rcases texts.lowered _ c name with kept | harmless
    · exact .inl (mem_before kept)
    · exact .inr harmless
  · split at zone
    · rename_i zoned
      rcases List.mem_cons.mp zone with rfl | late
      · exact .inl zoned
      · exact .inl (mem_after late)
    · cases zone

include texts in
theorem lowered_idempotent (raw : Chars) : ParseResult.lowered unicode (ParseResult.lowered unicode raw) = ParseResult.lowered unicode raw := by
  have unzoned : '%' ∉ unicode.lower (before '%' raw) := by
    intro listed
    rcases texts.lowered _ _ listed with kept | harmless
    · exact mark_not_before kept
    · exact harmless.plain (by decide)
  by_cases zoned : '%' ∈ raw
  · have spelled : ParseResult.lowered unicode raw = unicode.lower (before '%' raw) ++ '%' :: after '%' raw := by
      rw [ParseResult.lowered,if_pos zoned]
    rw [spelled,ParseResult.lowered,before_mark unzoned,after_mark unzoned,if_pos (by simp),texts.idempotent]
  · have spelled : ParseResult.lowered unicode raw = unicode.lower (before '%' raw) := by
      rw [ParseResult.lowered,if_neg zoned,List.append_nil]
    rw [spelled,ParseResult.lowered,before_absent unzoned,if_neg unzoned,List.append_nil,texts.idempotent]

include texts in
theorem netlocOk_iff (located : ∀ c ∈ netloc, c ∉ netlocEnd) : netlocOk unicode netloc = true ↔
    ∀ c ∈ normalized netloc, ∀ d ∈ delimiters, d ∉ unicode.nfkc [c] := by
  have clear : ∀ d ∈ delimiters, d ∉ normalized netloc := by
    intro d mark listed
    obtain ⟨inNetloc,kept⟩ := List.mem_filter.mp listed
    have divides : ∀ d ∈ delimiters, d ∉ separators → d ∈ netlocEnd := by simp [delimiters,separators,netlocEnd]
    exact located d inNetloc (divides d mark (of_decide_eq_true kept))
  have expanded : (∀ c ∈ normalized netloc, ∀ d ∈ delimiters, d ∉ unicode.nfkc [c]) ↔ ∀ d ∈ delimiters, d ∉ unicode.nfkc (normalized netloc) := by
    constructor
    · intro each d mark listed
      obtain ⟨c,inNetloc,from_c⟩ := (texts.expands _ d mark).mp listed
      exact each c inNetloc d mark from_c
    · intro none_listed c inNetloc d mark listed
      exact none_listed d mark ((texts.expands _ d mark).mpr ⟨c,inNetloc,listed⟩)
  unfold netlocOk
  rw [Bool.or_eq_true,Bool.or_eq_true,decide_eq_true_eq]
  constructor
  · rintro ((ascii | same) | checked)
    · intro c inNetloc d mark listed
      have plain := List.all_eq_true.mp ascii c (List.mem_filter.mp inNetloc).1
      rw [texts.ascii c plain] at listed
      exact clear d mark (List.mem_singleton.mp listed ▸ inNetloc)
    · rw [expanded,← same]
      exact clear
    · exact expanded.mpr fun d mark => of_decide_eq_true (List.all_eq_true.mp checked d mark)
  · intro each
    exact .inr (List.all_eq_true.mpr fun d mark => decide_eq_true (expanded.mp each d mark))

end Texts

theorem port_absent (raw : parsed.rawPort = []) : parsed.port = some none := if_pos raw

theorem port_small (given : parsed.port = some (some number)) : number ≤ 65535 := by
  unfold ParseResult.port at given
  split at given
  · cases given
  split at given
  · dsimp only at given
    split at given
    · rename_i small
      obtain rfl := Option.some.inj (Option.some.inj given)
      exact small
    · cases given
  · cases given

theorem port_digits (raw : parsed.rawPort = digits number) (small : number ≤ 65535) : parsed.port = some (some number) := by
  have given : digits number ≠ [] := Nat.toDigits_ne_nil
  have all : (digits number).all Char.isDigit = true := List.all_eq_true.mpr fun c listed => digits_isDigit listed
  have short : (digits number).length ≤ 5 := (Nat.length_toDigits_le_iff (by decide) (by decide)).mpr (by omega)
  have fits : (digits number).length ≤ ParseResult.maxStrDigits := short.trans (by decide)
  have value : Nat.ofDigitChars 10 (digits number) 0 = number := Nat.ofDigitChars_ten_toDigits
  rw [ParseResult.port,raw,if_neg given,all,decide_eq_true fits,Bool.and_true,if_pos rfl,value]
  exact if_pos small

structure Told (unicode : Unicode) (parsed : ParseResult) : Prop extends Accepted unicode parsed where
  parts : Parts unicode parsed

def sentParts (unicode : Unicode) (parsed : ParseResult) : ParseResult :=
  ⟨https,hostPort unicode parsed,rootedPath parsed,[],parsed.query,[]⟩

section Sent
variable (texts : HostTexts unicode) (told : Told unicode parsed)

include texts in
theorem digit_harmless (listed : c ∈ digits n) : Harmless unicode c := by
  have digit := digits_isDigit listed
  have plain : ∀ d ∈ delimiters ++ ['[',']','%'] ++ removed, d.isDigit = false := by simp [delimiters,removed]
  have ascii : isAscii c = true := by
    simp only [Char.isDigit,Bool.and_eq_true,decide_eq_true_eq,ge_iff_le,UInt32.le_iff_toNat_le] at digit
    have bound : c.toNat ≤ 57 := digit.2
    exact decide_eq_true (by omega)
  refine ⟨fun mark => ?_,fun d mark expanded => ?_⟩
  · rw [plain c mark] at digit
    cases digit
  · rw [texts.ascii c ascii] at expanded
    obtain rfl := List.mem_singleton.mp expanded
    rw [plain d (by simp [mark])] at digit
    cases digit

include told in
theorem netloc_given : parsed.netloc ≠ [] := by
  intro empty
  have noHost : parsed.rawHost = [] := by
    refine List.eq_nil_iff_forall_not_mem.mpr fun c listed => ?_
    have inNetloc := (mem_hostInfo (mem_rawHost listed).1).1
    rw [empty] at inNetloc
    cases inNetloc
  exact (rawHost_given told.host).1 noHost

include texts told

theorem mem_hostname (listed : c ∈ parsed.hostname unicode) : c ∈ parsed.rawHost ∨ Harmless unicode c := by
  rw [(rawHost_given told.host).2] at listed
  exact mem_lowered texts listed

theorem mem_hostPort (listed : c ∈ hostPort unicode parsed) : c ∈ parsed.rawHost ∨ Harmless unicode c ∨ c = ':' := by
  have host : c ∈ parsed.hostname unicode → c ∈ parsed.rawHost ∨ Harmless unicode c ∨ c = ':' := by
    intro named
    rcases mem_hostname texts told named with raw | harmless
    · exact .inl raw
    · exact .inr (.inl harmless)
  unfold hostPort at listed
  split at listed
  · split at listed
    · exact host listed
    · rcases List.mem_append.mp listed with named | port
      · exact host named
      · rcases List.mem_cons.mp port with rfl | digit
        · exact .inr (.inr rfl)
        · exact .inr (.inl (digit_harmless texts digit))
  · exact host listed

theorem sent_joinable : Joinable (hostPort unicode parsed) (rootedPath parsed) parsed.query := by
  have known : String.ofList parsed.scheme ∈ usesParams := by
    rw [told.scheme]
    decide
  have placed : ∀ c ∈ hostPort unicode parsed, c ∉ netlocEnd ∧ c ∉ removed := by
    intro c listed
    rcases mem_hostPort texts told listed with raw | harmless | rfl
    · have inNetloc := (mem_hostInfo (mem_rawHost raw).1).1
      exact ⟨told.parts.located c inNetloc,told.parts.kept c (by simp [inNetloc])⟩
    · have plain := harmless.plain
      refine ⟨fun ends => plain ?_,fun cleaned => plain (List.mem_append_right _ cleaned)⟩
      exact (show ∀ d ∈ netlocEnd, d ∈ delimiters ++ ['[',']','%'] ++ removed by simp [netlocEnd,delimiters,removed]) c ends
    · decide
  have rooted : (rootedPath parsed).head? = some '/' := by
    unfold rootedPath
    split
    · rfl
    · rename_i given
      exact (told.parts.rooted (netloc_given told)).resolve_left given
  have inPath : ∀ c ∈ rootedPath parsed, c = '/' ∨ c ∈ parsed.path := by
    unfold rootedPath
    split
    · exact fun c listed => .inl (List.mem_singleton.mp listed)
    · exact fun c listed => .inr listed
  refine ⟨fun c listed => (placed c listed).1,rooted,fun c listed => ?_,?_,told.parts.queryEnds,fun c listed => ?_⟩
  · rcases inPath c listed with rfl | given
    · decide
    · exact told.parts.pathEnds c given
  · unfold rootedPath
    split
    · decide
    · exact told.parts.noParams known
  · simp only [List.mem_append] at listed
    rcases listed with (host | path) | query
    · exact (placed c host).2
    · rcases inPath c path with rfl | given
      · decide
      · exact told.parts.kept c (by simp [given])
    · exact told.parts.kept c (by simp [query])

theorem unmarked_hostPort : ']' ∉ hostPort unicode parsed ∧ '@' ∉ hostPort unicode parsed := by
  refine ⟨fun listed => ?_,fun listed => ?_⟩
  · rcases mem_hostPort texts told listed with raw | harmless | same
    · cases bracketed : parsed.bracketed with
      | true => exact (mem_rawHost raw).2.1 bracketed rfl
      | false => exact (unbracketed_netloc told.nobody told.parts.brackets bracketed).2 (mem_hostInfo (mem_rawHost raw).1).1
    · exact harmless.plain (by decide)
    · exact absurd same (by decide)
  · rcases mem_hostPort texts told listed with raw | harmless | same
    · exact (mem_hostInfo (mem_rawHost raw).1).2 rfl
    · exact harmless.plain (by decide)
    · exact absurd same (by decide)

theorem sent_hostInfo : (sentParts unicode parsed).hostInfo = hostPort unicode parsed :=
  afterLast_absent (unmarked_hostPort texts told).2

-- No bracket is closed in the URL that is sent, so it is parsed again only where none is opened.
theorem sent_unbracketed (brackets : bracketsOk unicode (hostPort unicode parsed) = true) : (sentParts unicode parsed).bracketed = false := by
  refine decide_eq_false fun opened => ?_
  rw [sent_hostInfo texts told] at opened
  rw [bracketsOk,if_pos opened,Bool.and_eq_true] at brackets
  exact (unmarked_hostPort texts told).1 (of_decide_eq_true brackets.1)

theorem sent_netlocOk : netlocOk unicode (hostPort unicode parsed) = true := by
  refine (netlocOk_iff texts (sent_joinable texts told).located).mpr fun c listed => ?_
  obtain ⟨inHost,kept⟩ := List.mem_filter.mp listed
  rcases mem_hostPort texts told inHost with raw | harmless | rfl
  · have inNetloc := (mem_hostInfo (mem_rawHost raw).1).1
    exact (netlocOk_iff texts told.parts.located).mp told.parts.accepted c (List.mem_filter.mpr ⟨inNetloc,kept⟩)
  · exact harmless.expanded
  · exact absurd (of_decide_eq_true kept) (by decide)

theorem sent_bracketsOk (unbracketed : parsed.bracketed = false) : bracketsOk unicode (hostPort unicode parsed) = true := by
  have closed : '[' ∉ hostPort unicode parsed := by
    intro listed
    rcases mem_hostPort texts told listed with raw | harmless | same
    · exact (unbracketed_netloc told.nobody told.parts.brackets unbracketed).1 (mem_hostInfo (mem_rawHost raw).1).1
    · exact harmless.plain (by decide)
    · exact absurd same (by decide)
  rw [bracketsOk,if_neg closed]
  exact decide_eq_true (unmarked_hostPort texts told).1

theorem sent_reparsed : urlparse unicode (urlunparse (sentParts unicode parsed)) =
    if bracketsOk unicode (hostPort unicode parsed) then some (sentParts unicode parsed) else none := by
  rw [sentParts,urlparse_join (sent_joinable texts told),sent_netlocOk texts told,Bool.and_true]

theorem colonless (unbracketed : parsed.bracketed = false) : ':' ∉ parsed.hostname unicode := by
  intro listed
  rcases mem_hostname texts told listed with raw | harmless
  · exact (mem_rawHost raw).2.2 unbracketed rfl
  · exact harmless.plain (by decide)

theorem sent_host (unbracketed : parsed.bracketed = false) : (sentParts unicode parsed).rawHost = parsed.hostname unicode ∧
    effectivePort (sentParts unicode parsed) = effectivePort parsed := by
  have hostless := colonless texts told unbracketed
  have opened := sent_unbracketed texts told (sent_bracketsOk texts told unbracketed)
  have written := sent_hostInfo texts told
  have host : (sentParts unicode parsed).rawHost = before ':' (hostPort unicode parsed) := by
    rw [ParseResult.rawHost,opened,written,if_neg Bool.false_ne_true]
  have port : (sentParts unicode parsed).rawPort = after ':' (hostPort unicode parsed) := by
    rw [ParseResult.rawPort,opened,written,if_neg Bool.false_ne_true]
  have portless : hostPort unicode parsed = parsed.hostname unicode → (sentParts unicode parsed).rawHost = parsed.hostname unicode ∧
      effectivePort (sentParts unicode parsed) = some 443 := by
    intro alone
    rw [alone,before_absent hostless] at host
    rw [alone,after_absent hostless] at port
    exact ⟨host,by rw [effectivePort,port_absent port]; rfl⟩
  cases given : parsed.port with
  | none => exact absurd given told.port
  | some stated =>
    cases stated with
    | none =>
      have same : effectivePort parsed = some 443 := by rw [effectivePort,given]; rfl
      rw [same]
      exact portless (by rw [hostPort,given])
    | some number =>
      have same : effectivePort parsed = some number := by rw [effectivePort,given]; rfl
      rw [same]
      by_cases usual : number = 443
      · rw [usual]
        exact portless (by rw [hostPort,given]; exact if_pos usual)
      · have joined : hostPort unicode parsed = parsed.hostname unicode ++ ':' :: digits number := by
          rw [hostPort,given]
          exact if_neg usual
        rw [joined,before_mark hostless] at host
        rw [joined,after_mark hostless] at port
        exact ⟨host,by rw [effectivePort,port_digits port (port_small given)]; rfl⟩

theorem sent_hostname (unbracketed : parsed.bracketed = false) : (sentParts unicode parsed).hostname unicode = parsed.hostname unicode := by
  have given := (rawHost_given told.host).2
  rw [ParseResult.hostname,(sent_host texts told unbracketed).1,if_neg told.host,given]
  exact lowered_idempotent texts parsed.rawHost

theorem sent_accepted (unbracketed : parsed.bracketed = false) : Accepted unicode (sentParts unicode parsed) := by
  have named : (sentParts unicode parsed).namesUser = false := by
    have nobody : (sentParts unicode parsed).userInfo = none := if_neg (unmarked_hostPort texts told).2
    rw [ParseResult.namesUser,nobody]
  refine ⟨fun missing => told.port ?_,rfl,?_,named,rfl⟩
  · have same := (sent_host texts told unbracketed).2
    rw [effectivePort,missing] at same
    exact Option.map_eq_none_iff.mp same.symm
  · rw [sent_hostname texts told unbracketed]
    exact told.host

theorem sent_same (unbracketed : parsed.bracketed = false) (plain : parsed.params = []) : SameResource unicode parsed (sentParts unicode parsed) := by
  have opened := sent_unbracketed texts told (sent_bracketsOk texts told unbracketed)
  refine ⟨unbracketed.trans opened.symm,(sent_hostname texts told unbracketed).symm,(sent_host texts told unbracketed).2.symm,?_,plain,rfl⟩
  have rooted : rootedPath parsed ≠ [] := by
    intro empty
    have first := (sent_joinable texts told).rooted
    rw [empty] at first
    cases first
  exact (if_neg rooted).symm

end Sent

theorem parsed_told (accepted : parseHttpsUrl unicode url = .ok parsed) : urlparse unicode url = some parsed ∧ Told unicode parsed := by
  obtain ⟨-,divided,held⟩ := parseHttpsUrl_ok.mp accepted
  exact ⟨divided,{ toAccepted := held,parts := urlparse_parts divided }⟩

theorem normalizedUrl_ok (accepted : parseHttpsUrl unicode url = .ok parsed) :
    normalizedUrl unicode url = .ok (urlunparse (sentParts unicode parsed)) := by
  unfold normalizedUrl
  rw [accepted]
  rfl

theorem sentAsApproved_iff (accepted : parseHttpsUrl unicode url = .ok parsed) :
    SentAsApproved unicode allowedHosts url ↔ ∃ reparsed, parseHttpsUrl unicode (urlunparse (sentParts unicode parsed)) = .ok reparsed ∧
      SameResource unicode parsed reparsed ∧ reparsed.hostname unicode ∈ allowedHosts := by
  constructor
  · rintro ⟨approved,sent,reparsed,first,written,again,same,listed⟩
    obtain rfl := Except.ok.inj (accepted.symm.trans first)
    obtain rfl := Except.ok.inj ((normalizedUrl_ok accepted).symm.trans written)
    exact ⟨reparsed,again,same,listed⟩
  · rintro ⟨reparsed,again,same,listed⟩
    exact ⟨parsed,_,reparsed,accepted,normalizedUrl_ok accepted,again,same,listed⟩

theorem sent_visible (rooted : (rootedPath parsed).head? = some '/') :
    strip (String.ofList (urlunparse (sentParts unicode parsed))) ≠ "" := by
  intro blank
  have joined := @urlunparse_https (hostPort unicode parsed) (rootedPath parsed) parsed.query rooted
  rw [sentParts,joined,strip,String.toList_ofList] at blank
  have empty : stripBy isSpace (https ++ ':' :: '/' :: '/' :: (hostPort unicode parsed ++ (rootedPath parsed ++ withMark '?' parsed.query))) = [] := by
    simpa using congrArg String.toList blank
  have shown : isSpace 'h' = false := by decide
  rw [stripBy,https,List.cons_append,List.dropWhile_cons_of_neg (by simp [shown]),List.rdropWhile_eq_nil_iff] at empty
  exact absurd (empty 'h' List.mem_cons_self) (by simp [shown])

theorem urlAllowed_parts (accepted : urlAllowed network allowedHosts url = true) :
    ∃ parsed, parseHttpsUrl network.unicode url = .ok parsed ∧ parsed.hostname network.unicode ∈ allowedHosts := by
  unfold urlAllowed at accepted
  split at accepted
  · cases accepted
  · rename_i parsed divided
    rw [Bool.and_eq_true] at accepted
    exact ⟨parsed,divided,of_decide_eq_true accepted.1⟩

theorem webhook_url_exact (network : Network) (texts : HostTexts network.unicode) (allowedHosts : List Chars) (url : Chars)
    (accepted : urlAllowed network allowedHosts url = true) : SentAsApproved network.unicode allowedHosts url ↔
      ∀ parsed, urlparse network.unicode url = some parsed → parsed.bracketed = false ∧ parsed.params = [] := by
  obtain ⟨parsed,divided,listed⟩ := urlAllowed_parts accepted
  obtain ⟨same,told⟩ := parsed_told divided
  rw [sentAsApproved_iff divided]
  constructor
  · rintro ⟨reparsed,again,unchanged,-⟩ other shown
    obtain rfl := Option.some.inj (same.symm.trans shown)
    have twice := (parsed_told again).1
    rw [sent_reparsed texts told] at twice
    split at twice
    · rename_i brackets
      obtain rfl := Option.some.inj twice
      exact ⟨unchanged.bracketed.trans (sent_unbracketed texts told brackets),unchanged.params⟩
    · cases twice
  · intro plain
    obtain ⟨unbracketed,noParams⟩ := plain parsed same
    refine ⟨sentParts network.unicode parsed,parseHttpsUrl_ok.mpr ⟨?_,?_,sent_accepted texts told unbracketed⟩,
      sent_same texts told unbracketed noParams,?_⟩
    · exact sent_visible (sent_joinable texts told).rooted
    · rw [sent_reparsed texts told,if_pos (sent_bracketsOk texts told unbracketed)]
    · rw [sent_hostname texts told unbracketed]
      exact listed

def asciiTexts : Unicode where
  lower := List.map Char.toLower
  nfkc := id
  bracketedHost host := host.contains ':'

def letters : Chars := "abcdefghijklmnopqrstuvwxyz".toList

theorem toLower_letter (c : Char) : c.toLower = c ∨ c.toLower ∈ letters := by
  by_cases upper : c.val ≥ 'A'.val ∧ c.val ≤ 'Z'.val
  · have spelled : c = Char.ofNat c.toNat := (Char.ofNat_toNat c).symm
    have first : 65 ≤ c.toNat := UInt32.le_iff_toNat_le.mp upper.1
    have last : c.toNat < 91 := Nat.lt_succ_of_le (UInt32.le_iff_toNat_le.mp upper.2)
    rw [spelled]
    exact .inr ((show ∀ n < 91, 65 ≤ n → (Char.ofNat n).toLower ∈ letters by decide) _ last first)
  · exact .inl (dif_neg upper)

theorem asciiTexts_sound : HostTexts asciiTexts := by
  have letter : ∀ c ∈ letters, c.toLower = c ∧ c ∉ delimiters ++ ['[',']','%'] ++ removed := by
    rw [← List.forall_iff_forall_mem]
    decide
  refine ⟨fun s => ?_,fun s empty => List.map_eq_nil_iff.mp empty,fun s c listed => ?_,fun s d _ => ?_,fun c _ => rfl⟩
  · refine (List.map_map).trans (List.map_congr_left fun c _ => ?_)
    rcases toLower_letter c with kept | lower
    · exact congrArg Char.toLower kept
    · exact (letter _ lower).1
  · obtain ⟨given,inText,rfl⟩ := List.mem_map.mp listed
    rcases toLower_letter given with kept | lower
    · exact .inl (kept.symm ▸ inText)
    · refine .inr ⟨(letter _ lower).2,fun d mark expanded => (letter _ lower).2 ?_⟩
      obtain rfl := List.mem_singleton.mp expanded
      simp [mark]
  · exact ⟨fun listed => ⟨d,listed,List.mem_singleton_self d⟩,fun ⟨c,listed,same⟩ => List.mem_singleton.mp same ▸ listed⟩

def sampleNetwork : Network where
  unicode := asciiTexts
  resolve _ := some ["93.184.216.34"]
  addressIsSafe address := address == "93.184.216.34"

def sampleHosts : List Chars := ["api.example.com".toList,"2606:4700::1111".toList]

theorem webhook_url_exact_sample : SentAsApproved sampleNetwork.unicode sampleHosts "https://API.example.com:8443?run=1".toList :=
  (webhook_url_exact sampleNetwork asciiTexts_sound sampleHosts _ (by decide)).mpr (by
    intro parsed divided
    have known : urlparse sampleNetwork.unicode "https://API.example.com:8443?run=1".toList =
        some ⟨https,"API.example.com:8443".toList,[],[],"run=1".toList,[]⟩ := by decide
    obtain rfl := Option.some.inj (known.symm.trans divided)
    decide)

theorem parameters_and_brackets_dropped : (urlAllowed sampleNetwork sampleHosts "https://api.example.com/a;v=2".toList = true ∧
      ¬SentAsApproved sampleNetwork.unicode sampleHosts "https://api.example.com/a;v=2".toList) ∧
    urlAllowed sampleNetwork sampleHosts "https://[2606:4700::1111]/hook".toList = true ∧
      ¬SentAsApproved sampleNetwork.unicode sampleHosts "https://[2606:4700::1111]/hook".toList := by
  have first : parseHttpsUrl sampleNetwork.unicode "https://api.example.com/a;v=2".toList =
      .ok ⟨https,"api.example.com".toList,"/a".toList,"v=2".toList,[],[]⟩ := by rfl
  have second : parseHttpsUrl sampleNetwork.unicode "https://[2606:4700::1111]/hook".toList =
      .ok ⟨https,"[2606:4700::1111]".toList,"/hook".toList,[],[],[]⟩ := by rfl
  have plain : parseHttpsUrl sampleNetwork.unicode "https://api.example.com/a".toList =
      .ok ⟨https,"api.example.com".toList,"/a".toList,[],[],[]⟩ := by rfl
  have refused : parseHttpsUrl sampleNetwork.unicode "https://2606:4700::1111/hook".toList = .error badUrl := by rfl
  refine ⟨⟨by decide,fun sent => ?_⟩,by decide,fun sent => ?_⟩
  · obtain ⟨reparsed,again,same,-⟩ := (sentAsApproved_iff first).mp sent
    obtain rfl := Except.ok.inj (plain.symm.trans again)
    exact absurd same.params (by decide)
  · obtain ⟨reparsed,again,-⟩ := (sentAsApproved_iff second).mp sent
    cases refused.symm.trans again

end VeritasOs.WebhookUrl
