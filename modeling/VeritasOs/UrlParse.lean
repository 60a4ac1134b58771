import Mathlib.Data.List.TakeWhile
import VeritasOs.JsonRoundTrip

namespace VeritasOs.UrlParse
open JsonText

abbrev Chars := List Char

def before (mark : Char) (s : Chars) : Chars := s.takeWhile (· != mark)
def after (mark : Char) (s : Chars) : Chars := (s.dropWhile (· != mark)).drop 1

-- s.rpartition(mark); the first part with its mark.
def upToLast (mark : Char) (s : Chars) : Chars := (s.reverse.dropWhile (· != mark)).reverse
def afterLast (mark : Char) (s : Chars) : Chars := (s.reverse.takeWhile (· != mark)).reverse

section Cutting
variable {mark c : Char} {s t : Chars}

theorem takeWhile_stops (all : ∀ c ∈ s, p c = true) (stops : ∀ c ∈ t.head?, p c = false) :
    (s ++ t).takeWhile p = s ∧ (s ++ t).dropWhile p = t := by
  induction s with
  | nil =>
    cases t with
    | nil => exact ⟨rfl,rfl⟩
    | cons head rest =>
      have stop : p head = false := stops head rfl
      rw [List.nil_append,List.takeWhile_cons_of_neg (by simp [stop]),List.dropWhile_cons_of_neg (by simp [stop])]
      exact ⟨rfl,rfl⟩
  | cons head rest ih =>
    obtain ⟨first,others⟩ := List.forall_mem_cons.mp all
    obtain ⟨taken,dropped⟩ := ih others
    rw [List.cons_append,List.takeWhile_cons_of_pos first,List.dropWhile_cons_of_pos first,taken,dropped]
    exact ⟨rfl,rfl⟩

theorem unmarked (absent : mark ∉ s) : ∀ c ∈ s, (c != mark) = true := by
  rintro c listed
  exact bne_iff_ne.mpr fun same => absent (same ▸ listed)

theorem before_absent (absent : mark ∉ s) : before mark s = s := by
  have cut := (takeWhile_stops (t := []) (unmarked absent) (by simp)).1
  rwa [List.append_nil] at cut

theorem after_absent (absent : mark ∉ s) : after mark s = [] := by
  have cut := (takeWhile_stops (t := []) (unmarked absent) (by simp)).2
  rw [List.append_nil] at cut
  rw [after,cut]
  rfl

theorem before_mark (absent : mark ∉ s) : before mark (s ++ mark :: t) = s :=
  (takeWhile_stops (unmarked absent) (by simp)).1

theorem after_mark (absent : mark ∉ s) : after mark (s ++ mark :: t) = t := by
  rw [after,(takeWhile_stops (unmarked absent) (by simp)).2]
  rfl

theorem mark_not_before : mark ∉ before mark s := fun listed => by simpa using List.mem_takeWhile_imp listed

theorem mem_before (listed : c ∈ before mark s) : c ∈ s := (List.takeWhile_sublist _).subset listed

theorem mem_after (listed : c ∈ after mark s) : c ∈ s := (List.dropWhile_sublist _).subset (List.mem_of_mem_drop listed)

theorem before_after (present : mark ∈ s) : before mark s ++ mark :: after mark s = s := by
  obtain ⟨early,late,rfl,absent⟩ := List.eq_append_cons_of_mem present
  rw [before_mark absent,after_mark absent]

theorem upTo_afterLast (mark : Char) (s : Chars) : upToLast mark s ++ afterLast mark s = s := by
  rw [upToLast,afterLast,← List.reverse_append,List.takeWhile_append_dropWhile,List.reverse_reverse]

theorem afterLast_absent (absent : mark ∉ s) : afterLast mark s = s := by
  have cut : before mark s.reverse = s.reverse := before_absent (by simpa using absent)
  rw [before] at cut
  rw [afterLast,cut,List.reverse_reverse]

theorem mem_afterLast (listed : c ∈ afterLast mark s) : c ∈ s := by
  rw [← upTo_afterLast mark s]
  exact List.mem_append_right _ listed

theorem mem_upToLast (listed : c ∈ upToLast mark s) : c ∈ s := by
  rw [← upTo_afterLast mark s]
  exact List.mem_append_left _ listed

theorem mark_not_afterLast : mark ∉ afterLast mark s := fun listed => by
  rw [afterLast,List.mem_reverse] at listed
  simpa using List.mem_takeWhile_imp listed

theorem upToLast_mark (present : mark ∈ s) : (upToLast mark s).dropLast ++ [mark] = upToLast mark s := by
  have cut := before_after (show mark ∈ s.reverse by simpa using present)
  have left : s.reverse.dropWhile (· != mark) = mark :: after mark s.reverse := by
    have whole := List.takeWhile_append_dropWhile (p := (· != mark)) (l := s.reverse)
    rw [← before] at whole
    exact List.append_cancel_left (whole.trans cut.symm)
  rw [upToLast,left,List.reverse_cons,List.dropLast_concat]

theorem afterLast_upTo (absent : mark ∉ t) : afterLast mark (upToLast mark s ++ t) = t := by
  have stops : ∀ c ∈ (s.reverse.dropWhile (· != mark)).head?, (c != mark) = false := by
    intro c first
    exact Bool.eq_false_of_not_eq_true fun passed => by
      have held := List.head?_dropWhile_not (· != mark) s.reverse
      rw [Option.mem_def.mp first] at held
      exact absurd passed (by simpa using held)
  rw [afterLast,List.reverse_append,upToLast,List.reverse_reverse,
    (takeWhile_stops (unmarked (by simpa using absent)) stops).1,List.reverse_reverse]

end Cutting

-- The texts of a host as Unicode has them: str.lower, the normal form NFKC, and the address in
-- brackets that ipaddress and IPvFuture accept.
structure Unicode where
  lower : Chars → Chars
  nfkc : Chars → Chars
  bracketedHost : Chars → Bool

def removed : Chars := ['\t','\r','\n']

-- url.lstrip(_WHATWG_C0_CONTROL_OR_SPACE), without the characters that are removed
def clean (url : Chars) : Chars := (url.dropWhile fun c => c.toNat ≤ 32).filter fun c => c ∉ removed

def isSchemeChar (c : Char) : Bool := c.isAlphanum || c == '+' || c == '-' || c == '.'

def isScheme (head : Chars) : Bool := head.head?.any Char.isAlpha && head.all isSchemeChar

def splitScheme (url : Chars) : Chars × Chars :=
  if ':' ∈ url ∧ isScheme (before ':' url) = true then ((before ':' url).map Char.toLower,after ':' url) else ([],url)

def netlocEnd : Chars := ['/','?','#']

def splitNetloc (url : Chars) : Chars × Chars :=
  match url with
  | '/' :: '/' :: rest => (rest.takeWhile fun c => c ∉ netlocEnd,rest.dropWhile fun c => c ∉ netlocEnd)
  | _ => ([],url)

def bracketsOk (unicode : Unicode) (netloc : Chars) : Bool :=
  if '[' ∈ netloc then decide (']' ∈ netloc) && unicode.bracketedHost (before ']' (after '[' netloc)) else decide (']' ∉ netloc)

def isAscii (c : Char) : Bool := c.toNat < 128

-- The characters that are removed before a network location is normalized.
def separators : Chars := ['@',':','#','?']

def normalized (netloc : Chars) : Chars := netloc.filter fun c => c ∉ separators

-- _checknetloc: no character turns into a delimiter when it is normalized.
def netlocOk (unicode : Unicode) (netloc : Chars) : Bool :=
  netloc.all isAscii || decide (normalized netloc = unicode.nfkc (normalized netloc)) ||
    ['/','?','#','@',':'].all fun c => c ∉ unicode.nfkc (normalized netloc)

structure SplitResult where
  scheme : Chars
  netloc : Chars
  path : Chars
  query : Chars
  fragment : Chars

-- A text without a mark is all before it, with nothing after it.
def urlsplit (unicode : Unicode) (url : Chars) : Option SplitResult :=
  let (scheme,rest) := splitScheme (clean url)
  let (netloc,rest) := splitNetloc rest
  if bracketsOk unicode netloc && netlocOk unicode netloc then
    some { scheme,netloc,path := before '?' (before '#' rest),query := after '?' (before '#' rest),fragment := after '#' rest }
  else none

structure ParseResult where
  scheme : Chars
  netloc : Chars
  path : Chars
  params : Chars
  query : Chars
  fragment : Chars
deriving DecidableEq

def usesParams : List String :=
  ["","ftp","hdl","prospero","http","imap","https","shttp","rtsp","rtsps","rtspu","sip","sips","mms","sftp","tel"]

-- Only the last segment of a path has parameters.
def splitParams (path : Chars) : Chars × Chars :=
  if ';' ∈ afterLast '/' path then (upToLast '/' path ++ before ';' (afterLast '/' path),after ';' (afterLast '/' path)) else (path,[])

def urlparse (unicode : Unicode) (url : Chars) : Option ParseResult :=
  (urlsplit unicode url).map fun split =>
    let (path,params) := if String.ofList split.scheme ∈ usesParams then splitParams split.path else (split.path,[])
    { scheme := split.scheme,netloc := split.netloc,path,params,query := split.query,fragment := split.fragment }

namespace ParseResult
variable (parsed : ParseResult)

def hostInfo : Chars := afterLast '@' parsed.netloc

def bracketed : Bool := decide ('[' ∈ parsed.hostInfo)

def rawHost : Chars := if parsed.bracketed then before ']' (after '[' parsed.hostInfo) else before ':' parsed.hostInfo

def rawPort : Chars :=
  if parsed.bracketed then after ':' (after ']' (after '[' parsed.hostInfo)) else after ':' parsed.hostInfo

-- The zone of an address keeps its letters.
def lowered (unicode : Unicode) (host : Chars) : Chars :=
  unicode.lower (before '%' host) ++ (if '%' ∈ host then '%' :: after '%' host else [])

def hostname (unicode : Unicode) : Chars := if parsed.rawHost = [] then [] else lowered unicode parsed.rawHost

def maxStrDigits : Nat := 4300

-- None where no port is given; a port that is no number up to 65535 raises.
def port : Option (Option Nat) :=
  if parsed.rawPort = [] then some none
  else if parsed.rawPort.all Char.isDigit && decide (parsed.rawPort.length ≤ maxStrDigits) then
    let number := Nat.ofDigitChars 10 parsed.rawPort 0
    if number ≤ 65535 then some (some number) else none
  else none

def userInfo : Option Chars := if '@' ∈ parsed.netloc then some (upToLast '@' parsed.netloc).dropLast else none

def namesUser : Bool :=
  match parsed.userInfo with
  | some info => before ':' info != [] || after ':' info != []
  | none => false

end ParseResult

def usesNetloc : List String :=
  ["","ftp","http","gopher","nntp","telnet","imap","wais","file","mms","https","shttp","snews","prospero","rtsp","rtsps","rtspu",
   "rsync","svn","svn+ssh","sftp","nfs","git","git+ssh","ws","wss"]

def withMark (mark : Char) (part : Chars) : Chars := if part = [] then [] else mark :: part

def urlunsplit (split : SplitResult) : Chars :=
  let path :=
    if split.netloc ≠ [] ∨ (split.scheme ≠ [] ∧ String.ofList split.scheme ∈ usesNetloc) ∨ split.path.take 2 = ['/','/'] then
      ['/','/'] ++ split.netloc ++ (if split.path ≠ [] ∧ split.path.head? ≠ some '/' then '/' :: split.path else split.path)
    else split.path
  (if split.scheme = [] then [] else split.scheme ++ [':']) ++ path ++ withMark '?' split.query ++ withMark '#' split.fragment

def urlunparse (parsed : ParseResult) : Chars :=
  urlunsplit { scheme := parsed.scheme,netloc := parsed.netloc,path := parsed.path ++ withMark ';' parsed.params,query := parsed.query,
               fragment := parsed.fragment }

def https : Chars := ['h','t','t','p','s']

-- Parts that neither end early nor run into the next.
structure Joinable (netloc path query : Chars) : Prop where
  located : ∀ c ∈ netloc, c ∉ netlocEnd
  rooted : path.head? = some '/'
  pathEnds : ∀ c ∈ path, c ≠ '?' ∧ c ≠ '#'
  noParams : ';' ∉ afterLast '/' path
  queryEnds : '#' ∉ query
  kept : ∀ c ∈ netloc ++ path ++ query, c ∉ removed

variable {unicode : Unicode} {netloc path query : Chars}

theorem withMark_split (absent : '?' ∉ rest) : before '?' (rest ++ withMark '?' query) = rest ∧
    after '?' (rest ++ withMark '?' query) = query := by
  unfold withMark
  split
  · rename_i empty
    rw [List.append_nil,before_absent absent,after_absent absent,empty]
    exact ⟨rfl,rfl⟩
  · exact ⟨before_mark absent,after_mark absent⟩

theorem urlunparse_https (rooted : path.head? = some '/') :
    urlunparse ⟨https,netloc,path,[],query,[]⟩ = https ++ ':' :: '/' :: '/' :: (netloc ++ (path ++ withMark '?' query)) := by
  have plain : path ++ withMark ';' [] = path := List.append_nil path
  have joined : netloc ≠ [] ∨ (https ≠ [] ∧ String.ofList https ∈ usesNetloc) ∨ path.take 2 = ['/','/'] := .inr (.inl ⟨by decide,by decide⟩)
  have slashed : ¬(path ≠ [] ∧ path.head? ≠ some '/') := fun both => both.2 rooted
  unfold urlunparse urlunsplit
  dsimp only
  rw [plain,if_pos joined,if_neg slashed,if_neg (show ¬https = [] by decide)]
  simp [withMark]

theorem clean_https (kept : ∀ c ∈ rest, c ∉ removed) : clean (https ++ rest) = https ++ rest := by
  have shown : (https ++ rest).dropWhile (fun c => decide (c.toNat ≤ 32)) = https ++ rest := rfl
  rw [clean,shown]
  refine List.filter_eq_self.mpr fun c listed => decide_eq_true ?_
  rcases List.mem_append.mp listed with scheme | later
  · exact (show ∀ c ∈ https, c ∉ removed by simp [https,removed]) c scheme
  · exact kept c later

theorem urlsplit_join (joinable : Joinable netloc path query) : urlsplit unicode (urlunparse ⟨https,netloc,path,[],query,[]⟩) =
    if bracketsOk unicode netloc && netlocOk unicode netloc then some ⟨https,netloc,path,query,[]⟩ else none := by
  have mark : ∀ c ∈ withMark '?' query, c = '?' ∨ c ∈ query := by
    unfold withMark
    split
    · exact fun c listed => absurd listed List.not_mem_nil
    · exact fun c listed => List.mem_cons.mp listed
  have tail : ∀ c ∈ ':' :: '/' :: '/' :: (netloc ++ (path ++ withMark '?' query)), c ∉ removed := by
    intro c listed
    simp only [List.mem_cons,List.mem_append] at listed
    rcases listed with rfl | rfl | rfl | inNetloc | inPath | inQuery
    · decide
    · decide
    · decide
    · exact joinable.kept c (by simp [inNetloc])
    · exact joinable.kept c (by simp [inPath])
    · rcases mark c inQuery with rfl | asked
      · decide
      · exact joinable.kept c (by simp [asked])
  have scheme : splitScheme (https ++ ':' :: '/' :: '/' :: (netloc ++ (path ++ withMark '?' query))) =
      (https,'/' :: '/' :: (netloc ++ (path ++ withMark '?' query))) := by
    have cut : before ':' (https ++ ':' :: '/' :: '/' :: (netloc ++ (path ++ withMark '?' query))) = https := before_mark (by decide)
    have rest : after ':' (https ++ ':' :: '/' :: '/' :: (netloc ++ (path ++ withMark '?' query))) = _ := after_mark (by decide)
    rw [splitScheme,cut,rest,if_pos ⟨by simp,by decide⟩]
    rfl
  have stops : ∀ c ∈ (path ++ withMark '?' query).head?, decide (c ∉ netlocEnd) = false := by
    intro c first
    have root : (path ++ withMark '?' query).head? = some '/' := by rw [List.head?_append,joinable.rooted]; rfl
    obtain rfl := Option.some.inj (root.symm.trans first)
    decide
  have location := takeWhile_stops (fun c listed => decide_eq_true (joinable.located c listed)) stops
  have netlocSplit : splitNetloc ('/' :: '/' :: (netloc ++ (path ++ withMark '?' query))) = (netloc,path ++ withMark '?' query) :=
    Prod.ext location.1 location.2
  have whole : '#' ∉ path ++ withMark '?' query := by
    intro listed
    rcases List.mem_append.mp listed with inPath | inQuery
    · exact (joinable.pathEnds _ inPath).2 rfl
    · rcases mark _ inQuery with same | asked
      · exact absurd same (by decide)
      · exact joinable.queryEnds asked
  have asked : before '?' (path ++ withMark '?' query) = path ∧ after '?' (path ++ withMark '?' query) = query :=
    withMark_split fun listed => (joinable.pathEnds _ listed).1 rfl
  rw [urlunparse_https joinable.rooted,urlsplit,clean_https tail,scheme]
  dsimp only
  rw [netlocSplit]
  dsimp only
  rw [before_absent whole,after_absent whole,asked.1,asked.2]

theorem urlparse_join (joinable : Joinable netloc path query) : urlparse unicode (urlunparse ⟨https,netloc,path,[],query,[]⟩) =
    if bracketsOk unicode netloc && netlocOk unicode netloc then some ⟨https,netloc,path,[],query,[]⟩ else none := by
  have known : String.ofList https ∈ usesParams := by decide
  rw [urlparse,urlsplit_join joinable]
  split
  · rw [Option.map_some]
    dsimp only
    rw [if_pos known,splitParams,if_neg joinable.noParams]
  · rfl

structure Parts (unicode : Unicode) (parsed : ParseResult) : Prop where
  located : ∀ c ∈ parsed.netloc, c ∉ netlocEnd
  brackets : bracketsOk unicode parsed.netloc = true
  accepted : netlocOk unicode parsed.netloc = true
  rooted : parsed.netloc ≠ [] → parsed.path = [] ∨ parsed.path.head? = some '/'
  pathEnds : ∀ c ∈ parsed.path, c ≠ '?' ∧ c ≠ '#'
  noParams : String.ofList parsed.scheme ∈ usesParams → ';' ∉ afterLast '/' parsed.path
  queryEnds : '#' ∉ parsed.query
  kept : ∀ c ∈ parsed.netloc ++ parsed.path ++ parsed.query, c ∉ removed

theorem splitParams_path (path : Chars) : (∀ c ∈ (splitParams path).1, c ∈ path) ∧ ';' ∉ afterLast '/' (splitParams path).1 ∧
    (path.head? = some '/' → (splitParams path).1.head? = some '/') := by
  unfold splitParams
  split
  · rename_i given
    have slashless : '/' ∉ before ';' (afterLast '/' path) := fun listed => mark_not_afterLast (mem_before listed)
    refine ⟨fun c listed => ?_,?_,fun rooted => ?_⟩
    · rcases List.mem_append.mp listed with early | late
      · exact mem_upToLast early
      · exact mem_afterLast (mem_before late)
    · dsimp only
      rw [afterLast_upTo slashless]
      exact mark_not_before
    · -- The last segment has no slash, so the slash at the head is in what precedes it.
      have whole := upTo_afterLast '/' path
      cases early : upToLast '/' path with
      | nil =>
        rw [early,List.nil_append] at whole
        rw [← whole] at rooted
        exact absurd (List.mem_of_mem_head? rooted) mark_not_afterLast
      | cons head rest =>
        rw [early] at whole
        rw [← whole] at rooted
        exact rooted
  · rename_i absent
    exact ⟨fun c listed => listed,absent,id⟩

theorem splitNetloc_parts (url : Chars) : (∀ c ∈ (splitNetloc url).1, c ∉ netlocEnd ∧ c ∈ url) ∧ (∀ c ∈ (splitNetloc url).2, c ∈ url) ∧
    ((splitNetloc url).1 ≠ [] → ∀ c ∈ (splitNetloc url).2.head?, c ∈ netlocEnd) := by
  unfold splitNetloc
  split
  · rename_i rest
    refine ⟨fun c listed => ⟨?_,?_⟩,fun c listed => ?_,fun _ c first => ?_⟩
    · simpa using List.mem_takeWhile_imp listed
    · exact List.mem_cons_of_mem _ (List.mem_cons_of_mem _ ((List.takeWhile_sublist _).subset listed))
    · exact List.mem_cons_of_mem _ (List.mem_cons_of_mem _ ((List.dropWhile_sublist _).subset listed))
    · have stop := List.head?_dropWhile_not (fun c => decide (c ∉ netlocEnd)) rest
      rw [Option.mem_def.mp first] at stop
      simpa using stop
  · exact ⟨fun c listed => absurd listed List.not_mem_nil,fun c listed => listed,fun given => absurd rfl given⟩

theorem urlparse_parts (done : urlparse unicode url = some parsed) : Parts unicode parsed := by
  obtain ⟨split,divided,rfl⟩ := Option.map_eq_some_iff.mp done
  have inScheme : ∀ c ∈ (splitScheme (clean url)).2, c ∉ removed := by
    intro c listed
    have cleaned : c ∈ clean url := by
      unfold splitScheme at listed
      split at listed
      · exact mem_after listed
      · exact listed
    simpa using (List.mem_filter.mp cleaned).2
  unfold urlsplit at divided
  generalize splitScheme (clean url) = parts at divided inScheme
  obtain ⟨scheme,rest⟩ := parts
  dsimp only at divided inScheme
  have location := splitNetloc_parts rest
  generalize splitNetloc rest = parts at divided location
  obtain ⟨netloc,late⟩ := parts
  dsimp only at divided location
  obtain ⟨located,remaining,stops⟩ := location
  split at divided
  case isFalse => cases divided
  rename_i checked
  cases divided
  obtain ⟨brackets,accepted⟩ := (Bool.and_eq_true _ _).mp checked
  have inPath : ∀ c ∈ before '?' (before '#' late), c ∈ late ∧ c ≠ '?' ∧ c ≠ '#' := by
    intro c listed
    refine ⟨mem_before (mem_before listed),?_,?_⟩
    · rintro rfl
      exact mark_not_before listed
    · rintro rfl
      exact mark_not_before (mem_before listed)
  have inQuery : ∀ c ∈ after '?' (before '#' late), c ∈ late ∧ c ≠ '#' := by
    intro c listed
    refine ⟨mem_before (mem_after listed),?_⟩
    rintro rfl
    exact mark_not_before (mem_after listed)
  have rooted : netloc ≠ [] → before '?' (before '#' late) = [] ∨ (before '?' (before '#' late)).head? = some '/' := by
    intro given
    cases late with
    | nil => exact .inl rfl
    | cons c rest =>
      have ends : c ∈ netlocEnd := stops given c rfl
      simp only [netlocEnd,List.mem_cons,List.not_mem_nil,or_false] at ends
      rcases ends with rfl | rfl | rfl
      · exact .inr rfl
      · exact .inl rfl
      · exact .inl rfl
  have plain := splitParams_path (before '?' (before '#' late))
  dsimp only
  split
  · refine ⟨fun c listed => (located c listed).1,brackets,accepted,fun given => ?_,fun c listed => (inPath c (plain.1 c listed)).2,fun _ => plain.2.1,
      fun listed => (inQuery _ listed).2 rfl,?_⟩
    · rcases rooted given with empty | root
      · rw [empty]
        exact .inl rfl
      · exact .inr (plain.2.2 root)
    · intro c listed
      simp only [List.mem_append] at listed
      rcases listed with (host | path) | query
      · exact inScheme c (located c host).2
      · exact inScheme c (remaining c (inPath c (plain.1 c path)).1)
      · exact inScheme c (remaining c (inQuery c query).1)
  · rename_i unknown
    refine ⟨fun c listed => (located c listed).1,brackets,accepted,rooted,fun c listed => (inPath c listed).2,fun known => absurd known unknown,
      fun listed => (inQuery _ listed).2 rfl,?_⟩
    intro c listed
    simp only [List.mem_append] at listed
    rcases listed with (host | path) | query
    · exact inScheme c (located c host).2
    · exact inScheme c (remaining c (inPath c path).1)
    · exact inScheme c (remaining c (inQuery c query).1)

end VeritasOs.UrlParse
