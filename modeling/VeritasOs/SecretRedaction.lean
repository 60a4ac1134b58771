import VeritasOs.Text
import VeritasOs.TrustLog

namespace VeritasOs.SecretRedaction
open Text TrustLog

abbrev Chars := List Char

section Patterns
-- The pieces the patterns are made of. In each of them no character fits both a repeated
-- class and what follows it, so what a greedy piece has taken is never given back.
inductive Item where
  | one (fits : Char → Bool)
  | opt (fits : Char → Bool)
  | run (fits : Char → Bool) (least : Nat) (most : Option Nat)

def Item.fits : Item → Char → Bool
  | .one fits => fits
  | .opt fits => fits
  | .run fits _ _ => fits

def upTo (most : Option Nat) (text : Chars) : Chars :=
  match most with
  | none => text
  | some most => text.take most

def Item.take : Item → Chars → Option Chars
  | .one _,[] => none
  | .one fits,c :: _ => if fits c then some [c] else none
  | .opt fits,text => some ((text.take 1).takeWhile fits)
  | .run fits least most,text =>
    if least ≤ ((upTo most text).takeWhile fits).length then some ((upTo most text).takeWhile fits) else none

def matchItems : List Item → Chars → Option Chars
  | [],_ => some []
  | item :: items,text => do
    let taken ← item.take text
    let more ← matchItems items (text.drop taken.length)
    return taken ++ more

-- What re.sub goes through: the characters it leaves and the matches it replaces.
def pieces (find : Chars → Option α) (width : α → Nat) : Nat → Chars → List (Char ⊕ α)
  | _,[] => []
  | skip + 1,_ :: rest => pieces find width skip rest
  | 0,c :: rest =>
    match find (c :: rest) with
    | none => .inl c :: pieces find width 0 rest
    | some found => .inr found :: pieces find width (width found - 1) rest

def sub (find : Chars → Option α) (width : α → Nat) (replace : α → Chars) (text : Chars) : Chars :=
  (pieces find width 0 text).flatMap (Sum.elim (fun c => [c]) replace)

variable {find : Chars → Option α} {width : α → Nat} {own : α → Chars}

theorem pieces_found (listed : .inr found ∈ pieces find width skip text) : ∃ rest, find rest = some found := by
  induction text generalizing skip with
  | nil => cases skip <;> cases listed
  | cons c rest ih =>
    cases skip with
    | succ skip => exact ih listed
    | zero =>
      rw [pieces] at listed
      split at listed
      · rcases List.mem_cons.mp listed with same | later
        · cases same
        · exact ih later
      · rename_i first matched
        rcases List.mem_cons.mp listed with same | later
        · cases same
          exact ⟨_,matched⟩
        · exact ih later

-- With the matches left as they are the pieces are the text again.
theorem pieces_text (sized : ∀ found, width found = (own found).length)
    (prefixed : ∀ text found, find text = some found → own found ≠ [] ∧ ∃ rest, text = own found ++ rest) (skip : Nat) (text : Chars) :
    (pieces find width skip text).flatMap (Sum.elim (fun c => [c]) own) = text.drop skip := by
  induction text generalizing skip with
  | nil => cases skip <;> rfl
  | cons c rest ih =>
    cases skip with
    | succ skip => exact ih skip
    | zero =>
      rw [pieces]
      split
      · rw [List.flatMap_cons,ih 0]
        rfl
      · rename_i found matched
        obtain ⟨some_,after,same⟩ := prefixed _ _ matched
        rw [List.flatMap_cons,ih,sized]
        cases taken : own found with
        | nil => exact absurd taken some_
        | cons head tail =>
          rw [taken,List.cons_append] at same
          obtain ⟨rfl,rfl⟩ := List.cons.inj same
          simp [taken]

theorem take_fits {item : Item} {text taken : Chars} {c : Char} (bad : item.fits c = false) (matched : item.take text = some taken) :
    c ∉ taken := by
  intro listed
  have fits : item.fits c = true := by
    cases item with
    | one fits =>
      cases text with
      | nil => cases matched
      | cons head rest =>
        rw [Item.take] at matched
        split at matched
        · rename_i good
          cases matched
          rw [List.mem_singleton.mp listed]
          exact good
        · cases matched
    | opt fits =>
      cases matched
      exact List.mem_takeWhile_imp listed
    | run fits least most =>
      rw [Item.take] at matched
      split at matched
      · cases matched
        exact List.mem_takeWhile_imp listed
      · cases matched
  exact Bool.false_ne_true (bad.symm.trans fits)

theorem take_prefix {item : Item} {text taken : Chars} (matched : item.take text = some taken) : taken <+: text := by
  cases item with
  | one fits =>
    cases text with
    | nil => cases matched
    | cons head rest =>
      rw [Item.take] at matched
      split at matched
      · cases matched
        exact ⟨rest,rfl⟩
      · cases matched
  | opt fits =>
    cases matched
    exact (List.takeWhile_prefix _).trans (List.take_prefix 1 text)
  | run fits least most =>
    rw [Item.take] at matched
    split at matched
    · cases matched
      cases most with
      | none => exact List.takeWhile_prefix _
      | some most => exact (List.takeWhile_prefix _).trans (List.take_prefix most text)
    · cases matched

theorem matchItems_fits {items : List Item} {text taken : Chars} {c : Char} (bad : ∀ item ∈ items, item.fits c = false)
    (matched : matchItems items text = some taken) : c ∉ taken := by
  induction items generalizing text taken with
  | nil =>
    cases matched
    exact List.not_mem_nil
  | cons item items ih =>
    obtain ⟨first,here,rest⟩ := Option.bind_eq_some_iff.mp matched
    obtain ⟨more,later,same⟩ := Option.bind_eq_some_iff.mp rest
    cases same
    intro listed
    rcases List.mem_append.mp listed with head | tail
    · exact take_fits (bad item List.mem_cons_self) here head
    · exact ih (fun other listed => bad other (List.mem_cons_of_mem _ listed)) later tail

theorem matchItems_prefix {items : List Item} {text taken : Chars} (matched : matchItems items text = some taken) :
    text = taken ++ text.drop taken.length := by
  induction items generalizing text taken with
  | nil =>
    cases matched
    rfl
  | cons item items ih =>
    obtain ⟨first,here,rest⟩ := Option.bind_eq_some_iff.mp matched
    obtain ⟨more,later,same⟩ := Option.bind_eq_some_iff.mp rest
    cases same
    obtain ⟨after,rfl⟩ := take_prefix here
    rw [List.drop_left] at later
    have split := ih later
    simp only [List.append_assoc,List.length_append,← List.drop_drop,List.drop_left]
    rw [← split]
end Patterns

def exactly (word : String) : List Item := word.toList.map fun c => .one (· == c)

def anyOf (chars : String) (c : Char) : Bool := chars.toList.contains c

def tokenChar (c : Char) : Bool := c.isAlphanum || anyOf "-_" c

def matchBearer : Chars → Option Chars :=
  matchItems (.one (anyOf "Bb") :: exactly "earer" ++ [.run isSpace 1 none,.run (fun c => tokenChar c || c == '.') 20 none])

def apiKeyForms : List (List Item) :=
  [[.one (anyOf "spar"),.one (· == 'k'),.one (anyOf "-_"),.run Char.isAlphanum 20 none],
   [.one (· == 'A'),.one (anyOf "KS"),.one (· == 'I'),.one (· == 'A'),.run (fun c => c.isUpper || c.isDigit) 16 (some 16)],
   exactly "ghp_" ++ [.run Char.isAlphanum 36 (some 36)],exactly "gho_" ++ [.run Char.isAlphanum 36 (some 36)],
   exactly "glpat-" ++ [.run tokenChar 20 none],
   exactly "xox" ++ [.one (anyOf "bpars"),.one (· == '-'),.run (fun c => c.isAlphanum || c == '-') 1 none],
   exactly "AIza" ++ [.run tokenChar 35 (some 35)]]

def matchApiKey (text : Chars) : Option Chars := apiKeyForms.findSome? (matchItems · text)

-- A letter of a pattern that ignores case.
def sameLetter (letter c : Char) : Bool :=
  c == letter || c == letter.toUpper || (letter == 'i' && anyOf "ıİ" c) || (letter == 's' && c == 'ſ') || (letter == 'k' && c == '\u212a')

def ignoringCase (word : String) : List Item := word.toList.map fun c => .one (sameLetter c)

def twoWords (first second : String) : List Item := ignoringCase first ++ .opt (anyOf "_-") :: ignoringCase second

def secretNames : List (List Item) :=
  [twoWords "api" "key",twoWords "api" "secret",twoWords "access" "token",twoWords "secret" "key",twoWords "auth" "token",
   twoWords "private" "key",twoWords "client" "secret",ignoringCase "password",ignoringCase "passwd",ignoringCase "credential"]

-- A match of _RE_SECRET_KV: the field name, the separator between blanks and the value.
structure KvMatch where
  name : Chars
  before : Chars
  separator : Char
  after : Chars
  value : Chars

def KvMatch.lead (found : KvMatch) : Chars := found.name ++ found.before ++ found.separator :: found.after

def KvMatch.text (found : KvMatch) : Chars := found.lead ++ found.value

def matchKv (text : Chars) : Option KvMatch :=
  match secretNames.findSome? (matchItems · text) with
  | none => none
  | some name =>
    let rest := text.drop name.length
    match rest.dropWhile isSpace with
    | [] => none
    | separator :: tail =>
      let value := (tail.dropWhile isSpace).takeWhile fun c => !isSpace c
      if (separator == '=' || separator == ':') && 8 ≤ value.length then
        some ⟨name,rest.takeWhile isSpace,separator,tail.takeWhile isSpace,value⟩
      else none

def secretPlaceholder : Chars := "〔REDACTED-SECRET〕".toList
def apiKeyPlaceholder : Chars := "〔REDACTED-API-KEY〕".toList
def bearerPlaceholder : Chars := "〔REDACTED-BEARER〕".toList

-- The separator the replacement splits at is guessed from the whole match.
def splitter (found : KvMatch) : Char := if '=' ∈ found.text then '=' else ':'

def kept (found : KvMatch) : Chars := found.text.takeWhile (· ≠ splitter found)

def replacement (found : KvMatch) : Chars := kept found ++ splitter found :: secretPlaceholder

def beforeKeys (text : String) : Chars :=
  sub matchApiKey List.length (fun _ => apiKeyPlaceholder) (sub matchBearer List.length (fun _ => bearerPlaceholder) text.toList)

def redactSecrets (text : String) : String := String.ofList (sub matchKv (fun found => found.text.length) replacement (beforeKeys text))

def kvPieces (text : String) : List (Char ⊕ KvMatch) := pieces matchKv (fun found => found.text.length) 0 (beforeKeys text)

def redactString (maskPii : String → String) (text : String) : String := maskPii (redactSecrets text)

def redaction (maskPii : String → String) (containsSecret containsPii : String → Bool) : Masking :=
  ⟨redactString maskPii,containsSecret,containsPii⟩

mutual
def stringsOf : Value → List String
  | .str s => [s]
  | .dict members => memberStrings members
  | .list items => itemStrings items
  | .tuple items => itemStrings items
  | _ => []
def itemStrings : List Value → List String
  | [] => []
  | item :: rest => stringsOf item ++ itemStrings rest
def memberStrings : List (Key × Value) → List String
  | [] => []
  | (_,value) :: rest => stringsOf value ++ memberStrings rest
end

def scanned (entry : Dict) : List String := memberStrings (entry.filter fun member => !isStructural member.1)

def unclassified (entry : Dict) : Dict := entry.filter fun member => member.1 ≠ .str classificationField

section Strings
variable (masking : Masking)

theorem itemStrings_redacted (items : List Value)
    (each : ∀ item ∈ items, stringsOf (redactValue masking item) = (stringsOf item).map masking.redactString) :
    itemStrings (redactItems masking items) = (itemStrings items).map masking.redactString := by
  induction items with
  | nil => rfl
  | cons item rest ih =>
    rw [redactItems,itemStrings,itemStrings,List.map_append,each item List.mem_cons_self,
      ih fun other listed => each other (List.mem_cons_of_mem _ listed)]

theorem memberStrings_redacted (members : Dict)
    (each : ∀ member ∈ members, stringsOf (redactValue masking member.2) = (stringsOf member.2).map masking.redactString) :
    memberStrings (redactMembers masking members) = (memberStrings members).map masking.redactString := by
  induction members with
  | nil => rfl
  | cons member rest ih =>
    obtain ⟨key,value⟩ := member
    rw [redactMembers,memberStrings,memberStrings,List.map_append,each (key,value) List.mem_cons_self,
      ih fun other listed => each other (List.mem_cons_of_mem _ listed)]

-- Redaction goes through every string, however deep it stands.
theorem strings_redacted (value : Value) : stringsOf (redactValue masking value) = (stringsOf value).map masking.redactString := by
  induction value using Value.induction with
  | leaf value notList notTuple notDict => cases value <;> simp_all [redactValue,stringsOf]
  | list items inside => exact itemStrings_redacted masking items inside
  | tuple items inside => exact itemStrings_redacted masking items inside
  | dict members inside => exact memberStrings_redacted masking members inside

theorem unclassified_store (value : Value) (entry : Dict) : unclassified (store (.str classificationField) value entry) = unclassified entry := by
  induction entry with
  | nil => simp [store,unclassified]
  | cons head rest ih =>
    obtain ⟨key,old⟩ := head
    unfold unclassified at ih ⊢
    by_cases same : key = .str classificationField
    · simp [store,same]
    · simp only [store,if_neg same,List.filter_cons,ih]

theorem scanned_redacted (entry : Dict) : scanned (unclassified (redactEntry masking entry)) = (scanned (unclassified entry)).map masking.redactString := by
  rw [redactEntry,Dict.set,unclassified_store]
  induction entry with
  | nil => rfl
  | cons head rest ih =>
    obtain ⟨key,value⟩ := head
    unfold scanned unclassified at ih ⊢
    by_cases own : key = .str classificationField
    · simpa [own] using ih
    · by_cases structural : isStructural key = true
      · simpa [own,structural] using ih
      · simpa [own,structural,memberStrings,strings_redacted] using ih
end Strings

section Matches
variable {text : Chars} {found : KvMatch}

structure Shaped (found : KvMatch) : Prop where
  name : ∀ c ∈ found.name, c ≠ '=' ∧ c ≠ ':'
  before : ∀ c ∈ found.before, isSpace c = true
  separator : found.separator = '=' ∨ found.separator = ':'
  after : ∀ c ∈ found.after, isSpace c = true
  value : 8 ≤ found.value.length ∧ ∀ c ∈ found.value, isSpace c = false

theorem secretNames_plain (items : List Item) (listed : items ∈ secretNames) : ∀ item ∈ items, item.fits '=' = false ∧ item.fits ':' = false := by
  have each : (secretNames.all fun items => items.all fun item => !item.fits '=' && !item.fits ':') = true := by decide +kernel
  intro item inside
  simpa using List.all_eq_true.mp (List.all_eq_true.mp each items listed) item inside

theorem matchKv_parts (matched : matchKv text = some found) : Shaped found ∧ ∃ rest, text = found.text ++ rest := by
  unfold matchKv at matched
  split at matched
  · cases matched
  · rename_i name named
    obtain ⟨items,listed,here⟩ := List.exists_of_findSome?_eq_some named
    dsimp only at matched
    split at matched
    · cases matched
    · rename_i separator tail split_
      split at matched
      · rename_i accepted
        cases matched
        obtain ⟨mark,long⟩ := Bool.and_eq_true _ _ ▸ accepted
        have plain := secretNames_plain items listed
        refine ⟨⟨?_,fun c => List.mem_takeWhile_imp,by simpa using mark,fun c => List.mem_takeWhile_imp,of_decide_eq_true long,?_⟩,?_⟩
        · intro c inside
          refine ⟨?_,?_⟩ <;> rintro rfl
          · exact matchItems_fits (fun item own => (plain item own).1) here inside
          · exact matchItems_fits (fun item own => (plain item own).2) here inside
        · intro c inside
          simpa using List.mem_takeWhile_imp inside
        · refine ⟨(tail.dropWhile isSpace).dropWhile fun c => !isSpace c,?_⟩
          have blanks := List.takeWhile_append_dropWhile (p := isSpace) (l := text.drop name.length)
          have gap := List.takeWhile_append_dropWhile (p := isSpace) (l := tail)
          have solid := List.takeWhile_append_dropWhile (p := fun c => !isSpace c) (l := tail.dropWhile isSpace)
          rw [split_] at blanks
          simp only [KvMatch.text,KvMatch.lead,List.append_assoc,List.cons_append,solid,gap,blanks]
          exact matchItems_prefix here
      · cases matched

theorem blank_plain (blank : isSpace c = true) : c ≠ '=' ∧ c ≠ ':' := by
  refine ⟨?_,?_⟩ <;> rintro rfl <;> cases blank

def isSeparator (c : Char) : Prop := isSpace c = true ∨ c = '=' ∨ c = ':'

-- The field name, separator characters and the placeholder, and nothing of the value.
structure Removed (found : KvMatch) : Prop where
  parts : ∃ separators, replacement found = found.name ++ separators ++ secretPlaceholder ∧ ∀ c ∈ separators, isSeparator c
  gone : (kept found).length ≤ found.lead.length

-- What is guessed to be the separator is the separator, or stands directly behind it.
def Guarded (found : KvMatch) : Prop := found.separator = '=' ∨ '=' ∉ found.value ∨ found.value.head? = some '='

theorem front_plain (shaped : Shaped found) : ∀ c ∈ found.name ++ found.before, c ≠ '=' ∧ c ≠ ':' := by
  intro c listed
  rcases List.mem_append.mp listed with name | before
  · exact shaped.name c name
  · exact blank_plain (shaped.before c before)

theorem kept_front (split : found.text = front ++ mark :: rest) (guessed : splitter found = mark)
    (free : ∀ c ∈ front, c ≠ mark) : kept found = front := by
  rw [kept,split,guessed,List.takeWhile_append_of_pos fun c listed => decide_eq_true (free c listed)]
  simp

theorem splitter_equals (inside : '=' ∈ found.text) : splitter found = '=' := if_pos inside

-- Split at the separator of the match, it loses the whole value.
theorem removed_split (shaped : Shaped found) (guessed : splitter found = found.separator) : Removed found := by
  have split : found.text = (found.name ++ found.before) ++ found.separator :: (found.after ++ found.value) := by
    simp [KvMatch.text,KvMatch.lead]
  have free : ∀ c ∈ found.name ++ found.before, c ≠ found.separator := by
    intro c listed
    rcases shaped.separator with mark | mark <;> rw [mark]
    · exact (front_plain shaped c listed).1
    · exact (front_plain shaped c listed).2
  have front := kept_front split guessed free
  refine ⟨⟨found.before ++ [found.separator],?_,?_⟩,?_⟩
  · rw [replacement,front,guessed]
    simp
  · intro c listed
    rcases List.mem_append.mp listed with blank | mark
    · exact .inl (shaped.before c blank)
    · exact .inr (List.mem_singleton.mp mark ▸ shaped.separator)
  · rw [front]
    exact (List.prefix_append _ _).length_le

-- A value with an equals sign behind a colon is split where the sign stands.
theorem kept_value (shaped : Shaped found) (mark : found.separator = ':')
    (value : found.value = start ++ '=' :: rest) (free : '=' ∉ start) : kept found = found.lead ++ start ∧ splitter found = '=' := by
  have split : found.text = (found.lead ++ start) ++ '=' :: rest := by rw [KvMatch.text,value,List.append_assoc]
  have guessed := @splitter_equals found (by simp [split])
  refine ⟨kept_front split guessed ?_,guessed⟩
  intro c listed same
  subst same
  rw [KvMatch.lead,mark,List.mem_append,List.mem_append,List.mem_cons] at listed
  rcases listed with (front | colon | blank) | inside
  · exact (front_plain shaped _ front).1 rfl
  · cases colon
  · exact (blank_plain (shaped.after _ blank)).1 rfl
  · exact free inside

theorem removed_exact (shaped : Shaped found) : Removed found ↔ Guarded found := by
  rcases shaped.separator with mark | mark
  · have guessed := @splitter_equals found (by simp [KvMatch.text,KvMatch.lead,mark])
    exact ⟨fun _ => .inl mark,fun _ => removed_split shaped (guessed.trans mark.symm)⟩
  by_cases inside : '=' ∈ found.value
  · obtain ⟨start,rest,value,free⟩ := List.eq_append_cons_of_mem inside
    obtain ⟨front,guessed⟩ := kept_value shaped mark value free
    constructor
    · intro removed
      have short := removed.gone
      rw [front,List.length_append] at short
      have none_ : start = [] := List.length_eq_zero_iff.mp (by omega)
      exact .inr (.inr (by rw [value,none_]; rfl))
    · intro guarded
      have none_ : start = [] := by
        rcases guarded with equals | plain | first
        · rw [mark] at equals
          cases equals
        · exact absurd inside plain
        · cases held : start with
          | nil => rfl
          | cons c later =>
            rw [value,held] at first
            cases first
            exact absurd (held ▸ List.mem_cons_self) free
      subst none_
      rw [List.append_nil] at front
      refine ⟨⟨found.before ++ ':' :: found.after ++ ['='],?_,?_⟩,by rw [front]⟩
      · rw [replacement,front,guessed,KvMatch.lead,mark]
        simp
      · intro c listed
        simp only [List.mem_append,List.mem_cons,List.not_mem_nil,or_false] at listed
        rcases listed with (blank | colon | blank) | equals
        · exact .inl (shaped.before c blank)
        · exact .inr (.inr colon)
        · exact .inl (shaped.after c blank)
        · exact .inr (.inl equals)
  · have plain : '=' ∉ found.text := by
      intro listed
      rw [KvMatch.text,KvMatch.lead,mark,List.mem_append,List.mem_append,List.mem_cons] at listed
      rcases listed with (front | colon | blank) | value
      · exact (front_plain shaped _ front).1 rfl
      · cases colon
      · exact (blank_plain (shaped.after _ blank)).1 rfl
      · exact inside value
    exact ⟨fun _ => .inr (.inl inside),fun _ => removed_split shaped ((if_neg plain).trans mark.symm)⟩

theorem kvPieces_text (text : String) : (kvPieces text).flatMap (Sum.elim (fun c => [c]) KvMatch.text) = beforeKeys text := by
  refine pieces_text (fun _ => rfl) (fun rest found matched => ?_) 0 (beforeKeys text)
  obtain ⟨shaped,later⟩ := matchKv_parts matched
  refine ⟨fun none_ => ?_,later⟩
  have long := shaped.value.1
  rw [(List.append_eq_nil_iff.mp none_).2] at long
  exact absurd long (by decide)
end Matches

theorem secret_removed_exact (maskPii : String → String) (containsSecret containsPii : String → Bool) (entry : Dict) :
    scanned (unclassified (redactEntry (redaction maskPii containsSecret containsPii) entry)) =
      (scanned (unclassified entry)).map (redactString maskPii) ∧
    ∀ text ∈ scanned entry, (kvPieces text).flatMap (Sum.elim (fun c => [c]) KvMatch.text) = beforeKeys text ∧
      (redactSecrets text).toList = (kvPieces text).flatMap (Sum.elim (fun c => [c]) replacement) ∧
      ∀ found, .inr found ∈ kvPieces text → (Removed found ↔ Guarded found) := by
  refine ⟨scanned_redacted _ entry,fun text _ => ⟨kvPieces_text text,String.toList_ofList,fun found listed => ?_⟩⟩
  obtain ⟨rest,matched⟩ := pieces_found listed
  exact removed_exact (matchKv_parts matched).1

def leakyEntry : Dict := [(.str "note",.str "password: abcdefgh=ijk")]

theorem secret_prefix_kept : redactSecrets "password: abcdefgh=ijk" = "password: abcdefgh=〔REDACTED-SECRET〕" ∧
    ¬∀ text ∈ scanned leakyEntry, ∀ found, .inr found ∈ kvPieces text → Removed found := by
  refine ⟨by decide +kernel,fun claimed => ?_⟩
  have found : kvPieces "password: abcdefgh=ijk" = [.inr ⟨"password".toList,[],':',[' '],"abcdefgh=ijk".toList⟩] := by rfl
  have removed := claimed "password: abcdefgh=ijk" (List.mem_cons_self) _ (found ▸ List.mem_singleton_self _)
  exact absurd removed.gone (by decide +kernel)

end VeritasOs.SecretRedaction
