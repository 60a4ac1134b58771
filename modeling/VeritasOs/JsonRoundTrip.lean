import Mathlib.Tactic.IntervalCases
import VeritasOs.JsonText

namespace VeritasOs.JsonText

theorem digits_head (n : Nat) (positive : 0 < n) : ∃ c rest, digits n = c :: rest ∧ c ≠ '0' := by
  induction n using Nat.strongRecOn with
  | ind n ih =>
    unfold digits at ih ⊢
    by_cases small : n < 10
    · rw [Nat.toDigits_of_lt_base small]
      refine ⟨_,_,rfl,?_⟩
      interval_cases n <;> decide
    · obtain ⟨c,rest,same,other⟩ := ih (n / 10) (by omega) (by omega)
      rw [Nat.toDigits_of_base_le (by omega) (by omega),same]
      exact ⟨c,_,rfl,other⟩

variable {c : Char} {rest : List Char}

theorem digits_isDigit (present : c ∈ digits n) : c.isDigit = true :=
  Nat.isDigit_of_mem_toDigits (by omega) (by omega) present

theorem natText_digits (n : Nat) : natText (digits n) = some n := by
  by_cases zero : n = 0
  · subst n; rfl
  · obtain ⟨c,rest,same,other⟩ := digits_head n (by omega)
    have value : Nat.ofDigitChars 10 (digits n) 0 = n := Nat.ofDigitChars_ten_toDigits
    have first : c.isDigit = true := digits_isDigit (n := n) (by simp [same])
    have others : rest.all Char.isDigit = true := by
      rw [List.all_eq_true]
      intro d present
      exact digits_isDigit (n := n) (by simp [same,present])
    rw [same] at value ⊢
    rw [natText]
    · simp [first,other,others,value]
    · intro zero _; exact other zero

theorem intText_nat (n : Nat) : intText (digits n) = some (n : Int) := by
  have parsed := natText_digits n
  unfold intText
  split
  · rename_i rest same
    have dash : ('-' : Char).isDigit = true := digits_isDigit (n := n) (by simp [same])
    exact absurd dash (by decide)
  · simp [parsed]

theorem intText_int (n : Int) : intText (atomText (.int n)) = some n := by
  cases n with
  | ofNat n => exact intText_nat n
  | negSucc n => simp [atomText,intText,natText_digits,Int.negSucc_eq]

theorem keywordOf_number (number : (intText chars).isSome = true ∨ isFloatText chars = true) : keywordOf chars = none := by
  unfold keywordOf
  repeat' split
  all_goals first
    | rfl
    | (rename_i same; subst same; revert number; decide)

theorem classify_text (a : Atom) : classify (atomText a) = some a := by
  cases a with
  | null => rfl
  | bool b => cases b <;> rfl
  | int n =>
    have parsed := intText_int n
    have plain := keywordOf_number (.inl (by simp [parsed]) : _ ∨ isFloatText (atomText (.int n)) = true)
    simp [classify,plain,parsed]
  | float x =>
    cases x with
    | nan => rfl
    | infinity negative => cases negative <;> rfl
    | finite literal =>
      have plain := keywordOf_number (.inr literal.valid : (intText literal.text.toList).isSome = true ∨ _)
      have real : intText literal.text.toList = none := by
        have valid := literal.valid
        simp only [isFloatText,Bool.and_eq_true] at valid
        simpa using valid.1.1.1.2
      simp [classify,atomText,plain,real,literal.valid]

theorem atomText_chars (a : Atom) : ∀ c ∈ atomText a, isAtomChar c = true := by
  have digit : ∀ c : Char, c.isDigit = true → isAtomChar c = true := by
    intro c isDigit
    simp [isAtomChar,isDigit]
  cases a with
  | null => exact List.all_eq_true.mp rfl
  | bool b => cases b <;> exact List.all_eq_true.mp rfl
  | int n =>
    intro c present
    cases n with
    | ofNat n => exact digit c (digits_isDigit present)
    | negSucc n =>
      rcases List.mem_cons.mp present with rfl | later
      · rfl
      · exact digit c (digits_isDigit later)
  | float x =>
    cases x with
    | nan => exact List.all_eq_true.mp rfl
    | infinity negative => cases negative <;> exact List.all_eq_true.mp rfl
    | finite literal =>
      have valid := literal.valid
      simp only [isFloatText,Bool.and_eq_true] at valid
      exact List.all_eq_true.mp valid.1.1.1.1

theorem atomText_ne_nil (a : Atom) : atomText a ≠ [] := by
  intro empty
  have parsed := classify_text a
  rw [empty] at parsed
  revert parsed
  simp [show classify [] = none from rfl]

-- What may follow an atom: nothing, or a character that is not part of one.
def Delimited (rest : List Char) : Prop := ∀ c tail, rest = c :: tail → isAtomChar c = false

theorem delimited_nil : Delimited [] := by intro c tail same; cases same

theorem delimited_cons (apart : isAtomChar c = false) : Delimited (c :: rest) := by
  intro d tail same
  cases same
  exact apart

theorem lex_cons (mode : Mode) (c : Char) (rest : List Char) :
    lex mode (c :: rest) = (step mode c).bind fun next => (lex next.2 rest).map (next.1 ++ ·) := by
  cases mode <;> rfl

theorem lex_atom_end (seen rest : List Char) (apart : Delimited rest) : lex (.atom seen) rest =
      (classify seen.reverse).bind fun a => (lex .start rest).map (Token.atom a :: ·) := by
  cases rest with
  | nil => cases got : classify seen.reverse <;> simp [lex,got]
  | cons c tail =>
    rw [lex_cons,lex_cons]
    simp only [step,apart c tail rfl,Bool.false_eq_true,if_false]
    cases classify seen.reverse with
    | none => rfl
    | some a =>
      cases begin c with
      | none => rfl
      | some next => cases later : lex next.2 tail <;> simp [later]

theorem lex_atom_chars (seen chars rest : List Char) (atoms : ∀ c ∈ chars, isAtomChar c = true) :
    lex (.atom seen) (chars ++ rest) = lex (.atom (chars.reverse ++ seen)) rest := by
  induction chars generalizing seen with
  | nil => rfl
  | cons c chars ih =>
    have first : isAtomChar c = true := atoms c (by simp)
    rw [List.cons_append,lex_cons,step,if_pos first]
    simp only [Option.bind_some,List.nil_append,Option.map_id']
    rw [ih (c :: seen) (fun d present => atoms d (List.mem_cons_of_mem _ present))]
    simp

theorem begin_atom (first : isAtomChar c = true) : begin c = some ([],.atom [c]) := by
  have apart : ∀ d : Char, isAtomChar d = false → c ≠ d := by
    rintro d other rfl
    simp [first] at other
  have blank : isBlank c = false := by
    simp only [isBlank,Bool.or_eq_false_iff,beq_eq_false_iff_ne]
    exact ⟨⟨⟨apart _ (by decide),apart _ (by decide)⟩,apart _ (by decide)⟩,apart _ (by decide)⟩
  unfold begin
  simp only [blank,first,apart _ (show isAtomChar '{' = false by decide),apart _ (show isAtomChar '}' = false by decide),
    apart _ (show isAtomChar '[' = false by decide),apart _ (show isAtomChar ']' = false by decide),
    apart _ (show isAtomChar ',' = false by decide),apart _ (show isAtomChar ':' = false by decide),
    apart _ (show isAtomChar '"' = false by decide),if_false,if_true,Bool.false_eq_true]

theorem lex_atom (a : Atom) (rest : List Char) (apart : Delimited rest) :
    lex .start (atomText a ++ rest) = (lex .start rest).map (Token.atom a :: ·) := by
  have atoms := atomText_chars a
  have parsed := classify_text a
  cases same : atomText a with
  | nil => exact absurd same (atomText_ne_nil a)
  | cons c chars =>
    rw [same] at atoms parsed
    have first : isAtomChar c = true := atoms c (by simp)
    rw [List.cons_append,lex_cons,step,begin_atom first]
    simp only [Option.bind_some,List.nil_append,Option.map_id']
    rw [lex_atom_chars _ _ _ (fun d present => atoms d (List.mem_cons_of_mem _ present)),lex_atom_end _ _ apart]
    simp [parsed]

theorem lex_blank (blanks rest : List Char) (blank : ∀ c ∈ blanks, isBlank c = true) : lex .start (blanks ++ rest) = lex .start rest := by
  induction blanks with
  | nil => rfl
  | cons c blanks ih =>
    have first : isBlank c = true := blank c (by simp)
    rw [List.cons_append,lex_cons,step,begin,if_pos first]
    simpa using ih (fun d present => blank d (List.mem_cons_of_mem _ present))

theorem hexDigit_text (n : Nat) (small : n < 16) : hexDigit (hexText n) = some n := by
  interval_cases n <;> decide

theorem lex_escape (seen : List Char) (c : Char) (rest : List Char) : lex (.str seen) (escape c ++ rest) = lex (.str (c :: seen)) rest := by
  by_cases short : c = '"' ∨ c = '\\' ∨ c = '\n' ∨ c = '\r' ∨ c = '\t' ∨ c = '\x08' ∨ c = '\x0c'
  · rcases short with rfl | rfl | rfl | rfl | rfl | rfl | rfl <;>
      simp [escape,lex_cons,step,escaped,Function.comp_def]
  · simp only [not_or] at short
    obtain ⟨quote,slash,newline,ret,tab,back,feed⟩ := short
    unfold escape
    simp only [quote,slash,newline,ret,tab,back,feed,if_false]
    by_cases control : c.toNat < 32
    · have upper := hexDigit_text (c.toNat / 16) (by omega)
      have lower := hexDigit_text (c.toNat % 16) (by omega)
      have zero : hexDigit '0' = some 0 := by decide
      have code : c.toNat / 16 * 16 + c.toNat % 16 = c.toNat := by omega
      have plain : unit seen none c.toNat = some ([],.str (c :: seen)) := by
        have below : ¬(0xd800 ≤ c.toNat) ∧ ¬(0xdc00 ≤ c.toNat) := by omega
        simp [unit,below,Char.ofNat_toNat]
      simp [control,lex_cons,step,upper,lower,zero,code,plain,Function.comp_def]
    · simp [control,lex_cons,step,quote,slash]

theorem lex_str_chars (seen chars rest : List Char) : lex (.str seen) (chars.flatMap escape ++ '"' :: rest) =
      (lex .start rest).map (Token.str (String.ofList (seen.reverse ++ chars)) :: ·) := by
  induction chars generalizing seen with
  | nil => simp [lex_cons,step]
  | cons c chars ih =>
    rw [List.flatMap_cons,List.append_assoc,lex_escape,ih]
    simp

theorem lex_str (s : String) (rest : List Char) : lex .start (strText s ++ rest) = (lex .start rest).map (Token.str s :: ·) := by
  have body := lex_str_chars [] s.toList rest
  simp only [List.reverse_nil,List.nil_append,String.ofList_toList] at body
  simp only [strText,List.cons_append,List.append_assoc,List.nil_append]
  rw [lex_cons,show step .start '"' = some ([],.str []) from rfl]
  simpa using body

mutual
def tokens : Json → List Token
  | .atom a => [.atom a]
  | .str s => [.str s]
  | .arr [] => [.lbracket,.rbracket]
  | .arr (item :: rest) => .lbracket :: tokens item ++ itemTokens rest ++ [.rbracket]
  | .obj [] => [.lbrace,.rbrace]
  | .obj ((key,value) :: rest) => .lbrace :: .str key :: .colon :: tokens value ++ memberTokens rest ++ [.rbrace]
def itemTokens : List Json → List Token
  | [] => []
  | item :: rest => .comma :: tokens item ++ itemTokens rest
def memberTokens : List (String × Json) → List Token
  | [] => []
  | (key,value) :: rest => .comma :: .str key :: .colon :: tokens value ++ memberTokens rest
end

def punctuation : Token → Option Char
  | .lbrace => some '{'
  | .rbrace => some '}'
  | .lbracket => some '['
  | .rbracket => some ']'
  | .comma => some ','
  | .colon => some ':'
  | _ => none

theorem lex_mark (token : Token) (mark : punctuation token = some c) (rest : List Char) :
    lex .start (c :: rest) = (lex .start rest).map (token :: ·) := by
  cases token <;> simp only [punctuation,reduceCtorEq,Option.some.injEq] at mark <;> subst mark <;>
    simp [lex_cons,step,begin,isBlank]

theorem delimited_blank (blank : ∀ c ∈ blanks, isBlank c = true) (apart : Delimited rest) : Delimited (blanks ++ rest) := by
  cases blanks with
  | nil => exact apart
  | cons c blanks =>
    apply delimited_cons
    have first : isBlank c = true := blank c (by simp)
    simp only [isBlank,Bool.or_eq_true,beq_iff_eq] at first
    rcases first with ((rfl | rfl) | rfl) | rfl <;> decide

theorem delimited_items (layout : Layout) (depth : Nat) (items : List Json) (apart : Delimited rest) :
    Delimited (printItems layout depth items ++ rest) := by
  cases items with
  | nil => exact apart
  | cons item items => exact delimited_cons (by decide)

theorem delimited_members (layout : Layout) (depth : Nat) (members : List (String × Json)) (apart : Delimited rest) :
    Delimited (printMembers layout depth members ++ rest) := by
  cases members with
  | nil => exact apart
  | cons member members => exact delimited_cons (by decide)

-- Lexing undoes printing under every layout. The induction follows the syntax
-- tree; what follows a value in a list or a record never continues an atom.
mutual
theorem lex_print (layout : Layout) (depth : Nat) : (json : Json) → (rest : List Char) → Delimited rest →
    lex .start (print layout depth json ++ rest) = (lex .start rest).map (tokens json ++ ·)
  | .atom a,rest,apart => lex_atom a rest apart
  | .str s,rest,_ => lex_str s rest
  | .arr [],rest,_ => by
    simp [print,tokens,lex_mark .lbracket rfl,lex_mark .rbracket rfl,Function.comp_def]
  | .arr (item :: items),rest,apart => by
    have closing : Delimited (layout.line depth ++ ']' :: rest) :=
      delimited_blank (layout.line_blank _) (delimited_cons (by decide))
    have first := lex_print layout (depth+1) item _ (delimited_items layout (depth+1) items closing)
    have others := lex_items layout (depth+1) items _ closing
    simp only [print,tokens,List.cons_append,List.append_assoc,List.nil_append] at first others ⊢
    rw [lex_mark .lbracket rfl,lex_blank _ _ (layout.line_blank _),first,others,lex_blank _ _ (layout.line_blank _),lex_mark .rbracket rfl]
    simp [Option.map_map,Function.comp_def]
  | .obj [],rest,_ => by
    simp [print,tokens,lex_mark .lbrace rfl,lex_mark .rbrace rfl,Function.comp_def]
  | .obj ((key,value) :: members),rest,apart => by
    have closing : Delimited (layout.line depth ++ '}' :: rest) :=
      delimited_blank (layout.line_blank _) (delimited_cons (by decide))
    have first := lex_print layout (depth+1) value _ (delimited_members layout (depth+1) members closing)
    have others := lex_members layout (depth+1) members _ closing
    simp only [print,tokens,List.cons_append,List.append_assoc,List.nil_append] at first others ⊢
    rw [lex_mark .lbrace rfl,lex_blank _ _ (layout.line_blank _),lex_str,lex_mark .colon rfl,lex_blank _ _ layout.colon_blank,first,others,
      lex_blank _ _ (layout.line_blank _),lex_mark .rbrace rfl]
    simp [Option.map_map,Function.comp_def]
theorem lex_items (layout : Layout) (depth : Nat) : (items : List Json) → (rest : List Char) → Delimited rest →
    lex .start (printItems layout depth items ++ rest) = (lex .start rest).map (itemTokens items ++ ·)
  | [],rest,_ => by simp [printItems,itemTokens]
  | item :: items,rest,apart => by
    have first := lex_print layout depth item _ (delimited_items layout depth items apart)
    have others := lex_items layout depth items rest apart
    simp only [printItems,itemTokens,List.cons_append,List.append_assoc] at first others ⊢
    rw [lex_mark .comma rfl,lex_blank _ _ layout.comma_blank,lex_blank _ _ (layout.line_blank _),first,others]
    simp [Option.map_map,Function.comp_def]
theorem lex_members (layout : Layout) (depth : Nat) : (members : List (String × Json)) → (rest : List Char) → Delimited rest →
    lex .start (printMembers layout depth members ++ rest) = (lex .start rest).map (memberTokens members ++ ·)
  | [],rest,_ => by simp [printMembers,memberTokens]
  | (key,value) :: members,rest,apart => by
    have first := lex_print layout depth value _ (delimited_members layout depth members apart)
    have others := lex_members layout depth members rest apart
    simp only [printMembers,memberTokens,List.cons_append,List.append_assoc] at first others ⊢
    rw [lex_mark .comma rfl,lex_blank _ _ layout.comma_blank,lex_blank _ _ (layout.line_blank _),
      lex_str,lex_mark .colon rfl,lex_blank _ _ layout.colon_blank,first,others]
    simp [Option.map_map,Function.comp_def]
end

theorem parse_cons (phase : Phase) (token : Token) (rest : List Token) :
    parse phase (token :: rest) = (advance phase token).bind (parse · rest) := by
  cases phase <;> rfl

-- A first item is read as any other value: no value starts with a closing bracket.
theorem parse_firstItem (item : Json) (stack : List Frame) (rest : List Token) :
    parse (.firstItem stack) (tokens item ++ rest) = parse (.value (.arr [] :: stack)) (tokens item ++ rest) := by
  cases item with
  | atom a => simp [tokens,parse_cons,advance]
  | str s => simp [tokens,parse_cons,advance]
  | arr items => cases items <;> simp [tokens,parse_cons,advance]
  | obj members =>
    cases members with
    | nil => simp [tokens,parse_cons,advance]
    | cons member members => obtain ⟨key,value⟩ := member; simp [tokens,parse_cons,advance]

mutual
theorem parse_tokens : (json : Json) → (stack : List Frame) → (rest : List Token) →
    parse (.value stack) (tokens json ++ rest) = parse (deliver json stack) rest
  | .atom a,stack,rest => by simp [tokens,parse_cons,advance,enter]
  | .str s,stack,rest => by simp [tokens,parse_cons,advance,enter]
  | .arr [],stack,rest => by simp [tokens,parse_cons,advance,enter]
  | .arr (item :: items),stack,rest => by
    simp only [tokens,List.cons_append,List.append_assoc,parse_cons,advance,enter,Option.bind_some]
    rw [parse_firstItem,parse_tokens item (.arr [] :: stack),deliver,parse_items items [item] stack]
    simp [parse_cons,advance]
  | .obj [],stack,rest => by simp [tokens,parse_cons,advance,enter]
  | .obj ((key,value) :: members),stack,rest => by
    simp only [tokens,List.cons_append,List.append_assoc,parse_cons,advance,enter,Option.bind_some]
    rw [parse_tokens value (.obj [] key :: stack),deliver,parse_members members [(key,value)] stack]
    simp [parse_cons,advance]
theorem parse_items : (items seen : List Json) → (stack : List Frame) → (rest : List Token) →
    parse (.items seen stack) (itemTokens items ++ rest) = parse (.items (items.reverse ++ seen) stack) rest
  | [],seen,stack,rest => by simp [itemTokens]
  | item :: items,seen,stack,rest => by
    simp only [itemTokens,List.cons_append,List.append_assoc,parse_cons,advance,Option.bind_some]
    rw [parse_tokens item (.arr seen :: stack),deliver,parse_items items (item :: seen) stack]
    simp
theorem parse_members : (members seen : List (String × Json)) → (stack : List Frame) → (rest : List Token) →
    parse (.members seen stack) (memberTokens members ++ rest) = parse (.members (members.reverse ++ seen) stack) rest
  | [],seen,stack,rest => by simp [memberTokens]
  | (key,value) :: members,seen,stack,rest => by
    simp only [memberTokens,List.cons_append,List.append_assoc,parse_cons,advance,Option.bind_some]
    rw [parse_tokens value (.obj seen key :: stack),deliver,parse_members members ((key,value) :: seen) stack]
    simp
end

theorem loads_dumps (layout : Layout) (json : Json) : loads (dumps layout json) = some json := by
  have lexed := lex_print layout 0 json [] delimited_nil
  have parsed := parse_tokens json [] []
  simp only [List.append_nil,lex,Option.map_some] at lexed parsed
  simp [loads,dumps,lexed,parsed,deliver,parse]

theorem loads_dumps_line (layout : Layout) (json : Json) : loads (dumps layout json ++ "\n") = some json := by
  have apart : Delimited ['\n'] := delimited_cons (by decide)
  have lexed := lex_print layout 0 json ['\n'] apart
  have blank : lex .start ['\n'] = some [] := by decide
  have parsed := parse_tokens json [] []
  rw [blank] at lexed
  simp only [List.append_nil,Option.map_some] at lexed parsed
  simp [loads,dumps,lexed,parsed,deliver,parse]

theorem dumps_injective (layout : Layout) : Function.Injective (dumps layout) := by
  intro left right same
  have read := loads_dumps layout left
  rw [same,loads_dumps] at read
  exact (Option.some.inj read).symm

-- What text-mode reading does to a file before it is parsed.
def newlines : List Char → List Char
  | '\r' :: '\n' :: rest => '\n' :: newlines rest
  | '\r' :: rest => '\n' :: newlines rest
  | c :: rest => c :: newlines rest
  | [] => []

theorem step_return (mode : Mode) : step mode '\r' = step mode '\n' := by
  cases mode with
  | hex seen high nibbles => simp [step,show hexDigit '\r' = none by decide,show hexDigit '\n' = none by decide]
  | _ => simp [step,begin,isBlank,isAtomChar,escaped]

theorem step_newline (taken : step mode '\n' = some (out,next)) : next = .start := by
  cases mode with
  | start => simp [step,begin,isBlank] at taken; exact taken.2.symm
  | atom seen =>
    simp only [step,show isAtomChar '\n' = false by decide,Bool.false_eq_true,if_false,Option.bind_eq_some_iff,
      Option.map_eq_some_iff] at taken
    obtain ⟨a,_,inner,began,same⟩ := taken
    simp only [begin,show isBlank '\n' = true by decide,if_true,Option.some.injEq] at began
    subst inner
    exact (Prod.mk.inj same).2.symm
  | str seen => simp [step] at taken
  | escape seen => simp [step,escaped] at taken
  | hex seen high nibbles => simp [step,show hexDigit '\n' = none by decide] at taken
  | pair seen high => simp [step] at taken
  | pairMark seen high => simp [step] at taken

theorem lex_newlines (mode : Mode) (text : List Char) : lex mode (newlines text) = lex mode text := by
  induction text using newlines.induct generalizing mode with
  | case1 rest ih =>
    rw [newlines,lex_cons,lex_cons,step_return]
    cases taken : step mode '\n' with
    | none => rfl
    | some next =>
      obtain ⟨out,after⟩ := next
      obtain rfl := step_newline taken
      have skipped : lex .start ('\n' :: rest) = lex .start rest := lex_blank ['\n'] rest (List.all_eq_true.mp rfl)
      simp only [Option.bind_some,ih,skipped]
  | case2 rest alone ih =>
    rw [newlines,lex_cons,lex_cons,step_return]
    · simp only [ih]
    · exact alone
  | case3 c rest pair alone ih =>
    rw [newlines,lex_cons,lex_cons]
    · simp only [ih]
    · exact pair
    · exact alone
  | case4 => rfl

theorem loads_newlines (text : String) : loads (String.ofList (newlines text.toList)) = loads text := by
  simp [loads,lex_newlines]

end VeritasOs.JsonText
