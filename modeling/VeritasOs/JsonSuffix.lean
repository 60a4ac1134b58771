import VeritasOs.JsonRoundTrip

namespace VeritasOs.JsonText

-- A scanner that only tells text inside quotation marks from text outside, and
-- counts the braces outside. An object text is not the end of another one.
inductive Quote where
  | outside
  | inside
  | escape
deriving DecidableEq

def scan : Quote → Char → Option Quote
  | .outside,c => if c = '"' then some .inside else if c = '\\' then none else some .outside
  | .inside,c => if c = '"' then some .outside else if c = '\\' then some .escape else some .inside
  | .escape,c => if c = '{' then none else some .inside

def brace : Quote → Char → Int
  | .outside,c => if c = '{' then 1 else if c = '}' then -1 else 0
  | _,_ => 0

def scanAll : Quote → List Char → Option (Quote × Int)
  | quote,[] => some (quote,0)
  | quote,c :: rest => (scan quote c).bind fun next => (scanAll next rest).map fun last => (last.1,brace quote c + last.2)

theorem scanAll_append (left right : List Char) (quote : Quote) : scanAll quote (left ++ right) =
      (scanAll quote left).bind fun middle => (scanAll middle.1 right).map fun last => (last.1,middle.2 + last.2) := by
  induction left generalizing quote with
  | nil => cases made : scanAll quote right <;> simp [scanAll,made]
  | cons c rest ih =>
    cases next : scan quote c with
    | none => simp [scanAll,next]
    | some mode =>
      cases middle : scanAll mode rest with
      | none => simp [scanAll,next,ih,middle]
      | some found => cases last : scanAll found.1 right <;> simp [scanAll,next,ih,middle,last,Int.add_assoc]

-- Balanced text leaves the scanner as it was and never closes what it did not open.
structure Balanced (text : List Char) : Prop where
  whole : scanAll .outside text = some (.outside,0)
  within : ∀ left right, text = left ++ right → ∃ quote depth, scanAll .outside left = some (quote,depth) ∧ 0 ≤ depth

theorem balanced_nil : Balanced [] := by
  refine ⟨rfl,fun left right same => ?_⟩
  obtain ⟨rfl,_⟩ := List.append_eq_nil_iff.mp same.symm
  exact ⟨.outside,0,rfl,le_refl 0⟩

theorem balanced_append (here : Balanced first) (later : Balanced second) : Balanced (first ++ second) := by
  refine ⟨by simp [scanAll_append,here.whole,later.whole],fun left right same => ?_⟩
  rcases List.append_eq_append_iff.mp same with ⟨middle,rfl,rest⟩ | ⟨middle,rest,_⟩
  · obtain ⟨quote,depth,scanned,up⟩ := later.within middle right rest
    exact ⟨quote,depth,by simp [scanAll_append,here.whole,scanned],up⟩
  · exact here.within left middle rest

def isPlain (c : Char) : Bool := !(c = '"' || c = '\\' || c = '{' || c = '}')

variable {text : List Char} {c : Char} {left right : List Char} {layout : Layout} {whole : List (String × Json)} {next : List Token × Mode}
variable {mode : Mode} {tokens : List Token} {token : Token} {stack : List Frame} {phase : Phase} {result : Json}

theorem balanced_plain (plain : ∀ c ∈ text, isPlain c = true) : Balanced text := by
  have scanned : ∀ chars : List Char, (∀ c ∈ chars, isPlain c = true) → scanAll .outside chars = some (.outside,0) := by
    intro chars each
    induction chars with
    | nil => rfl
    | cons c rest ih =>
      have here := each c List.mem_cons_self
      simp only [isPlain,Bool.not_eq_true',Bool.or_eq_false_iff,decide_eq_false_iff_not] at here
      simp [scanAll,scan,brace,here,ih fun d later => each d (List.mem_cons_of_mem _ later)]
  refine ⟨scanned text plain,?_⟩
  rintro left right rfl
  exact ⟨.outside,0,scanned left fun c listed => plain c (List.mem_append_left _ listed),le_refl 0⟩

-- From inside a string to inside it, at any point of which the depth is unchanged.
def Quoted (text : List Char) : Prop :=
  scanAll .inside text = some (.inside,0) ∧ ∀ left right, text = left ++ right → ∃ quote, scanAll .inside left = some (quote,0)

theorem quoted_append (here : Quoted first) (later : Quoted second) : Quoted (first ++ second) := by
  refine ⟨by simp [scanAll_append,here.1,later.1],fun left right same => ?_⟩
  rcases List.append_eq_append_iff.mp same with ⟨middle,rfl,rest⟩ | ⟨middle,rest,_⟩
  · obtain ⟨quote,scanned⟩ := later.2 middle right rest
    exact ⟨quote,by simp [scanAll_append,here.1,scanned]⟩
  · exact here.2 left middle rest

theorem quoted_one (notQuote : c ≠ '"') (notEscape : c ≠ '\\') : Quoted [c] := by
  have scanned : scanAll .inside [c] = some (.inside,0) := by simp [scanAll,scan,brace,notQuote,notEscape]
  refine ⟨scanned,fun left right same => ?_⟩
  rcases List.singleton_eq_append_iff.mp same with ⟨rfl,_⟩ | ⟨rfl,_⟩
  · exact ⟨.inside,rfl⟩
  · exact ⟨.inside,scanned⟩

theorem quoted_pair {c : Char} (notBrace : c ≠ '{') : Quoted ['\\',c] := by
  have scanned : scanAll .inside ['\\',c] = some (.inside,0) := by simp [scanAll,scan,brace,notBrace]
  refine ⟨scanned,fun left right same => ?_⟩
  cases left with
  | nil => exact ⟨.inside,rfl⟩
  | cons first rest =>
    obtain ⟨rfl,tail⟩ := List.cons.inj same
    rcases List.singleton_eq_append_iff.mp tail with ⟨rfl,_⟩ | ⟨rfl,_⟩
    · exact ⟨.escape,rfl⟩
    · exact ⟨.inside,scanned⟩

theorem hexText_plain (n : Nat) (small : n < 16) : hexText n ≠ '"' ∧ hexText n ≠ '\\' := by
  interval_cases n <;> decide

theorem quoted_escape (c : Char) : Quoted (escape c) := by
  unfold escape
  split
  · exact quoted_pair (by decide)
  · rename_i notQuote
    split
    · exact quoted_pair (by decide)
    · rename_i notEscape
      split
      · exact quoted_pair (by decide)
      · split
        · exact quoted_pair (by decide)
        · split
          · exact quoted_pair (by decide)
          · split
            · exact quoted_pair (by decide)
            · split
              · exact quoted_pair (by decide)
              · split
                · rename_i control
                  obtain ⟨q1,e1⟩ := hexText_plain (c.toNat / 16) (by omega)
                  obtain ⟨q2,e2⟩ := hexText_plain (c.toNat % 16) (by omega)
                  exact quoted_append (quoted_pair (by decide)) (quoted_append (quoted_one (by decide) (by decide))
                    (quoted_append (quoted_one (by decide) (by decide)) (quoted_append (quoted_one q1 e1) (quoted_one q2 e2))))
                · exact quoted_one notQuote notEscape

theorem quoted_chars (chars : List Char) : Quoted (chars.flatMap escape) := by
  induction chars with
  | nil =>
    refine ⟨rfl,fun left right same => ?_⟩
    obtain ⟨rfl,_⟩ := List.append_eq_nil_iff.mp same.symm
    exact ⟨.inside,rfl⟩
  | cons c rest ih => exact quoted_append (quoted_escape c) ih

theorem balanced_str (s : String) : Balanced (strText s) := by
  have inner := quoted_chars s.toList
  refine ⟨?_,fun left right same => ?_⟩
  · simp [strText,scanAll,scan,brace,scanAll_append,inner.1]
  · cases left with
    | nil => exact ⟨.outside,0,rfl,le_refl 0⟩
    | cons c rest =>
      obtain ⟨rfl,tail⟩ := List.cons.inj same
      rcases List.append_eq_append_iff.mp tail with ⟨middle,rfl,last⟩ | ⟨middle,split,_⟩
      · rcases List.singleton_eq_append_iff.mp last with ⟨rfl,_⟩ | ⟨rfl,_⟩
        · exact ⟨.inside,0,by simp [scanAll,scan,brace,inner.1],le_refl 0⟩
        · exact ⟨.outside,0,by simp [scanAll,scan,brace,scanAll_append,inner.1],le_refl 0⟩
      · obtain ⟨quote,scanned⟩ := inner.2 rest middle split
        exact ⟨quote,0,by simp [scanAll,scan,brace,scanned],le_refl 0⟩

theorem braced (inner : Balanced text) : Balanced ('{' :: text ++ ['}']) ∧
      ∀ left right, '{' :: text ++ ['}'] = left ++ right → left ≠ [] → right ≠ [] →
        ∃ quote depth, scanAll .outside left = some (quote,depth) ∧ 1 ≤ depth := by
  have opened : ∀ part quote depth, scanAll .outside part = some (quote,depth) →
      scanAll .outside ('{' :: part) = some (quote,1 + depth) := by
    intro part quote depth scanned
    simp [scanAll,scan,brace,scanned]
  have strict : ∀ left right, '{' :: text ++ ['}'] = left ++ right → left ≠ [] → right ≠ [] →
      ∃ quote depth, scanAll .outside left = some (quote,depth) ∧ 1 ≤ depth := by
    intro left right same some_ more
    cases left with
    | nil => exact absurd rfl some_
    | cons c rest =>
      obtain ⟨rfl,tail⟩ := List.cons.inj same
      rcases List.append_eq_append_iff.mp tail with ⟨middle,rfl,last⟩ | ⟨middle,split,_⟩
      · rcases List.singleton_eq_append_iff.mp last with ⟨rfl,_⟩ | ⟨_,rfl⟩
        · exact ⟨.outside,_,opened _ _ _ (by simpa using inner.whole),by decide⟩
        · exact absurd rfl more
      · obtain ⟨quote,depth,scanned,up⟩ := inner.within rest middle split
        exact ⟨quote,_,opened _ _ _ scanned,by omega⟩
  have whole : scanAll .outside ('{' :: text ++ ['}']) = some (.outside,0) := by
    rw [List.cons_append,opened _ .outside (-1)]
    · rfl
    · simp [scanAll_append,inner.whole,scanAll,scan,brace]
  refine ⟨⟨whole,fun left right same => ?_⟩,strict⟩
  by_cases none_ : left = []
  · exact ⟨.outside,0,by rw [none_]; rfl,le_refl 0⟩
  · by_cases all : right = []
    · refine ⟨.outside,0,?_,le_refl 0⟩
      rw [all,List.append_nil] at same
      rw [← same,whole]
    · obtain ⟨quote,depth,scanned,up⟩ := strict left right same none_ all
      exact ⟨quote,depth,scanned,by omega⟩

theorem balanced_blank (blank : ∀ c ∈ text, isBlank c = true) : Balanced text := by
  refine balanced_plain fun c listed => ?_
  have here := blank c listed
  simp only [isBlank,Bool.or_eq_true,beq_iff_eq] at here
  rcases here with ((rfl | rfl) | rfl) | rfl <;> rfl

theorem balanced_atom (a : Atom) : Balanced (atomText a) := by
  refine balanced_plain fun c listed => ?_
  have here := atomText_chars a c listed
  by_contra special
  simp only [isPlain,Bool.not_eq_true,Bool.not_eq_false',Bool.or_eq_true,decide_eq_true_eq] at special
  rcases special with ((rfl | rfl) | rfl) | rfl <;> simp [isAtomChar,isAlpha_eq,isUpper_eq,isLower_eq,Char.isDigit] at here

theorem balanced_mark (c : Char) (plain : isPlain c = true) : Balanced [c] :=
  balanced_plain (List.forall_mem_singleton.mpr plain)

theorem object_body (layout : Layout) (depth : Nat) (key : String)
    (first : Balanced (print layout (depth+1) value)) (others : Balanced (printMembers layout (depth+1) rest)) :
    ∃ body, Balanced body ∧ print layout depth (.obj ((key,value) :: rest)) = '{' :: body ++ ['}'] := by
  refine ⟨_,balanced_append (balanced_append (balanced_append (balanced_append (balanced_append (balanced_blank (layout.line_blank (depth+1)))
    (balanced_str key)) (balanced_append (balanced_mark ':' rfl) (balanced_blank layout.colon_blank))) first) others)
    (balanced_blank (layout.line_blank depth)),?_⟩
  simp only [print,List.cons_append,List.append_assoc,List.nil_append]

mutual
theorem balanced_print (layout : Layout) (depth : Nat) : (json : Json) → Balanced (print layout depth json)
  | .atom a => by rw [print]; exact balanced_atom a
  | .str s => by rw [print]; exact balanced_str s
  | .arr [] => balanced_plain (List.all_eq_true.mp rfl)
  | .arr (item :: rest) => by
    rw [print]
    exact balanced_append (balanced_append (balanced_append (balanced_append
      (balanced_append (balanced_mark '[' rfl) (balanced_blank (layout.line_blank _))) (balanced_print layout (depth+1) item))
      (balanced_items layout (depth+1) rest)) (balanced_blank (layout.line_blank _))) (balanced_mark ']' rfl)
  | .obj [] => by rw [print]; exact (braced balanced_nil).1
  | .obj ((key,value) :: rest) => by
    obtain ⟨body,inner,same⟩ := object_body layout depth key (balanced_print layout (depth+1) value) (balanced_members layout (depth+1) rest)
    rw [same]
    exact (braced inner).1
theorem balanced_items (layout : Layout) (depth : Nat) : (items : List Json) → Balanced (printItems layout depth items)
  | [] => by rw [printItems]; exact balanced_nil
  | item :: rest => by
    rw [printItems]
    exact balanced_append (balanced_append (balanced_append (balanced_append (balanced_mark ',' rfl) (balanced_blank layout.comma_blank))
      (balanced_blank (layout.line_blank _))) (balanced_print layout depth item)) (balanced_items layout depth rest)
theorem balanced_members (layout : Layout) (depth : Nat) : (members : List (String × Json)) → Balanced (printMembers layout depth members)
  | [] => by rw [printMembers]; exact balanced_nil
  | (key,value) :: rest => by
    rw [printMembers]
    have body := balanced_append (balanced_append (balanced_append (balanced_append (balanced_append (balanced_append (balanced_mark ',' rfl)
      (balanced_blank layout.comma_blank)) (balanced_blank (layout.line_blank depth))) (balanced_str key))
      (balanced_append (balanced_mark ':' rfl) (balanced_blank layout.colon_blank))) (balanced_print layout depth value))
      (balanced_members layout depth rest)
    simpa only [List.cons_append,List.append_assoc,List.nil_append] using body
end

theorem print_object (layout : Layout) (depth : Nat) (members : List (String × Json)) :
    ∃ body, Balanced body ∧ print layout depth (.obj members) = '{' :: body ++ ['}'] := by
  cases members with
  | nil => exact ⟨[],balanced_nil,by rw [print]; rfl⟩
  | cons head rest =>
    obtain ⟨key,value⟩ := head
    exact object_body layout depth key (balanced_print layout (depth+1) value) (balanced_members layout (depth+1) rest)

-- Two scanners that differ in being inside quotation marks go on differing, since
-- neither may meet a backslash outside of them.
theorem scan_opposite : (scanAll .outside text = some x → scanAll .inside text = some y →
      (x.1 = .outside ∧ y.1 = .inside) ∨ (x.1 = .inside ∧ y.1 = .outside)) := by
  induction text generalizing x y with
  | nil =>
    intro first second
    cases first
    cases second
    exact .inl ⟨rfl,rfl⟩
  | cons c rest ih =>
    intro first second
    simp only [scanAll,scan] at first second
    by_cases mark : c = '"'
    · simp only [mark,if_true,Option.bind_some,Option.map_eq_some_iff] at first second
      obtain ⟨a,ha,rfl⟩ := first
      obtain ⟨b,hb,rfl⟩ := second
      exact (ih hb ha).elim (fun sides => .inr ⟨sides.2,sides.1⟩) fun sides => .inl ⟨sides.2,sides.1⟩
    · by_cases backslash : c = '\\'
      · simp [backslash] at first
      · simp only [mark,backslash,if_false,Option.bind_some,Option.map_eq_some_iff] at first second
        obtain ⟨a,ha,rfl⟩ := first
        obtain ⟨b,hb,rfl⟩ := second
        have sides := ih ha hb
        exact sides

theorem scan_escaped (first : scanAll .outside text = some x) (second : scanAll .escape text = some y)
    (out : x.1 = .outside) (end_ : y.1 = .outside) : x.2 = y.2 := by
  cases text with
  | nil =>
    cases second
    cases end_
  | cons c rest =>
    simp only [scanAll,scan] at first second
    by_cases mark : c = '"'
    · -- From here on both are inside.
      have apart : ('"' : Char) ≠ '{' := by decide
      simp only [mark,apart,if_true,if_false,Option.bind_some,Option.map_eq_some_iff] at first second
      obtain ⟨a,first,rfl⟩ := first
      obtain ⟨b,second,rfl⟩ := second
      rw [first] at second
      obtain rfl := Option.some.inj second
      rfl
    · by_cases backslash : c = '\\'
      · simp [backslash] at first
      · by_cases open_ : c = '{'
        · simp [open_] at second
        · simp only [mark,backslash,open_,if_false,Option.bind_some,Option.map_eq_some_iff] at first second
          obtain ⟨a,ha,rfl⟩ := first
          obtain ⟨b,hb,rfl⟩ := second
          rcases scan_opposite ha hb with ⟨_,inside⟩ | ⟨inside,_⟩
          · exact absurd (inside.symm.trans end_) (by decide)
          · exact absurd (inside.symm.trans out) (by decide)

-- What follows the beginning of an object is not balanced itself.
theorem tail_unbalanced (begun : scanAll .outside left = some (quote,deep)) (up : 1 ≤ deep)
    (whole : scanAll .outside (left ++ right) = some (.outside,0)) : scanAll .outside right ≠ some (.outside,0) := by
  intro closed
  rw [scanAll_append,begun,Option.bind_some,Option.map_eq_some_iff] at whole
  obtain ⟨last,reached,ended⟩ := whole
  have inside : last.1 = .outside := congrArg Prod.fst ended
  have depth : deep + last.2 = 0 := congrArg Prod.snd ended
  have level : last.2 = 0 := by
    cases quote with
    | outside =>
      rw [closed] at reached
      cases reached
      rfl
    | inside =>
      rcases scan_opposite closed reached with ⟨_,other⟩ | ⟨other,_⟩
      · exact absurd (other.symm.trans inside) (by decide)
      · cases other
    | escape => exact (scan_escaped closed reached rfl inside).symm
  omega

-- A proper beginning of an object text is inside it.
theorem object_begun (same : print layout depth (.obj whole) = left ++ right) (some_ : left ≠ []) (more : right ≠ []) :
    ∃ quote deep, scanAll .outside left = some (quote,deep) ∧ 1 ≤ deep := by
  obtain ⟨outer,balanced,textOf⟩ := print_object layout depth whole
  exact (braced balanced).2 left right (textOf ▸ same) some_ more

theorem object_whole (layout : Layout) (depth : Nat) (members : List (String × Json)) :
    scanAll .outside (print layout depth (.obj members)) = some (.outside,0) := by
  obtain ⟨body,balanced,textOf⟩ := print_object layout depth members
  rw [textOf]
  exact (braced balanced).1.whole

theorem object_suffix (same : print layout depth (.obj whole) = left ++ print other level (.obj part)) : left = [] := by
  by_contra some_
  have more : print other level (.obj part) ≠ [] := by
    obtain ⟨body,_,textOf⟩ := print_object other level part
    simp [textOf]
  obtain ⟨quote,deep,begun,up⟩ := object_begun same some_ more
  have total := object_whole layout depth whole
  rw [same] at total
  exact tail_unbalanced begun up total (object_whole other level part)

-- What precedes an object text and the text itself can be told apart.
theorem object_split (same : left ++ print layout depth (.obj first) = right ++ print layout depth (.obj second)) :
    left = right ∧ print layout depth (.obj first) = print layout depth (.obj second) := by
  rcases List.append_eq_append_iff.mp same with ⟨middle,rfl,split⟩ | ⟨middle,rfl,split⟩
  · obtain rfl := object_suffix split
    exact ⟨by simp,by simpa using split⟩
  · obtain rfl := object_suffix split
    exact ⟨by simp,by simpa using split.symm⟩

-- How the scanner sees what the lexer is in.
def Mode.quote : Mode → Quote
  | .start | .atom _ => .outside
  | .str _ | .hex _ _ _ | .pair _ _ => .inside
  | .escape _ | .pairMark _ _ => .escape

def Token.depth : Token → Int
  | .lbrace => 1
  | .rbrace => -1
  | _ => 0

def tokensDepth : List Token → Int
  | [] => 0
  | token :: rest => token.depth + tokensDepth rest

theorem tokensDepth_append (first second : List Token) : tokensDepth (first ++ second) = tokensDepth first + tokensDepth second := by
  induction first with
  | nil => simp [tokensDepth]
  | cons token rest ih => simp [tokensDepth,ih,Int.add_assoc]

theorem atomChar_scan (atom : isAtomChar c = true) : scan .outside c = some .outside ∧ brace .outside c = 0 := by
  have plain : c ≠ '"' ∧ c ≠ '\\' ∧ c ≠ '{' ∧ c ≠ '}' := by
    refine ⟨?_,?_,?_,?_⟩ <;> rintro rfl <;> simp [isAtomChar,isAlpha_eq,isUpper_eq,isLower_eq,Char.isDigit] at atom
  simp [scan,brace,plain]

theorem begin_scan (begun : begin c = some next) : scan .outside c = some next.2.quote ∧ brace .outside c = tokensDepth next.1 := by
  unfold begin at begun
  split at begun
  · rename_i blank
    simp only [isBlank,Bool.or_eq_true,beq_iff_eq] at blank
    obtain rfl := Option.some.inj begun
    rcases blank with ((rfl | rfl) | rfl) | rfl <;> exact ⟨rfl,rfl⟩
  · repeat' split at begun
    all_goals try subst_vars
    all_goals try (obtain rfl := Option.some.inj begun; exact ⟨rfl,rfl⟩)
    · rename_i atom
      obtain rfl := Option.some.inj begun
      exact ⟨(atomChar_scan atom).1,(atomChar_scan atom).2⟩
    · cases begun

theorem step_scan (stepped : step mode c = some next) :
    scan mode.quote c = some next.2.quote ∧ brace mode.quote c = tokensDepth next.1 := by
  cases mode with
  | start => exact begin_scan stepped
  | atom seen =>
    simp only [step] at stepped
    split at stepped
    · rename_i atom
      obtain rfl := Option.some.inj stepped
      exact atomChar_scan atom
    · obtain ⟨a,_,later⟩ := Option.bind_eq_some_iff.mp stepped
      obtain ⟨begun,found,rfl⟩ := Option.map_eq_some_iff.mp later
      obtain ⟨scanned,depth⟩ := begin_scan found
      exact ⟨scanned,by simpa [tokensDepth,Token.depth,Mode.quote] using depth⟩
  | str seen =>
    simp only [step] at stepped
    repeat' split at stepped
    all_goals try cases stepped
    all_goals simp_all [Mode.quote,scan,brace,tokensDepth,Token.depth]
  | escape seen =>
    simp only [step] at stepped
    split at stepped
    · rename_i mark
      subst mark
      cases stepped
      exact ⟨rfl,rfl⟩
    · obtain ⟨plain,found,rfl⟩ := Option.map_eq_some_iff.mp stepped
      have open_ : c ≠ '{' := by
        rintro rfl
        cases found
      exact ⟨if_neg open_,rfl⟩
  | hex seen high nibbles =>
    simp only [step] at stepped
    obtain ⟨nibble,digit,later⟩ := Option.bind_eq_some_iff.mp stepped
    have plain : c ≠ '"' ∧ c ≠ '\\' := by
      constructor <;> rintro rfl <;> cases digit
    have inside : next.2.quote = .inside ∧ next.1 = [] := by
      split at later
      · unfold unit at later
        repeat' split at later
        all_goals first | (cases later; exact ⟨rfl,rfl⟩) | cases later
      · cases later
        exact ⟨rfl,rfl⟩
    rw [inside.1,inside.2]
    exact ⟨by simp [Mode.quote,scan,plain],rfl⟩
  | pair seen high =>
    simp only [step] at stepped
    split at stepped
    · rename_i mark
      subst mark
      cases stepped
      exact ⟨rfl,rfl⟩
    · cases stepped
  | pairMark seen high =>
    simp only [step] at stepped
    split at stepped
    · rename_i mark
      subst mark
      cases stepped
      exact ⟨rfl,rfl⟩
    · cases stepped

def lexTo : Mode → List Char → Option (List Token × Mode)
  | mode,[] => some ([],mode)
  | mode,c :: rest => (step mode c).bind fun next => (lexTo next.2 rest).map fun last => (next.1 ++ last.1,last.2)

theorem lex_append (left right : List Char) (mode : Mode) :
    lex mode (left ++ right) = (lexTo mode left).bind fun middle => (lex middle.2 right).map (middle.1 ++ ·) := by
  induction left generalizing mode with
  | nil => simp [lexTo]
  | cons c rest ih =>
    rw [List.cons_append,lex_cons,lexTo]
    cases step mode c with
    | none => rfl
    | some next =>
      simp only [Option.bind_some,ih]
      cases lexTo next.2 rest with
      | none => rfl
      | some middle => simp [Function.comp_def]

theorem lexTo_scan (lexed : lexTo mode text = some found) : scanAll mode.quote text = some (found.2.quote,tokensDepth found.1) := by
  induction text generalizing mode found with
  | nil =>
    cases lexed
    rfl
  | cons c rest ih =>
    obtain ⟨next,stepped,later⟩ := Option.bind_eq_some_iff.mp lexed
    obtain ⟨last,lexedRest,rfl⟩ := Option.map_eq_some_iff.mp later
    obtain ⟨seen,counted⟩ := step_scan stepped
    rw [scanAll,seen,Option.bind_some,ih lexedRest,tokensDepth_append,counted]
    rfl

theorem lex_scan (lexed : lex mode text = some tokens) : scanAll mode.quote text = some (.outside,tokensDepth tokens) := by
  have parts := lex_append text [] mode
  rw [List.append_nil,lexed,eq_comm,Option.bind_eq_some_iff] at parts
  obtain ⟨⟨before,last⟩,taken,ended⟩ := parts
  obtain ⟨final,closed,rfl⟩ := Option.map_eq_some_iff.mp ended
  have counted := lexTo_scan taken
  cases last with
  | start =>
    cases closed
    rw [List.append_nil]
    exact counted
  | atom seen =>
    obtain ⟨a,_,rfl⟩ := Option.map_eq_some_iff.mp closed
    rw [tokensDepth_append]
    simpa [tokensDepth,Token.depth,Mode.quote] using counted
  | _ => cases closed

def Frame.depth : Frame → Int
  | .arr _ => 0
  | .obj _ _ => 1

def stackDepth : List Frame → Int
  | [] => 0
  | frame :: rest => frame.depth + stackDepth rest

def Phase.depth : Phase → Int
  | .value stack | .firstItem stack | .items _ stack => stackDepth stack
  | .firstKey stack | .key _ stack | .colon _ _ stack | .members _ stack => 1 + stackDepth stack
  | .done _ => 0

@[simp] theorem depth_value (stack : List Frame) : (Phase.value stack).depth = stackDepth stack := rfl
@[simp] theorem depth_firstItem (stack : List Frame) : (Phase.firstItem stack).depth = stackDepth stack := rfl
@[simp] theorem depth_items (items : List Json) (stack : List Frame) : (Phase.items items stack).depth = stackDepth stack := rfl
@[simp] theorem depth_firstKey (stack : List Frame) : (Phase.firstKey stack).depth = 1 + stackDepth stack := rfl
@[simp] theorem depth_key (members : List (String × Json)) (stack : List Frame) : (Phase.key members stack).depth = 1 + stackDepth stack := rfl
@[simp] theorem depth_colon (members : List (String × Json)) (key : String) (stack : List Frame) :
    (Phase.colon members key stack).depth = 1 + stackDepth stack := rfl
@[simp] theorem depth_members (members : List (String × Json)) (stack : List Frame) :
    (Phase.members members stack).depth = 1 + stackDepth stack := rfl

theorem deliver_depth (result : Json) (stack : List Frame) : (deliver result stack).depth = stackDepth stack := by
  cases stack with
  | nil => rfl
  | cons frame rest => cases frame <;> simp [deliver,stackDepth,Frame.depth]

theorem enter_depth {next : Phase} (entered : enter token stack = some next) : next.depth = stackDepth stack + token.depth := by
  cases token <;> simp only [enter,Option.some.injEq,reduceCtorEq] at entered <;> subst entered <;>
    simp [deliver_depth,Token.depth,Int.add_comm]

theorem advance_depth {next : Phase} (advanced : advance phase token = some next) : next.depth = phase.depth + token.depth := by
  cases phase with
  | value stack => exact enter_depth advanced
  | firstItem stack =>
    by_cases close : token = .rbracket
    · subst close
      cases advanced
      simp [deliver_depth,Token.depth]
    · have entered : enter token (.arr [] :: stack) = some next := by
        cases token <;> first | exact absurd rfl close | exact advanced
      rw [enter_depth entered]
      simp [stackDepth,Frame.depth]
  | firstKey stack =>
    cases token <;> cases advanced <;> simp [deliver_depth,Token.depth]
  | key members stack =>
    cases token <;> cases advanced
    simp [Token.depth]
  | colon members key stack =>
    cases token <;> cases advanced
    simp [Token.depth,stackDepth,Frame.depth]
  | items items stack =>
    cases token <;> cases advanced <;> simp [deliver_depth,Token.depth,stackDepth,Frame.depth]
  | members members stack =>
    cases token <;> cases advanced <;> simp [deliver_depth,Token.depth]
  | done result => cases token <;> cases advanced

theorem parse_depth (parsed : parse phase tokens = some result) : phase.depth + tokensDepth tokens = 0 := by
  induction tokens generalizing phase with
  | nil =>
    cases phase with
    | done result => rfl
    | _ => cases parsed
  | cons token rest ih =>
    rw [parse_cons] at parsed
    obtain ⟨next,advanced,later⟩ := Option.bind_eq_some_iff.mp parsed
    have step_ := advance_depth advanced
    have rest_ := ih later
    simp only [tokensDepth]
    omega

theorem loads_balanced {text : String} {json : Json} (loaded : loads text = some json) : scanAll .outside text.toList = some (.outside,0) := by
  obtain ⟨tokens,lexed,parsed⟩ := Option.bind_eq_some_iff.mp loaded
  have depth := parse_depth parsed
  simp only [Phase.depth,stackDepth,Int.zero_add] at depth
  exact depth ▸ lex_scan lexed

theorem object_tail_unread (same : print layout depth (.obj whole) = left ++ right) (some_ : left ≠ []) :
    loads (String.ofList right) = none := by
  by_cases empty : right = []
  · rw [empty]
    rfl
  · obtain ⟨quote,deep,begun,up⟩ := object_begun same some_ empty
    have total := object_whole layout depth whole
    rw [same] at total
    cases loaded : loads (String.ofList right) with
    | none => rfl
    | some json =>
      have closed := loads_balanced loaded
      rw [String.toList_ofList] at closed
      exact absurd closed (tail_unbalanced begun up total)

theorem parse_done (result : Json) (token : Token) (rest : List Token) : parse (.done result) (token :: rest) = none := by
  cases token <;> rfl

theorem lex_inside {more : List Char} {quote : Quote} {deep : Int} (begun : scanAll .outside left = some (quote,deep))
    (open_ : quote ≠ .outside) (unread : lex .start more = none) : lex .start (left ++ '{' :: '"' :: more) = none := by
  rw [lex_append]
  cases taken : lexTo .start left with
  | none => rfl
  | some found =>
    have seen := (lexTo_scan taken).symm.trans begun
    have mode_ : found.2.quote ≠ .outside := by
      have same := congrArg Prod.fst (Option.some.inj seen)
      exact fun other => open_ (same.symm.trans other)
    rw [Option.bind_some,Option.map_eq_none_iff]
    cases mode : found.2 with
    | start => exact absurd (by rw [mode]; rfl) mode_
    | atom seen => exact absurd (by rw [mode]; rfl) mode_
    | str seen => simp [lex_cons,step,unread]
    | escape seen => simp [lex_cons,step,escaped]
    | hex seen high nibbles => simp [lex_cons,step,show hexDigit '{' = none by decide]
    | pair seen high => simp [lex_cons,step]
    | pairMark seen high => simp [lex_cons,step]

theorem object_after_unread {layout other : Layout} {depth level : Nat} {whole part : List (String × Json)} {left right more : List Char}
    (same : print layout depth (.obj whole) = left ++ right) (some_ : left ≠ []) (begins : print other level (.obj part) = '{' :: '"' :: more)
    (unread : lex .start more = none) : loads (String.ofList (left ++ print other level (.obj part))) = none := by
  by_cases empty : right = []
  · -- A second value follows the first.
    have delimited : Delimited (print other level (.obj part)) := by
      rw [begins]
      exact delimited_cons (by decide)
    have last := lex_print other level (.obj part) [] delimited_nil
    have first := lex_print layout depth (.obj whole) _ delimited
    rw [List.append_nil] at last
    rw [last] at first
    rw [loads,String.toList_ofList,← List.append_nil left,← empty,← same,first]
    simp only [lex,Option.map_some,List.append_nil,Option.bind_some,parse_tokens,deliver]
    cases tokens_ : tokens (.obj part) with
    | nil => cases part <;> simp [tokens] at tokens_
    | cons token rest => exact parse_done _ token rest
  · obtain ⟨quote,deep,begun,up⟩ := object_begun same some_ empty
    by_cases outside : quote = .outside
    · cases loaded : loads (String.ofList (left ++ print other level (.obj part))) with
      | none => rfl
      | some json =>
        have closed := loads_balanced loaded
        rw [String.toList_ofList,scanAll_append,begun,outside,Option.bind_some,object_whole] at closed
        have level_ := congrArg Prod.snd (Option.some.inj closed)
        simp only [Int.add_zero] at level_
        omega
    · rw [loads,String.toList_ofList,begins,lex_inside begun outside unread]
      rfl

theorem replaced_unread (text : List Char) : loads (String.ofList ('\ufffd' :: text)) = none := by
  rw [loads,String.toList_ofList,lex_cons]
  rfl

theorem begin_lbrace (begun : begin c = some next) (listed : Token.lbrace ∈ next.1) : c = '{' := by
  unfold begin at begun
  split at begun
  · cases begun
    cases listed
  · split at begun
    · assumption
    · repeat' split at begun
      all_goals first | (cases begun; simp at listed) | cases begun

theorem step_lbrace (stepped : step mode c = some next) (listed : Token.lbrace ∈ next.1) : c = '{' := by
  cases mode with
  | start => exact begin_lbrace stepped listed
  | atom seen =>
    simp only [step] at stepped
    split at stepped
    · cases stepped
      cases listed
    · obtain ⟨a,_,later⟩ := Option.bind_eq_some_iff.mp stepped
      obtain ⟨rest,begun,rfl⟩ := Option.map_eq_some_iff.mp later
      simp only [List.mem_cons,reduceCtorEq,false_or] at listed
      exact begin_lbrace begun listed
  | str seen =>
    simp only [step] at stepped
    repeat' split at stepped
    all_goals first | (cases stepped; simp at listed) | cases stepped
  | escape seen =>
    simp only [step] at stepped
    split at stepped
    · cases stepped
      cases listed
    · obtain ⟨plain,_,rfl⟩ := Option.map_eq_some_iff.mp stepped
      cases listed
  | hex seen high nibbles =>
    simp only [step] at stepped
    obtain ⟨nibble,_,later⟩ := Option.bind_eq_some_iff.mp stepped
    split at later
    · unfold unit at later
      repeat' split at later
      all_goals first | (cases later; simp at listed) | cases later
    · cases later
      cases listed
  | pair seen high =>
    simp only [step] at stepped
    split at stepped
    · cases stepped
      cases listed
    · cases stepped
  | pairMark seen high =>
    simp only [step] at stepped
    split at stepped
    · cases stepped
      cases listed
    · cases stepped

theorem lex_lbrace (lexed : lex mode text = some tokens) (listed : Token.lbrace ∈ tokens) : '{' ∈ text := by
  induction text generalizing mode tokens with
  | nil =>
    cases mode with
    | start => cases lexed; cases listed
    | atom seen =>
      obtain ⟨a,_,rfl⟩ := Option.map_eq_some_iff.mp lexed
      simp at listed
    | _ => cases lexed
  | cons c rest ih =>
    rw [lex_cons] at lexed
    obtain ⟨next,stepped,later⟩ := Option.bind_eq_some_iff.mp lexed
    obtain ⟨others,lexedRest,rfl⟩ := Option.map_eq_some_iff.mp later
    rcases List.mem_append.mp listed with here | there
    · rw [step_lbrace stepped here]
      exact List.mem_cons_self
    · exact List.mem_cons_of_mem _ (ih lexedRest there)

-- Without a brace the parser is never inside an object and delivers none.
def Braceless : Phase → Prop
  | .value stack | .firstItem stack | .items _ stack => ∀ frame ∈ stack, ∃ items, frame = .arr items
  | .done result => ∀ members, result ≠ .obj members
  | _ => False

theorem deliver_braceless (plain : ∀ members, result ≠ .obj members) (arrays : ∀ frame ∈ stack, ∃ items, frame = .arr items) :
    Braceless (deliver result stack) := by
  cases stack with
  | nil => exact plain
  | cons frame rest =>
    obtain ⟨items,rfl⟩ := arrays frame List.mem_cons_self
    exact fun other listed => arrays other (List.mem_cons_of_mem _ listed)

theorem enter_braceless (other : token ≠ .lbrace) (arrays : ∀ frame ∈ stack, ∃ items, frame = .arr items)
    (entered : enter token stack = some phase) : Braceless phase := by
  cases token with
  | lbrace => exact absurd rfl other
  | atom a =>
    cases entered
    exact deliver_braceless (by simp) arrays
  | str s =>
    cases entered
    exact deliver_braceless (by simp) arrays
  | lbracket =>
    cases entered
    exact arrays
  | _ => cases entered

theorem advance_braceless {next : Phase} (flat : Braceless phase) (other : token ≠ .lbrace) (advanced : advance phase token = some next) :
    Braceless next := by
  cases phase with
  | value stack => exact enter_braceless other flat advanced
  | firstItem stack =>
    by_cases close : token = .rbracket
    · subst close
      cases advanced
      exact deliver_braceless (by simp) flat
    · have entered : enter token (.arr [] :: stack) = some next := by
        cases token <;> first | exact absurd rfl close | exact advanced
      exact enter_braceless other (List.forall_mem_cons.mpr ⟨⟨[],rfl⟩,flat⟩) entered
  | items items stack =>
    cases token with
    | comma =>
      cases advanced
      exact List.forall_mem_cons.mpr ⟨⟨items,rfl⟩,flat⟩
    | rbracket =>
      cases advanced
      exact deliver_braceless (by simp) flat
    | _ => cases advanced
  | done result => cases token <;> cases advanced
  | _ => exact flat.elim

theorem parse_braceless (flat : Braceless phase) (none_ : Token.lbrace ∉ tokens) (parsed : parse phase tokens = some result)
    (members : List (String × Json)) : result ≠ .obj members := by
  induction tokens generalizing phase with
  | nil =>
    cases phase with
    | done found =>
      cases parsed
      exact flat members
    | _ => cases parsed
  | cons token rest ih =>
    simp only [List.mem_cons,not_or] at none_
    rw [parse_cons] at parsed
    obtain ⟨next,advanced,later⟩ := Option.bind_eq_some_iff.mp parsed
    exact ih (advance_braceless flat (Ne.symm none_.1) advanced) none_.2 later

theorem loads_object {text : String} {members : List (String × Json)} (loaded : loads text = some (.obj members)) : '{' ∈ text.toList := by
  obtain ⟨tokens,lexed,parsed⟩ := Option.bind_eq_some_iff.mp loaded
  by_contra none_
  have without : Token.lbrace ∉ tokens := fun listed => none_ (lex_lbrace lexed listed)
  exact parse_braceless (show Braceless (.value []) by simp [Braceless]) without parsed members rfl

end VeritasOs.JsonText
