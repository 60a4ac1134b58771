import Mathlib.Data.List.Basic

namespace VeritasOs.JsonText

def isBlank (c : Char) : Bool := c == ' ' || c == '\t' || c == '\n' || c == '\r'

-- Numbers, true, false, null, NaN and the infinities are lexed as one maximal run
-- of these characters and classified afterwards.
theorem isUpper_eq (c : Char) : c.isUpper = decide (c.val ≥ 'A'.val ∧ c.val ≤ 'Z'.val) := rfl
theorem isLower_eq (c : Char) : c.isLower = (decide (c.val ≥ 'a'.val) && decide (c.val ≤ 'z'.val)) := rfl
theorem isAlpha_eq (c : Char) : c.isAlpha = (c.isUpper || c.isLower) := rfl

def isAtomChar (c : Char) : Bool := c.isAlpha || c.isDigit || c == '+' || c == '-' || c == '.'

def natText : List Char → Option Nat
  | [] => none
  | ['0'] => some 0
  | c :: rest =>
    if c.isDigit && c != '0' && rest.all Char.isDigit then some (Nat.ofDigitChars 10 (c :: rest) 0) else none

def intText : List Char → Option Int
  | '-' :: digits => (natText digits).map fun n => -(n : Int)
  | digits => (natText digits).map fun n => (n : Int)

def isDigits (chars : List Char) : Bool := !chars.isEmpty && chars.all Char.isDigit

def isFraction : List Char → Bool
  | [] => true
  | c :: digits => c == '.' && isDigits digits

def isExponent : List Char → Bool
  | [] => true
  | _ :: '+' :: digits => isDigits digits
  | _ :: '-' :: digits => isDigits digits
  | _ :: digits => isDigits digits

-- A number with a fraction or an exponent, as repr(float) and the JSON grammar write it.
def isFloatText (chars : List Char) : Bool :=
  let (mantissa,exponent) := chars.span fun c => !(c == 'e' || c == 'E')
  let (whole,fraction) := mantissa.span fun c => !(c == '.')
  chars.all isAtomChar && (intText chars).isNone && (intText whole).isSome &&
    isFraction fraction && isExponent exponent

-- A float is kept as its literal; no arithmetic on it is modelled.
structure FloatLiteral where
  text : String
  valid : isFloatText text.toList = true
deriving DecidableEq

theorem float_zero : isFloatText "0.0".toList = true := by decide
theorem float_tenth : isFloatText "0.1".toList = true := by decide
theorem float_two_tenths : isFloatText "0.2".toList = true := by decide
theorem float_three_tenths : isFloatText "0.3".toList = true := by decide
theorem float_four_tenths : isFloatText "0.4".toList = true := by decide
theorem float_half : isFloatText "0.5".toList = true := by decide
theorem float_one : isFloatText "1.0".toList = true := by decide

inductive FloatValue where
  | finite (literal : FloatLiteral)
  | nan
  | infinity (negative : Bool)
deriving DecidableEq

inductive Atom where
  | null
  | bool (b : Bool)
  | int (n : Int)
  | float (x : FloatValue)
deriving DecidableEq

inductive Json where
  | atom (a : Atom)
  | str (s : String)
  | arr (items : List Json)
  | obj (members : List (String × Json))

inductive Token where
  | lbrace | rbrace | lbracket | rbracket | comma | colon
  | atom (a : Atom)
  | str (s : String)
deriving DecidableEq

def digits (n : Nat) : List Char := Nat.toDigits 10 n

def atomText : Atom → List Char
  | .null => ['n','u','l','l']
  | .bool true => ['t','r','u','e']
  | .bool false => ['f','a','l','s','e']
  | .int (.ofNat n) => digits n
  | .int (.negSucc n) => '-' :: digits (n+1)
  | .float (.finite literal) => literal.text.toList
  | .float .nan => ['N','a','N']
  | .float (.infinity false) => ['I','n','f','i','n','i','t','y']
  | .float (.infinity true) => ['-','I','n','f','i','n','i','t','y']

def keywordOf (chars : List Char) : Option Atom :=
  if chars = atomText .null then some .null
  else if chars = atomText (.bool true) then some (.bool true)
  else if chars = atomText (.bool false) then some (.bool false)
  else if chars = atomText (.float .nan) then some (.float .nan)
  else if chars = atomText (.float (.infinity false)) then some (.float (.infinity false))
  else if chars = atomText (.float (.infinity true)) then some (.float (.infinity true))
  else none

def classify (chars : List Char) : Option Atom :=
  match keywordOf chars with
  | some a => some a
  | none =>
    match intText chars with
    | some n => some (.int n)
    | none =>
      if valid : isFloatText chars = true then
        some (.float (.finite ⟨String.ofList chars,by simpa using valid⟩))
      else none

inductive Mode where
  | start
  | atom (seen : List Char)
  | str (seen : List Char)
  | escape (seen : List Char)
  | hex (seen : List Char) (high : Option Nat) (nibbles : List Nat)
  | pair (seen : List Char) (high : Nat)
  | pairMark (seen : List Char) (high : Nat)

def hexDigit (c : Char) : Option Nat :=
  if c.isDigit then some (c.toNat - '0'.toNat)
  else if 'a'.toNat ≤ c.toNat && c.toNat ≤ 'f'.toNat then some (c.toNat - 'a'.toNat + 10)
  else if 'A'.toNat ≤ c.toNat && c.toNat ≤ 'F'.toNat then some (c.toNat - 'A'.toNat + 10)
  else none

def begin (c : Char) : Option (List Token × Mode) :=
  if isBlank c then some ([],.start)
  else if c = '{' then some ([.lbrace],.start)
  else if c = '}' then some ([.rbrace],.start)
  else if c = '[' then some ([.lbracket],.start)
  else if c = ']' then some ([.rbracket],.start)
  else if c = ',' then some ([.comma],.start)
  else if c = ':' then some ([.colon],.start)
  else if c = '"' then some ([],.str [])
  else if isAtomChar c then some ([],.atom [c])
  else none

def escaped (c : Char) : Option Char :=
  if c = '"' then some '"'
  else if c = '\\' then some '\\'
  else if c = '/' then some '/'
  else if c = 'b' then some '\x08'
  else if c = 'f' then some '\x0c'
  else if c = 'n' then some '\n'
  else if c = 'r' then some '\r'
  else if c = 't' then some '\t'
  else none

-- A lone surrogate is no Unicode scalar value and has no counterpart in a Lean
-- string; such an escape is refused here.
def unit (seen : List Char) (high : Option Nat) (code : Nat) : Option (List Token × Mode) :=
  match high with
  | none =>
    if 0xd800 ≤ code && code < 0xdc00 then some ([],.pair seen code)
    else if 0xdc00 ≤ code && code < 0xe000 then none
    else some ([],.str (Char.ofNat code :: seen))
  | some first =>
    if 0xdc00 ≤ code && code < 0xe000 then
      some ([],.str (Char.ofNat (0x10000 + (first - 0xd800) * 0x400 + (code - 0xdc00)) :: seen))
    else none

def step : Mode → Char → Option (List Token × Mode)
  | .start,c => begin c
  | .atom seen,c =>
    if isAtomChar c then some ([],.atom (c :: seen))
    else (classify seen.reverse).bind fun a => (begin c).map fun next => (.atom a :: next.1,next.2)
  | .str seen,c =>
    if c = '"' then some ([.str (String.ofList seen.reverse)],.start)
    else if c = '\\' then some ([],.escape seen)
    else if c.toNat < 32 then none
    else some ([],.str (c :: seen))
  | .escape seen,c =>
    if c = 'u' then some ([],.hex seen none [])
    else (escaped c).map fun plain => ([],.str (plain :: seen))
  | .hex seen high nibbles,c =>
    (hexDigit c).bind fun nibble =>
      match nibbles with
      | [c3,c2,c1] => unit seen high (((c1 * 16 + c2) * 16 + c3) * 16 + nibble)
      | _ => some ([],.hex seen high (nibble :: nibbles))
  | .pair seen high,c => if c = '\\' then some ([],.pairMark seen high) else none
  | .pairMark seen high,c => if c = 'u' then some ([],.hex seen (some high) []) else none

def lex : Mode → List Char → Option (List Token)
  | .start,[] => some []
  | .atom seen,[] => (classify seen.reverse).map fun a => [.atom a]
  | _,[] => none
  | mode,c :: rest => (step mode c).bind fun next => (lex next.2 rest).map (next.1 ++ ·)

inductive Frame where
  | arr (items : List Json)
  | obj (members : List (String × Json)) (key : String)

inductive Phase where
  | value (stack : List Frame)
  | firstItem (stack : List Frame)
  | firstKey (stack : List Frame)
  | key (members : List (String × Json)) (stack : List Frame)
  | colon (members : List (String × Json)) (key : String) (stack : List Frame)
  | items (items : List Json) (stack : List Frame)
  | members (members : List (String × Json)) (stack : List Frame)
  | done (result : Json)

def deliver (result : Json) : List Frame → Phase
  | [] => .done result
  | .arr items :: stack => .items (result :: items) stack
  | .obj members key :: stack => .members ((key,result) :: members) stack

def enter (token : Token) (stack : List Frame) : Option Phase :=
  match token with
  | .atom a => some (deliver (.atom a) stack)
  | .str s => some (deliver (.str s) stack)
  | .lbracket => some (.firstItem stack)
  | .lbrace => some (.firstKey stack)
  | _ => none

def advance : Phase → Token → Option Phase
  | .value stack,token => enter token stack
  | .firstItem stack,.rbracket => some (deliver (.arr []) stack)
  | .firstItem stack,token => enter token (.arr [] :: stack)
  | .firstKey stack,.rbrace => some (deliver (.obj []) stack)
  | .firstKey stack,.str key => some (.colon [] key stack)
  | .key members stack,.str key => some (.colon members key stack)
  | .colon members key stack,.colon => some (.value (.obj members key :: stack))
  | .items items stack,.comma => some (.value (.arr items :: stack))
  | .items items stack,.rbracket => some (deliver (.arr items.reverse) stack)
  | .members members stack,.comma => some (.key members stack)
  | .members members stack,.rbrace => some (deliver (.obj members.reverse) stack)
  | _,_ => none

def parse : Phase → List Token → Option Json
  | .done result,[] => some result
  | _,[] => none
  | phase,token :: rest => (advance phase token).bind (parse · rest)

def loads (text : String) : Option Json := (lex .start text.toList).bind (parse (.value []))

-- Blank text only: where a layout puts it cannot change the tokens.
structure Layout where
  afterComma : List Char
  afterColon : List Char
  line : Nat → List Char
  comma_blank : ∀ c ∈ afterComma, isBlank c = true
  colon_blank : ∀ c ∈ afterColon, isBlank c = true
  line_blank : ∀ depth, ∀ c ∈ line depth, isBlank c = true

def compact : Layout := ⟨[],[],fun _ => [],by simp,by simp,by simp⟩

def spaced : Layout := ⟨[' '],[' '],fun _ => [],by simp [isBlank],by simp [isBlank],by simp⟩

def indented (width : Nat) : Layout :=
  ⟨[],[' '],fun depth => '\n' :: List.replicate (width * depth) ' ',by simp,by simp [isBlank],by
    intro depth c present
    rcases List.mem_cons.mp present with rfl | space
    · rfl
    · rw [List.eq_of_mem_replicate space]; rfl⟩

def hexText (n : Nat) : Char := if n < 10 then Char.ofNat ('0'.toNat + n) else Char.ofNat ('a'.toNat + (n - 10))

-- ensure_ascii=False: only the quote, the backslash and control characters are escaped.
def escape (c : Char) : List Char :=
  if c = '"' then ['\\','"']
  else if c = '\\' then ['\\','\\']
  else if c = '\n' then ['\\','n']
  else if c = '\r' then ['\\','r']
  else if c = '\t' then ['\\','t']
  else if c = '\x08' then ['\\','b']
  else if c = '\x0c' then ['\\','f']
  else if c.toNat < 32 then ['\\','u','0','0',hexText (c.toNat / 16),hexText (c.toNat % 16)]
  else [c]

def strText (s : String) : List Char := '"' :: s.toList.flatMap escape ++ ['"']

mutual
def print (layout : Layout) (depth : Nat) : Json → List Char
  | .atom a => atomText a
  | .str s => strText s
  | .arr [] => ['[',']']
  | .arr (item :: rest) => '[' :: layout.line (depth+1) ++ print layout (depth+1) item ++
      printItems layout (depth+1) rest ++ layout.line depth ++ [']']
  | .obj [] => ['{','}']
  | .obj ((key,value) :: rest) => '{' :: layout.line (depth+1) ++ strText key ++ ':' :: layout.afterColon ++
      print layout (depth+1) value ++ printMembers layout (depth+1) rest ++ layout.line depth ++ ['}']
def printItems (layout : Layout) (depth : Nat) : List Json → List Char
  | [] => []
  | item :: rest => ',' :: layout.afterComma ++ layout.line depth ++ print layout depth item ++ printItems layout depth rest
def printMembers (layout : Layout) (depth : Nat) : List (String × Json) → List Char
  | [] => []
  | (key,value) :: rest => ',' :: layout.afterComma ++ layout.line depth ++ strText key ++ ':' :: layout.afterColon ++
      print layout depth value ++ printMembers layout depth rest
end

def dumps (layout : Layout) (json : Json) : String := String.ofList (print layout 0 json)

example : loads "[1, -2.5e3, \x7b\"a\\u0041\": null\x7d]" =
    some (.arr [.atom (.int 1),.atom (.float (.finite ⟨"-2.5e3",by decide⟩)),.obj [("aA",.atom .null)]]) := by
  rfl

end VeritasOs.JsonText
