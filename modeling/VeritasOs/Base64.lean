import Mathlib.Data.List.Basic

namespace VeritasOs.Base64

-- The URL-safe alphabet.
def digit (n : Nat) : Char :=
  if n < 26 then Char.ofNat (n + 65)
  else if n < 52 then Char.ofNat (n + 71)
  else if n < 62 then Char.ofNat (n - 4)
  else if n = 62 then '-' else '_'

-- The reader translates the URL-safe letters to the plain ones, so it takes both.
def value (c : Char) : Option Nat :=
  if 65 ≤ c.toNat ∧ c.toNat ≤ 90 then some (c.toNat - 65)
  else if 97 ≤ c.toNat ∧ c.toNat ≤ 122 then some (c.toNat - 71)
  else if 48 ≤ c.toNat ∧ c.toNat ≤ 57 then some (c.toNat + 4)
  else if c = '-' ∨ c = '+' then some 62
  else if c = '_' ∨ c = '/' then some 63
  else none

def encode : List UInt8 → List Char
  | a :: b :: c :: rest =>
    digit (a.toNat / 4) :: digit (a.toNat % 4 * 16 + b.toNat / 16) :: digit (b.toNat % 16 * 4 + c.toNat / 64) ::
      digit (c.toNat % 64) :: encode rest
  | [a,b] => [digit (a.toNat / 4),digit (a.toNat % 4 * 16 + b.toNat / 16),digit (b.toNat % 16 * 4),'=']
  | [a] => [digit (a.toNat / 4),digit (a.toNat % 4 * 16),'=','=']
  | [] => []

-- Whole quanta of four; only the last may be padded. Bits the padding stands for are not looked at.
def decode : List Char → Option (List UInt8)
  | [] => some []
  | a :: b :: c :: d :: rest => do
    let first ← value a
    let second ← value b
    let head := UInt8.ofNat (first * 4 + second / 16)
    if c = '=' ∧ d = '=' ∧ rest = [] then some [head]
    else
      let third ← value c
      let middle := UInt8.ofNat (second % 16 * 16 + third / 4)
      if d = '=' ∧ rest = [] then some [head,middle]
      else
        let fourth ← value d
        let tail ← decode rest
        some (head :: middle :: UInt8.ofNat (third % 4 * 64 + fourth) :: tail)
  | _ => none

theorem value_digit (small : n < 64) : value (digit n) = some n := by
  have each : ∀ k : Fin 64, value (digit k) = some k.val := by decide
  exact each ⟨n,small⟩

theorem digit_plain (small : n < 64) : digit n ≠ '=' := by
  intro same
  have read := value_digit small
  rw [same] at read
  cases read

theorem byte_of (byte : UInt8) (same : n = byte.toNat) : UInt8.ofNat n = byte := by
  rw [same,UInt8.ofNat_toNat]

theorem decode_quantum (a b c d : Nat) (la : a < 64) (lb : b < 64) (lc : c < 64) (ld : d < 64) (rest : List Char) :
    decode (digit a :: digit b :: digit c :: digit d :: rest) = (decode rest).map fun tail =>
      UInt8.ofNat (a * 4 + b / 16) :: UInt8.ofNat (b % 16 * 16 + c / 4) :: UInt8.ofNat (c % 4 * 64 + d) :: tail := by
  rw [decode,value_digit la,value_digit lb,value_digit lc,value_digit ld]
  simp only [Option.bind_eq_bind,Option.bind_some,digit_plain lc,digit_plain ld,false_and,if_false]
  cases decode rest <;> rfl

theorem decode_encode (bytes : List UInt8) : decode (encode bytes) = some bytes := by
  induction bytes using encode.induct with
  | case1 a b c rest ih =>
    have la := a.toNat_lt
    have lb := b.toNat_lt
    have lc := c.toNat_lt
    rw [encode,decode_quantum _ _ _ _ (by omega) (by omega) (by omega) (by omega),ih]
    rw [byte_of a (by omega),byte_of b (by omega),byte_of c (by omega)]
    rfl
  | case2 a b =>
    have la := a.toNat_lt
    have lb := b.toNat_lt
    rw [encode,decode,value_digit (by omega),value_digit (by omega),value_digit (by omega)]
    simp only [Option.bind_eq_bind,Option.bind_some,digit_plain (show b.toNat % 16 * 4 < 64 by omega),false_and,if_false,and_self,
      if_true]
    rw [byte_of a (by omega),byte_of b (by omega)]
  | case3 a =>
    have la := a.toNat_lt
    rw [encode,decode,value_digit (by omega),value_digit (by omega)]
    simp only [Option.bind_eq_bind,Option.bind_some,and_self,if_true]
    rw [byte_of a (by omega)]
  | case4 => rfl

theorem encode_some (some_ : bytes ≠ []) : encode bytes ≠ [] := by
  intro empty
  have read := decode_encode bytes
  rw [empty] at read
  exact some_ (Option.some.inj read).symm

theorem decode_short {first : List Char} (some_ : first ≠ []) (few : first.length < 4) : decode first = none :=
  match first with
  | [_] | [_,_] | [_,_,_] => rfl
  | _ :: _ :: _ :: _ :: _ => by simp at few; omega

-- What is left of a cut text is refused, or it stands for less.
theorem decode_cut (bytes : List UInt8) : ∀ first rest other, encode bytes = first ++ rest → rest ≠ [] → decode first = some other →
    other <+: bytes ∧ other ≠ bytes := by
  have short : ∀ {whole : List UInt8} {first : List Char} {other : List UInt8}, first.length < 4 → whole ≠ [] →
      decode first = some other → other <+: whole ∧ other ≠ whole := by
    intro whole first other few full decoded
    by_cases empty : first = []
    · rw [empty] at decoded
      cases decoded
      exact ⟨List.nil_prefix,full.symm⟩
    · rw [decode_short empty few] at decoded
      cases decoded
  have last : ∀ {whole : List UInt8} {first rest : List Char} {other : List UInt8}, (encode whole).length = 4 → whole ≠ [] →
      encode whole = first ++ rest → rest ≠ [] → decode first = some other → other <+: whole ∧ other ≠ whole := by
    intro whole first rest other four full cut more
    have some_ := List.length_pos_iff.mpr more
    rw [cut,List.length_append] at four
    exact short (by omega) full
  induction bytes using encode.induct with
  | case1 a b c bytes ih =>
    intro first rest other whole more decoded
    match first with
    | [] | [_] | [_,_] | [_,_,_] => exact short (by simp) (by simp) decoded
    | w :: x :: y :: z :: first =>
      have la := a.toNat_lt
      have lb := b.toNat_lt
      have lc := c.toNat_lt
      simp only [encode,List.cons_append,List.cons.injEq] at whole
      obtain ⟨rfl,rfl,rfl,rfl,whole⟩ := whole
      rw [decode_quantum _ _ _ _ (by omega) (by omega) (by omega) (by omega)] at decoded
      obtain ⟨tail,read,rfl⟩ := Option.map_eq_some_iff.mp decoded
      obtain ⟨before,fewer⟩ := ih first rest tail whole more read
      rw [byte_of a (by omega),byte_of b (by omega),byte_of c (by omega)]
      simpa using ⟨before,fewer⟩
  | case2 a b => exact fun first rest other => last rfl (List.cons_ne_nil _ _)
  | case3 a => exact fun first rest other => last rfl (List.cons_ne_nil _ _)
  | case4 =>
    intro first rest other whole more
    exact absurd (List.append_eq_nil_iff.mp whole.symm).2 more

end VeritasOs.Base64
