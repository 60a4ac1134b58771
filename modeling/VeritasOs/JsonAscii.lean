import VeritasOs.HumanReview
import VeritasOs.JsonLines

namespace VeritasOs.JsonAscii
open JsonText
open HumanReview (unitText asciiChar)

-- json.dumps(.., sort_keys=True, separators=(",", ":")), which escapes what is not ASCII
def asciiDumps (json : Json) : String := String.ofList ((print compact 0 json).flatMap asciiChar)

theorem lex_unitText (seen : List Char) (high : Option Nat) (n : Nat) (small : n < 65536) (rest : List Char) :
    lex (.hex seen high []) ((unitText n).drop 2 ++ rest) = (unit seen high n).bind fun next => (lex next.2 rest).map (next.1 ++ ·) := by
  have first := hexDigit_text (n / 4096 % 16) (by omega)
  have second := hexDigit_text (n / 256 % 16) (by omega)
  have third := hexDigit_text (n / 16 % 16) (by omega)
  have fourth := hexDigit_text (n % 16) (by omega)
  have code : ((n / 4096 % 16 * 16 + n / 256 % 16) * 16 + n / 16 % 16) * 16 + n % 16 = n := by omega
  simp [unitText,lex_cons,step,first,second,third,fourth,code,Function.comp_def]

theorem lex_unit (seen : List Char) (n : Nat) (small : n < 65536) (rest : List Char) :
    lex (.str seen) (unitText n ++ rest) = (unit seen none n).bind fun next => (lex next.2 rest).map (next.1 ++ ·) := by
  have body := lex_unitText seen none n small rest
  simp only [unitText,List.drop_succ_cons,List.drop_zero] at body
  simp only [unitText,List.cons_append,lex_cons,step,Char.reduceEq,if_false,if_true,Option.bind_some,List.nil_append,Option.map_id']
  exact body

theorem lex_low (seen : List Char) (high n : Nat) (small : n < 65536) (rest : List Char) :
    lex (.pair seen high) (unitText n ++ rest) = (unit seen (some high) n).bind fun next => (lex next.2 rest).map (next.1 ++ ·) := by
  have body := lex_unitText seen (some high) n small rest
  simp only [unitText,List.drop_succ_cons,List.drop_zero] at body
  simp only [unitText,List.cons_append,lex_cons,step,if_true,Option.bind_some,List.nil_append,Option.map_id']
  exact body

theorem lex_asciiChar (seen : List Char) (foreign : 126 < c.toNat) (rest : List Char) :
    lex (.str seen) (asciiChar c ++ rest) = lex (.str (c :: seen)) rest := by
  have outside : ¬(32 ≤ c.toNat ∧ c.toNat ≤ 126) := by omega
  have scalar : c.toNat < 0xd800 ∨ 0xdfff < c.toNat ∧ c.toNat < 0x110000 := c.valid
  rw [asciiChar,if_neg outside]
  by_cases basic : c.toNat < 65536
  · rw [if_pos basic,lex_unit seen _ basic]
    have apart : ¬(0xd800 ≤ c.toNat ∧ c.toNat < 0xdc00) ∧ ¬(0xdc00 ≤ c.toNat ∧ c.toNat < 0xe000) := by omega
    have plain : unit seen none c.toNat = some ([],.str (c :: seen)) := by simp [unit,apart,Char.ofNat_toNat]
    simp [plain]
  · -- a surrogate pair
    rw [if_neg basic,List.append_assoc,lex_unit seen _ (by omega)]
    have high : unit seen none (55296 + (c.toNat - 65536) / 1024) = some ([],.pair seen (55296 + (c.toNat - 65536) / 1024)) := by
      have lead : 0xd800 ≤ 55296 + (c.toNat - 65536) / 1024 ∧ 55296 + (c.toNat - 65536) / 1024 < 0xdc00 := by omega
      simp [unit,lead]
    have code : 0x10000 + (55296 + (c.toNat - 65536) / 1024 - 0xd800) * 0x400 + (56320 + (c.toNat - 65536) % 1024 - 0xdc00) = c.toNat := by
      omega
    have low : unit seen (some (55296 + (c.toNat - 65536) / 1024)) (56320 + (c.toNat - 65536) % 1024) = some ([],.str (c :: seen)) := by
      have trail : 0xdc00 ≤ 56320 + (c.toNat - 65536) % 1024 ∧ 56320 + (c.toNat - 65536) % 1024 < 0xe000 := by omega
      simp only [unit,code,trail.1,trail.2,decide_true,Bool.and_self,if_true,Char.ofNat_toNat]
    rw [high,Option.bind_some,lex_low seen _ _ (by omega),low]
    simp

theorem apart {c d : Char} (foreign : 126 < c.toNat) (ascii : d.toNat ≤ 126) : c ≠ d := by
  rintro rfl
  omega

theorem isAtomChar_foreign {c : Char} (foreign : 126 < c.toNat) : isAtomChar c = false := by
  have code : c.val.toNat = c.toNat := rfl
  have marks : 'Z'.val.toNat = 90 ∧ 'z'.val.toNat = 122 ∧ '9'.val.toNat = 57 := by decide
  have letters : c.isAlpha = false ∧ c.isDigit = false := by
    simp only [isAlpha_eq,isUpper_eq,isLower_eq,Char.isDigit,Bool.or_eq_false_iff,Bool.and_eq_false_iff,decide_eq_false_iff_not,
      ge_iff_le,UInt32.le_iff_toNat_le,code]
    omega
  have plus := apart foreign (d := '+') (by decide)
  have minus := apart foreign (d := '-') (by decide)
  have dot := apart foreign (d := '.') (by decide)
  simp [isAtomChar,letters,plus,minus,dot]

theorem begin_foreign {c : Char} (foreign : 126 < c.toNat) : begin c = none := by
  have blank : isBlank c = false := by
    simp [isBlank,apart foreign (d := ' ') (by decide),apart foreign (d := '\t') (by decide),apart foreign (d := '\n') (by decide),
      apart foreign (d := '\r') (by decide)]
  simp [begin,blank,isAtomChar_foreign foreign,apart foreign (d := '\x7b') (by decide),apart foreign (d := '\x7d') (by decide),
    apart foreign (d := '[') (by decide),apart foreign (d := ']') (by decide),apart foreign (d := ',') (by decide),
    apart foreign (d := ':') (by decide),apart foreign (d := '"') (by decide)]

theorem hexDigit_foreign (foreign : 126 < c.toNat) : hexDigit c = none := by
  have code : c.val.toNat = c.toNat := rfl
  have marks : '9'.val.toNat = 57 ∧ 'f'.toNat = 102 ∧ 'F'.toNat = 70 := by decide
  have digit : c.isDigit = false := by
    simp only [Char.isDigit,Bool.and_eq_false_iff,decide_eq_false_iff_not,ge_iff_le,UInt32.le_iff_toNat_le,code]
    omega
  have lower : (decide ('a'.toNat ≤ c.toNat) && decide (c.toNat ≤ 'f'.toNat)) = false := by
    simp only [Bool.and_eq_false_iff,decide_eq_false_iff_not]
    omega
  have upper : (decide ('A'.toNat ≤ c.toNat) && decide (c.toNat ≤ 'F'.toNat)) = false := by
    simp only [Bool.and_eq_false_iff,decide_eq_false_iff_not]
    omega
  rw [hexDigit,digit,lower,upper]
  rfl

theorem escaped_foreign {c : Char} (foreign : 126 < c.toNat) : escaped c = none := by
  simp [escaped,apart foreign (d := '"') (by decide),apart foreign (d := '\\') (by decide),apart foreign (d := '/') (by decide),
    apart foreign (d := 'b') (by decide),apart foreign (d := 'f') (by decide),apart foreign (d := 'n') (by decide),
    apart foreign (d := 'r') (by decide),apart foreign (d := 't') (by decide)]

theorem step_foreign {mode : Mode} {c : Char} (foreign : 126 < c.toNat) {next : List Token × Mode} (stepped : step mode c = some next) :
    ∃ seen, mode = .str seen ∧ next = ([],.str (c :: seen)) := by
  have slash := apart foreign (d := '\\') (by decide)
  have quote := apart foreign (d := '"') (by decide)
  have letter := apart foreign (d := 'u') (by decide)
  cases mode with
  | start => simp [step,begin_foreign foreign] at stepped
  | atom seen => simp [step,isAtomChar_foreign foreign,begin_foreign foreign] at stepped
  | str seen =>
    have visible : ¬ c.toNat < 32 := by omega
    simp only [step,quote,slash,visible,if_false,Option.some.injEq] at stepped
    exact ⟨seen,rfl,stepped.symm⟩
  | escape seen => simp [step,letter,escaped_foreign foreign] at stepped
  | hex seen high nibbles => simp [step,hexDigit_foreign foreign] at stepped
  | pair seen high => simp [step,slash] at stepped
  | pairMark seen high => simp [step,letter] at stepped

theorem lex_ascii {text : List Char} (visible : Visible text) {mode : Mode} {tokens : List Token} (lexed : lex mode text = some tokens) :
    lex mode (text.flatMap asciiChar) = some tokens := by
  induction text generalizing mode tokens with
  | nil => exact lexed
  | cons c rest ih =>
    obtain ⟨shown,later⟩ := visible_cons.mp visible
    rw [lex_cons,Option.bind_eq_some_iff] at lexed
    obtain ⟨next,stepped,read⟩ := lexed
    obtain ⟨more,others,rfl⟩ := Option.map_eq_some_iff.mp read
    by_cases ascii : c.toNat ≤ 126
    · rw [List.flatMap_cons,asciiChar,if_pos ⟨shown,ascii⟩,List.singleton_append,lex_cons,stepped,Option.bind_some,ih later others]
      rfl
    · obtain ⟨seen,rfl,rfl⟩ := step_foreign (Nat.not_le.mp ascii) stepped
      rw [List.flatMap_cons,lex_asciiChar seen (Nat.not_le.mp ascii),ih later others]
      rfl

theorem compact_flat : compact.Flat := ⟨by simp [compact],by simp [compact],fun _ => rfl⟩

theorem loads_asciiDumps (json : Json) : loads (asciiDumps json) = some json := by
  have written := loads_dumps compact json
  simp only [loads,dumps,String.toList_ofList,Option.bind_eq_some_iff] at written
  obtain ⟨tokens,lexed,parsed⟩ := written
  rw [loads,asciiDumps,String.toList_ofList,lex_ascii (print_visible compact_flat 0 json) lexed]
  exact parsed

theorem asciiDumps_injective : Function.Injective asciiDumps := by
  intro left right same
  have read := loads_asciiDumps left
  rw [same,loads_asciiDumps] at read
  exact (Option.some.inj read).symm

end VeritasOs.JsonAscii
