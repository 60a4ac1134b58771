import Mathlib.Data.List.DropRight

namespace VeritasOs.Text

-- The code points for which Python's str.isspace holds; str.strip removes them.
def isSpace (c : Char) : Bool :=
  let n := c.toNat
  (9 ≤ n && n ≤ 13) || (28 ≤ n && n ≤ 32) || n == 0x85 || n == 0xa0 || n == 0x1680 ||
    (0x2000 ≤ n && n ≤ 0x200a) || n == 0x2028 || n == 0x2029 || n == 0x202f || n == 0x205f || n == 0x3000

def stripBy (drop : Char → Bool) (chars : List Char) : List Char :=
  (chars.dropWhile drop).rdropWhile drop

def strip (s : String) : String := String.ofList (stripBy isSpace s.toList)

-- Case mapping is exact on ASCII and on the two code points outside ASCII whose
-- lower case holds an ASCII letter. Every other code point lowers to code points
-- outside ASCII; it is kept, since each table it is compared with is ASCII.
def lowerChar (c : Char) : List Char :=
  if c.toNat = 0x130 then ['i',Char.ofNat 0x307]
  else if c.toNat = 0x212a then ['k']
  else [c.toLower]

def lower (s : String) : String := String.ofList (s.toList.flatMap lowerChar)

def replaceChar (old new : Char) (s : String) : String :=
  String.ofList (s.toList.map fun c => if c = old then new else c)

def hasSub (needle s : String) : Bool :=
  s.toList.tails.any fun rest => needle.toList.isPrefixOf rest

def startsWith (head s : String) : Bool := head.toList.isPrefixOf s.toList

-- The first component of text.split(mark,1).
def before (mark : Char) (s : String) : String :=
  String.ofList (s.toList.takeWhile fun c => !(c == mark))

def truncate (limit : Nat) (s : String) : String := String.ofList (s.toList.take limit)

def isWordChar (c : Char) : Bool := c.isAlpha || c.isDigit

theorem rdropWhile_cons (drop : Char → Bool) (c : Char) (rest : List Char) : (c :: rest).rdropWhile drop =
      if rest.rdropWhile drop = [] then (if drop c then [] else [c]) else c :: rest.rdropWhile drop := by
  induction rest using List.reverseRecOn with
  | nil => by_cases h : drop c <;> simp [List.rdropWhile,h]
  | append_singleton init last ih =>
    rw [← List.cons_append,List.rdropWhile_concat,List.rdropWhile_concat]
    by_cases h : drop last
    · simp only [h,if_true]; exact ih
    · simp [h]

theorem stripBy_plain (plain : ∀ c ∈ chars, drop c = false) : stripBy drop chars = chars := by
  have front : chars.dropWhile drop = chars := by
    rw [List.dropWhile_eq_self_iff]
    intro some_
    simp [plain _ (List.getElem_mem some_)]
  rw [stripBy,front,List.rdropWhile_eq_self_iff]
  intro some_
  simp [plain _ (List.getLast_mem some_)]

theorem strip_word (plain : (text.toList.all fun c => !isSpace c) = true) : strip text = text := by
  rw [strip,stripBy_plain,String.ofList_toList]
  intro c listed
  simpa using List.all_eq_true.mp plain c listed

theorem stripBy_idempotent (drop : Char → Bool) (chars : List Char) : stripBy drop (stripBy drop chars) = stripBy drop chars := by
  have front : (stripBy drop chars).dropWhile drop = stripBy drop chars := by
    unfold stripBy
    cases kept : (chars.dropWhile drop).rdropWhile drop with
    | nil => rfl
    | cons first rest =>
      obtain ⟨tail,same⟩ := List.rdropWhile_prefix (p := drop) (l := chars.dropWhile drop)
      rw [kept] at same
      have head : ¬drop first = true := by
        have first_ := List.head?_dropWhile_not drop chars
        rw [← same] at first_
        simpa using first_
      simp [head]
  unfold stripBy at front ⊢
  rw [front,List.rdropWhile_idempotent]

theorem strip_strip (s : String) : strip (strip s) = strip s := by
  simp [strip,stripBy_idempotent]

-- One left-to-right pass of text.replace(mark+mark, mark).
def replaceDouble (mark : Char) : List Char → List Char
  | a :: b :: rest => if a = mark ∧ b = mark then mark :: replaceDouble mark rest
      else a :: replaceDouble mark (b :: rest)
  | chars => chars

def hasDouble (mark : Char) : List Char → Bool
  | a :: b :: rest => (a == mark && b == mark) || hasDouble mark (b :: rest)
  | _ => false

-- while mark+mark in text: text = text.replace(mark+mark, mark). Each pass that
-- finds a pair shortens the text, so its length is enough fuel.
def collapseLoop (mark : Char) : Nat → List Char → List Char
  | 0,chars => chars
  | fuel+1,chars => if hasDouble mark chars then collapseLoop mark fuel (replaceDouble mark chars) else chars

def collapse (mark : Char) (chars : List Char) : List Char := collapseLoop mark chars.length chars

-- What the loop computes: every run of the mark becomes one mark.
def squeeze (mark : Char) : List Char → List Char
  | a :: b :: rest => if a = mark ∧ b = mark then squeeze mark (b :: rest) else a :: squeeze mark (b :: rest)
  | chars => chars

@[simp] theorem squeeze_pair (mark : Char) (rest : List Char) :
    squeeze mark (mark :: mark :: rest) = squeeze mark (mark :: rest) := by simp [squeeze]

theorem squeeze_cons (mark c : Char) (rest : List Char) (other : c ≠ mark) : squeeze mark (c :: rest) = c :: squeeze mark rest := by
  cases rest <;> simp [squeeze,other]

theorem squeeze_mark_cons (mark c : Char) (rest : List Char) (other : c ≠ mark) :
    squeeze mark (mark :: c :: rest) = mark :: c :: squeeze mark rest := by
  rw [squeeze,if_neg (by simp [other]),squeeze_cons _ _ _ other]

theorem squeeze_replaceDouble (mark : Char) (chars : List Char) : squeeze mark (replaceDouble mark chars) = squeeze mark chars ∧
      squeeze mark (mark :: replaceDouble mark chars) = squeeze mark (mark :: chars) := by
  induction chars using replaceDouble.induct mark with
  | case1 a b rest pair ih =>
    obtain ⟨rfl,rfl⟩ := pair
    simp [replaceDouble,ih.2]
  | case2 a b rest apart ih =>
    rw [replaceDouble,if_neg apart]
    by_cases marked : a = mark
    · subst a
      simp [ih.2]
    · simp only [squeeze_cons _ _ _ marked,squeeze_mark_cons _ _ _ marked,ih.1,and_self]
  | case3 chars short =>
    rw [replaceDouble.eq_2 _ _ short]
    simp

theorem squeeze_of_single (mark : Char) (chars : List Char) (single : hasDouble mark chars = false) : squeeze mark chars = chars := by
  induction chars using hasDouble.induct with
  | case1 a b rest ih =>
    simp only [hasDouble,Bool.or_eq_false_iff] at single
    have apart : ¬(a = mark ∧ b = mark) := by simpa using single.1
    rw [squeeze,if_neg apart,ih single.2]
  | case2 chars short => rw [squeeze.eq_2 _ _ short]

theorem replaceDouble_length (mark : Char) (chars : List Char) : (replaceDouble mark chars).length ≤ chars.length ∧
      (hasDouble mark chars = true → (replaceDouble mark chars).length < chars.length) := by
  induction chars using replaceDouble.induct mark with
  | case1 a b rest pair ih =>
    have bound := ih.1
    simp only [replaceDouble,pair,and_self,if_true,List.length_cons]
    omega
  | case2 a b rest apart ih =>
    simp only [replaceDouble,if_neg apart,List.length_cons]
    refine ⟨by simpa using ih.1,?_⟩
    intro found
    have later : hasDouble mark (b :: rest) = true := by simpa [hasDouble,apart] using found
    simpa using ih.2 later
  | case3 chars short =>
    rw [replaceDouble.eq_2 _ _ short,hasDouble.eq_2 _ _ short]
    simp

theorem collapseLoop_squeeze (mark : Char) (fuel : Nat) (chars : List Char) (enough : chars.length ≤ fuel) :
    collapseLoop mark fuel chars = squeeze mark chars := by
  induction fuel generalizing chars with
  | zero =>
    obtain rfl : chars = [] := by simpa using enough
    rfl
  | succ fuel ih =>
    unfold collapseLoop
    split
    · rename_i found
      have shorter := (replaceDouble_length mark chars).2 found
      rw [ih _ (by omega),(squeeze_replaceDouble mark chars).1]
    · rename_i single
      exact (squeeze_of_single mark chars (by simpa using single)).symm

theorem collapse_squeeze (mark : Char) (chars : List Char) : collapse mark chars = squeeze mark chars :=
  collapseLoop_squeeze mark _ chars (Nat.le_refl _)

-- The words of a text joined by single marks, in one pass: `started` says that a
-- word was emitted, `apart` that a separator was read since the last word letter.
def spellFrom (word : Char → Bool) (mark : Char) : Bool → Bool → List Char → List Char
  | _,_,[] => []
  | started,apart,c :: rest =>
    if word c then (if started && apart then [mark,c] else [c]) ++ spellFrom word mark true false rest
    else spellFrom word mark started true rest

-- The maximal runs of word characters.
def wordsFrom (word : Char → Bool) : List Char → List Char → List (List Char)
  | [],[] => []
  | run,[] => [run.reverse]
  | run,c :: rest =>
    if word c then wordsFrom word (c :: run) rest
    else if run = [] then wordsFrom word [] rest else run.reverse :: wordsFrom word [] rest

def words (s : String) : List (List Char) := wordsFrom isWordChar [] s.toList

def joinWords (parts : List (List Char)) : String := String.ofList (List.intercalate ['_'] parts)

def markOther (word : Char → Bool) (mark c : Char) : Char := if word c || c == mark then c else mark

theorem spell_tail (word : Char → Bool) (mark : Char) (plain : word mark = false) (chars : List Char) :
    let kept := (chars.map (markOther word mark)).rdropWhile (· == mark)
    spellFrom word mark true false chars = squeeze mark kept ∧
      spellFrom word mark true true chars = if kept = [] then [] else squeeze mark (mark :: kept) := by
  induction chars with
  | nil => simp [spellFrom,List.rdropWhile,squeeze]
  | cons c rest ih =>
    simp only [List.map_cons,rdropWhile_cons] at ih ⊢
    generalize (rest.map (markOther word mark)).rdropWhile (· == mark) = kept at ih ⊢
    by_cases letter : word c = true
    · have other : c ≠ mark := by rintro rfl; simp [plain] at letter
      have same : markOther word mark c = c := by simp [markOther,letter]
      have shown : (if kept = [] then (if (c == mark) = true then [] else [c]) else c :: kept) = c :: kept := by
        by_cases empty : kept = [] <;> simp [empty,other]
      simp only [same,shown,spellFrom,letter,if_true,Bool.and_false,Bool.and_self,Bool.false_eq_true,
        if_false,List.cons_append,List.nil_append,ih.1,reduceCtorEq,squeeze_cons _ _ _ other,squeeze_mark_cons _ _ _ other,and_self]
    · have same : markOther word mark c = mark := by
        unfold markOther
        split
        · simp_all
        · rfl
      simp only [same,spellFrom,letter,Bool.false_eq_true,if_false,ih.2,beq_self_eq_true,if_true]
      by_cases empty : kept = []
      · simp [empty,squeeze]
      · simp [empty]

theorem spell_exact (word : Char → Bool) (mark : Char) (plain : word mark = false) (apart : Bool) (chars : List Char) :
    squeeze mark (stripBy (· == mark) (chars.map (markOther word mark))) = spellFrom word mark false apart chars := by
  induction chars generalizing apart with
  | nil => simp [stripBy,spellFrom,List.rdropWhile,squeeze]
  | cons c rest ih =>
    by_cases letter : word c = true
    · have other : c ≠ mark := by rintro rfl; simp [plain] at letter
      have same : markOther word mark c = c := by simp [markOther,letter]
      have tail := (spell_tail word mark plain rest).1
      simp only [stripBy,List.map_cons,same,List.dropWhile_cons,beq_iff_eq,other,if_false,rdropWhile_cons,
        spellFrom,letter,if_true,Bool.false_and,Bool.false_eq_true,List.singleton_append,tail]
      by_cases empty : (rest.map (markOther word mark)).rdropWhile (· == mark) = []
      · simp [empty,squeeze]
      · simp [empty,squeeze_cons _ _ _ other]
    · have same : markOther word mark c = mark := by
        unfold markOther
        split
        · simp_all
        · rfl
      have step := ih true
      simpa [stripBy,same,spellFrom,letter] using step

theorem intercalate_cons (mark : Char) (head : List Char) (tail : List (List Char)) : List.intercalate [mark] (head :: tail) =
      head ++ if tail = [] then [] else mark :: List.intercalate [mark] tail := by
  cases tail <;> simp [List.intercalate]

theorem spell_words (word : Char → Bool) (mark : Char) (chars : List Char) :
    (∀ run, run ≠ [] → List.intercalate [mark] (wordsFrom word run chars) = run.reverse ++ spellFrom word mark true false chars) ∧
      (spellFrom word mark true true chars = if wordsFrom word [] chars = [] then [] else
        mark :: List.intercalate [mark] (wordsFrom word [] chars)) ∧
      ∀ apart, spellFrom word mark false apart chars = List.intercalate [mark] (wordsFrom word [] chars) := by
  induction chars with
  | nil =>
    refine ⟨?_,by simp [spellFrom,wordsFrom],by simp [spellFrom,wordsFrom,List.intercalate]⟩
    intro run open_
    cases run with
    | nil => exact absurd rfl open_
    | cons c run => simp [wordsFrom,spellFrom,List.intercalate]
  | cons c rest ih =>
    obtain ⟨running,between,fresh⟩ := ih
    by_cases letter : word c = true
    · have first := running [c] (by simp)
      refine ⟨?_,?_,?_⟩
      · intro run open_
        rw [wordsFrom,if_pos letter,running (c :: run) (by simp)]
        simp [spellFrom,letter]
      · have some_ : wordsFrom word [c] rest ≠ [] := by
          intro none_
          rw [none_] at first
          simp [List.intercalate] at first
        simp [spellFrom,wordsFrom,letter,first,some_]
      · intro apart
        simp [spellFrom,wordsFrom,letter,first]
    · refine ⟨?_,?_,?_⟩
      · intro run open_
        rw [wordsFrom,if_neg letter,if_neg open_,intercalate_cons]
        simp [spellFrom,letter,between]
      · simp [spellFrom,wordsFrom,letter,between]
      · intro apart
        simp [spellFrom,wordsFrom,letter,fresh]

-- Replacing every character outside the alphabet by the mark, stripping the mark
-- and collapsing its runs leaves the words of the text joined by the mark.
theorem collapse_words (word : Char → Bool) (mark : Char) (plain : word mark = false) (chars : List Char) :
    collapse mark (stripBy (· == mark) (chars.map (markOther word mark))) = List.intercalate [mark] (wordsFrom word [] chars) := by
  rw [collapse_squeeze,spell_exact word mark plain false,(spell_words word mark chars).2.2]

end VeritasOs.Text
