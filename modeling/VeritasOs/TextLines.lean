import VeritasOs.JsonRoundTrip
import VeritasOs.Text

namespace VeritasOs.TextLines
open JsonText Text

-- The pieces between newlines; a final newline ends the last piece.
def splitLines : List Char → List (List Char)
  | [] => []
  | c :: rest =>
    if c = '\n' then [] :: splitLines rest
    else
      match splitLines rest with
      | [] => [[c]]
      | first :: more => (c :: first) :: more

-- Where str.splitlines breaks besides the newline.
def isLineBreak (c : Char) : Bool :=
  c == '\r' || c == '\x0b' || c == '\x0c' || c == '\x1c' || c == '\x1d' || c == '\x1e' || c.toNat == 0x85 ||
    c.toNat == 0x2028 || c.toNat == 0x2029

def strLines (text : List Char) : List (List Char) :=
  splitLines ((newlines text).map fun c => if isLineBreak c then '\n' else c)

def byteLines (text : List Char) : List (List Char) := splitLines (newlines text)

theorem newlines_plain (plain : ∀ c ∈ text, isLineBreak c = false) : newlines text = text := by
  induction text using newlines.induct with
  | case1 rest ih => exact absurd (plain '\r' List.mem_cons_self) (by decide)
  | case2 rest _ ih => exact absurd (plain '\r' List.mem_cons_self) (by decide)
  | case3 c rest notPair notReturn ih =>
    have later := ih fun d listed => plain d (List.mem_cons_of_mem _ listed)
    rw [newlines,later]
    · exact notPair
    · exact notReturn
  | case4 => rfl

theorem byteLines_plain (plain : ∀ c ∈ text, isLineBreak c = false) : byteLines text = splitLines text := by
  rw [byteLines,newlines_plain plain]

theorem strLines_plain (plain : ∀ c ∈ text, isLineBreak c = false) : strLines text = splitLines text := by
  have kept : text.map (fun c => if isLineBreak c then '\n' else c) = text.map id :=
    List.map_congr_left fun c listed => by simp [plain c listed]
  rw [strLines,newlines_plain plain,kept,List.map_id]

theorem splitLines_line (unbroken : '\n' ∉ line) (rest : List Char) : splitLines (line ++ '\n' :: rest) = line :: splitLines rest := by
  induction line with
  | nil => simp [splitLines]
  | cons c line ih =>
    simp only [List.mem_cons,not_or] at unbroken
    simp [splitLines,Ne.symm unbroken.1,ih unbroken.2]

theorem splitLines_last (unbroken : '\n' ∉ line) : splitLines line = if line = [] then [] else [line] := by
  induction line with
  | nil => rfl
  | cons c line ih =>
    simp only [List.mem_cons,not_or] at unbroken
    by_cases last : line = []
    · simp [splitLines,Ne.symm unbroken.1,last]
    · simp [splitLines,Ne.symm unbroken.1,ih unbroken.2,last]

def file (whole : List (List Char)) (torn : List Char) : List Char := whole.flatMap (· ++ ['\n']) ++ torn

def tail (torn : List Char) : List (List Char) := if torn = [] then [] else [torn]

@[simp] theorem file_nil (torn : List Char) : file [] torn = torn := rfl

@[simp] theorem file_cons (line : List Char) (whole : List (List Char)) (torn : List Char) :
    file (line :: whole) torn = line ++ '\n' :: file whole torn := by
  simp [file]

theorem file_append (first second : List (List Char)) (torn : List Char) : file (first ++ second) torn = file first [] ++ file second torn := by
  simp [file]

theorem splitLines_file (unbroken : ∀ line ∈ whole, '\n' ∉ line) (end_ : '\n' ∉ torn) :
    splitLines (file whole torn) = whole ++ tail torn := by
  induction whole with
  | nil => exact splitLines_last end_
  | cons line whole ih =>
    rw [List.forall_mem_cons] at unbroken
    rw [file_cons,splitLines_line unbroken.1,ih unbroken.2]
    rfl

-- Where a window into the file begins: in a line, or in what follows the lines.
inductive Window (whole : List (List Char)) (torn : List Char) (start : Nat) : List Char → Prop
  | line (before after : List (List Char)) (skipped cut : List Char) (split : whole = before ++ (skipped ++ cut) :: after)
      (at_ : start = (file before []).length + skipped.length) : Window whole torn start (cut ++ '\n' :: file after torn)
  | torn (skipped cut : List Char) (split : torn = skipped ++ cut) (at_ : cut ≠ [] → start = (file whole []).length + skipped.length) :
      Window whole torn start cut

theorem window (whole : List (List Char)) (torn : List Char) (start : Nat) : Window whole torn start ((file whole torn).drop start) := by
  induction whole generalizing start with
  | nil =>
    refine .torn (torn.take start) _ (List.take_append_drop start torn).symm fun some_ => ?_
    have inside : start < torn.length := by
      by_contra beyond
      exact some_ (List.drop_eq_nil_of_le (by simpa using beyond))
    simp [file]
    omega
  | cons line whole ih =>
    rw [file_cons]
    by_cases here : start ≤ line.length
    · have cut : (line ++ '\n' :: file whole torn).drop start = line.drop start ++ '\n' :: file whole torn := by
        rw [List.drop_append_of_le_length here]
      rw [cut]
      refine .line [] whole (line.take start) _ (by simp) ?_
      simp [file]
      omega
    · obtain ⟨more,rfl⟩ : ∃ more, start = line.length + (more + 1) := ⟨start - (line.length + 1),by omega⟩
      have beyond : (line ++ '\n' :: file whole torn).drop (line.length + (more + 1)) = (file whole torn).drop more := by
        rw [← List.drop_drop,List.drop_left,List.drop_succ_cons]
      have later := ih more
      rw [beyond]
      generalize (file whole torn).drop more = text at later
      cases later with
      | line before after skipped cut split at_ =>
        refine .line (line :: before) after skipped cut (by simp [split]) ?_
        simp only [file_cons,List.length_append,List.length_cons]
        omega
      | torn skipped cut split at_ =>
        refine .torn skipped _ split fun some_ => ?_
        have position := at_ some_
        simp only [file_cons,List.length_append,List.length_cons]
        omega

@[irreducible] def chunkSize : Nat := 65536

theorem chunkSize_pos : 0 < chunkSize := by simp [chunkSize]

section Backward
variable (hash : List Char → Option String) (good : String → Bool)

-- The newest good hash, else the newest of any kind.
def newest (found : List (List Char)) : Option String :=
  let hashes := found.reverse.filterMap hash
  (hashes.find? good).or hashes.head?

-- The window grows towards the beginning of the file until a line in it can be read.
def scanBack (content : List Char) (start : Nat) : Option String :=
  let chunk := content.drop start
  if strLines chunk = [] then none
  else if '\n' ∉ chunk ∧ start ≠ 0 then scanBack content (start - chunkSize)
  else
    match newest hash good (strLines chunk) with
    | some sha => some sha
    | none => if start = 0 then none else scanBack content (start - chunkSize)
termination_by start
decreasing_by all_goals have := chunkSize_pos; omega

-- Every whole line is read with a good hash; no rest of a line is, nor any part of the torn end.
structure Legible (whole : List (List Char)) (torn : List Char) : Prop where
  unbroken : ∀ line ∈ whole, '\n' ∉ line
  torn_unbroken : '\n' ∉ torn
  plain : ∀ c ∈ file whole torn, isLineBreak c = false
  known : ∀ line ∈ whole, ∃ sha, hash line = some sha ∧ good sha = true
  cut_unknown : ∀ line ∈ whole, ∀ skipped cut, line = skipped ++ cut → skipped ≠ [] → hash cut = none
  torn_unknown : ∀ skipped cut, torn = skipped ++ cut → hash cut = none

variable {hash good} {whole : List (List Char)} {torn : List Char}

theorem newest_known (known : ∀ line ∈ lines, ∃ sha, hash line = some sha ∧ good sha = true)
    (rest : List (List Char)) (unknown : ∀ line ∈ rest, hash line = none) (first : List (List Char)) (some_ : lines ≠ []) :
    newest hash good (first ++ lines ++ rest) = lines.getLast?.bind hash := by
  obtain ⟨before,line,rfl⟩ := (List.eq_nil_or_concat lines).resolve_left some_
  obtain ⟨sha,found,fine⟩ := known line (by simp)
  have none_ : rest.reverse.filterMap hash = [] := by
    rw [List.filterMap_eq_nil_iff]
    intro other listed
    exact unknown other (List.mem_reverse.mp listed)
  simp [newest,none_,found,fine]

theorem newest_unknown (unknown : ∀ line ∈ lines, hash line = none) : newest hash good lines = none := by
  have none_ : lines.reverse.filterMap hash = [] := by
    rw [List.filterMap_eq_nil_iff]
    intro other listed
    exact unknown other (List.mem_reverse.mp listed)
  simp [newest,none_]

theorem tail_unknown (legible : Legible hash good whole torn) : ∀ line ∈ tail torn, hash line = none := by
  intro line listed
  unfold tail at listed
  split at listed
  · cases listed
  · obtain rfl := List.mem_singleton.mp listed
    exact legible.torn_unknown [] _ rfl

theorem drop_plain (legible : Legible hash good whole torn) (start : Nat) : ∀ c ∈ (file whole torn).drop start, isLineBreak c = false :=
  fun c listed => legible.plain c (List.mem_of_mem_drop listed)

-- Wherever the scan starts, it finds the hash of the last whole line, however long
-- that line and whatever was cut off from it at first.
theorem scanBack_last (legible : Legible hash good whole torn) (start : Nat) (inside : start < (file whole torn).length) :
    scanBack hash good (file whole torn) start = whole.getLast?.bind hash := by
  induction start using Nat.strongRecOn with
  | ind start ih =>
    have again : start ≠ 0 → scanBack hash good (file whole torn) (start - chunkSize) = whole.getLast?.bind hash :=
      fun some_ => ih _ (by have := chunkSize_pos; omega) (by omega)
    have chunk : (file whole torn).drop start ≠ [] := by
      intro none_
      rw [List.drop_eq_nil_iff] at none_
      omega
    have view := window whole torn start
    rw [scanBack]
    simp only [strLines_plain (drop_plain legible start)]
    generalize (file whole torn).drop start = text at view chunk
    cases view with
    | torn skipped cut split at_ =>
      have unbroken : '\n' ∉ text := fun listed => legible.torn_unbroken (by rw [split]; exact List.mem_append_right _ listed)
      have one : splitLines text = [text] := by rw [splitLines_last unbroken,if_neg chunk]
      rw [one,if_neg (by simp)]
      by_cases begin_ : start = 0
      · have position := at_ chunk
        have unread : newest hash good [text] = none :=
          newest_unknown (List.forall_mem_singleton.mpr (legible.torn_unknown skipped text split))
        have none_ : whole = [] := by
          cases whole with
          | nil => rfl
          | cons line more =>
            simp only [file_cons,List.length_append,List.length_cons] at position
            omega
        simp [begin_,unread,none_]
      · rw [if_pos ⟨unbroken,begin_⟩]
        exact again begin_
    | line before after skipped cut split at_ =>
      have member : skipped ++ cut ∈ whole := by simp [split]
      have cutUnbroken : '\n' ∉ cut := fun listed => legible.unbroken _ member (List.mem_append_right _ listed)
      have others : ∀ line ∈ after, line ∈ whole := fun line listed => by simp [split,listed]
      have lines : splitLines (cut ++ '\n' :: file after torn) = cut :: (after ++ tail torn) := by
        rw [splitLines_line cutUnbroken,splitLines_file (fun line listed => legible.unbroken line (others line listed)) legible.torn_unbroken]
      rw [lines,if_neg (by simp),if_neg (by simp)]
      by_cases more : after = []
      · by_cases whole_ : skipped = []
        · -- The window begins with the last line.
          have known : ∀ line ∈ [cut], ∃ sha, hash line = some sha ∧ good sha = true := by
            intro line listed
            obtain rfl := List.mem_singleton.mp listed
            exact legible.known _ (by simpa [whole_] using member)
          have read := newest_known known (tail torn) (tail_unknown legible) [] (by simp)
          obtain ⟨sha,found,_⟩ := known cut (by simp)
          have last : whole.getLast?.bind hash = some sha := by simp [split,more,whole_,found]
          simp only [List.nil_append,List.singleton_append,List.getLast?_singleton,Option.bind_some,found] at read
          simp only [more,List.nil_append,read,last]
        · -- It begins inside the last line, and nothing in it can be read.
          have unread : newest hash good (cut :: tail torn) = none :=
            newest_unknown (List.forall_mem_cons.mpr ⟨legible.cut_unknown _ member skipped cut rfl whole_,tail_unknown legible⟩)
          have begun : start ≠ 0 := by
            have positive := List.length_pos_iff.mpr whole_
            omega
          simp only [more,List.nil_append,unread,if_neg begun]
          exact again begun
      · have known : ∀ line ∈ after, ∃ sha, hash line = some sha ∧ good sha = true :=
          fun line listed => legible.known line (others line listed)
        have read := newest_known known (tail torn) (tail_unknown legible) [cut] more
        have last : whole.getLast? = after.getLast? := by
          rw [split,show before ++ (skipped ++ cut) :: after = (before ++ [skipped ++ cut]) ++ after by simp]
          exact List.getLast?_append_of_ne_nil _ more
        have shape : cut :: (after ++ tail torn) = [cut] ++ after ++ tail torn := by simp
        obtain ⟨left,line,rfl⟩ := (List.eq_nil_or_concat after).resolve_left more
        obtain ⟨sha,found,_⟩ := known line (by simp)
        rw [shape,read,last]
        simp [found]

end Backward

-- Chunks are put in front of the buffer until a line break precedes the last line.
def lastBuffer (content : List Char) (pos : Nat) : List Char :=
  let start := pos - chunkSize
  let buffer := content.drop start
  if start = 0 ∨ 2 ≤ buffer.count '\n' ∨ (1 ≤ buffer.count '\n' ∧ buffer.getLast? ≠ some '\n') then buffer
  else lastBuffer content start
termination_by pos
decreasing_by have := chunkSize_pos; omega

def readLastNonemptyLine (content : List Char) : Option (List Char) :=
  (byteLines (lastBuffer content content.length)).reverse.find? fun line => !line.all isSpace

section LastLine
variable {whole : List (List Char)} {torn : List Char}

theorem lastBuffer_drop (content : List Char) (pos : Nat) (some_ : 0 < pos) :
    ∃ start, start < pos ∧ lastBuffer content pos = content.drop start ∧ (start = 0 ∨ 2 ≤ (content.drop start).count '\n' ∨
        (1 ≤ (content.drop start).count '\n' ∧ (content.drop start).getLast? ≠ some '\n')) := by
  induction pos using Nat.strongRecOn with
  | ind pos ih =>
    have below : pos - chunkSize < pos := by have := chunkSize_pos; omega
    rw [lastBuffer]
    split
    · rename_i enough
      exact ⟨pos - chunkSize,below,rfl,enough⟩
    · rename_i short
      obtain ⟨start,before,same,enough⟩ := ih _ below (by omega)
      exact ⟨start,by omega,same,enough⟩

theorem readLast_file (unbroken : ∀ line ∈ whole, '\n' ∉ line) (end_ : '\n' ∉ torn) (plain : ∀ c ∈ file whole torn, isLineBreak c = false)
    (visible : ∀ line ∈ whole ++ tail torn, line.all isSpace = false) (some_ : file whole torn ≠ []) :
    readLastNonemptyLine (file whole torn) = (whole ++ tail torn).getLast? := by
  obtain ⟨start,inside,same,enough⟩ := lastBuffer_drop (file whole torn) (file whole torn).length (List.length_pos_iff.mpr some_)
  have view := window whole torn start
  have chunk : (file whole torn).drop start ≠ [] := by
    intro none_
    rw [List.drop_eq_nil_iff] at none_
    omega
  have chunkPlain : ∀ c ∈ (file whole torn).drop start, isLineBreak c = false := fun c listed => plain c (List.mem_of_mem_drop listed)
  rw [readLastNonemptyLine,same,byteLines_plain chunkPlain]
  -- Whatever precedes it, a last line that is not blank is the one found.
  have found : ∀ (first : List (List Char)) (last : List Char), last.all isSpace = false →
      (first ++ [last]).reverse.find? (fun line => !line.all isSpace) = some last := by
    intro first last seen
    simp [seen]
  generalize (file whole torn).drop start = text at view chunk enough
  cases view with
  | torn skipped cut split at_ =>
    have cutUnbroken : '\n' ∉ text := fun listed => end_ (by rw [split]; exact List.mem_append_right _ listed)
    have begun : start = 0 := by
      rw [List.count_eq_zero.mpr cutUnbroken] at enough
      omega
    have position := at_ chunk
    have tornSome : torn ≠ [] := by
      rw [split]
      exact List.append_ne_nil_of_right_ne_nil _ chunk
    have wholeCut : text = torn := by
      obtain rfl : skipped = [] := List.length_eq_zero_iff.mp (by omega)
      rw [split]
      rfl
    have lastTail : (whole ++ tail torn).getLast? = some torn := by rw [tail,if_neg tornSome]; simp
    rw [splitLines_last cutUnbroken,if_neg chunk,lastTail,wholeCut]
    exact found [] torn (visible torn (by simp [tail,tornSome]))
  | line before after skipped cut split at_ =>
    have member : skipped ++ cut ∈ whole := by simp [split]
    have others : ∀ line ∈ after, '\n' ∉ line := fun line listed => unbroken line (by simp [split,listed])
    have cutUnbroken : '\n' ∉ cut := fun listed => unbroken _ member (List.mem_append_right _ listed)
    rw [splitLines_line cutUnbroken,splitLines_file others end_]
    rcases List.eq_nil_or_concat (after ++ tail torn) with none_ | ⟨first,last,more⟩
    · -- The window holds one newline, the last character, so it is the whole file.
      obtain ⟨rfl,noTail⟩ := List.append_eq_nil_iff.mp none_
      have tornNone : torn = [] := by
        by_contra some_
        simp [tail,some_] at noTail
      subst tornNone
      have begun : start = 0 := by
        rw [List.count_append,List.count_eq_zero.mpr cutUnbroken] at enough
        simpa using enough
      obtain rfl : skipped = [] := List.length_eq_zero_iff.mp (by omega)
      have lastLine : (whole ++ tail []).getLast? = some cut := by simp [split,tail]
      rw [none_,lastLine]
      exact found [] cut (visible cut (by simp [split]))
    · rw [List.concat_eq_append] at more
      have lastLine : (whole ++ tail torn).getLast? = some last := by
        rw [split,List.append_assoc,List.cons_append,more,
          show before ++ (skipped ++ cut) :: (first ++ [last]) = (before ++ (skipped ++ cut) :: first) ++ [last] by simp,List.getLast?_concat]
      rw [more,lastLine,show cut :: (first ++ [last]) = (cut :: first) ++ [last] by simp]
      refine found (cut :: first) last (visible last ?_)
      have listed : last ∈ after ++ tail torn := by simp [more]
      rcases List.mem_append.mp listed with inAfter | inTail
      · simp [split,inAfter]
      · simp [inTail]

end LastLine

end VeritasOs.TextLines
