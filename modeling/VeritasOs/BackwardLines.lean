import VeritasOs.JsonLines
import VeritasOs.JsonSuffix

namespace VeritasOs.BackwardLines
open JsonText Text TextLines

def byteLength (text : List Char) : Nat := (text.map Char.utf8Size).sum

def replacement : Char := '\ufffd'

def byteDrop : Nat → List Char → List Char
  | 0,text => text
  | _,[] => []
  | count + 1,c :: rest =>
    if c.utf8Size ≤ count + 1 then byteDrop (count + 1 - c.utf8Size) rest
    else List.replicate (c.utf8Size - (count + 1)) replacement ++ rest

-- What bytes.strip takes off.
def isByteSpace (c : Char) : Bool := c == ' ' || c == '\t' || c == '\n' || c == '\r' || c == '\x0b' || c == '\x0c'

theorem byteDrop_spec (start : Nat) (text : List Char) :
    ∃ replaced dropped, byteDrop start text = List.replicate replaced replacement ++ text.drop dropped ∧ (start = 0 → replaced = 0 ∧ dropped = 0) := by
  induction text generalizing start with
  | nil => cases start <;> exact ⟨0,0,rfl,fun _ => ⟨rfl,rfl⟩⟩
  | cons c rest ih =>
    cases start with
    | zero => exact ⟨0,0,rfl,fun _ => ⟨rfl,rfl⟩⟩
    | succ count =>
      rw [byteDrop]
      split
      · obtain ⟨replaced,dropped,same,_⟩ := ih (count + 1 - c.utf8Size)
        exact ⟨replaced,dropped + 1,by rw [same,List.drop_succ_cons],fun none_ => absurd none_ (Nat.succ_ne_zero _)⟩
      · exact ⟨_,1,rfl,fun none_ => absurd none_ (Nat.succ_ne_zero _)⟩

section Reading
variable {α : Type} (read : List Char → Option α)

-- The last line that can be read. Chunks are put in front of the buffer until there is one in it.
def readBack (content : List Char) (start : Nat) : Option α :=
  match (byteLines (byteDrop start content)).reverse.findSome? read with
  | some found => some found
  | none => if start = 0 then none else readBack content (start - chunkSize)
termination_by start
decreasing_by have := chunkSize_pos; omega

def readLast (content : List Char) : Option α := readBack read content (byteLength content - chunkSize)

def readAll (content : List Char) : List α := (byteLines content).filterMap read

-- Every line is read, and no rest of a line is.
structure Readable (whole : List (List Char)) : Prop where
  visible : ∀ line ∈ whole, Visible line
  known : ∀ line ∈ whole, (read line).isSome = true
  cut : ∀ line ∈ whole, ∀ skipped rest, line = skipped ++ rest → skipped ≠ [] → read rest = none
  replaced : ∀ rest, read (replacement :: rest) = none
  empty : read [] = none

variable {read} {whole : List (List Char)}

theorem readAll_file (readable : Readable read whole) (end_ : Visible torn) :
    readAll read (file whole torn) = whole.filterMap read ++ (read torn).toList := by
  rw [readAll,byteLines_file readable.visible end_,List.filterMap_append]
  by_cases none_ : torn = []
  · simp [tail,none_,readable.empty]
  · rw [tail,if_neg none_]
    cases found : read torn <;> simp [found]

theorem buffer_lines (readable : Readable read whole) (start : Nat) : byteLines (byteDrop start (file whole [])) = [] ∨
      (∃ rest, byteLines (byteDrop start (file whole [])) = [replacement :: rest] ∧ start ≠ 0) ∨
      ∃ before after skipped cut replaced, whole = before ++ (skipped ++ cut) :: after ∧
        byteLines (byteDrop start (file whole [])) = (List.replicate replaced replacement ++ cut) :: after ∧
        (start = 0 → replaced = 0 ∧ before = [] ∧ skipped = []) := by
  obtain ⟨replaced,dropped,same,begins⟩ := byteDrop_spec start (file whole [])
  have view := window whole [] dropped
  rw [same]
  have marks : Visible (List.replicate replaced replacement) := by
    intro c listed
    rw [List.eq_of_mem_replicate listed]
    decide
  generalize (file whole []).drop dropped = text at view
  cases view with
  | torn skipped cut split at_ =>
    obtain ⟨_,rfl⟩ := List.append_eq_nil_iff.mp split.symm
    rw [List.append_nil]
    cases replaced with
    | zero => exact .inl rfl
    | succ more =>
      refine .inr (.inl ⟨List.replicate more replacement,?_,fun none_ => absurd (begins none_).1 (Nat.succ_ne_zero more)⟩)
      have alone : byteLines (file [] (List.replicate (more + 1) replacement)) = [] ++ tail _ := byteLines_file (by simp) marks
      rwa [file_nil,tail,if_neg (by simp),List.nil_append] at alone
  | line before after skipped cut split at_ =>
    refine .inr (.inr ⟨before,after,skipped,cut,replaced,split,?_,fun none_ => ?_⟩)
    · have member : Visible (skipped ++ cut) := readable.visible _ (by simp [split])
      have lines : ∀ line ∈ (List.replicate replaced replacement ++ cut) :: after, Visible line :=
        List.forall_mem_cons.mpr ⟨visible_append.mpr ⟨marks,(visible_append.mp member).2⟩,fun line listed => readable.visible line (by simp [split,listed])⟩
      have read_ := byteLines_file lines visible_nil
      rw [file_cons,List.append_assoc] at read_
      rw [read_,tail,if_pos rfl,List.append_nil]
    · obtain ⟨rfl,rfl⟩ := begins none_
      have nothing : (file before []).length = 0 ∧ skipped.length = 0 := by omega
      refine ⟨rfl,?_,List.length_eq_zero_iff.mp nothing.2⟩
      cases before with
      | nil => rfl
      | cons line more => simp at nothing

-- The last line of a file is found however long it is, and wherever the chunks cut it.
theorem readBack_last (readable : Readable read whole) (start : Nat) : readBack read (file whole []) start = whole.getLast?.bind read := by
  induction start using Nat.strongRecOn with
  | ind start ih =>
    have again : start ≠ 0 → readBack read (file whole []) (start - chunkSize) = whole.getLast?.bind read :=
      fun more => ih _ (by have := chunkSize_pos; omega)
    rw [readBack]
    rcases buffer_lines readable start with none_ | ⟨rest,one,more⟩ | ⟨before,after,skipped,cut,replaced,split,lines,begins⟩
    · rw [none_]
      dsimp only [List.reverse_nil,List.findSome?_nil]
      by_cases begin_ : start = 0
      · have nothing : whole = [] := by
          rw [begin_] at none_
          have all := byteLines_file readable.visible visible_nil
          rw [tail,if_pos rfl,List.append_nil] at all
          rw [← all]
          cases file_ : file whole [] with
          | nil => rfl
          | cons c rest => rwa [file_,byteDrop] at none_
        rw [if_pos begin_,nothing]
        rfl
      · rw [if_neg begin_,again begin_]
    · rw [one,List.reverse_singleton,List.findSome?_singleton,readable.replaced]
      dsimp only
      rw [if_neg more,again more]
    · rw [lines]
      rcases List.eq_nil_or_concat after with rfl | ⟨others,last,rfl⟩
      · rw [List.reverse_singleton,List.findSome?_singleton]
        have last : whole.getLast? = some (skipped ++ cut) := by simp [split]
        by_cases uncut : replaced = 0 ∧ skipped = []
        · obtain ⟨rfl,rfl⟩ := uncut
          obtain ⟨found,known⟩ := Option.isSome_iff_exists.mp (readable.known cut (by simp [split]))
          rw [last,List.replicate_zero,List.nil_append,known]
          exact known.symm
        · have unread : read (List.replicate replaced replacement ++ cut) = none := by
            cases replaced with
            | zero => exact readable.cut _ (by simp [split]) skipped cut rfl fun none_ => uncut ⟨rfl,none_⟩
            | succ more => exact readable.replaced _
          have more : start ≠ 0 := fun begin_ => uncut ⟨(begins begin_).1,(begins begin_).2.2⟩
          rw [unread]
          dsimp only
          rw [if_neg more,again more]
      · rw [List.concat_eq_append] at split ⊢
        obtain ⟨found,known⟩ := Option.isSome_iff_exists.mp (readable.known last (by simp [split]))
        have last_ : whole.getLast? = some last := by
          rw [split,← List.cons_append,← List.append_assoc,List.getLast?_concat]
        rw [last_,Option.bind_some,known,← List.cons_append,List.reverse_append,List.reverse_singleton,List.singleton_append,List.findSome?_cons,known]

theorem readLast_file (readable : Readable read whole) : readLast read (file whole []) = whole.getLast?.bind read := readBack_last readable _

end Reading

def readLine (drop : Char → Bool) (line : List Char) : Option Json :=
  let text := stripBy drop line
  if text = [] then none else loads (String.ofList text)

section Objects
variable {drop : Char → Bool} (open_ : drop '{' = false) (close : drop '}' = false) (mark : drop replacement = false)
include open_ close

theorem stripBy_object (layout : Layout) (depth : Nat) (members : List (String × Json)) :
    stripBy drop (print layout depth (.obj members)) = print layout depth (.obj members) := by
  obtain ⟨body,_,text⟩ := print_object layout depth members
  rw [text,stripBy,List.cons_append,List.dropWhile_cons_of_neg (by simp [open_]),← List.cons_append,List.rdropWhile_concat_neg _ _ _ (by simp [close])]

theorem readLine_object (layout : Layout) (members : List (String × Json)) :
    readLine drop (print layout 0 (.obj members)) = some (.obj members) := by
  unfold readLine
  rw [stripBy_object open_ close]
  obtain ⟨body,_,text⟩ := print_object layout 0 members
  rw [if_neg (by simp [text])]
  exact loads_dumps layout (.obj members)

omit open_ in
theorem readLine_tail (same : print layout depth (.obj members) = left ++ right) (some_ : left ≠ []) : readLine drop right = none := by
  rcases List.eq_nil_or_concat right with rfl | ⟨init,last,rfl⟩
  · rfl
  · obtain ⟨body,_,text⟩ := print_object layout depth members
    rw [List.concat_eq_append] at same ⊢
    have ends := congrArg List.getLast? (text.symm.trans same)
    rw [← List.append_assoc,List.getLast?_concat,List.getLast?_concat] at ends
    obtain rfl := Option.some.inj ends
    -- What is left of the rest ends the object too.
    have front : (init ++ ['}']).dropWhile drop = init.dropWhile drop ++ ['}'] := by
      rw [List.dropWhile_append,List.dropWhile_cons_of_neg (by simp [close])]
      split
      · rename_i none_
        rw [List.isEmpty_iff.mp none_,List.nil_append]
      · rfl
    have stripped : stripBy drop (init ++ ['}']) = init.dropWhile drop ++ ['}'] := by
      rw [stripBy,front,List.rdropWhile_concat_neg _ _ _ (by simp [close])]
    unfold readLine
    rw [stripped]
    dsimp only
    rw [if_neg (by simp)]
    have later : print layout depth (.obj members) = (left ++ init.takeWhile drop) ++ (init.dropWhile drop ++ ['}']) := by
      rw [same,List.append_assoc,← List.append_assoc (init.takeWhile drop),List.takeWhile_append_dropWhile]
    exact object_tail_unread later (by simp [some_])

-- What a crash leaves of an object is no JSON.
omit close in
theorem readLine_torn (same : print layout depth (.obj members) = left ++ right) (more : right ≠ []) : readLine drop left = none := by
  obtain ⟨body,_,text⟩ := print_object layout depth members
  cases left with
  | nil => rfl
  | cons c cut =>
    have begins := text.symm.trans same
    obtain ⟨rfl,_⟩ := List.cons.inj begins
    obtain ⟨after,whole⟩ := List.rdropWhile_prefix drop (l := '{' :: cut)
    have stripped : stripBy drop ('{' :: cut) = List.rdropWhile drop ('{' :: cut) := by
      rw [stripBy,List.dropWhile_cons_of_neg (by simp [open_])]
    unfold readLine
    rw [stripped]
    dsimp only
    split
    · rfl
    · rename_i some_
      rw [← whole,List.append_assoc] at same
      obtain ⟨quote,deep,begun,up⟩ := object_begun same some_ (by simp [more])
      cases loaded : loads (String.ofList (List.rdropWhile drop ('{' :: cut))) with
      | none => rfl
      | some json =>
        have closed := loads_balanced loaded
        rw [String.toList_ofList,begun] at closed
        have level := congrArg Prod.snd (Option.some.inj closed)
        simp only at level
        omega

omit open_ close in
include mark in
theorem readLine_replaced (rest : List Char) : readLine drop (replacement :: rest) = none := by
  have begins : ∃ kept, stripBy drop (replacement :: rest) = replacement :: kept := by
    rw [stripBy,List.dropWhile_cons_of_neg (by simp [mark])]
    obtain ⟨cut,whole⟩ := List.rdropWhile_prefix drop (l := replacement :: rest)
    cases kept : List.rdropWhile drop (replacement :: rest) with
    | nil =>
      have all := List.rdropWhile_eq_nil_iff.mp kept replacement List.mem_cons_self
      rw [mark] at all
      cases all
    | cons c more =>
      rw [kept,List.cons_append] at whole
      exact ⟨more,by rw [(List.cons.inj whole).1]⟩
  obtain ⟨kept,stripped⟩ := begins
  unfold readLine
  rw [stripped]
  exact replaced_unread kept

theorem readable_objects (layout : Layout) (flat : layout.Flat) (mark : drop replacement = false) (docs : List (List (String × Json))) :
    Readable (readLine drop) (docs.map fun members => print layout 0 (.obj members)) where
  visible line listed := by
    obtain ⟨members,_,rfl⟩ := List.mem_map.mp listed
    exact print_visible flat 0 _
  known line listed := by
    obtain ⟨members,_,rfl⟩ := List.mem_map.mp listed
    rw [readLine_object open_ close]
    rfl
  cut line listed skipped rest same some_ := by
    obtain ⟨members,_,rfl⟩ := List.mem_map.mp listed
    exact readLine_tail close same some_
  replaced := readLine_replaced mark
  empty := rfl

end Objects

end VeritasOs.BackwardLines
