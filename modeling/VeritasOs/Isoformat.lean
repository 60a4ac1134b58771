import VeritasOs.DateTime
import Mathlib.Data.List.Basic

namespace VeritasOs.DateTime

def digit (n : Nat) : Char := Char.ofNat (48 + n % 10)

def two (n : Nat) : List Char := [n / 10,n].map digit
def four (n : Nat) : List Char := [n / 1000,n / 100,n / 10,n].map digit
def six (n : Nat) : List Char := [n / 100000,n / 10000,n / 1000,n / 100,n / 10,n].map digit

theorem digits_small : ∀ d : Fin 10, (Char.ofNat (48 + d.val)).isDigit = true ∧ (Char.ofNat (48 + d.val)).toNat - '0'.toNat = d.val := by
  decide

theorem digit_isDigit (n : Nat) : (digit n).isDigit = true := (digits_small ⟨n % 10,Nat.mod_lt _ (by decide)⟩).1

theorem digit_value (n : Nat) : (digit n).toNat - '0'.toNat = n % 10 := (digits_small ⟨n % 10,Nat.mod_lt _ (by decide)⟩).2

variable {mark : Char} {n micros : Nat} {chars : List Char} {month year : Nat}

theorem digit_ne (n : Nat) (other : mark.isDigit = false) : digit n ≠ mark := by
  intro same
  rw [← same,digit_isDigit] at other
  cases other

theorem number_digits (n : Nat) (rest : List Nat) :
    number ((n :: rest).map digit) = some ((n :: rest).foldl (fun value d => 10 * value + d % 10) 0) := by
  have all : ((n :: rest).map digit).all Char.isDigit = true := by simp [digit_isDigit]
  unfold number
  rw [if_pos ⟨List.cons_ne_nil _ _,all⟩,List.foldl_map]
  simp only [digit_value]

theorem number_two (small : n < 100) : number (two n) = some n := by
  rw [two,number_digits]
  simp only [List.foldl_cons,List.foldl_nil,Option.some.injEq]
  omega

theorem number_four (small : n < 10000) : number (four n) = some n := by
  rw [four,number_digits]
  simp only [List.foldl_cons,List.foldl_nil,Option.some.injEq]
  omega

theorem number_six (small : n < 1000000) : number (six n) = some n := by
  rw [six,number_digits]
  simp only [List.foldl_cons,List.foldl_nil,Option.some.injEq]
  omega

-- HH:MM:SS and the microseconds where there are some.
def clockText (micros : Nat) : List Char :=
  two (micros / 3600000000) ++ ':' :: two (micros / 60000000 % 60) ++ ':' :: two (micros / 1000000 % 60) ++
    if micros % 1000000 = 0 then [] else '.' :: six (micros % 1000000)

-- An offset leaves seconds out that are zero.
def offsetText (micros : Nat) : List Char :=
  if micros % 60000000 = 0 then two (micros / 3600000000) ++ ':' :: two (micros / 60000000 % 60) else clockText micros

theorem parseFraction_six (small : n < 1000000) : parseFraction ('.' :: six n) = some n := by
  have all : (six n).all Char.isDigit = true := by simp [six,digit_isDigit]
  have whole : (six n).take 6 = six n := rfl
  have length : (six n).length = 6 := rfl
  have read : number (List.take 6 (six n)) = some n := by rw [whole,number_six small]
  show (if (six n).all Char.isDigit = true then (number (List.take 6 (six n))).map fun n => n * 10 ^ (6 - min 6 (six n).length) else none) = _
  rw [if_pos all,read]
  simp [length]

theorem parse_fields (h m s : Nat) (rest : List Char) : parseHhMmSsFf (two h ++ ':' :: two m ++ ':' :: two s ++ rest) = (do
      let hour ← number (two h)
      let minute ← number (two m)
      let second ← number (two s)
      let fraction ← parseFraction rest
      some ((((hour * 60 + minute) * 60 + second) * 1000000 + fraction : Int),decide (hour < 24 ∧ minute < 60 ∧ second < 60))) := by
  unfold parseHhMmSsFf
  have length : (two h ++ ':' :: two m ++ ':' :: two s ++ rest).length = rest.length + 8 := by simp [two]
  have hour_part : slice 0 2 (two h ++ ':' :: two m ++ ':' :: two s ++ rest) = two h := rfl
  have minute_part : slice (2 + 1) (4 + 1) (two h ++ ':' :: two m ++ ':' :: two s ++ rest) = two m := rfl
  have second_part : slice (4 + 2 * 1) (4 + 2 * 1 + 2) (two h ++ ':' :: two m ++ ':' :: two s ++ rest) = two s := rfl
  have fraction_part : (two h ++ ':' :: two m ++ ':' :: two s ++ rest).drop (4 + 2 * 1 + 2) = rest := rfl
  have first_mark : charAt 2 (two h ++ ':' :: two m ++ ':' :: two s ++ rest) = some ':' := rfl
  have second_mark : charAt 5 (two h ++ ':' :: two m ++ ':' :: two s ++ rest) = some ':' := rfl
  generalize two h ++ ':' :: two m ++ ':' :: two s ++ rest = text at *
  have long : ¬text.length < 2 ∧ text.length ≠ 2 ∧ ¬text.length < 4 + 1 ∧ text.length ≠ 4 + 1 ∧ ¬text.length < 4 + 2 * 1 + 2 := by omega
  simp [long,hour_part,minute_part,second_part,fraction_part,first_mark,second_mark]

theorem parse_clock (day : micros < 86400000000) : parseHhMmSsFf (clockText micros) = some ((micros : Int),true) := by
  have hour : number (two (micros / 3600000000)) = some (micros / 3600000000) := number_two (by omega)
  have minute : number (two (micros / 60000000 % 60)) = some (micros / 60000000 % 60) := number_two (by omega)
  have second : number (two (micros / 1000000 % 60)) = some (micros / 1000000 % 60) := number_two (by omega)
  have fraction : parseFraction (if micros % 1000000 = 0 then [] else '.' :: six (micros % 1000000)) = some (micros % 1000000) := by
    split
    · rename_i none
      rw [none]
      rfl
    · exact parseFraction_six (by omega)
  unfold clockText
  rw [parse_fields,hour,minute,second,fraction]
  show some (_,_) = _
  congr 2
  · omega
  · rw [decide_eq_true_eq]
    omega

theorem parse_offset (day : micros < 86400000000) : parseHhMmSsFf (offsetText micros) = some ((micros : Int),true) := by
  unfold offsetText
  split
  · have hour : number (two (micros / 3600000000)) = some (micros / 3600000000) := number_two (by omega)
    have minute : number (two (micros / 60000000 % 60)) = some (micros / 60000000 % 60) := number_two (by omega)
    have fields (h m : Nat) : parseHhMmSsFf (two h ++ ':' :: two m) = (do
        let hour ← number (two h)
        let minute ← number (two m)
        some (((hour * 60 + minute) * 60000000 : Int),decide (hour < 24 ∧ minute < 60))) := by
      unfold parseHhMmSsFf
      simp [slice,charAt,two]
    rw [fields,hour,minute]
    show some (_,_) = _
    congr 2
    · omega
    · rw [decide_eq_true_eq]
      omega
  · exact parse_clock day

-- What stands in a time besides the sign of its offset.
def plainMark (c : Char) : Bool := c.isDigit || c == ':' || c == '.'

theorem two_plain (n : Nat) : ∀ c ∈ two n, plainMark c = true := by
  simp [two,plainMark,digit_isDigit]

theorem clock_plain (micros : Nat) : ∀ c ∈ clockText micros, plainMark c = true := by
  intro c listed
  unfold clockText at listed
  simp only [List.mem_append,List.mem_cons] at listed
  rcases listed with ((hour | rfl | minute) | rfl | second) | fraction
  · exact two_plain _ c hour
  · rfl
  · exact two_plain _ c minute
  · rfl
  · exact two_plain _ c second
  · split at fraction
    · cases fraction
    · rcases List.mem_cons.mp fraction with rfl | digits
      · rfl
      · simp only [six,List.mem_map] at digits
        obtain ⟨n,_,rfl⟩ := digits
        simp [plainMark,digit_isDigit]

theorem offset_plain (micros : Nat) : ∀ c ∈ offsetText micros, plainMark c = true := by
  unfold offsetText
  split
  · intro c listed
    simp only [List.mem_append,List.mem_cons] at listed
    rcases listed with hour | rfl | minute
    · exact two_plain _ c hour
    · rfl
    · exact two_plain _ c minute
  · exact clock_plain micros

theorem firstIndex_none (plain : ∀ c ∈ chars, plainMark c = true) (other : plainMark mark = false) : firstIndex mark chars = none := by
  unfold firstIndex
  rw [List.findIdx?_eq_none_iff]
  intro c listed
  rw [beq_eq_false_iff_ne]
  rintro rfl
  rw [plain _ listed] at other
  cases other

theorem firstIndex_at (plain : ∀ c ∈ before, plainMark c = true) (other : plainMark mark = false) :
    firstIndex mark (before ++ mark :: rest) = some before.length := by
  have none : before.findIdx? (· == mark) = .none := firstIndex_none plain other
  unfold firstIndex
  rw [List.findIdx?_append,none,List.findIdx?_cons]
  simp

def signOf (negative : Bool) : Char := if negative then '-' else '+'

theorem sign_place (micros offset : Nat) (negative : Bool) : ((firstIndex '-' (clockText micros ++ signOf negative :: offsetText offset)).or
      (firstIndex '+' (clockText micros ++ signOf negative :: offsetText offset))).or
      (firstIndex 'Z' (clockText micros ++ signOf negative :: offsetText offset)) = some (clockText micros).length := by
  cases negative with
  | true =>
    have minus : firstIndex '-' (clockText micros ++ '-' :: offsetText offset) = some (clockText micros).length :=
      firstIndex_at (clock_plain micros) rfl
    show (Option.or (firstIndex '-' (clockText micros ++ '-' :: offsetText offset)) _).or _ = _
    rw [minus]
    rfl
  | false =>
    have plain : firstIndex '-' (clockText micros ++ '+' :: offsetText offset) = none := by
      unfold firstIndex
      rw [List.findIdx?_append,List.findIdx?_cons]
      have front : (clockText micros).findIdx? (· == '-') = none := firstIndex_none (clock_plain micros) rfl
      have back : (offsetText offset).findIdx? (· == '-') = none := firstIndex_none (offset_plain offset) rfl
      rw [front,back]
      rfl
    have plus : firstIndex '+' (clockText micros ++ '+' :: offsetText offset) = some (clockText micros).length :=
      firstIndex_at (clock_plain micros) rfl
    show (Option.or (firstIndex '-' (clockText micros ++ '+' :: offsetText offset)) (firstIndex '+' (clockText micros ++ '+' :: offsetText offset))).or _ = _
    rw [plain,plus]
    rfl

theorem parts_at (before rest : List Char) (mark : Char) :
    (before ++ mark :: rest).take before.length = before ∧ charAt before.length (before ++ mark :: rest) = some mark ∧
      (before ++ mark :: rest).drop (before.length + 1) = rest := by
  refine ⟨List.take_left,?_,?_⟩
  · unfold charAt
    rw [List.getElem?_append_right (le_refl _),Nat.sub_self]
    rfl
  · rw [List.drop_append]
    simp

theorem parse_zoned (day : micros < 86400000000) (range : offset < 86400000000) (negative : Bool) :
    parseTime (clockText micros ++ signOf negative :: offsetText offset) =
      some ((micros : Int),some (if negative then -(offset : Int) else offset)) := by
  obtain ⟨front,sign,back⟩ := parts_at (clockText micros) (offsetText offset) (signOf negative)
  have within : (offset : Int) < 86400000000 := by omega
  have zulu : (some (signOf negative) == some 'Z') = false := by cases negative <;> rfl
  have minus : (some (signOf negative) == some '-') = negative := by cases negative <;> rfl
  unfold parseTime
  simp only [sign_place,front,sign,back,zulu,minus]
  refine Option.bind_eq_some_iff.mpr ⟨_,parse_clock day,?_⟩
  rw [if_neg (show ¬(!true) = true by decide),if_neg (by decide)]
  refine Option.bind_eq_some_iff.mpr ⟨_,parse_offset range,?_⟩
  exact if_pos within

structure Calendar (year month day : Nat) : Prop where
  year_range : 1 ≤ year ∧ year ≤ 9999
  month_range : 1 ≤ month ∧ month ≤ 12
  day_range : 1 ≤ day ∧ day ≤ daysInMonth year month

theorem daysBeforeYear_parts (centuries : b ≤ 3) (olympiads : c ≤ 24) (years : d ≤ 3) :
    daysBeforeYear (a * 400 + b * 100 + c * 4 + d + 1) = 146097 * a + 36524 * b + 1461 * c + 365 * d := by
  unfold daysBeforeYear
  omega

theorem daysBeforeMonth_succ (year : Nat) (positive : 1 ≤ month) :
    daysBeforeMonth year (month + 1) = daysBeforeMonth year month + daysInMonth year month := by
  obtain ⟨before,rfl⟩ : ∃ before, month = before + 1 := ⟨month - 1,by omega⟩
  simp [daysBeforeMonth,List.range_succ]

theorem monthOf_exact (year fuel : Nat) (positive : 1 ≤ month)
    (within : daysBeforeMonth year month + rest < daysBeforeMonth year (month + fuel)) :
    month ≤ (monthOf year fuel month rest).1 ∧ (monthOf year fuel month rest).1 < month + fuel ∧
      1 ≤ (monthOf year fuel month rest).2 ∧ (monthOf year fuel month rest).2 ≤ daysInMonth year (monthOf year fuel month rest).1 ∧
      daysBeforeMonth year (monthOf year fuel month rest).1 + (monthOf year fuel month rest).2 = daysBeforeMonth year month + rest + 1 := by
  induction fuel generalizing month rest with
  | zero =>
    rw [Nat.add_zero] at within
    omega
  | succ fuel ih =>
    unfold monthOf
    split
    · rename_i here
      exact ⟨le_refl _,by omega,by omega,here,by dsimp only; omega⟩
    · rename_i later
      have next := daysBeforeMonth_succ year positive
      have after : daysBeforeMonth year (month + 1) + (rest - daysInMonth year month) < daysBeforeMonth year (month + 1 + fuel) := by
        rw [show month + 1 + fuel = month + (fuel + 1) by omega]
        omega
      obtain ⟨low,high,first,last,sum⟩ := ih (by omega) after
      exact ⟨by omega,by omega,first,last,by omega⟩

theorem year_days (year : Nat) : daysBeforeMonth year 13 = (if isLeap year then 366 else 365) ∧
    daysBeforeMonth year 12 = (if isLeap year then 335 else 334) := by
  unfold daysBeforeMonth daysInMonth
  cases isLeap year <;> decide

theorem december (year : Nat) : daysInMonth year 12 = 31 := rfl

theorem leap_end (range : 1 ≤ year ∧ year ≤ 9999) (leap : isLeap year = true)
    (closes : ordinal = daysBeforeYear year + 366) : Calendar year 12 31 ∧ ymd2ord year 12 31 = ordinal := by
  refine ⟨⟨range,by omega,by rw [december]; omega⟩,?_⟩
  unfold ymd2ord
  rw [(year_days year).2,leap,if_pos rfl,closes]

theorem ord2ymd_exact (positive : 1 ≤ ordinal) (last : ordinal ≤ 3652059) :
    Calendar (ord2ymd ordinal).1 (ord2ymd ordinal).2.1 (ord2ymd ordinal).2.2 ∧
      ymd2ord (ord2ymd ordinal).1 (ord2ymd ordinal).2.1 (ord2ymd ordinal).2.2 = ordinal := by
  obtain ⟨n,rfl⟩ : ∃ n, ordinal = n + 1 := ⟨ordinal - 1,by omega⟩
  obtain ⟨a,quads⟩ : ∃ a, n / 146097 = a := ⟨_,rfl⟩
  obtain ⟨b,centuries⟩ : ∃ b, n % 146097 / 36524 = b := ⟨_,rfl⟩
  obtain ⟨c,olympiads⟩ : ∃ c, n % 146097 % 36524 / 1461 = c := ⟨_,rfl⟩
  obtain ⟨d,years⟩ : ∃ d, n % 146097 % 36524 % 1461 / 365 = d := ⟨_,rfl⟩
  unfold ord2ymd
  simp only [Nat.add_sub_cancel,quads,centuries,olympiads,years]
  split
  · rename_i closing
    dsimp only
    rcases Bool.or_eq_true_iff.mp closing with four | four
    · -- the fourth year of a cycle of four
      obtain rfl : d = 4 := eq_of_beq four
      have before := daysBeforeYear_parts (a := a) (show b ≤ 3 by omega) (show c ≤ 24 by omega) (le_refl 3)
      refine leap_end ⟨by omega,by omega⟩ ?_ (by rw [show a * 400 + b * 100 + c * 4 + 4 = a * 400 + b * 100 + c * 4 + 3 + 1 by rfl]; omega)
      unfold isLeap
      simp only [Bool.and_eq_true,Bool.or_eq_true,beq_iff_eq,bne_iff_ne]
      omega
    · -- the last year of a cycle of four hundred
      obtain rfl : b = 4 := eq_of_beq four
      have zero : c = 0 ∧ d = 0 := by omega
      obtain ⟨rfl,rfl⟩ := zero
      have before := daysBeforeYear_parts (a := a) (le_refl 3) (le_refl 24) (le_refl 3)
      refine leap_end ⟨by omega,by omega⟩ ?_ (by rw [show a * 400 + 4 * 100 + 0 * 4 + 0 = a * 400 + 3 * 100 + 24 * 4 + 3 + 1 by omega]; omega)
      unfold isLeap
      simp only [Bool.and_eq_true,Bool.or_eq_true,beq_iff_eq,bne_iff_ne]
      omega
  · rename_i inside
    have open_ : d ≠ 4 ∧ b ≠ 4 := by
      simp only [Bool.or_eq_true,beq_iff_eq,not_or] at inside
      exact inside
    have before := daysBeforeYear_parts (a := a) (show b ≤ 3 by omega) (show c ≤ 24 by omega) (show d ≤ 3 by omega)
    rw [before]
    have start : daysBeforeMonth (a * 400 + b * 100 + c * 4 + d + 1) 1 = 0 := rfl
    have ends : 365 ≤ daysBeforeMonth (a * 400 + b * 100 + c * 4 + d + 1) (1 + 12) := by
      rw [(year_days _).1]
      split <;> omega
    have within : daysBeforeMonth (a * 400 + b * 100 + c * 4 + d + 1) 1 + (n - (146097 * a + 36524 * b + 1461 * c + 365 * d)) <
        daysBeforeMonth (a * 400 + b * 100 + c * 4 + d + 1) (1 + 12) := by omega
    obtain ⟨low,high,first,last,sum⟩ := monthOf_exact _ 12 (le_refl 1) within
    dsimp only
    refine ⟨⟨⟨by omega,by omega⟩,⟨low,Nat.lt_succ_iff.mp high⟩,first,last⟩,?_⟩
    unfold ymd2ord
    rw [before]
    omega

def dateText (year month day : Nat) : List Char := four year ++ '-' :: two month ++ '-' :: two day

def zoneText : Option Int → List Char
  | none => []
  | some offset => signOf (decide (offset < 0)) :: offsetText offset.natAbs

-- A datetime is its wall-clock time and its offset from UTC, both in microseconds.
def isoformat (moment : Int × Option Int) : String :=
  let (year,month,day) := ord2ymd ((moment.1 / dayMicros).toNat + 1)
  String.ofList (dateText year month day ++ 'T' :: (clockText (moment.1 % dayMicros).toNat ++ zoneText moment.2))

-- What a datetime of Python can be.
structure Representable (moment : Int × Option Int) : Prop where
  calendar : 0 ≤ moment.1 ∧ moment.1 < maxInstant
  zone : ∀ offset, moment.2 = some offset → offset.natAbs < 86400000000

theorem number_dateText (date : Calendar year month day) :
    number (four year) = some year ∧ number (two month) = some month ∧ number (two day) = some day := by
  obtain ⟨⟨_,year_high⟩,⟨_,month_high⟩,⟨_,day_high⟩⟩ := date
  have longest : daysInMonth year month ≤ 31 := by
    unfold daysInMonth
    split
    · split <;> omega
    · split <;> omega
  exact ⟨number_four (by omega),number_two (by omega),number_two (by omega)⟩

theorem parse_dateText (date : Calendar year month day) : parseDate (dateText year month day) = some (year,month,day) := by
  obtain ⟨y,m,d⟩ := number_dateText date
  have week : charAt 5 (dateText year month day) ≠ some 'W' := by
    simpa [charAt,dateText,four,two] using digit_ne (month / 10) (show 'W'.isDigit = false from rfl)
  have year_part : slice 0 4 (dateText year month day) = four year := rfl
  have month_part : slice 5 7 (dateText year month day) = two month := rfl
  have day_part : slice 8 10 (dateText year month day) = two day := rfl
  have first_dash : charAt 4 (dateText year month day) = some '-' := rfl
  have second_dash : charAt 7 (dateText year month day) = some '-' := rfl
  have length : (dateText year month day).length = 10 := rfl
  unfold parseDate
  simp [year_part,month_part,day_part,first_dash,second_dash,length,week,y,m,d]

theorem separator_iso (year month day : Nat) (rest : List Char) : findSeparator (dateText year month day ++ 'T' :: rest) = some 10 := by
  have week : charAt 5 (dateText year month day ++ 'T' :: rest) ≠ some 'W' := by
    simpa [charAt,dateText,four,two] using digit_ne (month / 10) (show 'W'.isDigit = false from rfl)
  have dash : charAt 4 (dateText year month day ++ 'T' :: rest) = some '-' := rfl
  have length : (dateText year month day ++ 'T' :: rest).length = rest.length + 11 := by simp [dateText,four,two]
  unfold findSeparator
  simp [week,dash,length]

theorem fromisoformat_isoformat (range : Representable (wall,some offset)) :
    fromisoformat (isoformat (wall,some offset)).toList = some (wall,some offset) := by
  obtain ⟨⟨low,high⟩,zone⟩ := range
  have last : maxInstant = 3652059 * 86400000000 := by decide
  have division : 0 ≤ wall / dayMicros ∧ wall / dayMicros < 3652059 ∧ 0 ≤ wall % dayMicros ∧ wall % dayMicros < 86400000000 ∧
      wall / dayMicros * dayMicros + wall % dayMicros = wall := by
    unfold dayMicros
    dsimp only at low high
    omega
  have days : 1 ≤ (wall / dayMicros).toNat + 1 ∧ (wall / dayMicros).toNat + 1 ≤ 3652059 := by omega
  obtain ⟨date,ordinal⟩ := ord2ymd_exact days.1 days.2
  have micros : (wall % dayMicros).toNat < 86400000000 := by omega
  have time := parse_zoned micros (zone offset rfl) (decide (offset < 0))
  have text : (isoformat (wall,some offset)).toList =
      dateText (ord2ymd ((wall / dayMicros).toNat + 1)).1 (ord2ymd ((wall / dayMicros).toNat + 1)).2.1 (ord2ymd ((wall / dayMicros).toNat + 1)).2.2 ++
        'T' :: (clockText (wall % dayMicros).toNat ++ signOf (decide (offset < 0)) :: offsetText offset.natAbs) := by
    unfold isoformat
    simp [zoneText]
  rw [text]
  generalize ord2ymd ((wall / dayMicros).toNat + 1) = shown at date ordinal
  obtain ⟨year,month,d⟩ := shown
  dsimp only at date ordinal ⊢
  generalize clockText (wall % dayMicros).toNat ++ signOf (decide (offset < 0)) :: offsetText offset.natAbs = rest at time
  have length : (dateText year month d ++ 'T' :: rest).length = rest.length + 11 := by simp [dateText,four,two]
  have front : (dateText year month d ++ 'T' :: rest).take 10 = dateText year month d := rfl
  have back : (dateText year month d ++ 'T' :: rest).drop (10 + 1) = rest := rfl
  have present : rest.isEmpty = false := by
    cases rest with
    | nil => cases time
    | cons => rfl
  unfold fromisoformat
  rw [if_neg (by omega)]
  refine Option.bind_eq_some_iff.mpr ⟨10,separator_iso year month d rest,?_⟩
  rw [front,back,present]
  refine Option.bind_eq_some_iff.mpr ⟨_,parse_dateText date,?_⟩
  refine Option.bind_eq_some_iff.mpr ⟨_,time,?_⟩
  dsimp only
  rw [if_pos ⟨date.year_range.1,date.year_range.2,date.month_range.1,date.month_range.2,date.day_range.1,date.day_range.2⟩,ordinal]
  refine congrArg some (Prod.ext ?_ ?_)
  · rw [show ((((wall / dayMicros).toNat + 1 : Nat) : Int) - 1) = wall / dayMicros by omega,Int.toNat_of_nonneg division.2.2.1]
    exact division.2.2.2.2
  · by_cases negative : offset < 0
    · simp only [negative,decide_true,if_true]
      exact congrArg some (by omega)
    · simp only [negative,decide_false,Bool.false_eq_true,if_false]
      exact congrArg some (by omega)

theorem hhMmSs_nonneg (parsed : parseHhMmSsFf chars = some (time,valid)) : 0 ≤ time := by
  unfold parseHhMmSsFf at parsed
  obtain ⟨hour,_,parsed⟩ := Option.bind_eq_some_iff.mp parsed
  split at parsed
  · cases parsed
  · split at parsed
    · cases parsed
      omega
    · generalize (if charAt 2 chars == some ':' then 1 else 0) = gap at parsed
      obtain ⟨minute,_,parsed⟩ := Option.bind_eq_some_iff.mp parsed
      split at parsed
      · cases parsed
        omega
      · split at parsed
        · cases parsed
        · obtain ⟨second,_,parsed⟩ := Option.bind_eq_some_iff.mp parsed
          obtain ⟨fraction,_,parsed⟩ := Option.bind_eq_some_iff.mp parsed
          cases parsed
          omega

theorem parseTime_nonneg (parsed : parseTime chars = some (time,zone)) : 0 ≤ time := by
  unfold parseTime at parsed
  generalize ((firstIndex '-' chars).or (firstIndex '+' chars)).or (firstIndex 'Z' chars) = place at parsed
  dsimp only at parsed
  split at parsed
  · obtain ⟨⟨clock,valid⟩,read,parsed⟩ := Option.bind_eq_some_iff.mp parsed
    have positive := hhMmSs_nonneg read
    dsimp only at parsed
    split at parsed <;> cases parsed
    exact positive
  · obtain ⟨⟨clock,valid⟩,read,parsed⟩ := Option.bind_eq_some_iff.mp parsed
    have positive := hhMmSs_nonneg read
    dsimp only at parsed
    split at parsed
    · cases parsed
    · split at parsed
      · split at parsed <;> cases parsed
        exact positive
      · obtain ⟨⟨offset,_⟩,_,parsed⟩ := Option.bind_eq_some_iff.mp parsed
        dsimp only at parsed
        split at parsed <;> cases parsed
        exact positive

theorem fromisoformat_nonneg (parsed : fromisoformat chars = some (wall,zone)) : 0 ≤ wall := by
  unfold fromisoformat at parsed
  split at parsed
  · cases parsed
  · obtain ⟨place,_,parsed⟩ := Option.bind_eq_some_iff.mp parsed
    obtain ⟨⟨year,month,day⟩,_,parsed⟩ := Option.bind_eq_some_iff.mp parsed
    obtain ⟨⟨time,zone'⟩,read,parsed⟩ := Option.bind_eq_some_iff.mp parsed
    have positive : 0 ≤ time := by
      split at read
      · cases read
        exact le_refl _
      · exact parseTime_nonneg read
    dsimp only at parsed
    split at parsed
    · rename_i range
      have first : 1 ≤ ymd2ord year month day := le_trans range.2.2.2.2.1 (Nat.le_add_left ..)
      cases parsed
      have days : 0 ≤ ((ymd2ord year month day : Int) - 1) * dayMicros := Int.mul_nonneg (by omega) (by decide)
      omega
    · cases parsed

end VeritasOs.DateTime
