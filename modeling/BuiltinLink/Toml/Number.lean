import BuiltinLink.Text.Hex
import BuiltinLink.Toml.Text
import BuiltinLink.Toml.Value

/-!
Numbers, dates and times of a TOML document. Integers must fit 64 bits with sign; a decimal too
large for a binary number is refused unless it is negative.
-/

namespace BuiltinLink.Toml

/-- The value of a decimal digit. -/
def digit? (c : Char) : Option Nat :=
  if c.isDigit then some (c.toNat - 48) else none

/-- The value of a digit below `base`. -/
def digitBelow? (base : Nat) (c : Char) : Option Nat :=
  (Text.hexValue? c).filter (· < base)

/-- The digits that may follow a first one: each may have one underscore before it. -/
def moreDigits? (digit : Char → Option Nat) : List Char → Option (List Nat × List Char)
  | [] => some ([], [])
  | '_' :: r =>
    match r with
    | [] => none
    | c :: r' =>
      match digit c with
      | some d => (moreDigits? digit r').map fun p => (d :: p.1, p.2)
      | none => none
  | c :: r =>
    match digit c with
    | some d => (moreDigits? digit r).map fun p => (d :: p.1, p.2)
    | none => some ([], c :: r)

/-- A run of at least one digit, with single underscores allowed between two. -/
def digits? (digit : Char → Option Nat) : List Char → Option (List Nat × List Char)
  | [] => none
  | c :: r =>
    match digit c with
    | some d => (moreDigits? digit r).map fun p => (d :: p.1, p.2)
    | none => none

/-- The number that digits denote in a base. -/
def ofDigits (base : Nat) (ds : List Nat) : Nat :=
  ds.foldl (fun n d => n * base + d) 0

/-- A sign, if there is one: whether it is a minus, and whether it is there at all. -/
def sign : List Char → Option Bool × List Char
  | '-' :: r => (some true, r)
  | '+' :: r => (some false, r)
  | r => (none, r)

/-- The integral part of a decimal: `0` alone, or digits that do not begin with `0`. -/
def whole? : List Char → Option (List Nat × List Char)
  | '0' :: r => some ([0], r)
  | s => digits? digit? s

/-- The power of ten behind the letter `e`. -/
def power? (s : List Char) : Option (Int × List Char) :=
  let (minus, r) := sign s
  (digits? digit? r).map fun p =>
    let n : Int := ofDigits 10 p.1
    (if minus = some true then -n else n, p.2)

/-- A decimal number as a binary one, unless it is too large. -/
def float? (negative : Bool) (digits : Nat) (exponent : Int) : Option Value :=
  match Binary64.ofDecimal negative digits exponent with
  | .infinite false => none
  | x => some (.float x)

/-- An integer of 64 bits with sign. -/
def integer? (n : Int) : Option Value :=
  if -0x8000000000000000 ≤ n ∧ n < 0x8000000000000000 then some (.integer n) else none

/-- An integer in another base than ten, read after the letter that names the base. -/
def based? (base : Nat) (s : List Char) : Option (Value × List Char) := do
  let (ds, r) ← digits? (digitBelow? base) s
  return (← integer? (ofDigits base ds), r)

/-- A decimal integer, or a float if a fraction or a power of ten follows. -/
def decimal? (negative : Bool) (s : List Char) : Option (Value × List Char) := do
  let (ds, r) ← whole? s
  match r with
  | '.' :: r =>
    let (fs, r) ← digits? digit? r
    let m := ofDigits 10 (ds ++ fs)
    match r with
    | 'e' :: r | 'E' :: r =>
      let (e, r) ← power? r
      return (← float? negative m (e - fs.length), r)
    | r => return (← float? negative m (-fs.length), r)
  | 'e' :: r | 'E' :: r =>
    let (e, r) ← power? r
    return (← float? negative (ofDigits 10 ds) e, r)
  | r =>
    let n : Int := ofDigits 10 ds
    return (← integer? (if negative then -n else n), r)

def number? (s : List Char) : Option (Value × List Char) :=
  match s with
  | '0' :: 'x' :: r => based? 16 r
  | '0' :: 'o' :: r => based? 8 r
  | '0' :: 'b' :: r => based? 2 r
  | s =>
    let (minus, r) := sign s
    let negative := minus = some true
    match r with
    | 'i' :: 'n' :: 'f' :: r => some (.float (.infinite negative), r)
    | 'n' :: 'a' :: 'n' :: r => some (.float .nan, r)
    | r => decimal? negative r

/-- Two digits whose value lies between `low` and `high`. -/
def twoDigits? (low high : Nat) : List Char → Option (Nat × List Char)
  | a :: b :: r => do
    let n := (← digit? a) * 10 + (← digit? b)
    if low ≤ n ∧ n ≤ high then some (n, r) else none
  | _ => none

/-- What follows the character `c`. -/
def after? (c : Char) : List Char → Option (List Char)
  | d :: r => if d = c then some r else none
  | [] => none

/-- What follows a time of day; the minute may have a leap second. -/
def time? (s : List Char) : Option (List Char) := do
  let (_, r) ← twoDigits? 0 23 s
  let (_, r) ← twoDigits? 0 59 (← after? ':' r)
  let (_, r) ← twoDigits? 0 60 (← after? ':' r)
  match r with
  | '.' :: c :: r' => if c.isDigit then return r'.dropWhile Char.isDigit else return r
  | r => return r

/-- What follows the distance of a local time from universal time; nothing need be there. -/
def offset? (s : List Char) : Option (List Char) :=
  match s with
  | 'Z' :: r | 'z' :: r => some r
  | '+' :: r | '-' :: r => do
    let (_, r) ← twoDigits? 0 23 r
    let (_, r) ← twoDigits? 0 59 (← after? ':' r)
    return r
  | r => some r

/-- The number of days of a month. -/
def daysIn (year month : Nat) : Nat :=
  if month = 2 then
    if year % 4 = 0 ∧ (year % 100 ≠ 0 ∨ year % 400 = 0) then 29 else 28
  else if month = 4 ∨ month = 6 ∨ month = 9 ∨ month = 11 then 30
  else 31

/-- What follows a day of the calendar. -/
def date? (s : List Char) : Option (List Char) := do
  let (century, r) ← twoDigits? 0 99 s
  let (year, r) ← twoDigits? 0 99 r
  let (month, r) ← twoDigits? 1 12 (← after? '-' r)
  let (_, r) ← twoDigits? 1 (daysIn (century * 100 + year) month) (← after? '-' r)
  return r

/-- What follows a date, a time, or a date with a time. -/
def datetime? (s : List Char) : Option (List Char) :=
  match date? s with
  | some r =>
    match r with
    | c :: r' =>
      if c = 'T' ∨ c = 't' ∨ c = ' ' then
        match time? r' with
        | some r'' => offset? r''
        | none => some r
      else some r
    | [] => some r
  | none => time? s

/-- A date, a time or a number. -/
def scalarNumber? (s : List Char) : Option (Value × List Char) :=
  match datetime? s with
  | some r => some (.datetime, r)
  | none => number? s

/-! ### Every reader takes at least one character, and what may be absent takes none -/

theorem moreDigits?_length {digit : Char → Option Nat} {s r : List Char} {ds : List Nat}
    (h : moreDigits? digit s = some (ds, r)) : r.length ≤ s.length := by
  fun_induction moreDigits? digit s generalizing ds r with
  | case1 => simp_all
  | case2 => simp at h
  | case3 c r' d _ ih =>
    obtain ⟨p, hp, hq⟩ := Option.map_eq_some_iff.1 h
    have := @ih p.2 p.1 hp
    simp only [Prod.mk.injEq] at hq
    simp only [List.length_cons, ← hq.2]
    omega
  | case4 => simp at h
  | case5 c r' _ d _ ih =>
    obtain ⟨p, hp, hq⟩ := Option.map_eq_some_iff.1 h
    have := @ih p.2 p.1 hp
    simp only [Prod.mk.injEq] at hq
    simp only [List.length_cons, ← hq.2]
    omega
  | case6 => simp_all

theorem digits?_length {digit : Char → Option Nat} {s r : List Char} {ds : List Nat}
    (h : digits? digit s = some (ds, r)) : r.length < s.length := by
  revert h
  fun_cases digits? digit s with
  | case1 => simp
  | case2 c r' d _ =>
    intro h
    obtain ⟨p, hp, hq⟩ := Option.map_eq_some_iff.1 h
    simp only [Prod.mk.injEq] at hq
    exact hq.2 ▸ Nat.lt_succ_of_le (moreDigits?_length hp)
  | case3 => simp

theorem sign_length (s : List Char) : (sign s).2.length ≤ s.length := by
  fun_cases sign s <;> simp

theorem whole?_length {s r : List Char} {ds : List Nat} (h : whole? s = some (ds, r)) :
    r.length < s.length := by
  revert h
  fun_cases whole? s with
  | case1 r' => simp only [Option.some.injEq, Prod.mk.injEq]; rintro ⟨-, rfl⟩; simp
  | case2 => exact digits?_length

theorem power?_length {s r : List Char} {n : Int} (h : power? s = some (n, r)) :
    r.length < s.length := by
  obtain ⟨p, hp, hq⟩ := Option.map_eq_some_iff.1 h
  simp only [Prod.mk.injEq] at hq
  exact hq.2 ▸ Nat.lt_of_lt_of_le (digits?_length hp) (sign_length s)

theorem based?_length {base : Nat} {s r : List Char} {v : Value}
    (h : based? base s = some (v, r)) : r.length < s.length := by
  obtain ⟨p, hp, h⟩ := Option.bind_eq_some_iff.1 h
  obtain ⟨w, -, h⟩ := Option.bind_eq_some_iff.1 h
  cases h
  exact digits?_length hp

theorem decimal?_length {negative : Bool} {s r : List Char} {v : Value}
    (h : decimal? negative s = some (v, r)) : r.length < s.length := by
  obtain ⟨⟨ds, r₀⟩, hw, h⟩ := Option.bind_eq_some_iff.1 h
  have hw := whole?_length hw
  dsimp only at h
  split at h
  · obtain ⟨⟨fs, r₁⟩, hf, h⟩ := Option.bind_eq_some_iff.1 h
    have hf := digits?_length hf
    simp only [List.length_cons] at hw
    dsimp only at h
    split at h
    · obtain ⟨⟨e, r₂⟩, he, h⟩ := Option.bind_eq_some_iff.1 h
      obtain ⟨w, -, h⟩ := Option.bind_eq_some_iff.1 h
      cases h
      have he := power?_length he
      simp only [List.length_cons] at hf
      dsimp only
      omega
    · obtain ⟨⟨e, r₂⟩, he, h⟩ := Option.bind_eq_some_iff.1 h
      obtain ⟨w, -, h⟩ := Option.bind_eq_some_iff.1 h
      cases h
      have he := power?_length he
      simp only [List.length_cons] at hf
      dsimp only
      omega
    · obtain ⟨w, -, h⟩ := Option.bind_eq_some_iff.1 h
      cases h
      omega
  · obtain ⟨⟨e, r₂⟩, he, h⟩ := Option.bind_eq_some_iff.1 h
    obtain ⟨w, -, h⟩ := Option.bind_eq_some_iff.1 h
    cases h
    have he := power?_length he
    simp only [List.length_cons] at hw
    dsimp only
    omega
  · obtain ⟨⟨e, r₂⟩, he, h⟩ := Option.bind_eq_some_iff.1 h
    obtain ⟨w, -, h⟩ := Option.bind_eq_some_iff.1 h
    cases h
    have he := power?_length he
    simp only [List.length_cons] at hw
    dsimp only
    omega
  · obtain ⟨w, -, h⟩ := Option.bind_eq_some_iff.1 h
    cases h
    exact hw

theorem number?_length {s r : List Char} {v : Value} (h : number? s = some (v, r)) :
    r.length < s.length := by
  simp only [number?] at h
  split at h
  · have := based?_length h; simp only [List.length_cons]; omega
  · have := based?_length h; simp only [List.length_cons]; omega
  · have := based?_length h; simp only [List.length_cons]; omega
  · have hs := sign_length s
    split at h
    · rename_i r₀ heq
      simp only [Option.some.injEq, Prod.mk.injEq] at h
      rw [heq] at hs
      simp only [List.length_cons, h.2] at hs
      omega
    · rename_i r₀ heq
      simp only [Option.some.injEq, Prod.mk.injEq] at h
      rw [heq] at hs
      simp only [List.length_cons, h.2] at hs
      omega
    · exact Nat.lt_of_lt_of_le (decimal?_length h) hs

theorem twoDigits?_length {low high n : Nat} {s r : List Char}
    (h : twoDigits? low high s = some (n, r)) : r.length < s.length := by
  revert h
  fun_cases twoDigits? low high s with
  | case1 a b r' =>
    intro h
    obtain ⟨x, -, h⟩ := Option.bind_eq_some_iff.1 h
    obtain ⟨y, -, h⟩ := Option.bind_eq_some_iff.1 h
    dsimp only at h
    split at h
    · cases h; simp only [List.length_cons]; omega
    · simp at h
  | case2 => simp

theorem after?_length {c : Char} {s r : List Char} (h : after? c s = some r) :
    r.length < s.length := by
  revert h
  fun_cases after? c s with
  | case1 => rintro ⟨⟩; simp
  | case2 => simp
  | case3 => simp

theorem time?_length {s r : List Char} (h : time? s = some r) : r.length < s.length := by
  obtain ⟨⟨_, r₁⟩, h₁, h⟩ := Option.bind_eq_some_iff.1 h
  obtain ⟨r₂, h₂, h⟩ := Option.bind_eq_some_iff.1 h
  obtain ⟨⟨_, r₃⟩, h₃, h⟩ := Option.bind_eq_some_iff.1 h
  obtain ⟨r₄, h₄, h⟩ := Option.bind_eq_some_iff.1 h
  obtain ⟨⟨_, r₅⟩, h₅, h⟩ := Option.bind_eq_some_iff.1 h
  have h₁ := twoDigits?_length h₁
  have h₂ := after?_length h₂
  have h₃ := twoDigits?_length h₃
  have h₄ := after?_length h₄
  have h₅ := twoDigits?_length h₅
  dsimp only at h h₂ h₄
  split at h
  · simp only [List.length_cons] at h₅
    split at h
    · cases h
      refine Nat.lt_of_le_of_lt (dropWhile_length_le _ _) ?_
      omega
    · cases h
      simp only [List.length_cons]
      omega
  · cases h
    omega

theorem offset?_length {s r : List Char} (h : offset? s = some r) : r.length ≤ s.length := by
  have shorter {s r : List Char} (h : (do
      let (_, r) ← twoDigits? 0 23 s
      let (_, r) ← twoDigits? 0 59 (← after? ':' r)
      return r) = some r) : r.length < s.length := by
    obtain ⟨⟨_, r₁⟩, h₁, h⟩ := Option.bind_eq_some_iff.1 h
    obtain ⟨r₂, h₂, h⟩ := Option.bind_eq_some_iff.1 h
    obtain ⟨⟨_, r₃⟩, h₃, h⟩ := Option.bind_eq_some_iff.1 h
    cases h
    have h₁ := twoDigits?_length h₁
    have h₂ := after?_length h₂
    have h₃ := twoDigits?_length h₃
    omega
  revert h
  fun_cases offset? s with
  | case1 => rintro ⟨⟩; simp
  | case2 => rintro ⟨⟩; simp
  | case3 => intro h; have := shorter h; simp only [List.length_cons]; omega
  | case4 => intro h; have := shorter h; simp only [List.length_cons]; omega
  | case5 => rintro ⟨⟩; simp

theorem date?_length {s r : List Char} (h : date? s = some r) : r.length < s.length := by
  obtain ⟨⟨_, r₁⟩, h₁, h⟩ := Option.bind_eq_some_iff.1 h
  obtain ⟨⟨_, r₂⟩, h₂, h⟩ := Option.bind_eq_some_iff.1 h
  obtain ⟨r₃, h₃, h⟩ := Option.bind_eq_some_iff.1 h
  obtain ⟨⟨_, r₄⟩, h₄, h⟩ := Option.bind_eq_some_iff.1 h
  obtain ⟨r₅, h₅, h⟩ := Option.bind_eq_some_iff.1 h
  obtain ⟨⟨_, r₆⟩, h₆, h⟩ := Option.bind_eq_some_iff.1 h
  cases h
  have h₁ := twoDigits?_length h₁
  have h₂ := twoDigits?_length h₂
  have h₃ := after?_length h₃
  have h₄ := twoDigits?_length h₄
  have h₅ := after?_length h₅
  have h₆ := twoDigits?_length h₆
  omega

theorem scalarNumber?_length {s r : List Char} {v : Value}
    (h : scalarNumber? s = some (v, r)) : r.length < s.length := by
  simp only [scalarNumber?] at h
  split at h
  · rename_i r' hd
    simp only [Option.some.injEq, Prod.mk.injEq] at h
    rw [← h.2]
    simp only [datetime?] at hd
    split at hd
    · rename_i hdate
      have hdate := date?_length hdate
      split at hd
      · simp only [List.length_cons] at hdate
        split at hd
        · split at hd
          · rename_i ht
            have := time?_length ht
            have := offset?_length hd
            omega
          · cases hd; simp only [List.length_cons]; omega
        · cases hd; simp only [List.length_cons]; omega
      · cases hd; exact hdate
    · exact time?_length hd
  · exact number?_length h

end BuiltinLink.Toml
