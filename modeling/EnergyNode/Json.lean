import Mathlib.Algebra.Order.BigOperators.Group.List
import Mathlib.Data.List.Sort
import Mathlib.Data.Rat.Floor
import Mathlib.Tactic.FieldSimp
import Mathlib.Tactic.Linarith

/-! Wire values as the services read them: JSON documents, decimal texts and
ISO instants. Every reader is partial exactly where the Python one raises. -/
namespace EnergyNode

/-- `float` holds the rational its shortest decimal text denotes; `nonFinite`
stands for NaN and the infinities. -/
inductive Json where
  | null
  | bool (b : Bool)
  | int (n : Int)
  | float (q : ℚ)
  | nonFinite
  | str (s : String)
  | arr (items : List Json)
  | obj (fields : List (String × Json))

abbrev Fields := List (String × Json)

/-- `data.get(key)`: an absent member reads as null. -/
def Fields.get (fields : Fields) (name : String) : Json :=
  (fields.lookup name).getD .null

namespace Json

/-- `isinstance(value, str)`. -/
def text? : Json → Option String
  | .str s => some s
  | _ => none

/-- `type(value) is int`: booleans are not integers here. -/
def int? : Json → Option Int
  | .int n => some n
  | _ => none

def bool? : Json → Option Bool
  | .bool b => some b
  | _ => none

/-- `isinstance(value, dict)`. -/
def obj? : Json → Option Fields
  | .obj fields => some fields
  | _ => none

/-- Python truthiness. -/
def truthy : Json → Bool
  | .null => false
  | .bool b => b
  | .int n => n ≠ 0
  | .float q => q ≠ 0
  | .nonFinite => true
  | .str s => s ≠ ""
  | .arr items => !items.isEmpty
  | .obj fields => !fields.isEmpty

/-- Python's `left or right`. -/
def orElse (left right : Json) : Json := if left.truthy then left else right

/-- Numbers compare by value, booleans included. -/
def number? : Json → Option ℚ
  | .bool b => some (if b then 1 else 0)
  | .int n => some n
  | .float q => some q
  | _ => none

mutual
/-- Python's `==`: objects compare as dictionaries, whatever the member order. -/
def pyEq : Json → Json → Bool
  | .null, .null => true
  | .str s, .str t => s == t
  | .arr xs, .arr ys => pyEqItems xs ys
  | .obj fs, .obj gs => fs.length == gs.length && pyEqFields fs gs
  | .bool b, r => r.number? == some (if b then 1 else 0)
  | .int n, r => r.number? == some (n : ℚ)
  | .float q, r => r.number? == some q
  | _, _ => false
def pyEqItems : List Json → List Json → Bool
  | [], [] => true
  | x :: xs, y :: ys => pyEq x y && pyEqItems xs ys
  | _, _ => false
def pyEqFields : List (String × Json) → Fields → Bool
  | [], _ => true
  | (k,v) :: fs, gs => (match gs.lookup k with
      | some w => pyEq v w
      | none => false) && pyEqFields fs gs
end

end Json

/-- The zeros of the scripts that write decimal digits (Unicode's `Nd`). -/
private def zeros : List Nat :=
  [48,1632,1776,1984,2406,2534,2662,2790,2918,3046,3174,3302,3430,3558,3664,3792,3872,4160,4240,6112,
    6160,6470,6608,6784,6800,6992,7088,7232,7248,42528,43216,43264,43472,43504,43600,44016,65296,
    66720,68912,69734,69872,69942,70096,70384,70736,70864,71248,71360,71472,71904,72016,72784,73040,
    73120,73552,92768,92864,93008,120782,120792,120802,120812,120822,123200,123632,124144,125264,
    130032]

/-- `str.isspace` beyond ASCII. -/
private def spacesBeyond : List Nat :=
  [0x85,0xa0,0x1680,0x2000,0x2001,0x2002,0x2003,0x2004,0x2005,0x2006,0x2007,0x2008,0x2009,0x200a,
    0x2028,0x2029,0x202f,0x205f,0x3000]

/-- What numerals read a character beyond ASCII as: a digit, a blank, or nothing good. -/
private def plainChar (c : Char) : Char :=
  if c.toNat < 127 then c
  else if c.toNat ∈ spacesBeyond then ' '
  else match zeros.find? fun z => z ≤ c.toNat ∧ c.toNat < z + 10 with
    | some z => Char.ofNat (48 + (c.toNat - z))
    | none => '?'

private def strip (blank : Char → Bool) (cs : List Char) : List Char :=
  ((cs.dropWhile blank).reverse.dropWhile blank).reverse

/-- A Python `Decimal`; `special` stands for NaN and the infinities. -/
inductive Decimal where
  | finite (q : ℚ)
  | special
deriving DecidableEq

namespace Decimal

/-- The significant digits of the decimal context. -/
def precision : Nat := 28

private def digits : List Char → Nat → Nat → Nat × Nat × List Char
  | c :: cs, value, count =>
      if c.isDigit then digits cs (value * 10 + (c.toNat - '0'.toNat)) (count + 1)
      else (value, count, c :: cs)
  | [], value, count => (value, count, [])

private def sign : List Char → Int × List Char
  | '-' :: cs => (-1, cs)
  | '+' :: cs => (1, cs)
  | cs => (1, cs)

private def exponent : List Char → Option Int
  | [] => some 0
  | 'e' :: cs =>
      let (s, cs) := sign cs
      match digits cs 0 0 with
      | (value, count + 1, []) => let _ := count; some (s * value)
      | _ => none
  | _ => none

private def scale (e : Int) : ℚ :=
  if 0 ≤ e then (10 : ℚ) ^ e.toNat else 1 / (10 : ℚ) ^ (-e).toNat

private def unsigned (s : Int) (cs : List Char) : Option Decimal :=
  let (whole, n, cs) := digits cs 0 0
  let (fraction, m, cs) := match cs with
    | '.' :: cs => digits cs 0 0
    | cs => (0, 0, cs)
  if n + m = 0 then none
  else (exponent cs).map fun e => .finite (s * (whole + fraction * scale (-m)) * scale e)

/-- `NaN` and `sNaN` may carry digits. -/
private def isSpecial (cs : List Char) : Bool :=
  cs ∈ ["inf".toList,"infinity".toList] ||
    (if "snan".toList.isPrefixOf cs then (cs.drop 4).all Char.isDigit
    else "nan".toList.isPrefixOf cs && (cs.drop 3).all Char.isDigit)

/-- `Decimal(text)`. -/
def ofText (text : String) : Option Decimal :=
  -- The separators of ASCII are blank for `str.strip` too.
  let body := strip (fun c => c = ' ' || (9 ≤ c.toNat && c.toNat ≤ 13) ||
    (28 ≤ c.toNat && c.toNat ≤ 31)) (text.toList.map plainChar)
  let (s, cs) := sign ((body.filter (· ≠ '_')).map Char.toLower)
  if isSpecial cs then some .special else unsigned s cs

/-- `Decimal(str(value))`; `none` is InvalidOperation. -/
def ofJson : Json → Option Decimal
  | .int n => some (.finite n)
  | .float q => some (.finite q)
  | .nonFinite => some .special
  | .str s => ofText s
  | _ => none

def finite? : Decimal → Option ℚ
  | .finite q => some q
  | .special => none

/-- A finite decimal from any value but a boolean or null. -/
def number (value : Json) : Option ℚ := (ofJson value).bind finite?

end Decimal

/-- Microseconds since the epoch, UTC. -/
abbrev Instant := Int

def seconds (n : Int) : Int := n * 1000000

/-- `aware` records whether the text carried an offset. -/
structure Moment where
  time : Instant
  aware : Bool
deriving DecidableEq

namespace Moment

private def number (width : Nat) (cs : List Char) : Option (Nat × List Char) :=
  let head := cs.take width
  if head.length = width ∧ head.all Char.isDigit then
    some (head.foldl (fun n c => n * 10 + (c.toNat - '0'.toNat)) 0, cs.drop width)
  else none

private def leap (year : Nat) : Bool := year % 4 = 0 ∧ (year % 100 ≠ 0 ∨ year % 400 = 0)

private def monthDays (year month : Nat) : Nat :=
  match month with
  | 2 => if leap year then 29 else 28
  | 4 | 6 | 9 | 11 => 30
  | _ => 31

/-- The days from the first of January of year 1. -/
private def ordinal (year month day : Nat) : Int :=
  let years := (year : Int) - 1
  let before := ((List.range (month - 1)).map fun m => monthDays year (m + 1)).sum
  years * 365 + years / 4 - years / 100 + years / 400 + before + day

/-- `iso_to_ymd`: the days of a date that is given by its week. -/
private def weekOrdinal (year week day : Nat) : Option Int := do
  let first := ordinal year 1 1
  let weekday := (first + 6) % 7
  guard (1 ≤ week ∧ (week ≤ 52 ∨ week = 53 ∧ (weekday = 3 ∨ weekday = 2 ∧ leap year)))
  guard (1 ≤ day ∧ day ≤ 7)
  let monday := first - weekday + if 3 < weekday then 7 else 0
  let days := monday + (week - 1) * 7 + (day - 1)
  guard (1 ≤ days ∧ days ≤ ordinal 9999 12 31)
  return days

/-- `_find_isoformat_datetime_separator`: where the date ends. -/
private def separator (cs : List Char) : Option Nat :=
  let at_ (n : Nat) : Char := cs.getD n '\x00'
  if cs.length = 7 then some 7
  else if at_ 4 = '-' then
    if at_ 5 = 'W' then
      if cs.length < 8 then none
      else if 8 < cs.length ∧ at_ 8 = '-' then
        if cs.length = 9 then none
        else if 10 < cs.length ∧ (at_ 10).isDigit then some 8
        else some 10
      else some 8
    else some 10
  else if at_ 4 = 'W' then
    let run := 7 + ((cs.drop 7).takeWhile Char.isDigit).length
    if run < 9 then some run else if run % 2 = 0 then some 7 else some 8
  else some 8

/-- `parse_isoformat_date` -/
private def date (cs : List Char) : Option Int := do
  let (year, cs) ← number 4 cs
  guard (1 ≤ year)
  let dashed := cs.head? = some '-'
  let skip (cs : List Char) : Option (List Char) :=
    if dashed then if cs.head? = some '-' then some cs.tail else none else some cs
  let cs := if dashed then cs.tail else cs
  if cs.head? = some 'W' then
    let (week, cs) ← number 2 cs.tail
    if cs.isEmpty then weekOrdinal year week 1
    else
      let (day, _) ← number 1 (← skip cs)
      weekOrdinal year week day
  else
    let (month, cs) ← number 2 cs
    let (day, _) ← number 2 (← skip cs)
    guard (1 ≤ month ∧ month ≤ 12 ∧ 1 ≤ day ∧ day ≤ monthDays year month)
    return ordinal year month day

/-- Microseconds, and whether something is left after the digits. -/
private def fraction (next : Char) (cs : List Char) : Option (Nat × Bool) := do
  let (value, rest) ← number (min 6 cs.length) cs
  return (value * 10 ^ (6 - min 6 cs.length), (rest.dropWhile Char.isDigit).headD next ≠ '\x00')

/-- `parse_hh_mm_ss_ff`: at most three fields and a fraction. `next` follows the text. -/
private def clock (next : Char) : Nat → Option Bool → List Char → Option (List Nat × Nat × Bool)
  | 0, _, cs => do
      let (micros, left) ← fraction next cs
      return ([], micros, left)
  | fields + 1, colon?, cs => do
      let (value, cs) ← number 2 cs
      let c := cs.headD next
      let colon := colon?.getD (c == ':')
      if cs.length ≤ 1 then return ([value], 0, c ≠ '\x00')
      let (values, micros, left) ←
        if colon ∧ c = ':' then clock next fields (some colon) cs.tail
        else if c = '.' ∨ c = ',' then (fraction next cs.tail).map fun f => ([], f)
        else if colon then none
        else clock next fields (some colon) cs
      return (value :: values, micros, left)

private def wholeSeconds (values : List Nat) : Int :=
  seconds (values.getD 0 0 * 3600 + values.getD 1 0 * 60 + values.getD 2 0)

/-- A fraction alone makes no offset. -/
private def offsetOf (c : Char) (values : List Nat) (micros : Nat) : Option Int :=
  let whole := wholeSeconds values
  let offset := if whole = 0 then 0 else whole + micros
  if offset < seconds 86400 then some (if c = '-' then -offset else offset) else none

/-- `parse_isoformat_time`: the time of day, and the offset when there is one. -/
private def timeOfDay (cs : List Char) : Option (Int × Option Int) := do
  let zone (c : Char) : Bool := c = '+' || c = '-' || c = 'Z'
  let rest := cs.dropWhile (!zone ·)
  let (values, micros, left) ← clock (rest.headD '\x00') 3 none (cs.takeWhile (!zone ·))
  guard (values.getD 0 0 < 24 ∧ values.getD 1 0 < 60 ∧ values.getD 2 0 < 60)
  let time := wholeSeconds values + micros
  match rest with
  | [] => if left then none else some (time, none)
  | 'Z' :: rest => if rest.headD '\x00' = '\x00' then some (time, some 0) else none
  | c :: rest =>
      let (values, micros, left) ← clock '\x00' 3 none rest
      guard !left
      return (time, some (← offsetOf c values micros))

/-- `datetime.fromisoformat(text.replace("Z", "+00:00"))`; `none` is ValueError. -/
def ofText (text : String) : Option Moment := do
  let cs := text.toList.flatMap fun c => if c = 'Z' then "+00:00".toList else [c]
  guard (7 ≤ cs.length)
  let ends ← separator cs
  let days ← date (cs.take ends)
  let midnight := seconds ((days - 719163) * 86400)
  match cs.drop ends with
  | [] => return ⟨midnight,false⟩
  | _ :: rest =>
      let (time, offset) ← timeOfDay rest
      return ⟨midnight + time - offset.getD 0,offset.isSome⟩

end Moment

/-- `re.fullmatch(r"[A-Z0-9]{3}", text)`. -/
def cityCode (text : String) : Bool :=
  text.toList.length = 3 ∧ text.toList.all fun c => c.isUpper || c.isDigit

/-- Python's `text.replace(pattern, "")`; the counter skips the rest of a match. -/
private def without (pattern : List Char) : Nat → List Char → List Char
  | _, [] => []
  | skip + 1, _ :: cs => without pattern skip cs
  | 0, c :: cs =>
      if pattern.isPrefixOf (c :: cs) then without pattern (pattern.length - 1) cs
      else c :: without pattern 0 cs

private def isHex (c : Char) : Bool := c.isDigit || ('a' ≤ c && c ≤ 'f')

/-- Digits, single underscores between them allowed. -/
private def hexRun : List Char → Option (List Char)
  | [] => none
  | [c] => if isHex c.toLower then some [c.toLower] else none
  | c :: '_' :: cs => if isHex c.toLower then (hexRun cs).map (c.toLower :: ·) else none
  | c :: cs => if isHex c.toLower then (hexRun cs).map (c.toLower :: ·) else none

/-- A numeral in base 16 without its sign and its prefix. -/
private def unprefixed (cs : List Char) : List Char :=
  let cs := if cs.head? = some '+' then cs.tail else cs
  match cs with
  | '0' :: 'x' :: '_' :: cs | '0' :: 'x' :: cs | '0' :: 'X' :: '_' :: cs | '0' :: 'X' :: cs => cs
  | cs => cs

/-- The digits that `int(text, 16)` reads; `none` is ValueError. Dashes are gone
from the text, so the sign can only be a plus. -/
private def hexNumeral (cs : List Char) : Option (List Char) :=
  let ascii := if cs.all (·.toNat < 128) then cs else cs.map plainChar
  hexRun (unprefixed (strip (fun c => c = ' ' || (9 ≤ c.toNat && c.toNat ≤ 13)) ascii))

/-- The canonical text of `UUID(text)`; `none` is ValueError. -/
def uuidText (text : String) : Option String :=
  let bare := without "uuid:".toList 0 (without "urn:".toList 0 text.toList)
  let bare := (strip (· ∈ ['{','}']) bare).filter (· ≠ '-')
  if bare.length = 32 then
    (hexNumeral bare).map fun digits =>
      let hex := List.replicate (32 - digits.length) '0' ++ digits
      String.ofList (hex.take 8 ++ '-' :: (hex.drop 8).take 4 ++ '-' :: (hex.drop 12).take 4 ++
        '-' :: (hex.drop 16).take 4 ++ '-' :: hex.drop 20)
  else none

private theorem without_absent {p : Char} {ps : List Char} {cs : List Char} (absent : p ∉ cs) :
    without (p :: ps) 0 cs = cs := by
  induction cs with
  | nil => rfl
  | cons c cs ih =>
    rw [List.mem_cons,not_or] at absent
    have apart : List.isPrefixOf (p :: ps) (c :: cs) = false := by
      simp [List.isPrefixOf,absent.1]
    rw [without,apart,ih absent.2]
    rfl

private theorem dropWhile_absent {p : Char → Bool} {cs : List Char} (absent : ∀ c ∈ cs, ¬p c) :
    cs.dropWhile p = cs := by
  cases cs with
  | nil => rfl
  | cons c cs => exact List.dropWhile_cons_of_neg (absent c (List.mem_cons_self ..))

private theorem strip_absent {p : Char → Bool} {cs : List Char} (absent : ∀ c ∈ cs, ¬p c) :
    strip p cs = cs := by
  rw [strip,dropWhile_absent absent,dropWhile_absent fun c hc => absent c (List.mem_reverse.mp hc),
    List.reverse_reverse]

private theorem length_strip (p : Char → Bool) (cs : List Char) : (strip p cs).length ≤ cs.length := by
  rw [strip,List.length_reverse]
  refine (List.dropWhile_suffix p).length_le.trans ?_
  rw [List.length_reverse]
  exact (List.dropWhile_suffix p).length_le

private theorem isHex_lower {c : Char} (h : isHex c) : c.toLower = c := by
  unfold isHex at h
  unfold Char.toLower
  split
  · rename_i upper
    simp only [Char.isDigit,ge_iff_le,Bool.or_eq_true,Bool.and_eq_true,decide_eq_true_eq,Char.le_def,
      UInt32.le_iff_toNat_le,UInt32.reduceToNat,Char.reduceVal] at h upper
    omega
  · rfl

private theorem isHex_ne {c : Char} (h : isHex c) :
    c ≠ '-' ∧ c ≠ 'u' ∧ c ≠ '{' ∧ c ≠ '}' ∧ c ≠ '_' ∧ c ≠ '+' ∧ c ≠ 'x' ∧ c ≠ 'X' := by
  refine ⟨?_,?_,?_,?_,?_,?_,?_,?_⟩ <;> rintro rfl <;> exact absurd h (by decide)

private theorem isHex_ascii {c : Char} (h : isHex c) : 32 < c.toNat ∧ c.toNat < 128 := by
  unfold isHex at h
  simp only [Char.isDigit,ge_iff_le,Bool.or_eq_true,Bool.and_eq_true,decide_eq_true_eq,Char.le_def,
    UInt32.le_iff_toNat_le,UInt32.reduceToNat,Char.reduceVal] at h
  unfold Char.toNat
  omega

private theorem hexRun_digits {cs ds : List Char} (h : hexRun cs = some ds) :
    (∀ d ∈ ds, isHex d) ∧ ds.length ≤ cs.length := by
  fun_induction hexRun cs generalizing ds with
  | case1 => cases h
  | case2 c hex =>
    cases h
    exact ⟨fun d hd => List.mem_singleton.mp hd ▸ hex,le_rfl⟩
  | case3 => cases h
  | case4 c cs hex ih =>
    obtain ⟨tail,run,rfl⟩ := Option.map_eq_some_iff.mp h
    obtain ⟨digits,length⟩ := ih run
    refine ⟨fun d hd => ?_,?_⟩
    · rcases List.mem_cons.mp hd with rfl | hd
      · exact hex
      · exact digits d hd
    · simp only [List.length_cons]
      omega
  | case5 => cases h
  | case6 c cs _ _ hex ih =>
    obtain ⟨tail,run,rfl⟩ := Option.map_eq_some_iff.mp h
    obtain ⟨digits,length⟩ := ih run
    refine ⟨fun d hd => ?_,?_⟩
    · rcases List.mem_cons.mp hd with rfl | hd
      · exact hex
      · exact digits d hd
    · simp only [List.length_cons]
      omega
  | case7 => cases h

private theorem hexRun_lower {cs : List Char} (some_ : cs ≠ []) (hex : ∀ c ∈ cs, isHex c) :
    hexRun cs = some cs := by
  induction cs with
  | nil => exact absurd rfl some_
  | cons c cs ih =>
    have head := hex c (List.mem_cons_self ..)
    have tail (d : Char) (hd : d ∈ cs) : isHex d := hex d (List.mem_cons_of_mem _ hd)
    cases cs with
    | nil => simp [hexRun,isHex_lower head,head]
    | cons d cs =>
      have next : d ≠ '_' := (isHex_ne (tail d (List.mem_cons_self ..))).2.2.2.2.1
      simp [hexRun,isHex_lower head,head,next,ih (List.cons_ne_nil d cs) tail]

private theorem length_unprefixed (cs : List Char) : (unprefixed cs).length ≤ cs.length := by
  have signed : (if cs.head? = some '+' then cs.tail else cs).length ≤ cs.length := by
    split <;> simp
  refine le_trans ?_ signed
  unfold unprefixed
  dsimp only
  generalize (if cs.head? = some '+' then cs.tail else cs) = body
  split <;> grind

private theorem unprefixed_hex {cs : List Char} (hex : ∀ c ∈ cs, isHex c) : unprefixed cs = cs := by
  have unsigned : cs.head? ≠ some '+' := by
    intro plus
    exact (isHex_ne (hex _ (List.mem_of_head? plus))).2.2.2.2.2.1 rfl
  unfold unprefixed
  rw [if_neg unsigned]
  dsimp only
  split
  · exact absurd rfl (isHex_ne (hex 'x' (by simp))).2.2.2.2.2.2.1
  · exact absurd rfl (isHex_ne (hex 'x' (by simp))).2.2.2.2.2.2.1
  · exact absurd rfl (isHex_ne (hex 'X' (by simp))).2.2.2.2.2.2.2
  · exact absurd rfl (isHex_ne (hex 'X' (by simp))).2.2.2.2.2.2.2
  · rfl

private theorem hexNumeral_digits {cs ds : List Char} (h : hexNumeral cs = some ds) :
    (∀ d ∈ ds, isHex d) ∧ ds.length ≤ cs.length := by
  obtain ⟨digits,length⟩ := hexRun_digits h
  refine ⟨digits,length.trans ((length_unprefixed _).trans ((length_strip ..).trans ?_))⟩
  split <;> simp

private theorem hexNumeral_lower {cs : List Char} (some_ : cs ≠ []) (hex : ∀ c ∈ cs, isHex c) :
    hexNumeral cs = some cs := by
  have ascii : cs.all (·.toNat < 128) :=
    List.all_eq_true.mpr fun c hc => decide_eq_true (isHex_ascii (hex c hc)).2
  unfold hexNumeral
  rw [if_pos ascii]
  dsimp only
  rw [strip_absent,unprefixed_hex hex,hexRun_lower some_ hex]
  intro c hc
  have above := (isHex_ascii (hex c hc)).1
  have apart : c ≠ ' ' := by
    rintro rfl
    exact absurd above (by decide)
  simp only [Bool.or_eq_true,Bool.and_eq_true,decide_eq_true_eq,not_or,not_and]
  exact ⟨apart,fun _ => by omega⟩

private theorem filter_dashed {cs : List Char} (hex : ∀ c ∈ cs, isHex c) :
    cs.filter (· ≠ '-') = cs :=
  List.filter_eq_self.mpr fun c hc => by simpa using (isHex_ne (hex c hc)).1

/-- The 32 digits in their five groups. -/
private def grouped (hex : List Char) : List Char :=
  hex.take 8 ++ '-' :: (hex.drop 8).take 4 ++ '-' :: (hex.drop 12).take 4 ++
    '-' :: (hex.drop 16).take 4 ++ '-' :: hex.drop 20

private theorem mem_grouped {hex : List Char} {c : Char} (hc : c ∈ grouped hex) :
    c = '-' ∨ c ∈ hex := by
  unfold grouped at hc
  simp only [List.mem_append,List.mem_cons] at hc
  rcases hc with ((((hc | rfl | hc) | rfl | hc) | rfl | hc) | rfl | hc)
  all_goals first
    | exact .inl rfl
    | exact .inr (List.mem_of_mem_take hc)
    | exact .inr (List.mem_of_mem_drop (List.mem_of_mem_take hc))
    | exact .inr (List.mem_of_mem_drop hc)

private theorem filter_grouped {hex : List Char} (all : ∀ c ∈ hex, isHex c) :
    (grouped hex).filter (· ≠ '-') = hex := by
  have piece (cs : List Char) (sub : ∀ c ∈ cs, c ∈ hex) : cs.filter (· ≠ '-') = cs :=
    filter_dashed fun c hc => all c (sub c hc)
  have split (n : Nat) : hex.drop n = (hex.drop n).take 4 ++ hex.drop (n + 4) := by
    rw [← List.drop_drop,List.take_append_drop]
  unfold grouped
  simp only [List.filter_append,List.filter_cons,ne_eq,not_true,decide_false,Bool.false_eq_true,
    if_false]
  rw [piece _ fun c hc => List.mem_of_mem_take hc,
    piece _ fun c hc => List.mem_of_mem_drop (List.mem_of_mem_take hc),
    piece _ fun c hc => List.mem_of_mem_drop (List.mem_of_mem_take hc),
    piece _ fun c hc => List.mem_of_mem_drop (List.mem_of_mem_take hc),
    piece _ fun c hc => List.mem_of_mem_drop hc]
  simp only [List.append_assoc]
  rw [← split 16,← split 12,← split 8,List.take_append_drop]

/-- The groups of 32 digits are read back. -/
private theorem uuidText_grouped {hex : List Char} (all : ∀ c ∈ hex, isHex c)
    (length : hex.length = 32) : (uuidText (String.ofList (grouped hex))).isSome := by
  have clear (c : Char) (hc : c ∈ grouped hex) : c ≠ 'u' ∧ c ∉ ['{','}'] := by
    rcases mem_grouped hc with rfl | digit
    · decide
    · obtain ⟨_,u,left,right,_⟩ := isHex_ne (all c digit)
      simp [u,left,right]
  have urn : without "urn:".toList 0 (grouped hex) = grouped hex :=
    without_absent fun u => (clear _ u).1 rfl
  have uuid : without "uuid:".toList 0 (grouped hex) = grouped hex :=
    without_absent fun u => (clear _ u).1 rfl
  have spelled : (String.ofList (grouped hex)).toList = grouped hex := String.toList_ofList
  have nonempty : hex ≠ [] := fun empty => by simp [empty] at length
  unfold uuidText
  dsimp only
  rw [spelled,urn,uuid,strip_absent fun c hc => by simpa using (clear c hc).2,filter_grouped all,
    if_pos length,hexNumeral_lower nonempty all]
  rfl

/-- A canonical UUID is a UUID. -/
theorem uuidText_canonical {text id : String} (h : uuidText text = some id) : (uuidText id).isSome := by
  unfold uuidText at h
  dsimp only at h
  split at h
  · rename_i long
    obtain ⟨digits,numeral,h⟩ := Option.map_eq_some_iff.mp h
    obtain ⟨hexes,short⟩ := hexNumeral_digits numeral
    cases h
    refine uuidText_grouped (fun c hc => ?_) ?_
    · rcases List.mem_append.mp hc with zero | digit
      · rw [List.eq_of_mem_replicate zero]
        decide
      · exact hexes c digit
    · rw [List.length_append,List.length_replicate]
      omega
  · cases h

end EnergyNode
