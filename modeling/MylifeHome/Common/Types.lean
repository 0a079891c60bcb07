import MylifeHome.Bus.Encoding
import MylifeHome.Studio.Core.Data
import Mathlib.Data.List.Sort
import Mathlib.Data.List.Lex
import Mathlib.Data.List.TakeWhile

/-!
# Value types as text

The types of `components/metadata`, how they are printed and how `parseType`
reads them again, and the plugin descriptions that carry them over the bus. The
three regular expressions are matched on characters; none of them is anchored.
-/
namespace MylifeHome.Common.Metadata

open MylifeHome.Lib MylifeHome.Lib.Bytes MylifeHome.Bus
open MylifeHome.Studio.Core (MemberType PluginUsage ConfigItem NetMember)

/-- A value of one of the type classes; the bounds and values are what their constructors keep. -/
inductive MetaType where
  | range (min max : Int)
  | text
  | float
  | bool
  | enum (values : List String)
  | complex
  deriving DecidableEq

inductive TypeError where
  | invalidType (value : String)
  | unknownType (type : String)
  | noArgument (type args : String)
  | badValues
  | minNotBelowMax (min max : Int)
  | boundsTooBig (min max : Int)
  | tooFewValues
  deriving DecidableEq

/-- A number as it is printed in a template string. -/
def decimal : Int → List Char
  | .ofNat n => Nat.toDigits 10 n
  | .negSucc n => '-' :: Nat.toDigits 10 (n + 1)

def TypeError.message : TypeError → String
  | .invalidType value => "Invalid type: '" ++ value ++ "'"
  | .unknownType type => "Unknown type: '" ++ type ++ "'"
  | .noArgument type args => "Type '" ++ type ++ "' requires no argument but got '" ++ args ++ "'"
  | .badValues => "Bad values for enum"
  | .minNotBelowMax min max => "Min >= max for range: min=" ++ .ofList (decimal min) ++ ", max=" ++
    .ofList (decimal max)
  | .boundsTooBig min max => "Cannot represent range type with min=" ++ .ofList (decimal min) ++
    " and max=" ++
      .ofList (decimal max) ++ " because bounds are too big"
  | .tooFewValues => "Cannot build an enum without at least 2 values"

/-! ## The constructors -/

def newRange (min max : Int) : Except TypeError MetaType :=
  if max ≤ min then .error (.minNotBelowMax min max)
  else match computePrimitive min max with
    | none => .error (.boundsTooBig min max)
    | some _ => .ok (.range min max)

/-- The order of `sort`: by code units. -/
def units (value : String) : List Nat := (toUnits value.toList).map UInt16.toNat

def sort (values : List String) : List String := values.insertionSort fun a b => units a ≤ units b

def newEnum (values : List String) : Except TypeError MetaType :=
  if values.length < 2 then .error .tooFewValues else .ok (.enum (sort values))

namespace MetaType

/-- The part of an enum type between its braces. -/
def body (values : List String) : List Char := [','].intercalate (values.map String.toList)

/-- `toString` -/
def print : MetaType → List Char
  | .range min max => "range[".toList ++ decimal min ++ ';' :: decimal max ++ [']']
  | .text => "text".toList
  | .float => "float".toList
  | .bool => "bool".toList
  | .enum values => "enum".toList ++ '\x7b' :: body values ++ ['\x7d']
  | .complex => "complex".toList

def toText (t : MetaType) : String := String.ofList t.print

/-- The types that one of the constructors returns. -/
inductive Built : MetaType → Prop
  | range {min max : Int} {t : MetaType} : newRange min max = .ok t → Built t
  | text : Built .text
  | float : Built .float
  | bool : Built .bool
  | enum {values : List String} {t : MetaType} : newEnum values = .ok t → Built t
  | complex : Built .complex

end MetaType

/-! ## The regular expressions -/

def isLineTerminator (c : Char) : Bool :=
  c = '\n' || c = '\r' || c = Char.ofNat 0x2028 || c = Char.ofNat 0x2029

/-- `.` takes one code unit, so half of a character outside the basic plane. -/
def isDot (c : Char) : Bool := !isLineTerminator c && decide (c.toNat < 0x10000)

def isLowercase (c : Char) : Bool := decide ('a' ≤ c) && decide (c ≤ 'z')

/-- `[\w_\-,]` -/
def isValueChar (c : Char) : Bool := c.isAlphanum || c = '_' || c = '-' || c = ','

/-- `/([a-z]+)(.*)/`: the first run of small letters and the rest of its line. -/
def parser (input : List Char) : Option (List Char × List Char) :=
  match input.dropWhile (!isLowercase ·) with
  | [] => none
  | c :: l => some ((c :: l).takeWhile isLowercase,
    ((c :: l).dropWhile isLowercase).takeWhile (!isLineTerminator ·))

/-- `-?\d+` at the start of a text, with what follows it. -/
def integer : List Char → Option (List Char × List Char)
  | [] => none
  | c :: l =>
    let sign := if c = '-' then ['-'] else []
    let rest := if c = '-' then l else c :: l
    if rest.takeWhile Char.isDigit = [] then none
    else some (sign ++ rest.takeWhile Char.isDigit, rest.dropWhile Char.isDigit)

/-- `/\[(-?\d+);(-?\d+)\]/` at the start of a text. -/
def rangeAt : List Char → Option (List Char × List Char)
  | '[' :: l =>
    match integer l with
    | some (min, ';' :: l) =>
      match integer l with
      | some (max, ']' :: _) => some (min, max)
      | _ => none
    | _ => none
  | _ => none

/-- `/{(.[\w_\-,]+)}/` at the start of a text. -/
def enumAt : List Char → Option (List Char)
  | '\x7b' :: c :: l =>
    if isDot c then
      match l.takeWhile isValueChar, l.dropWhile isValueChar with
      | d :: run, '\x7d' :: _ => some (c :: d :: run)
      | _, _ => none
    else none
  | _ => none

/-- The first place where an expression matches. -/
def search {β : Type} (at_ : List Char → Option β) : List Char → Option β
  | [] => at_ []
  | c :: l =>
    match at_ (c :: l) with
    | some r => some r
    | none => search at_ l

/-- `Number.parseInt` of digits with a sign. -/
def parseInt : List Char → Int
  | '-' :: l => -(Nat.ofDigitChars 10 l 0 : Int)
  | l => Nat.ofDigitChars 10 l 0

def checkNoArgs (args type : List Char) (t : MetaType) : Except TypeError MetaType :=
  if args = [] then .ok t else .error (.noArgument (.ofList type) (.ofList args))

def parseChars (value : List Char) : Except TypeError MetaType :=
  match parser value with
  | none => .error (.invalidType (.ofList value))
  | some (type, args) =>
    if type = "range".toList then
      match search rangeAt args with
      | none => .error (.invalidType (.ofList value))
      | some (min, max) => newRange (parseInt min) (parseInt max)
    else if type = "text".toList then checkNoArgs args type .text
    else if type = "float".toList then checkNoArgs args type .float
    else if type = "bool".toList then checkNoArgs args type .bool
    else if type = "enum".toList then
      match search enumAt args with
      | none => .error (.invalidType (.ofList value))
      | some values => if values = [] then .error .badValues
        else newEnum (Text.split (.ofList values) ',')
    else if type = "complex".toList then checkNoArgs args type .complex
    else .error (.unknownType (.ofList type))

def parseType (value : String) : Except TypeError MetaType := parseChars value.toList

example : parseType "range[-2;-1]" = .ok (.range (-2) (-1)) := by decide +kernel

example : parseType "enum\x7bc,a-b,b\x7d" = .ok (.enum ["a-b", "b", "c"]) := by decide +kernel

example : (parseType "bool-abc").mapError TypeError.message =
    .error "Type 'bool' requires no argument but got '-abc'" := by decide +kernel

/-! ## Reading what was printed -/

theorem search_of_head {β : Type} {at_ : List Char → Option β} {l : List Char} {r : β}
    (h : at_ l = some r) :
    search at_ l = some r := by
  cases l with
  | nil => exact h
  | cons c l => rw [search, h]

/-- A match is found after some text. -/
theorem exists_of_search {β : Type} {at_ : List Char → Option β} {l : List Char} {r : β}
    (h : search at_ l = some r) :
    ∃ before rest, l = before ++ rest ∧ at_ rest = some r := by
  induction l with
  | nil => exact ⟨[], [], rfl, h⟩
  | cons c l ih =>
    rw [search] at h
    split at h
    · next r' hr =>
      cases h
      exact ⟨[], c :: l, rfl, hr⟩
    · obtain ⟨before, rest, rfl, hrest⟩ := ih h
      exact ⟨c :: before, rest, rfl, hrest⟩

theorem takeWhile_append_of_head {p : Char → Bool} {run : List Char} (rest : List Char)
    (hrun : ∀ c ∈ run, p c = true) (hrest : ∀ c ∈ rest.head?, p c = false) :
    (run ++ rest).takeWhile p = run ∧ (run ++ rest).dropWhile p = rest := by
  rw [List.takeWhile_append_of_pos hrun, List.dropWhile_append_of_pos hrun]
  cases rest with
  | nil => simp
  | cons c rest =>
    have hc : p c = false := hrest c rfl
    simp [hc]

theorem parser_append (type args : List Char) (hne : type ≠ [])
    (htype : ∀ c ∈ type, isLowercase c = true) (hargs : ∀ c ∈ args.head?, isLowercase c = false) :
    parser (type ++ args) = some (type, args.takeWhile (!isLineTerminator ·)) := by
  obtain ⟨htake, hdrop⟩ := takeWhile_append_of_head args htype hargs
  cases type with
  | nil => exact absurd rfl hne
  | cons c type =>
    have hc := htype c List.mem_cons_self
    have hstart : (c :: type ++ args).dropWhile (!isLowercase ·) = c :: type ++ args := by simp [hc]
    rw [parser, hstart]
    simp only [List.cons_append] at htake hdrop ⊢
    rw [htake, hdrop]

/-! ### Numbers -/

theorem isDigit_toDigits {n : Nat} {c : Char} (hc : c ∈ Nat.toDigits 10 n) : c.isDigit = true :=
  Nat.isDigit_of_mem_toDigits (by decide) (by decide) hc

theorem ne_minus_of_isDigit {c : Char} (hc : c.isDigit = true) : c ≠ '-' := by
  rintro rfl
  cases hc

theorem integer_decimal (n : Int) {rest : List Char} (hrest : ∀ c ∈ rest.head?, c.isDigit = false) :
    integer (decimal n ++ rest) = some (decimal n, rest) := by
  have hdigits : ∀ m, (Nat.toDigits 10 m ++ rest).takeWhile Char.isDigit = Nat.toDigits 10 m ∧
      (Nat.toDigits 10 m ++ rest).dropWhile Char.isDigit = rest :=
    fun m => takeWhile_append_of_head _ (fun c hc => isDigit_toDigits hc) hrest
  cases n with
  | ofNat m =>
    obtain ⟨htake, hdrop⟩ := hdigits m
    rw [decimal]
    cases hm : Nat.toDigits 10 m with
    | nil => exact absurd hm Nat.toDigits_ne_nil
    | cons c l =>
      have hc : c ≠ '-' := ne_minus_of_isDigit (isDigit_toDigits (hm ▸ List.mem_cons_self))
      rw [hm] at htake hdrop
      simp only [List.cons_append] at htake hdrop ⊢
      simp [integer, hc, htake, hdrop]
  | negSucc m =>
    obtain ⟨htake, hdrop⟩ := hdigits (m + 1)
    have hne : Nat.toDigits 10 (m + 1) ≠ [] := Nat.toDigits_ne_nil
    simp [decimal, integer, htake, hdrop, hne]

theorem parseInt_decimal (n : Int) : parseInt (decimal n) = n := by
  cases n with
  | ofNat m =>
    rw [decimal]
    unfold parseInt
    split
    · next l hl =>
      exact absurd rfl (ne_minus_of_isDigit (isDigit_toDigits (n := m) (hl ▸ List.mem_cons_self)))
    · rw [Nat.ofDigitChars_ten_toDigits]
      rfl
  | negSucc m =>
    rw [decimal, parseInt, Nat.ofDigitChars_ten_toDigits]
    rfl

theorem not_isLineTerminator {p : Char → Bool} (hp : ∀ c, isLineTerminator c = true → p c = false)
    {c : Char} (hc : p c = true) : isLineTerminator c = false := by
  by_contra h
  rw [Bool.not_eq_false] at h
  rw [hp c h] at hc
  cases hc

theorem isLineTerminator_cases {c : Char} (h : isLineTerminator c = true) :
    c = '\n' ∨ c = '\r' ∨ c = Char.ofNat 0x2028 ∨ c = Char.ofNat 0x2029 := by
  simpa [isLineTerminator, or_assoc] using h

theorem not_isLineTerminator_decimal (n : Int) {c : Char} (hc : c ∈ decimal n) :
    isLineTerminator c = false := by
  have hdigit : c.isDigit = true → isLineTerminator c = false := by
    refine not_isLineTerminator fun c h => ?_
    rcases isLineTerminator_cases h with rfl | rfl | rfl | rfl <;> decide
  cases n with
  | ofNat m => exact hdigit (isDigit_toDigits hc)
  | negSucc m =>
    rcases List.mem_cons.mp hc with rfl | hc
    · decide
    · exact hdigit (isDigit_toDigits hc)

theorem search_rangeAt (min max : Int) :
    search rangeAt ('[' :: decimal min ++ ';' :: decimal max ++ [']']) =
      some (decimal min, decimal max) := by
  apply search_of_head
  simp only [List.cons_append, List.append_assoc]
  have hmin : integer (decimal min ++ ';' :: (decimal max ++ [']'])) =
      some (decimal min, ';' :: (decimal max ++ [']'])) :=
    integer_decimal min (by simp)
  have hmax : integer (decimal max ++ [']']) = some (decimal max, [']']) :=
    integer_decimal max (by simp)
  simp only [rangeAt, hmin, hmax]

theorem parseChars_range (min max : Int) : parseChars (MetaType.range min max).print =
    newRange min max := by
  have hargs : ('[' :: decimal min ++ ';' :: decimal max ++ [']']).takeWhile (!isLineTerminator ·) =
      '[' :: decimal min ++ ';' :: decimal max ++ [']'] := by
    rw [List.takeWhile_eq_self_iff]
    intro c hc
    simp only [List.cons_append, List.append_assoc, List.mem_cons, List.mem_append,
      List.not_mem_nil, or_false] at hc
    rw [Bool.not_eq_true']
    rcases hc with rfl | hc | rfl | hc | rfl
    · decide
    · exact not_isLineTerminator_decimal min hc
    · decide
    · exact not_isLineTerminator_decimal max hc
    · decide
  have hparser : parser (MetaType.range min max).print =
      some ("range".toList, '[' :: decimal min ++ ';' :: decimal max ++ [']']) := by
    have h := parser_append "range".toList ('[' :: decimal min ++ ';' :: decimal max ++ [']'])
      (by decide) (by simp [isLowercase]) (by simp [isLowercase])
    rw [hargs] at h
    exact h
  rw [parseChars, hparser]
  simp only [if_true, search_rangeAt, parseInt_decimal]

/-! ### Enums -/

/-- What the enum expression takes between its braces. -/
def isPrintable : List Char → Bool
  | c :: d :: run => isDot c && (d :: run).all isValueChar
  | _ => false

theorem enumAt_eq_some {l values : List Char} :
    enumAt l = some values ↔ isPrintable values = true ∧
      ∃ rest, l = '\x7b' :: values ++ '\x7d' :: rest := by
  constructor
  · intro h
    unfold enumAt at h
    split at h
    · next c l =>
      split at h
      · next hdot =>
        split at h
        · next d run rest htake hdrop =>
          cases h
          have hall : ∀ x ∈ d :: run, isValueChar x = true := by
            rw [← htake]
            exact fun x hx => List.mem_takeWhile_imp hx
          refine ⟨by simp only [isPrintable, hdot, Bool.true_and]; exact List.all_eq_true.mpr hall,
            rest, ?_⟩
          rw [← List.takeWhile_append_dropWhile (p := isValueChar) (l := l), htake, hdrop]
          rfl
        · cases h
      · cases h
    · cases h
  · rintro ⟨hp, rest, rfl⟩
    match values, hp with
    | c :: d :: run, hp =>
      rw [isPrintable, Bool.and_eq_true, List.all_eq_true] at hp
      obtain ⟨htake, hdrop⟩ :=
        takeWhile_append_of_head ('\x7d' :: rest) hp.2 (by simp [isValueChar])
      simp only [List.cons_append] at htake hdrop ⊢
      simp only [enumAt, hp.1, if_true, htake, hdrop]

theorem not_isLineTerminator_of_isPrintable {values : List Char} (h : isPrintable values = true)
    {c : Char} (hc : c ∈ values) : isLineTerminator c = false := by
  match values, h with
  | d :: e :: run, h =>
    rw [isPrintable, Bool.and_eq_true, List.all_eq_true] at h
    rcases List.mem_cons.mp hc with rfl | hc
    · simpa [isDot] using (Bool.and_eq_true_iff.mp h.1).1
    · refine not_isLineTerminator (fun x hx => ?_) (h.2 c hc)
      rcases isLineTerminator_cases hx with rfl | rfl | rfl | rfl <;> decide

theorem length_body_perm {values values' : List String} (h : values.Perm values') :
    (MetaType.body values).length = (MetaType.body values').length := by
  have hlen : ∀ l : List String,
      (MetaType.body l).length = (l.map fun v => v.toList.length).sum + (l.length - 1) := by
    intro l
    induction l with
    | nil => rfl
    | cons v l ih =>
      cases l with
      | nil => simp [MetaType.body]
      | cons w l =>
        simp only [MetaType.body, List.map_cons, List.intercalate_cons_cons,
          List.length_append] at ih ⊢
        simp only [ih, List.length_cons, List.sum_cons, List.length_nil]
        omega
  rw [hlen, hlen, (h.map _).sum_nat, h.length_eq]

theorem body_split (values : List Char) : MetaType.body (Text.split (.ofList values) ',') =
    values := by
  rw [MetaType.body, Text.split, String.toList_ofList, List.map_map]
  have hid : String.toList ∘ String.ofList = id := by
    funext l
    simp
  rw [hid, List.map_id, List.intercalate_splitOn]

theorem split_body {values : List String} (hne : values ≠ []) (hc : ∀ v ∈ values, ',' ∉ v.toList) :
    Text.split (.ofList (MetaType.body values)) ',' = values :=
  Text.split_of_toList hc hne (by rw [String.toList_ofList, MetaType.body])

theorem sort_perm (values : List String) : (sort values).Perm values := List.perm_insertionSort ..

theorem sort_sort (values : List String) : sort (sort values) = sort values := by
  have htotal : Std.Total fun a b => units a ≤ units b := ⟨fun a b => le_total (units a) (units b)⟩
  have htrans : IsTrans String fun a b => units a ≤ units b := ⟨fun _ _ _ => le_trans⟩
  exact (List.pairwise_insertionSort _ values).insertionSort_eq

theorem newEnum_eq_ok {values : List String} {t : MetaType} (h : newEnum values = .ok t) :
    t = .enum (sort values) := by
  rw [newEnum] at h
  split at h
  · cases h
  · exact (Except.ok.inj h).symm

theorem two_le_of_newEnum {values : List String} {t : MetaType} (h : newEnum values = .ok t) :
    2 ≤ values.length := by
  rw [newEnum] at h
  split at h
  · cases h
  · omega

/-- Reading a printed enum: what stands between the braces has to match from its first character to
its last. -/
theorem parseChars_enum {values : List String} (htwo : 2 ≤ values.length)
    (hsorted : sort values = values) (hc : ∀ v ∈ values, ',' ∉ v.toList) :
    parseChars (MetaType.enum values).print = .ok (.enum values) ↔
      isPrintable (MetaType.body values) = true := by
  have hparser : parser (MetaType.enum values).print = some ("enum".toList,
      ('\x7b' :: MetaType.body values ++ ['\x7d']).takeWhile (!isLineTerminator ·)) :=
    parser_append "enum".toList ('\x7b' :: MetaType.body values ++ ['\x7d'])
      (by decide) (by simp [isLowercase]) (by simp [isLowercase])
  rw [parseChars, hparser]
  simp only [show ("enum".toList = "range".toList) = False by decide,
    show ("enum".toList = "text".toList) = False by decide,
    show ("enum".toList = "float".toList) = False by decide, show ("enum".toList = "bool".toList) =
      False by decide,
    if_false, if_true]
  constructor
  · intro h
    split at h
    · cases h
    · next found hfound =>
      split at h
      · cases h
      · obtain ⟨before, rest, hargs, hat⟩ := exists_of_search hfound
        obtain ⟨hp, after, rfl⟩ := enumAt_eq_some.mp hat
        -- what was found is as long as the whole text between the braces
        have hlen : (MetaType.body values).length = found.length := by
          rw [MetaType.enum.inj (newEnum_eq_ok h), length_body_perm (sort_perm _), body_split]
        have hpre := List.takeWhile_prefix (l := '\x7b' :: MetaType.body values ++ ['\x7d'])
          (!isLineTerminator ·)
        have hle := hpre.length_le
        have htotal := congrArg List.length hargs
        simp only [List.length_append, List.length_cons, List.length_nil] at hle htotal
        have hbefore : before = [] := List.length_eq_zero_iff.mp (by omega)
        have hafter : after = [] := List.length_eq_zero_iff.mp (by omega)
        have hfull := hpre.eq_of_length
          (by simp only [List.length_append, List.length_cons, List.length_nil]; omega)
        rw [hfull, hbefore, hafter, List.nil_append] at hargs
        rw [List.append_cancel_right (List.cons.inj hargs).2]
        exact hp
  · intro hp
    have hargs : ('\x7b' :: MetaType.body values ++ ['\x7d']).takeWhile (!isLineTerminator ·) =
        '\x7b' :: MetaType.body values ++ ['\x7d'] := by
      rw [List.takeWhile_eq_self_iff]
      intro c hc
      simp only [List.cons_append, List.mem_cons, List.mem_append, List.not_mem_nil, or_false] at hc
      rw [Bool.not_eq_true']
      rcases hc with rfl | hc | rfl
      · decide
      · exact not_isLineTerminator_of_isPrintable hp hc
      · decide
    have hfound : search enumAt ('\x7b' :: MetaType.body values ++ ['\x7d']) =
        some (MetaType.body values) :=
      search_of_head (enumAt_eq_some.mpr ⟨hp, [], rfl⟩)
    have hne : MetaType.body values ≠ [] := by
      intro hnil
      rw [hnil] at hp
      cases hp
    rw [hargs, hfound]
    simp only [if_neg hne]
    rw [split_body (fun h => by rw [h] at htwo; simp at htwo) hc, newEnum, if_neg (by omega),
      hsorted]

namespace MetaType

/-- No value of an enum has a comma in it. -/
def Separable : MetaType → Prop
  | .enum values => ∀ v ∈ values, ',' ∉ v.toList
  | _ => True

/-- The text of the type is one that `parseType` takes: between the braces of an
enum, all after the first character are letters, digits, `_`, `-` and commas. -/
def isReadable : MetaType → Bool
  | .enum values => isPrintable (body values)
  | _ => true

end MetaType

theorem newRange_eq_ok {min max : Int} {t : MetaType} (h : newRange min max = .ok t) :
    t = .range min max := by
  rw [newRange] at h
  split at h
  · cases h
  · split at h
    · cases h
    · cases h
      rfl

theorem parse_print_iff {t : MetaType} (hb : t.Built) (hs : t.Separable) :
    parseType t.toText = .ok t ↔ t.isReadable = true := by
  rw [parseType, MetaType.toText, String.toList_ofList]
  cases hb with
  | @range min max t h =>
    obtain rfl := newRange_eq_ok h
    rw [parseChars_range, h]
    simp [MetaType.isReadable]
  | @enum values t h =>
    obtain rfl := newEnum_eq_ok h
    have hlen : 2 ≤ (sort values).length := by
      rw [(sort_perm values).length_eq]
      exact two_le_of_newEnum h
    exact parseChars_enum hlen (sort_sort values) hs
  | text | float | bool | complex => decide +kernel

/-- What `parseType` returns is what a constructor returned, and its values were cut at the
commas. -/
theorem built_of_parse {value : String} {t : MetaType} (h : parseType value = .ok t) : t.Built ∧
    t.Separable := by
  have hargs : ∀ {args type : List Char} {t' : MetaType}, checkNoArgs args type t' = .ok t →
      t' = t := by
    intro args type t' h
    rw [checkNoArgs] at h
    split at h
    · exact Except.ok.inj h
    · cases h
  rw [parseType, parseChars] at h
  split at h
  · cases h
  split at h
  · split at h
    · cases h
    · obtain rfl := newRange_eq_ok h
      exact ⟨.range h, trivial⟩
  split at h
  · exact hargs h ▸ ⟨.text, trivial⟩
  split at h
  · exact hargs h ▸ ⟨.float, trivial⟩
  split at h
  · exact hargs h ▸ ⟨.bool, trivial⟩
  split at h
  · split at h
    · cases h
    · split at h
      · cases h
      · obtain rfl := newEnum_eq_ok h
        refine ⟨.enum h, fun v hv => ?_⟩
        exact Text.not_mem_of_mem_split ((sort_perm _).mem_iff.mp hv)
  split at h
  · exact hargs h ▸ ⟨.complex, trivial⟩
  · cases h

/-! ## Plugins on the bus -/

structure Member where
  description : String
  memberType : MemberType
  valueType : MetaType
  deriving DecidableEq

/-- A plugin with its members; the id is made of module and name wherever a plugin is built. -/
structure Plugin where
  name : String
  module : String
  usage : PluginUsage
  version : String
  description : String
  members : OMap String Member
  config : OMap String ConfigItem
  deriving DecidableEq

def Plugin.id (p : Plugin) : String := p.module ++ "." ++ p.name

def encodeMember (m : Member) : NetMember :=
  { description := m.description, memberType := m.memberType, valueType := m.valueType.toText }

def encodePlugin (p : Plugin) : Studio.Core.NetPlugin :=
  { name := p.name, module := p.module, usage := p.usage, version := p.version,
    description := p.description,
    members := p.members.mapVal encodeMember, config := p.config }

def decodeMember (m : NetMember) : Except TypeError Member := do
  let valueType ← parseType m.valueType
  return { description := m.description, memberType := m.memberType, valueType }

/-- The members are set one by one; the first type that cannot be read ends it. -/
def decodePlugin (p : Studio.Core.NetPlugin) : Except TypeError Plugin := do
  let members ← p.members.entries.foldlM (fun members e => do
    let member ← decodeMember e.2
    return members.set e.1 member) ∅
  return { name := p.name, module := p.module, usage := p.usage, version := p.version,
           description := p.description, members, config := p.config }

theorem decodeMember_encodeMember {m : Member} : decodeMember (encodeMember m) = .ok m ↔
    parseType m.valueType.toText = .ok m.valueType := by
  rw [decodeMember, encodeMember]
  cases parseType m.valueType.toText with
  | error e =>
    constructor
    · intro h
      cases h
    · intro h
      cases h
  | ok t =>
    show (Except.ok { description := m.description, memberType := m.memberType, valueType := t } =
      .ok m) ↔ _
    rw [Except.ok.injEq, Except.ok.injEq]
    cases m
    simp

/-- The members are read one by one and then put together. -/
theorem foldlM_decode (l : List (String × NetMember)) (members : OMap String Member) :
    l.foldlM (fun members e => do
      let member ← decodeMember e.2
      return members.set e.1 member) members =
    (l.mapM fun e => (decodeMember e.2).map (Prod.mk e.1)).map fun l =>
      l.foldl (fun members e => members.set e.1 e.2) members := by
  induction l generalizing members with
  | nil => rfl
  | cons e l ih =>
    rw [List.foldlM_cons, List.mapM_cons]
    cases decodeMember e.2 with
    | error err => rfl
    | ok member =>
      show List.foldlM _ (members.set e.1 member) l = _
      rw [ih]
      cases l.mapM fun e => (decodeMember e.2).map (Prod.mk e.1) <;> rfl

/-- A plugin whose types can all be read is read. -/
theorem decodePlugin_ok {p : Studio.Core.NetPlugin}
    (h : ∀ e ∈ p.members.entries, (parseType e.2.valueType).isOk = true) :
    ∃ plugin, decodePlugin p = .ok plugin ∧ plugin.module = p.module ∧ plugin.name = p.name := by
  have hmember : ∀ e ∈ p.members.entries, ∃ m, decodeMember e.2 = .ok m := by
    intro e he
    have ht := h e he
    rw [decodeMember]
    cases hp : parseType e.2.valueType with
    | error err => simp [hp, Except.isOk, Except.toBool] at ht
    | ok t => exact ⟨_, rfl⟩
  have hfold : ∀ (l : List (String × NetMember)) (members : OMap String Member),
      (∀ e ∈ l, ∃ m, decodeMember e.2 = .ok m) → ∃ members', l.foldlM (fun members e => do
        let member ← decodeMember e.2
        return members.set e.1 member) members = .ok members' := by
    intro l
    induction l with
    | nil => exact fun members _ => ⟨members, rfl⟩
    | cons e l ih =>
      intro members hl
      obtain ⟨⟨m, hm⟩, hrest⟩ := List.forall_mem_cons.mp hl
      rw [List.foldlM_cons, hm]
      exact ih (members.set e.1 m) hrest
  obtain ⟨members, hmembers⟩ := hfold p.members.entries ∅ hmember
  rw [decodePlugin, hmembers]
  exact ⟨_, rfl, rfl, rfl⟩

theorem decodePlugin_encodePlugin {p : Plugin} : decodePlugin (encodePlugin p) = .ok p ↔
    ∀ name m, p.members.get name = some m → parseType m.valueType.toText = .ok m.valueType := by
  have hentries : (p.members.mapVal encodeMember).entries = p.members.entries.map fun e =>
    (e.1, encodeMember e.2) := rfl
  have hall : ((p.members.mapVal encodeMember).entries.mapM fun e =>
    (decodeMember e.2).map (Prod.mk e.1)) =
      .ok p.members.entries ↔ ∀ name m, p.members.get name = some m → parseType m.valueType.toText =
        .ok m.valueType := by
    rw [hentries, mapM_map_eq_self]
    simp only [Prod.forall, OMap.mem_entries]
    refine forall_congr' fun name => forall_congr' fun m => imp_congr_right fun _ => ?_
    rw [← decodeMember_encodeMember]
    cases decodeMember (encodeMember m) <;> simp [Except.map]
  rw [← hall, decodePlugin, encodePlugin]
  simp only [foldlM_decode]
  cases hr : (p.members.mapVal encodeMember).entries.mapM fun e =>
    (decodeMember e.2).map (Prod.mk e.1) with
  | error err =>
    constructor
    · intro h
      cases h
    · intro h
      cases h
  | ok l =>
    have hkeys : (p.members.mapVal encodeMember).entries.map Prod.fst = l.map Prod.fst := by
      have hfirst := (mapM_ok hr).imp (S := fun e e' => e.1 = e'.1) fun e e' h => by
        obtain ⟨member, _, rfl⟩ := except_map_ok.mp h
        rfl
      rw [← List.forall₂_eq_eq_eq]
      exact List.forall₂_map_left_iff.mpr (List.forall₂_map_right_iff.mpr hfirst)
    have hmap : (l.foldl (fun members e => members.set e.1 e.2) (∅ : OMap String Member)).entries =
        l :=
      OMap.entries_foldl_set l (hkeys ▸ (p.members.mapVal encodeMember).nodup)
    constructor
    · intro h
      have hmembers := congrArg Plugin.members (Except.ok.inj h)
      rw [← hmembers]
      exact congrArg Except.ok hmap.symm
    · intro h
      obtain rfl := Except.ok.inj h
      exact congrArg (fun members => Except.ok { p with members := members })
        (OMap.ext_entries hmap)

/-- The types and the plugins that come back from the bus as they were: those with
readable types. The same holds of a type that was read and is printed again. -/
theorem metadata_comes_back (t : MetaType) (p : Plugin) :
    (t.Built → t.Separable → (parseType t.toText = .ok t ↔ t.isReadable = true)) ∧
    ((∀ name m, p.members.get name = some m → m.valueType.Built ∧ m.valueType.Separable) →
      (decodePlugin (encodePlugin p) = .ok p ↔
        ∀ name m, p.members.get name = some m → m.valueType.isReadable = true)) ∧
    ∀ value, parseType value = .ok t → (parseType t.toText = .ok t ↔ t.isReadable = true) := by
  refine ⟨fun hb hs => parse_print_iff hb hs, fun hp => ?_, fun value h => ?_⟩
  · rw [decodePlugin_encodePlugin]
    refine forall_congr' fun name => forall_congr' fun m => forall_congr' fun hm => ?_
    exact parse_print_iff (hp name m hm).1 (hp name m hm).2
  · exact parse_print_iff (built_of_parse h).1 (built_of_parse h).2

/-- A plugin with one state, an enum of modes. -/
def fanPlugin : Plugin where
  name := "fan"
  module := "climate"
  usage := .actuator
  version := "1.0.0"
  description := ""
  members := .ofList [("mode",
    { description := "", memberType := .state, valueType := .enum ["auto", "fan-only", "low_2"] })]
  config := ∅

theorem metadata_comes_back_fan :
    parseType (MetaType.enum ["auto", "fan-only", "low_2"]).toText =
      .ok (.enum ["auto", "fan-only", "low_2"]) ∧
      decodePlugin (encodePlugin fanPlugin) = .ok fanPlugin := by
  have hnew : newEnum ["low_2", "auto", "fan-only"] =
    .ok (.enum ["auto", "fan-only", "low_2"]) := by decide +kernel
  have hs : (MetaType.enum ["auto", "fan-only", "low_2"]).Separable := by
    unfold MetaType.Separable
    decide
  have hread : (MetaType.enum ["auto", "fan-only", "low_2"]).isReadable = true := by decide +kernel
  have hmember : ∀ name m, fanPlugin.members.get name = some m →
      m.valueType = .enum ["auto", "fan-only", "low_2"] := by
    intro name m hm
    have hmem : (name, m) ∈ fanPlugin.members.entries := OMap.mem_entries.mpr hm
    cases List.mem_singleton.mp hmem
    rfl
  have h := metadata_comes_back (.enum ["auto", "fan-only", "low_2"]) fanPlugin
  refine ⟨(h.1 (.enum hnew) hs).mpr hread, (h.2.1 fun name m hm => ?_).mpr fun name m hm => ?_⟩
  · rw [hmember name m hm]
    exact ⟨.enum hnew, hs⟩
  · rw [hmember name m hm]
    exact hread

/-- An enum with a space in a value is printed and cannot be read. A value that
starts with another letter can be read in the first place only, where sorting does
not leave it. -/
theorem enum_is_not_read_again :
    newEnum ["off", "low speed"] = .ok (.enum ["low speed", "off"]) ∧
      parseType (MetaType.enum ["low speed", "off"]).toText =
        .error (.invalidType "enum\x7blow speed,off\x7d") ∧
      parseType "enum\x7bâge,bas\x7d" = .ok (.enum ["bas", "âge"]) ∧
      parseType (MetaType.enum ["bas", "âge"]).toText =
        .error (.invalidType "enum\x7bbas,âge\x7d") := by
  decide +kernel

end MylifeHome.Common.Metadata
