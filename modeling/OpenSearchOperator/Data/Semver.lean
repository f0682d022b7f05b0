import OpenSearchOperator.Data.Text
import Mathlib.Data.List.TakeWhile

/-! Semantic versions. The package that parses and compares them is a parameter, with
the behaviour that it documents; a model of version 1.5 of the Masterminds package follows. -/

namespace OpenSearchOperator.Data

structure Version where
  major : Int
  minor : Int
  patch : Int
  pre : String
  metadata : String
  deriving DecidableEq, Repr

def Version.numbers (v : Version) : List Int := [v.major, v.minor, v.patch]

/-- Go's `fmt.Sprintf("%d.%d.%d", …)`, for any number of numbers. -/
def dotted (numbers : List Int) : String := join '.' (numbers.map Int.repr)

/-- What a version number can be: not negative, and within a signed number of 64 bits. -/
def VersionNumber (n : Int) : Prop := 0 ≤ n ∧ n < 2 ^ 63

structure SemverPackage where
  Constraints : Type
  newVersion : String → Except String Version
  lessThan : Version → Version → Bool
  incMajor : Version → Version
  string : Version → String
  newConstraint : String → Except String Constraints
  check : Constraints → Version → Bool
  newVersion_numbers {text : String} {v : Version} :
    newVersion text = .ok v → ∀ n ∈ v.numbers, VersionNumber n
  lessThan_release {v : Version} (o : Version) :
    v.pre = "" → (lessThan v o = true ↔ v.numbers < o.numbers)
  -- The major version is incremented in 64 bits.
  incMajor_eq (v : Version) :
    incMajor v = ⟨(v.major + 1).bmod 18446744073709551616, 0, 0, "", ""⟩
  string_release (major minor patch : Int) :
    string ⟨major, minor, patch, "", ""⟩ = dotted [major, minor, patch]
  -- Without a prerelease in it, a constraint is met by no prerelease.
  below {major minor patch : Int} : (∀ n ∈ [major, minor, patch], VersionNumber n) →
    ∃ c, newConstraint ("< " ++ dotted [major, minor, patch]) = .ok c ∧
      ∀ v, check c v = true ↔ v.pre = "" ∧ v.numbers < [major, minor, patch]
  atLeast {major minor patch : Int} : (∀ n ∈ [major, minor, patch], VersionNumber n) →
    ∃ c, newConstraint (">=" ++ dotted [major, minor, patch]) = .ok c ∧
      ∀ v, check c v = true ↔ v.pre = "" ∧ ¬ v.numbers < [major, minor, patch]
  below_negative {major : Int} (minor patch : Int) : major < 0 →
    ∃ err, newConstraint ("< " ++ dotted [major, minor, patch]) = .error err

theorem numbers_lt_major {v : Version} (counts : ∀ n ∈ v.numbers, VersionNumber n) (major : Int) :
    v.numbers < [major, 0, 0] ↔ v.major < major := by
  simp only [Version.numbers, VersionNumber, List.mem_cons, List.not_mem_nil, or_false,
    forall_eq_or_imp, forall_eq] at counts
  simp only [Version.numbers, List.cons_lt_cons_iff, List.not_lt_nil, and_false, or_false]
  omega

section Parsing

/-- `strconv.ParseInt(s, 10, 64)`, without a plus sign. -/
def parseInt64 (s : String) : Option Int :=
  let number (digits : List Char) : Option Nat :=
    if digits ≠ [] ∧ digits.all Char.isDigit then some (Nat.ofDigitChars 10 digits 0) else none
  match s.toList with
  | '-' :: digits =>
    match number digits with
    | some n => if n ≤ 2 ^ 63 then some (-(n : Int)) else none
    | none => none
  | digits =>
    match number digits with
    | some n => if n < 2 ^ 63 then some (n : Int) else none
    | none => none

def trimV : List Char → List Char
  | 'v' :: rest => rest
  | characters => characters

def numberChar (c : Char) : Bool := c.isDigit || c == '.'

/-- The parts between the dots of a version's numbers, and the text behind them. -/
def divide (v : String) : List (List Char) × List Char :=
  let characters := trimV v.toList
  ((characters.takeWhile numberChar).splitOn '.', characters.dropWhile numberChar)

variable {n : Int} {numbers : List Int}

theorem toList_repr (nonneg : 0 ≤ n) : n.repr.toList = Nat.toDigits 10 n.toNat := by
  rw [Int.repr_eq_if, if_pos nonneg, Nat.toList_repr]

theorem isDigit_of_mem_repr (nonneg : 0 ≤ n) {c : Char} (member : c ∈ n.repr.toList) :
    c.isDigit = true :=
  Nat.isDigit_of_mem_toDigits (by decide) (by decide) (toList_repr nonneg ▸ member)

theorem parseInt64_repr (counts : VersionNumber n) : parseInt64 n.repr = some n := by
  obtain ⟨nonneg, fits⟩ := counts
  have digits : (n.repr.toList.all Char.isDigit) = true :=
    List.all_eq_true.mpr fun _ => isDigit_of_mem_repr nonneg
  have filled : n.repr.toList ≠ [] := toList_repr nonneg ▸ Nat.toDigits_ne_nil
  have value : Nat.ofDigitChars 10 n.repr.toList 0 = n.toNat := by
    rw [toList_repr nonneg, Nat.ofDigitChars_toDigits (by decide) (by decide)]
  unfold parseInt64
  split
  · next rest signed =>
      rw [signed] at digits
      simp at digits
  · next =>
      simp only [ne_eq, filled, not_false_eq_true, digits, and_self, if_true, value]
      rw [if_pos (by omega), Int.toNat_of_nonneg nonneg]

private theorem mem_intercalate {c separator : Char} {parts : List (List Char)}
    (member : c ∈ [separator].intercalate parts) : c = separator ∨ ∃ part ∈ parts, c ∈ part := by
  induction parts with
  | nil => simp at member
  | cons part parts ih =>
    cases parts with
    | nil => simp_all
    | cons next parts =>
      simp only [List.intercalate_cons_cons, List.mem_append] at member
      grind

theorem toList_dotted :
    (dotted numbers).toList = ['.'].intercalate (numbers.map fun n => n.repr.toList) := by
  simp only [dotted, join, String.toList_ofList, List.map_map, Function.comp_def]

theorem isDigit_of_mem_parts (nonneg : ∀ n ∈ numbers, 0 ≤ n) {part : List Char}
    (member : part ∈ numbers.map fun n => n.repr.toList) {c : Char} (inside : c ∈ part) :
    c.isDigit = true := by
  obtain ⟨n, present, rfl⟩ := List.mem_map.mp member
  exact isDigit_of_mem_repr (nonneg n present) inside

theorem numberChar_of_mem_dotted (nonneg : ∀ n ∈ numbers, 0 ≤ n) {c : Char}
    (member : c ∈ (dotted numbers).toList) : numberChar c = true := by
  rw [toList_dotted] at member
  rcases mem_intercalate member with dot | ⟨part, present, inside⟩
  · simp [numberChar, dot]
  · simp [numberChar, isDigit_of_mem_parts nonneg present inside]

theorem divide_dotted (filled : numbers ≠ []) (nonneg : ∀ n ∈ numbers, 0 ≤ n) :
    divide (dotted numbers) = (numbers.map fun n => n.repr.toList, []) := by
  have numeric : ∀ c ∈ (dotted numbers).toList, numberChar c = true :=
    fun _ => numberChar_of_mem_dotted nonneg
  have untrimmed : trimV (dotted numbers).toList = (dotted numbers).toList := by
    unfold trimV
    split
    · next rest trimmed => exact absurd (numeric 'v' (by simp [trimmed])) (by decide)
    · rfl
  have separate : ∀ part ∈ numbers.map fun n => n.repr.toList, '.' ∉ part :=
    fun part member dot => absurd (isDigit_of_mem_parts nonneg member dot) (by decide)
  simp only [divide, untrimmed, List.takeWhile_eq_self_iff.mpr numeric,
    List.dropWhile_eq_nil_iff.mpr numeric]
  rw [toList_dotted, List.splitOn_intercalate '.' separate (by simpa using filled)]

theorem parseInt64_counts {s : String} (unsigned : '-' ∉ s.toList)
    (parsed : parseInt64 s = some n) : VersionNumber n := by
  unfold parseInt64 at parsed
  unfold VersionNumber
  grind

private theorem mem_of_mem_splitOn {c : Char} {characters piece : List Char}
    (present : piece ∈ characters.splitOn '.') (member : c ∈ piece) : c ∈ characters := by
  induction characters generalizing piece with
  | nil => simp_all
  | cons head tail ih =>
    rw [List.splitOn_cons_eq_if_modifyHead] at present
    obtain ⟨first, rest, split⟩ :=
      List.exists_cons_of_ne_nil (List.splitOn_ne_nil '.' tail)
    rw [split] at present ih
    split at present
    · simp only [List.mem_cons] at present ih ⊢
      grind
    · simp only [List.modifyHead_cons, List.mem_cons] at present ih ⊢
      grind

theorem divide_unsigned {v : String} : ∀ part ∈ (divide v).1, '-' ∉ part := by
  intro part present dash
  have numeric := List.mem_takeWhile_imp (mem_of_mem_splitOn present dash)
  exact absurd numeric (by decide)

theorem mapM_parseInt64 {parts : List (List Char)}
    (converted : parts.mapM (fun part => parseInt64 (String.ofList part)) = some numbers) :
    numbers.length = parts.length ∧
      ((∀ part ∈ parts, '-' ∉ part) → ∀ number ∈ numbers, VersionNumber number) := by
  induction parts generalizing numbers with
  | nil => simp_all
  | cons part parts ih =>
    simp only [List.mapM_cons, Option.bind_eq_bind, Option.bind_eq_some_iff, Option.pure_def,
      Option.some.injEq] at converted
    obtain ⟨number, first, rest, others, rfl⟩ := converted
    have counts : '-' ∉ part → VersionNumber number := fun free =>
      parseInt64_counts (by rwa [String.toList_ofList]) first
    grind

theorem mapM_repr (counts : ∀ n ∈ numbers, VersionNumber n) :
    (numbers.map fun n => n.repr.toList).mapM (fun part => parseInt64 (String.ofList part)) =
      some numbers := by
  induction numbers with
  | nil => rfl
  | cons n numbers ih =>
    obtain ⟨first, others⟩ := List.forall_mem_cons.mp counts
    rw [List.map_cons, List.mapM_cons, String.ofList_toList, parseInt64_repr first, ih others]
    rfl

end Parsing

namespace Version

/-- Identifiers between dots, none of them empty. -/
def identifiers (s : List Char) : Bool :=
  (s.splitOn '.').all (fun part => !part.isEmpty && part.all (fun c => c.isAlphanum || c == '-'))

/-- The text behind the numbers: `-` and a prerelease, `+` and metadata, or either. -/
def parseSuffix (s : List Char) : Option (String × String) :=
  match s with
  | [] => some ("", "")
  | '+' :: metadata =>
    if identifiers metadata then some ("", String.ofList metadata) else none
  | '-' :: rest =>
    let pre := rest.takeWhile (· ≠ '+')
    if identifiers pre then
      match rest.dropWhile (· ≠ '+') with
      | [] => some (String.ofList pre, "")
      | _ :: metadata =>
        if identifiers metadata then some (String.ofList pre, String.ofList metadata) else none
    else none
  | _ => none

/-- Up to three numbers between dots; the missing ones are zero. -/
def parseNumbers (parts : List (List Char)) : Except String (Int × Int × Int) :=
  if parts.length ≤ 3 ∧ parts.all (fun part => !part.isEmpty) then
    match parts.mapM (fun part => parseInt64 (String.ofList part)) with
    | some numbers => .ok (numbers.getD 0 0, numbers.getD 1 0, numbers.getD 2 0)
    | none => .error "Error parsing version segment"
  else .error "Invalid Semantic Version"

def newVersion (v : String) : Except String Version := do
  let (core, suffix) := divide v
  match parseSuffix suffix with
  | none => .error "Invalid Semantic Version"
  | some (pre, metadata) =>
    let (major, minor, patch) ← parseNumbers core
    return ⟨major, minor, patch, pre, metadata⟩

def comparePrePart (s o : String) : Ordering :=
  if s = o then .eq
  else if s = "" then .lt
  else if o = "" then .gt
  else
    match parseInt64 s, parseInt64 o with
    | none, none => if o < s then .gt else .lt
    | some _, none => .lt
    | none, some _ => .gt
    | some si, some oi => if oi < si then .gt else .lt

/-- The shorter list counts as filled up with empty parts. -/
def comparePreParts : List String → List String → Ordering
  | [], [] => .eq
  | s :: sparts, [] => (comparePrePart s "").then (comparePreParts sparts [])
  | [], o :: oparts => (comparePrePart "" o).then (comparePreParts [] oparts)
  | s :: sparts, o :: oparts => (comparePrePart s o).then (comparePreParts sparts oparts)

def comparePrerelease (v o : String) : Ordering := comparePreParts (split '.' v) (split '.' o)

def compareSegment (v o : Int) : Ordering := if v < o then .lt else if o < v then .gt else .eq

def compare (v o : Version) : Ordering :=
  (compareSegment v.major o.major).then
    ((compareSegment v.minor o.minor).then
      ((compareSegment v.patch o.patch).then
        (if v.pre = "" ∧ o.pre = "" then .eq
        else if v.pre = "" then .gt
        else if o.pre = "" then .lt
        else comparePrerelease v.pre o.pre)))

def lessThan (v o : Version) : Bool := v.compare o == .lt

def incMajor (v : Version) : Version :=
  ⟨(v.major + 1).bmod 18446744073709551616, 0, 0, "", ""⟩

def string (v : Version) : String :=
  dotted v.numbers ++ (if v.pre = "" then "" else "-" ++ v.pre) ++
    (if v.metadata = "" then "" else "+" ++ v.metadata)

/-- A constraint `< bound` or `>= bound`. The package knows more of them. -/
structure Constraint where
  below : Bool
  bound : Version

def parseBound (below : Bool) (c : String) (rest : List Char) : Except String Constraint :=
  match newVersion (String.ofList (rest.dropWhile (· == ' '))) with
  | .error _ => .error ("improper constraint: " ++ c)
  | .ok bound => .ok ⟨below, bound⟩

def newConstraint (c : String) : Except String Constraint :=
  match c.toList with
  | '<' :: rest => parseBound true c rest
  | '>' :: '=' :: rest => parseBound false c rest
  | _ => .error ("improper constraint: " ++ c)

def check (c : Constraint) (v : Version) : Bool :=
  if v.pre ≠ "" ∧ c.bound.pre = "" then false
  else if c.below then v.lessThan c.bound
  else !v.lessThan c.bound

theorem lessThan_iff {v : Version} (o : Version) (release : v.pre = "") :
    v.lessThan o = true ↔ v.numbers < o.numbers := by
  simp only [lessThan, compare, compareSegment, numbers, List.cons_lt_cons_iff, release]
  rcases Int.lt_trichotomy v.major o.major with major | major | major <;>
  rcases Int.lt_trichotomy v.minor o.minor with minor | minor | minor <;>
  rcases Int.lt_trichotomy v.patch o.patch with patch | patch | patch <;>
  simp [Int.lt_asymm, *] <;> grind

theorem parseNumbers_counts {parts : List (List Char)} {major minor patch : Int}
    (unsigned : ∀ part ∈ parts, '-' ∉ part)
    (parsed : parseNumbers parts = .ok (major, minor, patch)) :
    ∀ n ∈ [major, minor, patch], VersionNumber n := by
  unfold parseNumbers at parsed
  split at parsed
  · split at parsed
    · next numbers converted =>
        have counts := (mapM_parseInt64 converted).2 unsigned
        have zero : VersionNumber 0 := by simp [VersionNumber]
        have padded : ∀ i, VersionNumber (numbers.getD i 0) := by
          intro i
          rw [List.getD_eq_getElem?_getD]
          cases present : numbers[i]? with
          | none => exact zero
          | some n => exact counts n (List.mem_of_getElem? present)
        cases parsed
        exact List.forall_mem_cons.mpr ⟨padded 0, List.forall_mem_cons.mpr ⟨padded 1,
          List.forall_mem_singleton.mpr (padded 2)⟩⟩
    · cases parsed
  · cases parsed

section Printed

variable {major minor patch : Int}

theorem parseNumbers_repr (counts : ∀ n ∈ [major, minor, patch], VersionNumber n) :
    parseNumbers ([major, minor, patch].map fun n => n.repr.toList) =
      .ok (major, minor, patch) := by
  have filled : ∀ n ∈ [major, minor, patch], n.repr.toList ≠ [] := fun n member =>
    toList_repr (counts n member).1 ▸ Nat.toDigits_ne_nil
  have shape : ([major, minor, patch].map fun n => n.repr.toList).length ≤ 3 ∧
      ([major, minor, patch].map fun n => n.repr.toList).all (fun part => !part.isEmpty) := by
    refine ⟨by simp, ?_⟩
    simpa using filled
  rw [parseNumbers, if_pos shape, mapM_repr counts]
  rfl

theorem newVersion_dotted (counts : ∀ n ∈ [major, minor, patch], VersionNumber n) :
    newVersion (dotted [major, minor, patch]) = .ok ⟨major, minor, patch, "", ""⟩ := by
  have divided := divide_dotted (List.cons_ne_nil major [minor, patch])
    fun n member => (counts n member).1
  have numbers := parseNumbers_repr counts
  rw [newVersion, divided]
  simp only [parseSuffix]
  rw [numbers]
  rfl

theorem newVersion_signed (rest : List Char) :
    ∃ err, newVersion (String.ofList ('-' :: rest)) = .error err := by
  have divided : divide (String.ofList ('-' :: rest)) = ([[]], '-' :: rest) := by
    rw [divide, String.toList_ofList]
    rfl
  rw [newVersion, divided]
  dsimp only
  split
  · exact ⟨_, rfl⟩
  · exact ⟨_, rfl⟩

theorem newVersion_counts {text : String} {v : Version} (parsed : newVersion text = .ok v) :
    ∀ n ∈ v.numbers, VersionNumber n := by
  rw [newVersion] at parsed
  dsimp only at parsed
  split at parsed
  · cases parsed
  · cases core : parseNumbers (divide text).1 with
    | error err => simp [core] at parsed
    | ok numbers =>
      rw [core] at parsed
      cases parsed
      exact parseNumbers_counts divide_unsigned core

theorem parseBound_dotted (below : Bool) (c : String)
    (counts : ∀ n ∈ [major, minor, patch], VersionNumber n) :
    parseBound below c (dotted [major, minor, patch]).toList =
      .ok ⟨below, major, minor, patch, "", ""⟩ := by
  have unspaced : (dotted [major, minor, patch]).toList.dropWhile (· == ' ') =
      (dotted [major, minor, patch]).toList := by
    rw [List.dropWhile_eq_self_iff]
    intro filled
    have numeric := numberChar_of_mem_dotted (fun n member => (counts n member).1)
      (List.getElem_mem filled)
    intro blank
    rw [beq_iff_eq.mp blank] at numeric
    exact absurd numeric (by decide)
  rw [parseBound, unspaced, String.ofList_toList, newVersion_dotted counts]

theorem newConstraint_below (text : String) :
    newConstraint ("< " ++ text) = parseBound true ("< " ++ text) text.toList := by
  simp [newConstraint, parseBound]

theorem newConstraint_atLeast (text : String) :
    newConstraint (">=" ++ text) = parseBound false (">=" ++ text) text.toList := by
  simp [newConstraint]

theorem check_release (below : Bool) (v : Version) :
    check ⟨below, major, minor, patch, "", ""⟩ v = true ↔
      v.pre = "" ∧ (v.numbers < [major, minor, patch] ↔ below = true) := by
  rw [check]
  by_cases release : v.pre = ""
  · have order := lessThan_iff ⟨major, minor, patch, "", ""⟩ release
    simp only [numbers] at order ⊢
    grind
  · simp [release]

theorem dotted_signed (minor patch : Int) (negative : major < 0) :
    ∃ rest, (dotted [major, minor, patch]).toList = '-' :: rest := by
  refine ⟨(-major).toNat.repr.toList ++ '.' :: (minor.repr.toList ++ '.' :: patch.repr.toList), ?_⟩
  have sign : major.repr.toList = '-' :: (-major).toNat.repr.toList := by
    rw [Int.repr_eq_if, if_neg (by omega)]
    simp
  simp [dotted, join, sign]

end Printed

end Version

def masterminds : SemverPackage where
  Constraints := Version.Constraint
  newVersion := Version.newVersion
  lessThan := Version.lessThan
  incMajor := Version.incMajor
  string := Version.string
  newConstraint := Version.newConstraint
  check := Version.check
  newVersion_numbers := Version.newVersion_counts
  lessThan_release := Version.lessThan_iff
  incMajor_eq _ := rfl
  string_release major minor patch := by simp [Version.string, Version.numbers]
  below counts := ⟨_,
    (Version.newConstraint_below _).trans (Version.parseBound_dotted true _ counts),
    fun v => (Version.check_release true v).trans (by simp)⟩
  atLeast counts := ⟨_,
    (Version.newConstraint_atLeast _).trans (Version.parseBound_dotted false _ counts),
    fun v => (Version.check_release false v).trans (by simp)⟩
  below_negative minor patch negative := by
    obtain ⟨rest, sign⟩ := Version.dotted_signed minor patch negative
    obtain ⟨err, failed⟩ := Version.newVersion_signed rest
    rw [Version.newConstraint_below, Version.parseBound, sign,
      List.dropWhile_cons_of_neg (by decide), failed]
    exact ⟨_, rfl⟩

end OpenSearchOperator.Data
