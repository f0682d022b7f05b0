import Mathlib.Algebra.Group.Int.Defs
import Mathlib.Algebra.Group.Nat.Defs
import Mathlib.Data.List.Basic
import Mathlib.Data.String.Lemmas
import Mathlib.Tactic.Common

/-! Go's string functions, on the characters of a string. -/

namespace OpenSearchOperator.Data

variable {characters : List Char} {s second first name : String} {c : Char} {i j : Int}

/-- The characters `unicode.IsSpace` accepts. -/
def isSpace (c : Char) : Bool :=
  c ∈ ['\t', '\n', '\x0b', '\x0c', '\r', ' ', '\u0085', '\u00a0', '\u1680', '\u2028',
    '\u2029', '\u202f', '\u205f', '\u3000'] || ('\u2000' ≤ c && c ≤ '\u200a')

/-- Go's `strings.Split` at a separator of one character. -/
def split (separator : Char) (s : String) : List String :=
  (s.toList.splitOn separator).map String.ofList

def join (separator : Char) (parts : List String) : String :=
  String.ofList ([separator].intercalate (parts.map String.toList))

def trimSpace (s : String) : String :=
  String.ofList ((s.toList.dropWhile isSpace).reverse.dropWhile isSpace).reverse

def fields (s : String) : List String :=
  ((s.toList.splitOnP isSpace).filter (fun part => !part.isEmpty)).map String.ofList

/-- The name of a numbered part, Go's `fmt.Sprintf("%s-%d", name, ordinal)`. -/
def ordinalName (name : String) (ordinal : Int) : String :=
  name ++ "-" ++ toString ordinal

theorem split_join (separator : Char) (parts : List String) (some : parts ≠ [])
    (free : ∀ part ∈ parts, separator ∉ part.toList) :
    split separator (join separator parts) = parts := by
  have pieces : ∀ piece ∈ parts.map String.toList, separator ∉ piece := by
    intro piece member
    obtain ⟨part, present, rfl⟩ := List.mem_map.mp member
    exact free part present
  have nonempty : parts.map String.toList ≠ [] := by
    intro empty
    exact some (List.map_eq_nil_iff.mp empty)
  rw [split, join, String.toList_ofList, List.splitOn_intercalate separator pieces nonempty,
    List.map_map]
  have identity : String.ofList ∘ String.toList = id := by
    funext part
    exact String.ofList_toList
  rw [identity, List.map_id]

private theorem splitOn_free (separator : Char) (characters piece : List Char)
    (present : piece ∈ characters.splitOn separator) : separator ∉ piece := by
  induction characters generalizing piece with
  | nil =>
    rw [List.splitOn_nil, List.mem_singleton] at present
    subst present
    exact List.not_mem_nil
  | cons head tail ih =>
    rw [List.splitOn_cons_eq_if_modifyHead] at present
    by_cases hit : (head == separator) = true
    · rw [if_pos hit] at present
      rcases List.mem_cons.mp present with rfl | later
      · exact List.not_mem_nil
      · exact ih piece later
    · rw [if_neg hit] at present
      obtain ⟨first, others, shape⟩ :=
        List.exists_cons_of_ne_nil (List.splitOn_ne_nil separator tail)
      rw [shape, List.modifyHead_cons] at present
      rcases List.mem_cons.mp present with rfl | later
      · have rest := ih first (shape ▸ List.mem_cons_self)
        simp only [List.mem_cons, not_or]
        exact ⟨fun same => hit (by simp [same]), rest⟩
      · exact ih piece (shape ▸ List.mem_cons_of_mem _ later)

theorem split_free (separator : Char) (s : String) :
    ∀ part ∈ split separator s, separator ∉ part.toList := by
  intro part member
  obtain ⟨piece, present, rfl⟩ := List.mem_map.mp member
  rw [String.toList_ofList]
  exact splitOn_free separator _ piece present

private theorem mem_dropWhile {p : Char → Bool}
    (member : c ∈ characters.dropWhile p) : c ∈ characters :=
  (List.dropWhile_suffix p).subset member

theorem mem_trimSpace (c : Char) (member : c ∈ (trimSpace s).toList) : c ∈ s.toList := by
  rw [trimSpace, String.toList_ofList, List.mem_reverse] at member
  have inner := mem_dropWhile member
  rw [List.mem_reverse] at inner
  exact mem_dropWhile inner

private theorem dropWhile_free
    (free : ∀ c ∈ characters, isSpace c = false) : characters.dropWhile isSpace = characters := by
  cases characters with
  | nil => rfl
  | cons head tail => rw [List.dropWhile_cons_of_neg (by simp [free head List.mem_cons_self])]

theorem trimSpace_free (s : String) (free : ∀ c ∈ s.toList, isSpace c = false) :
    trimSpace s = s := by
  have backwards : ∀ c ∈ s.toList.reverse, isSpace c = false := by
    intro c member
    exact free c (List.mem_reverse.mp member)
  rw [trimSpace, dropWhile_free free, dropWhile_free backwards, List.reverse_reverse,
    String.ofList_toList]

private theorem dropWhile_head (characters : List Char)
    (first : ∀ c, characters.head? = some c → isSpace c = false) :
    characters.dropWhile isSpace = characters := by
  cases characters with
  | nil => rfl
  | cons head tail => rw [List.dropWhile_cons_of_neg (by simp [first head rfl])]

private theorem head_dropWhile (c : Char)
    (first : (characters.dropWhile isSpace).head? = some c) : isSpace c = false := by
  have outcome := List.head?_dropWhile_not isSpace characters
  rw [first] at outcome
  exact outcome

theorem trimSpace_trimSpace (s : String) : trimSpace (trimSpace s) = trimSpace s := by
  let front := s.toList.dropWhile isSpace
  let back := front.reverse.dropWhile isSpace
  have trimmed : (trimSpace s).toList = back.reverse := String.toList_ofList
  have cut : back.reverse <+: front := by
    rw [← List.reverse_suffix, List.reverse_reverse]
    exact List.dropWhile_suffix isSpace
  have ahead : back.reverse.dropWhile isSpace = back.reverse := by
    apply dropWhile_head
    intro c first
    obtain ⟨rest, whole⟩ := cut
    apply head_dropWhile c
    change front.head? = some c
    rw [← whole, List.head?_append, first]
    rfl
  have behind : back.dropWhile isSpace = back := dropWhile_head back (head_dropWhile)
  calc trimSpace (trimSpace s)
      = String.ofList ((back.reverse.dropWhile isSpace).reverse.dropWhile isSpace).reverse := by
        rw [trimSpace, trimmed]
    _ = String.ofList back.reverse := by rw [ahead, List.reverse_reverse, behind]
    _ = trimSpace s := rfl

private theorem splitOnP_free (characters piece : List Char)
    (present : piece ∈ characters.splitOnP isSpace) : ∀ c ∈ piece, isSpace c = false := by
  induction characters generalizing piece with
  | nil =>
    rw [List.splitOnP_nil, List.mem_singleton] at present
    subst present
    exact fun c member => absurd member List.not_mem_nil
  | cons head tail ih =>
    rw [List.splitOnP_cons_eq_if_modifyHead] at present
    by_cases hit : isSpace head = true
    · rw [if_pos hit] at present
      rcases List.mem_cons.mp present with rfl | later
      · exact fun c member => absurd member List.not_mem_nil
      · exact ih piece later
    · rw [if_neg hit] at present
      obtain ⟨first, others, shape⟩ :=
        List.exists_cons_of_ne_nil (List.splitOnP_ne_nil isSpace tail)
      rw [shape, List.modifyHead_cons] at present
      rcases List.mem_cons.mp present with rfl | later
      · intro c member
        rcases List.mem_cons.mp member with rfl | rest
        · exact Bool.eq_false_iff.mpr hit
        · exact ih first (shape ▸ List.mem_cons_self) c rest
      · exact ih piece (shape ▸ List.mem_cons_of_mem _ later)

theorem fields_free {part : String} (member : part ∈ fields s) :
    part ≠ "" ∧ ∀ c ∈ part.toList, isSpace c = false := by
  obtain ⟨piece, present, rfl⟩ := List.mem_map.mp member
  obtain ⟨split, filled⟩ := List.mem_filter.mp present
  rw [String.toList_ofList]
  refine ⟨fun empty => ?_, splitOnP_free s.toList piece split⟩
  have none : piece = [] := by
    simpa using congrArg String.toList empty
  rw [none] at filled
  cases filled

theorem fields_single (filled : s ≠ "") (free : ∀ c ∈ s.toList, isSpace c = false) :
    fields s = [s] := by
  have some : s.toList.isEmpty = false := by
    rw [List.isEmpty_eq_false_iff]
    intro empty
    exact filled (String.toList_inj.mp empty)
  rw [fields, List.splitOnP_eq_singleton free]
  simp [some]

private theorem append_cons_cancel {α : Type} (a : α) (first second left right : List α)
    (notLeft : a ∉ left) (notRight : a ∉ right)
    (same : first ++ a :: left = second ++ a :: right) : first = second ∧ left = right := by
  rcases List.append_eq_append_iff.mp same with ⟨middle, rfl, rest⟩ | ⟨middle, rfl, rest⟩
  · cases middle with
    | nil => simpa using rest
    | cons head tail =>
      rw [List.cons_append, List.cons.injEq] at rest
      exact absurd (rest.2 ▸ List.mem_append_right tail List.mem_cons_self) notLeft
  · cases middle with
    | nil => simpa [eq_comm] using rest
    | cons head tail =>
      rw [List.cons_append, List.cons.injEq] at rest
      exact absurd (rest.2 ▸ List.mem_append_right tail List.mem_cons_self) notRight

theorem nat_repr_injective {i j : Nat} (same : i.repr = j.repr) : i = j := by
  have digits : Nat.toDigits 10 i = Nat.toDigits 10 j := by
    simpa only [Nat.toList_repr] using congrArg String.toList same
  rw [← Nat.ofDigitChars_toDigits (b := 10) (n := i) (by decide) (by decide), digits,
    Nat.ofDigitChars_toDigits (by decide) (by decide)]

private theorem dash_not_digit (n : Nat) : '-' ∉ n.repr.toList := by
  intro member
  rw [Nat.toList_repr] at member
  exact absurd (Nat.isDigit_of_mem_toDigits (by decide) (by decide) member) (by decide)

private theorem int_repr_injective (same : i.repr = j.repr) : i = j := by
  rw [Int.repr_eq_if, Int.repr_eq_if] at same
  by_cases left : 0 ≤ i <;> by_cases right : 0 ≤ j
  · rw [if_pos left, if_pos right] at same
    have := nat_repr_injective same
    omega
  · rw [if_pos left, if_neg right] at same
    have dash : '-' ∈ i.toNat.repr.toList := by rw [same]; simp
    exact absurd dash (dash_not_digit _)
  · rw [if_neg left, if_pos right] at same
    have dash : '-' ∈ j.toNat.repr.toList := by rw [← same]; simp
    exact absurd dash (dash_not_digit _)
  · rw [if_neg left, if_neg right, String.append_right_inj] at same
    have := nat_repr_injective same
    omega

private theorem mem_int_repr (member : c ∈ i.repr.toList) : c = '-' ∨ c.isDigit = true := by
  have digits : ∀ n : Nat, c ∈ n.repr.toList → c.isDigit = true := by
    intro n present
    rw [Nat.toList_repr] at present
    exact Nat.isDigit_of_mem_toDigits (by decide) (by decide) present
  rw [Int.repr_eq_if] at member
  by_cases nonnegative : 0 ≤ i
  · rw [if_pos nonnegative] at member
    exact Or.inr (digits _ member)
  rw [if_neg nonnegative, String.toList_append, List.mem_append] at member
  rcases member with sign | rest
  · exact Or.inl (by simpa using sign)
  · exact Or.inr (digits _ rest)

theorem mem_ordinalName {ordinal : Int} (member : c ∈ (ordinalName name ordinal).toList) :
    c ∈ name.toList ∨ c = '-' ∨ c.isDigit = true := by
  rw [ordinalName, String.toList_append, String.toList_append, List.mem_append,
    List.mem_append] at member
  rcases member with (letter | dash) | number
  · exact Or.inl letter
  · exact Or.inr (Or.inl (by simpa using dash))
  · exact Or.inr (mem_int_repr number)

theorem ordinalName_ordinal (same : ordinalName name i = ordinalName name j) : i = j := by
  rw [ordinalName, ordinalName, String.append_right_inj] at same
  exact int_repr_injective same

theorem ordinalName_injective {i j : Nat}
    (same : ordinalName first i = ordinalName second j) : first = second ∧ i = j := by
  have texts : ∀ (name : String) (k : Nat),
      (ordinalName name k).toList = name.toList ++ '-' :: k.repr.toList := by
    intro name k
    have number : toString (k : Int) = k.repr := rfl
    simp [ordinalName, number]
  have characters := congrArg String.toList same
  rw [texts, texts] at characters
  have parts := append_cons_cancel '-' _ _ _ _ (dash_not_digit i) (dash_not_digit j) characters
  exact ⟨String.toList_inj.mp parts.1, nat_repr_injective (String.toList_inj.mp parts.2)⟩

/-- The names numbered after one that does not end in a dash are nobody else's. -/
theorem ordinalName_ne (i : Nat) (other : first ≠ second)
    (dashless : ∀ base : String, first ≠ base ++ "-") :
    ordinalName first i ≠ ordinalName second j := by
  intro same
  cases j with
  | ofNat j => exact other (ordinalName_injective same).1
  | negSucc j =>
    have shifted : ordinalName second (Int.negSucc j) =
        ordinalName (second ++ "-") (j + 1 : Nat) := by
      have number : toString (Int.negSucc j) = "-" ++ toString ((j + 1 : Nat) : Int) := rfl
      rw [ordinalName, ordinalName, number, ← String.append_assoc]
    exact dashless second (ordinalName_injective (same.trans shifted)).1

end OpenSearchOperator.Data
