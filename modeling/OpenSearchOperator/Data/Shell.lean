import Mathlib.Data.List.Basic

/-! How a shell divides a command line into words and operators. Quotes and backslashes
are removed; expansions come later and are not described. -/

namespace OpenSearchOperator.Data.Shell

variable {text : List Char} {tokens : List Token}

inductive Token where
  | word (text : List Char)
  | and
  | operator (c : Char)
  deriving DecidableEq, Repr

inductive Mode where
  | plain
  | escaped
  | single
  | double
  | doubleEscaped
  | comment
  deriving DecidableEq, Repr

def isOperator (c : Char) : Bool := c ∈ ['|', '&', ';', '(', ')', '<', '>', '\n']

def isBlank (c : Char) : Bool := c ∈ [' ', '\t']

def ends (word : Option (List Char)) (tokens : List Token) : List Token :=
  (word.map Token.word).toList ++ tokens

@[simp] theorem ends_none : ends none = id := rfl

@[simp] theorem ends_some (text : List Char) : ends (some text) = (.word text :: ·) := rfl

def push (word : Option (List Char)) (text : List Char) : Option (List Char) :=
  some (word.getD [] ++ text)

def lex : Mode → Option (List Char) → List Char → Option (List Token)
  | .single, _, [] => none
  | .double, _, [] => none
  | .doubleEscaped, _, [] => none
  | .escaped, word, [] => some (ends (push word ['\\']) [])
  | _, word, [] => some (ends word [])
  | .comment, word, c :: cs =>
    if c = '\n' then (lex .plain none cs).map (.operator c :: ·) else lex .comment word cs
  | .single, word, c :: cs =>
    if c = '\'' then lex .plain word cs else lex .single (push word [c]) cs
  | .double, word, c :: cs =>
    if c = '"' then lex .plain word cs
    else if c = '\\' then lex .doubleEscaped word cs
    else lex .double (push word [c]) cs
  | .doubleEscaped, word, c :: cs =>
    if c = '\n' then lex .double word cs
    else if c ∈ ['$', Char.ofNat 96, '"', '\\'] then lex .double (push word [c]) cs
    else lex .double (push word ['\\', c]) cs
  | .escaped, word, c :: cs =>
    if c = '\n' then lex .plain word cs else lex .plain (push word [c]) cs
  | .plain, word, '&' :: '&' :: cs => (lex .plain none cs).map (ends word ∘ (.and :: ·))
  | .plain, word, c :: cs =>
    if c = '\'' then lex .single (push word []) cs
    else if c = '"' then lex .double (push word []) cs
    else if c = '\\' then lex .escaped word cs
    else if isBlank c then (lex .plain none cs).map (ends word)
    else if isOperator c then (lex .plain none cs).map (ends word ∘ (.operator c :: ·))
    else if c = '#' ∧ word = none then lex .comment none cs
    else lex .plain (push word [c]) cs

def Bare (c : Char) : Prop :=
  c ∉ ['\'', '"', '\\', '#'] ∧ isBlank c = false ∧ isOperator c = false

instance (c : Char) : Decidable (Bare c) := inferInstanceAs (Decidable (_ ∧ _))

theorem lex_bare (bare : ∀ c ∈ text, Bare c) (filled : text ≠ [])
    (word : Option (List Char)) (cs : List Char) :
    lex .plain word (text ++ cs) = lex .plain (push word text) cs := by
  induction text generalizing word with
  | nil => exact absurd rfl filled
  | cons c text ih =>
    obtain ⟨special, blank, operator⟩ := bare c List.mem_cons_self
    have ampersand : c ≠ '&' := by
      rintro rfl
      simp [isOperator] at operator
    have next := ih fun c member => bare c (List.mem_cons_of_mem _ member)
    have step : lex .plain word (c :: (text ++ cs)) = lex .plain (push word [c]) (text ++ cs) := by
      rw [lex] <;> grind
    rw [List.cons_append, step]
    by_cases last : text = []
    · simp [last]
    · simp [next last, push]

/-- Up to the next quote nothing is special in single quotes. -/
theorem lex_single (unquoted : '\'' ∉ text) (word cs : List Char) :
    lex .single (some word) (text ++ '\'' :: cs) = lex .plain (some (word ++ text)) cs := by
  induction text generalizing word with
  | nil => simp [lex]
  | cons c text ih =>
    simp only [List.mem_cons, not_or] at unquoted
    rw [List.cons_append, lex, if_neg (Ne.symm unquoted.1)]
    simpa [push] using ih unquoted.2 (word ++ [c])

def Begins (text : List Char) (tokens : List Token) : Prop :=
  ∃ more, tokens.head? = some (.word (text ++ more))

theorem begins_ends : Begins text (ends (some text) tokens) :=
  ⟨[], by simp⟩

theorem Begins.of_append {more : List Char}
    (begins : Begins (text ++ more) tokens) : Begins text tokens := by
  obtain ⟨rest, head⟩ := begins
  exact ⟨more ++ rest, by rw [head, List.append_assoc]⟩

theorem begins_lex {mode : Mode} {word : Option (List Char)} {cs : List Char}
    (lexed : lex mode word cs = some tokens) (live : mode ≠ .comment) (begun : word = some text) :
    Begins text tokens := by
  fun_induction lex mode word cs generalizing text tokens <;>
    grind [push, begins_ends, Begins.of_append, Option.map_eq_some_iff]

end OpenSearchOperator.Data.Shell
