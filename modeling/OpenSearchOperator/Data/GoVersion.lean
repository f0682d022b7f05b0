import OpenSearchOperator.Data.Semver

/-! The second package for versions is a parameter like the first, and so is what both make
of one text. A model of version 1.6 of the HashiCorp package follows, and that it agrees
with that of the first. -/

namespace OpenSearchOperator.Data

/-- The segments number at least three. -/
structure GoVersion where
  segments : List Int
  pre : String
  metadata : String
  deriving DecidableEq, Repr

structure GoVersionPackage where
  Constraints : Type
  newVersion : String → Option GoVersion
  greaterThanOrEqual : GoVersion → GoVersion → Bool
  newConstraint : String → Option Constraints
  check : Constraints → GoVersion → Bool
  -- The segments that are missing up to three are zero.
  newVersion_dotted {numbers : List Int} : numbers ≠ [] → (∀ n ∈ numbers, VersionNumber n) →
    newVersion (dotted numbers) = some ⟨numbers ++ .replicate (3 - numbers.length) 0, "", ""⟩
  -- A prerelease comes before its release.
  greaterThanOrEqual_release {v o : GoVersion} : v.segments.length = o.segments.length →
    o.pre = "" → (greaterThanOrEqual v o = true ↔
      ¬ v.segments < o.segments ∧ (v.segments = o.segments → v.pre = ""))
  atLeast {low : String} {o : GoVersion} : newVersion low = some o → o.pre = "" →
    ∃ c, newConstraint (">= " ++ low) = some c ∧
      ∀ v, v.pre = "" → check c v = greaterThanOrEqual v o

/-- Both packages, with what a text means to both. -/
structure VersionPackages where
  semver : SemverPackage
  goVersion : GoVersionPackage
  agree {text : String} {version : Version} {other : GoVersion} :
    semver.newVersion text = .ok version → goVersion.newVersion text = some other →
      other.segments = version.numbers ∧ other.pre = version.pre

namespace GoVersion

/-- Identifiers between dots, none of them empty. They may contain `~`. -/
def identifiers (s : List Char) : Bool :=
  (s.splitOn '.').all (fun part =>
    !part.isEmpty && part.all (fun c => c.isAlphanum || c == '-' || c == '~'))

/-- The `-` in front may be missing, and belongs to the prerelease where nothing
else can start it. -/
def parsePre (s : List Char) : Option String :=
  match s with
  | '-' :: pre =>
    if identifiers pre then some (String.ofList pre)
    else if identifiers s then some (String.ofList s) else none
  | s => if identifiers s then some (String.ofList s) else none

def parseSuffix (s : List Char) : Option (String × String) :=
  let pre := s.takeWhile (· ≠ '+')
  match if pre = [] then some "" else parsePre pre, s.dropWhile (· ≠ '+') with
  | some pre, [] => some (pre, "")
  | some pre, _ :: metadata =>
    if identifiers metadata then some (pre, String.ofList metadata) else none
  | none, _ => none

/-- Any number of numbers between dots; the missing ones of three are zero. -/
def parseSegments (parts : List (List Char)) : Option (List Int) :=
  if parts.all (fun part => !part.isEmpty) then
    match parts.mapM (fun part => parseInt64 (String.ofList part)) with
    | some numbers => some (numbers ++ List.replicate (3 - numbers.length) 0)
    | none => none
  else none

def newVersion (v : String) : Option GoVersion :=
  let (core, suffix) := divide v
  match parseSegments core, parseSuffix suffix with
  | some segments, some (pre, metadata) => some ⟨segments, pre, metadata⟩
  | _, _ => none

/-- The shorter list counts as filled up with zeros. -/
def compareSegments : List Int → List Int → Ordering
  | [], others => if others.all (· == 0) then .eq else .lt
  | segments, [] => if segments.all (· == 0) then .eq else .gt
  | s :: segments, o :: others =>
    (Version.compareSegment s o).then (compareSegments segments others)

def greaterThanOrEqual (v o : GoVersion) : Bool :=
  -- The operator never compares two prereleases of one version.
  if v.segments = o.segments then v.pre == "" || o.pre != ""
  else compareSegments v.segments o.segments != .lt

/-- The constraint `>= bound`, the bound. The package knows other constraints. -/
def newConstraint (c : String) : Option GoVersion :=
  match c.toList with
  | '>' :: '=' :: ' ' :: rest => newVersion (String.ofList rest)
  | _ => none

def check (bound v : GoVersion) : Bool :=
  (v.pre == "" || bound.pre != "" && v.segments == bound.segments) && v.greaterThanOrEqual bound

theorem compareSegments_lt {segments others : List Int} (same : segments.length = others.length) :
    compareSegments segments others = .lt ↔ segments < others := by
  induction segments generalizing others with
  | nil =>
    obtain rfl : others = [] := List.eq_nil_of_length_eq_zero same.symm
    simp [compareSegments]
  | cons s segments ih =>
    cases others with
    | nil => simp at same
    | cons o others =>
      have rest := ih (Nat.succ.inj same)
      rw [compareSegments, List.cons_lt_cons_iff, Version.compareSegment]
      rcases Int.lt_trichotomy s o with below | rfl | above
      · simp [below]
      · simp [rest]
      · simp [above, Int.lt_asymm above, Int.ne_of_gt above]

theorem greaterThanOrEqual_iff {v o : GoVersion} (same : v.segments.length = o.segments.length)
    (release : o.pre = "") : v.greaterThanOrEqual o = true ↔
      ¬ v.segments < o.segments ∧ (v.segments = o.segments → v.pre = "") := by
  have order := compareSegments_lt same
  rw [greaterThanOrEqual]
  by_cases equal : v.segments = o.segments
  · simp [equal, release]
  · simp [equal, order]

theorem newVersion_printed {numbers : List Int} (filled : numbers ≠ [])
    (counts : ∀ n ∈ numbers, VersionNumber n) : newVersion (dotted numbers) =
      some ⟨numbers ++ .replicate (3 - numbers.length) 0, "", ""⟩ := by
  have parts : (numbers.map fun n => n.repr.toList).all (fun part => !part.isEmpty) := by
    have digits : ∀ n ∈ numbers, n.repr.toList ≠ [] := fun n member =>
      toList_repr (counts n member).1 ▸ Nat.toDigits_ne_nil
    simpa using digits
  have segments : parseSegments (numbers.map fun n => n.repr.toList) =
      some (numbers ++ .replicate (3 - numbers.length) 0) := by
    rw [parseSegments, if_pos parts, mapM_repr counts]
  rw [newVersion, divide_dotted filled fun n member => (counts n member).1]
  simp only [segments]
  rfl

end GoVersion

def hashicorp : GoVersionPackage where
  Constraints := GoVersion
  newVersion := GoVersion.newVersion
  greaterThanOrEqual := GoVersion.greaterThanOrEqual
  newConstraint := GoVersion.newConstraint
  check := GoVersion.check
  newVersion_dotted := GoVersion.newVersion_printed
  greaterThanOrEqual_release := GoVersion.greaterThanOrEqual_iff
  atLeast {_ o} parsed release := ⟨o, by simpa [GoVersion.newConstraint] using parsed,
    fun v plain => by simp [GoVersion.check, plain]⟩

section Agreement

variable {v : String} {version : Version} {s : List Char} {parts : List (List Char)}

theorem parseSuffix_agree {pre pre' metadata metadata' : String}
    (parsed : Version.parseSuffix s = some (pre, metadata))
    (both : GoVersion.parseSuffix s = some (pre', metadata')) : pre' = pre := by
  have wider : ∀ s, Version.identifiers s = true → GoVersion.identifiers s = true := by
    intro s
    simp only [Version.identifiers, GoVersion.identifiers, List.all_eq_true]
    grind
  unfold Version.parseSuffix at parsed
  split at parsed
  · simp_all [GoVersion.parseSuffix]
  · simp_all [GoVersion.parseSuffix]
  · next rest =>
      have start : ('-' :: rest).takeWhile (· ≠ '+') = '-' :: rest.takeWhile (· ≠ '+') := by simp
      simp only [GoVersion.parseSuffix, GoVersion.parsePre, start] at both
      grind
  · cases parsed

theorem parseNumbers_agree {major minor patch : Int}
    (parsed : Version.parseNumbers parts = .ok (major, minor, patch)) :
    GoVersion.parseSegments parts = some [major, minor, patch] := by
  unfold Version.parseNumbers at parsed
  split at parsed
  · next filled =>
      split at parsed
      · next numbers converted =>
          have length := (mapM_parseInt64 converted).1
          rw [GoVersion.parseSegments, if_pos filled.2, converted]
          rcases numbers with _ | ⟨a, _ | ⟨b, _ | ⟨c, _ | ⟨d, rest⟩⟩⟩⟩ <;> cases parsed
          · rfl
          · rfl
          · rfl
          · rfl
          · simp only [List.length_cons] at length
            omega
      · cases parsed
  · cases parsed

theorem newVersion_agree {other : GoVersion} (parsed : Version.newVersion v = .ok version)
    (both : GoVersion.newVersion v = some other) :
    other.segments = version.numbers ∧ other.pre = version.pre := by
  rw [Version.newVersion] at parsed
  rw [GoVersion.newVersion] at both
  dsimp only at parsed both
  split at parsed
  · cases parsed
  next pre metadata suffixed =>
    cases core : Version.parseNumbers (divide v).1 with
    | error err => simp [core] at parsed
    | ok numbers =>
      rw [core] at parsed
      cases parsed
      rw [parseNumbers_agree core] at both
      split at both
      · next segments pre' metadata' same suffixed' =>
          cases both
          cases same
          exact ⟨rfl, parseSuffix_agree suffixed suffixed'⟩
      · cases both

end Agreement

def versionPackages : VersionPackages where
  semver := masterminds
  goVersion := hashicorp
  agree := newVersion_agree

end OpenSearchOperator.Data
