import OpenSearchOperator.Data.Semver
import OpenSearchOperator.Reconcilers.Upgrade

/-! Which upgrades are let through, against the order of semantic versions. -/

namespace OpenSearchOperator.Reconcilers.Upgrade

open Api Data

section Precedence

def numeric (identifier : String) : Bool := identifier.toList.all Char.isDigit

def value (identifier : String) : Nat :=
  identifier.toList.foldl (fun n c => 10 * n + (c.toNat - '0'.toNat)) 0

/-- Numbers come before texts, numbers by value and texts by their characters. -/
def IdentifierBelow (s o : String) : Prop :=
  match numeric s, numeric o with
  | true, true => value s < value o
  | true, false => True
  | false, true => False
  | false, false => s < o

def IdentifiersBelow : List String → List String → Prop
  | _, [] => False
  | [], _ :: _ => True
  | s :: ss, o :: os => IdentifierBelow s o ∨ s = o ∧ IdentifiersBelow ss os

/-- Semantic-version order: the three numbers, then a prerelease before its release,
then the identifiers of the prereleases. Metadata does not count. -/
def Below (v o : Version) : Prop :=
  v.major < o.major ∨ v.major = o.major ∧ (v.minor < o.minor ∨ v.minor = o.minor ∧
    (v.patch < o.patch ∨ v.patch = o.patch ∧ v.pre ≠ "" ∧
      (o.pre = "" ∨ IdentifiersBelow (split '.' v.pre) (split '.' o.pre))))

end Precedence

theorem below_release {v o : Version} (release : v.pre = "") :
    Below v o ↔ v.numbers < o.numbers := by
  simp only [Below, Version.numbers, List.cons_lt_cons_iff, release, List.not_lt_nil]
  grind

section Validation

variable (semver : SemverPackage)

/-- The next major version but one is computed in 64 bits: where it does not fit, it is
negative, and no constraint can be made of it. -/
theorem nextMajor_eq {existing : Version} (counts : VersionNumber existing.major) :
    ∃ major, semver.string (semver.incMajor (semver.incMajor existing)) = dotted [major, 0, 0] ∧
      (major = existing.major + 2 ∧ existing.major + 2 < 2 ^ 63 ∨
        major < 0 ∧ 2 ^ 63 ≤ existing.major + 2) := by
  obtain ⟨nonneg, fits⟩ := counts
  refine ⟨((existing.major + 1).bmod 18446744073709551616 + 1).bmod 18446744073709551616, ?_, ?_⟩
  · rw [semver.incMajor_eq, semver.incMajor_eq, semver.string_release]
  · simp only [Int.bmod]
    omega

theorem nextMajor_constraint {existing new : Version}
    (counts : ∀ n ∈ existing.numbers, VersionNumber n)
    (counts' : ∀ n ∈ new.numbers, VersionNumber n) :
    let built := semver.newConstraint
      ("< " ++ semver.string (semver.incMajor (semver.incMajor existing)))
    if existing.major + 2 < 2 ^ 63 then ∃ c, built = .ok c ∧
      (semver.check c new = true ↔ new.pre = "" ∧ new.major ≤ existing.major + 1)
    else ∃ err, built = .error err := by
  intro built
  have major := counts existing.major List.mem_cons_self
  have ahead : new.major < existing.major + 2 ↔ new.major ≤ existing.major + 1 := by omega
  obtain ⟨nextMajor, text, next⟩ := nextMajor_eq semver major
  rcases next with ⟨rfl, fits⟩ | ⟨negative, exceeds⟩
  · have numbers : ∀ n ∈ [existing.major + 2, 0, 0], VersionNumber n := by
      obtain ⟨nonneg, _⟩ := major
      simp only [VersionNumber, List.mem_cons, List.not_mem_nil, or_false, forall_eq_or_imp,
        forall_eq]
      omega
    obtain ⟨c, parsed, meets⟩ := semver.below numbers
    rw [if_pos fits]
    refine ⟨c, ?_, ?_⟩
    · rw [← parsed, ← text]
    · rw [meets, numbers_lt_major counts', ahead]
  · rw [if_neg (by omega)]
    obtain ⟨err, failed⟩ := semver.below_negative 0 0 negative
    exact ⟨err, by rw [← failed, ← text]⟩

/-- What is let through is a release, whatever the order says of prereleases. -/
theorem validateUpgrade_none {cr : OpenSearchCluster} {existing new : Version}
    (current : semver.newVersion cr.status.version = .ok existing)
    (requested : semver.newVersion cr.spec.general.version = .ok new) :
    validateUpgrade semver cr = none ↔ new.pre = "" ∧ existing.major + 2 < 2 ^ 63 ∧
      ¬ Below new existing ∧ new.major ≤ existing.major + 1 := by
  have order : new.pre = "" → (semver.lessThan new existing = true ↔ Below new existing) :=
    fun release => (semver.lessThan_release existing release).trans (below_release release).symm
  have constraint := nextMajor_constraint semver
    (semver.newVersion_numbers current) (semver.newVersion_numbers requested)
  simp only [validateUpgrade, current, requested]
  by_cases fits : existing.major + 2 < 2 ^ 63
  · rw [if_pos fits] at constraint
    obtain ⟨c, built, meets⟩ := constraint
    rw [built]
    grind
  · rw [if_neg fits] at constraint
    obtain ⟨err, failed⟩ := constraint
    rw [failed]
    grind

end Validation

/-- Validation does what it is specified to do unless an upgrade that is allowed leads to
a prerelease, or comes from one of the last two major versions that there are numbers for. -/
theorem validateUpgrade_matches_iff (semver : SemverPackage) (cr : OpenSearchCluster)
    (existing new : Version) (current : semver.newVersion cr.status.version = .ok existing)
    (requested : semver.newVersion cr.spec.general.version = .ok new) :
    (validateUpgrade semver cr = none ↔
        ¬ Below new existing ∧ new.major ≤ existing.major + 1) ↔
      (¬ Below new existing ∧ new.major ≤ existing.major + 1 →
        new.pre = "" ∧ existing.major + 2 < 2 ^ 63) := by
  rw [validateUpgrade_none semver current requested]
  grind

def upgradeTo (existing new : String) : OpenSearchCluster :=
  { name := "logs", resourceVersion := 1
    spec := { general := ⟨new, true⟩, confMgmt := ⟨true⟩, dashboards := ⟨false⟩, nodePools := [] }
    status := ⟨"RUNNING", [], existing, true, 0, "green"⟩ }

theorem next_major_validated :
    validateUpgrade masterminds (upgradeTo "2.11.0" "3.1.0+build7") = none ↔
      ¬ Below ⟨3, 1, 0, "", "build7"⟩ ⟨2, 11, 0, "", ""⟩ ∧ (3 : Int) ≤ 2 + 1 :=
  (validateUpgrade_matches_iff masterminds (upgradeTo "2.11.0" "3.1.0+build7")
    ⟨2, 11, 0, "", ""⟩ ⟨3, 1, 0, "", "build7"⟩ (by decide) (by decide)).mpr
      fun _ => ⟨rfl, by decide⟩

/-- Neither a prerelease of the next minor version nor the same last major version passes. -/
theorem allowed_upgrades_rejected :
    (¬ Below ⟨2, 12, 0, "rc1", ""⟩ ⟨2, 11, 0, "", ""⟩ ∧
      validateUpgrade masterminds (upgradeTo "2.11.0" "2.12.0-rc1") =
        some (.text "version request is more than 1 major version ahead")) ∧
    (¬ Below ⟨9223372036854775806, 0, 1, "", ""⟩ ⟨9223372036854775806, 0, 0, "", ""⟩ ∧
      validateUpgrade masterminds
          (upgradeTo "9223372036854775806.0.0" "9223372036854775806.0.1") =
        some (.text "improper constraint: < -9223372036854775808.0.0")) := by
  refine ⟨⟨?_, by decide⟩, ?_, by decide⟩ <;> simp [Below]

end OpenSearchOperator.Reconcilers.Upgrade
