import OpenSearchOperator.Data.GoVersion
import OpenSearchOperator.Helpers.Pods

/-! The functions that ask whether a cluster has a version from 2.0.0 on. Two of them
know nothing of prereleases, and one knows the major versions up to 3. -/

namespace OpenSearchOperator.Helpers

open Api Data Effects

/-- A constraint that cannot be parsed is a panic, nothing here. -/
def checkVersionConstraint (semver : SemverPackage) (ver constraint : String)
    (defaultOnError : Bool) : Option Bool :=
  match semver.newConstraint constraint with
  | .error _ => none
  | .ok versionConstraint =>
    match semver.newVersion ver with
    | .error _ => some defaultOnError
    | .ok version => some (semver.check versionConstraint version)

def securityChangeVersion (semver : SemverPackage) (ver : String) : Option Bool :=
  checkVersionConstraint semver ver ">=2.0.0" true

section GoVersions

variable (goVersion : GoVersionPackage)

def isVersion2OrHigher (ver : String) : Bool :=
  match goVersion.newVersion ver with
  | none => false
  | some versionPassed =>
    match versionPassed.segments with
    | [] => false
    | major :: segments =>
      let baseVersionStr := dotted [major, segments.getD 0 0, segments.getD 1 0]
      match goVersion.newVersion baseVersionStr with
      | none => false
      | some baseVersion =>
        match goVersion.newConstraint ">= 2.0" with
        -- Every version meets constraints that are nil.
        | none => true
        | some constraints => goVersion.check constraints baseVersion

def versionCheck (ver : String) (httpPort : Int) (opensearchHome : String) : Int × Int × String :=
  let httpPort := if 0 < httpPort then httpPort else 9200
  if isVersion2OrHigher goVersion ver then
    (httpPort, httpPort, opensearchHome ++ "/config/opensearch-security")
  else (httpPort, 9300, opensearchHome ++ "/plugins/opensearch-security/securityconfig")

def resolveClusterManagerRole (ver : String) : String :=
  match goVersion.newVersion ver, goVersion.newVersion "2.0.0" with
  | some osVer, some clusterManagerVer =>
    if goVersion.greaterThanOrEqual osVer clusterManagerVer then "cluster_manager" else "master"
  | _, _ => "master"

def roleMap (majorVersion : Int) (role : String) : Option String :=
  if majorVersion = 1 ∧ role = "cluster_manager" then some "master"
  else if (majorVersion = 2 ∨ majorVersion = 3) ∧ role = "master" then some "cluster_manager"
  else if majorVersion = 2 ∧ role = "warm" then some "search"
  else none

def mapClusterRole (role ver : String) : String :=
  match goVersion.newVersion ver with
  | none => role
  | some osVer => (roleMap (osVer.segments.getD 0 0) role).getD role

def mapClusterRoles (roles : List String) (ver : String) : List String :=
  roles.map fun role => mapClusterRole goVersion role ver

def isMasterPool (ver : String) (nodePool : NodePool) : Bool :=
  (mapClusterRoles goVersion nodePool.roles ver).contains (resolveClusterManagerRole goVersion ver)

def allMastersReady (cr : OpenSearchCluster) : List NodePool → Prog Bool
  | [] => return true
  | nodePool :: nodePools => do
      if isMasterPool goVersion cr.spec.general.version nodePool then
        match ← getStatefulSet (stsName cr nodePool) with
        | .error _ => return false
        | .ok sts =>
          match ← readyReplicasForNodePool cr nodePool with
          | .error _ => return false
          | .ok readyReplicas =>
            if readyReplicas ≠ sts.replicas then return false
            else allMastersReady cr nodePools
      else allMastersReady cr nodePools

end GoVersions

def BaseFrom2 (version : Version) : Prop := ¬ version.numbers < [2, 0, 0]

structure GatesAgree (packages : VersionPackages) (ver : String) (version : Version) : Prop where
  security : securityChangeVersion packages.semver ver = some true ↔ BaseFrom2 version
  check : isVersion2OrHigher packages.goVersion ver = true ↔ BaseFrom2 version
  resolve : resolveClusterManagerRole packages.goVersion ver = "cluster_manager" ↔
    BaseFrom2 version
  map : mapClusterRole packages.goVersion "master" ver = "cluster_manager" ∧
    mapClusterRole packages.goVersion "cluster_manager" ver = "cluster_manager" ↔
      BaseFrom2 version

section Gates

variable {packages : VersionPackages} {ver : String} {version : Version} {other : GoVersion}
  (parsed : packages.semver.newVersion ver = .ok version)
  (both : packages.goVersion.newVersion ver = some other)

theorem resolved_bound (goVersion : GoVersionPackage) :
    goVersion.newVersion "2.0.0" = some ⟨[2, 0, 0], "", ""⟩ := by
  have text : dotted [2, 0, 0] = "2.0.0" := by decide
  rw [← text]
  exact goVersion.newVersion_dotted (List.cons_ne_nil 2 [0, 0]) (by simp [VersionNumber])

theorem checked_bound (goVersion : GoVersionPackage) :
    ∃ constraints, goVersion.newConstraint ">= 2.0" = some constraints ∧ ∀ v, v.pre = "" →
      goVersion.check constraints v = goVersion.greaterThanOrEqual v ⟨[2, 0, 0], "", ""⟩ := by
  have text : ">= " ++ dotted [2, 0] = ">= 2.0" := by decide
  rw [← text]
  exact goVersion.atLeast
    (goVersion.newVersion_dotted (List.cons_ne_nil 2 [0]) (by simp [VersionNumber])) rfl

include parsed

theorem baseFrom2_iff : BaseFrom2 version ↔ 2 ≤ version.major := by
  have below := numbers_lt_major (packages.semver.newVersion_numbers parsed) 2
  rw [BaseFrom2, below]
  exact Int.not_lt

theorem securityChangeVersion_iff : securityChangeVersion packages.semver ver = some true ↔
    version.pre = "" ∧ 2 ≤ version.major := by
  have text : ">=" ++ dotted [2, 0, 0] = ">=2.0.0" := by decide
  have built : ∃ c, packages.semver.newConstraint (">=" ++ dotted [2, 0, 0]) = .ok c ∧
      ∀ v, packages.semver.check c v = true ↔ v.pre = "" ∧ ¬ v.numbers < [2, 0, 0] :=
    packages.semver.atLeast (by simp [VersionNumber])
  rw [text] at built
  obtain ⟨constraint, built, meets⟩ := built
  simp only [securityChangeVersion, checkVersionConstraint, built, parsed, Option.some.injEq]
  rw [meets, ← baseFrom2_iff parsed, BaseFrom2]

include both

/-- The numbers that are printed are those that were parsed, so they are parsed again. -/
theorem isVersion2OrHigher_iff :
    isVersion2OrHigher packages.goVersion ver = true ↔ 2 ≤ version.major := by
  obtain ⟨constraints, built, meets⟩ := checked_bound packages.goVersion
  have printed := packages.goVersion.newVersion_dotted
    (List.cons_ne_nil version.major [version.minor, version.patch])
    (packages.semver.newVersion_numbers parsed)
  have order := packages.goVersion.greaterThanOrEqual_release
    (v := ⟨version.numbers, "", ""⟩) (o := ⟨[2, 0, 0], "", ""⟩) rfl rfl
  rw [← baseFrom2_iff parsed, BaseFrom2]
  simp only [isVersion2OrHigher, both, (packages.agree parsed both).1, Version.numbers] at *
  simp only [List.getD_cons_zero, List.getD_cons_succ, printed, built]
  rw [meets _ rfl]
  simpa using order

theorem resolve_iff : resolveClusterManagerRole packages.goVersion ver = "cluster_manager" ↔
    2 ≤ version.major ∧
      ¬ (version.major = 2 ∧ version.minor = 0 ∧ version.patch = 0 ∧ version.pre ≠ "") := by
  obtain ⟨segments, pre⟩ := packages.agree parsed both
  have order := packages.goVersion.greaterThanOrEqual_release
    (v := other) (o := ⟨[2, 0, 0], "", ""⟩) (by rw [segments]; rfl) rfl
  rw [segments, pre, ← BaseFrom2, baseFrom2_iff parsed] at order
  simp only [resolveClusterManagerRole, both, resolved_bound, order, Version.numbers]
  grind

theorem mapClusterRole_eq (role : String) : mapClusterRole packages.goVersion role ver =
    (roleMap version.major role).getD role := by
  simp [mapClusterRole, both, (packages.agree parsed both).1, Version.numbers]

theorem gatesAgree_iff :
    GatesAgree packages ver version ↔ version.major < 2 ∨ version.pre = "" ∧ version.major ≤ 3 := by
  have base := baseFrom2_iff parsed
  have security := securityChangeVersion_iff parsed
  have check := isVersion2OrHigher_iff parsed both
  have resolve := resolve_iff parsed both
  constructor
  · intro agree
    have mapped := agree.map
    have accepted := agree.security
    simp only [mapClusterRole_eq parsed both, roleMap] at mapped
    grind
  · intro known
    refine ⟨?_, ?_, ?_, ?_⟩
    · grind
    · grind
    · grind
    · simp only [mapClusterRole_eq parsed both, roleMap]
      grind

omit parsed in
theorem resolve_master : resolveClusterManagerRole packages.goVersion ver = "cluster_manager" ∨
    resolveClusterManagerRole packages.goVersion ver = "master" := by
  rw [resolveClusterManagerRole, both]
  grind

omit parsed both in
theorem isMasterPool_eq {goVersion : GoVersionPackage}
    (each : ∀ role, mapClusterRole goVersion role ver = resolveClusterManagerRole goVersion ver ↔
      role = "master" ∨ role = "cluster_manager") (nodePool : NodePool) :
    isMasterPool goVersion ver nodePool = hasManagerRole nodePool := by
  rw [Bool.eq_iff_iff]
  simp only [isMasterPool, mapClusterRoles, hasManagerRole, List.contains_iff_mem, List.mem_map,
    each, Bool.or_eq_true]
  grind

end Gates

/-- The gates agree, and the pools with a manager role are those that are examined,
for releases from 1 to 3 and for prereleases of 1. -/
theorem version_gates_agree_iff (packages : VersionPackages) (ver : String) (version : Version)
    (other : GoVersion) (parsed : packages.semver.newVersion ver = .ok version)
    (both : packages.goVersion.newVersion ver = some other) :
    (GatesAgree packages ver version ∧
      ∀ nodePool, isMasterPool packages.goVersion ver nodePool = hasManagerRole nodePool) ↔
      version.major = 1 ∨ version.pre = "" ∧ (version.major = 2 ∨ version.major = 3) := by
  have major := (packages.semver.newVersion_numbers parsed version.major List.mem_cons_self).1
  have resolve := resolve_iff parsed both
  have either := resolve_master both
  rw [gatesAgree_iff parsed both]
  constructor
  · rintro ⟨known, examined⟩
    have managers := examined ⟨"", 1, ["cluster_manager"], none, 1, "", ""⟩
    have zero : version.major ≠ 0 := by
      intro zero
      have role : resolveClusterManagerRole packages.goVersion ver = "master" := by grind
      simp [isMasterPool, mapClusterRoles, mapClusterRole_eq parsed both, role, roleMap, zero,
        hasManagerRole] at managers
    grind
  · intro known
    refine ⟨by grind, isMasterPool_eq fun role => ?_⟩
    rw [mapClusterRole_eq parsed both, roleMap]
    grind

theorem gates_agree_on_release :
    masterminds.newVersion "2.11.0" = .ok ⟨2, 11, 0, "", ""⟩ ∧
    GatesAgree versionPackages "2.11.0" ⟨2, 11, 0, "", ""⟩ ∧
      ∀ nodePool, isMasterPool hashicorp "2.11.0" nodePool = hasManagerRole nodePool :=
  ⟨by decide, (version_gates_agree_iff versionPackages "2.11.0" ⟨2, 11, 0, "", ""⟩
    ⟨[2, 11, 0], "", ""⟩ (by decide) (by decide)).mpr (Or.inr ⟨rfl, Or.inl rfl⟩)⟩

/-- A prerelease of 3.0.0, one of 2.0.0, version 4.0.0 and version 0.9.0: gates that
disagree and managers that nobody looks at. -/
theorem version_gates_disagree :
    (securityChangeVersion masterminds "3.0.0-rc1" = some false ∧
      isVersion2OrHigher hashicorp "3.0.0-rc1" = true) ∧
    (resolveClusterManagerRole hashicorp "2.0.0-rc1" = "master" ∧
      isVersion2OrHigher hashicorp "2.0.0-rc1" = true ∧
      isMasterPool hashicorp "2.0.0-rc1"
        ⟨"", 1, ["master", "cluster_manager"], none, 1, "", ""⟩ = false) ∧
    (mapClusterRole hashicorp "master" "4.0.0" = "master" ∧
      securityChangeVersion masterminds "4.0.0" = some true ∧
      isMasterPool hashicorp "4.0.0" ⟨"", 1, ["master"], none, 1, "", ""⟩ = false) ∧
    isMasterPool hashicorp "0.9.0" ⟨"", 1, ["cluster_manager"], none, 1, "", ""⟩ = false := by
  decide

end OpenSearchOperator.Helpers
