import Mathlib.Data.Finmap
import Mathlib.Data.Finset.Sort
import Mathlib.Data.List.Lex
import Mathlib.Data.UInt
import OpenSearchOperator.Data.Pieces
import OpenSearchOperator.Effects.Follow
import OpenSearchOperator.Reconcilers.SecurityConfig

/-! The checksum by which a change of the security configuration is noticed. The keys and values
go to the hash one after the other, with nothing between them, so that two configurations have
one checksum if they are the same bytes cut at other places. -/

namespace OpenSearchOperator.Reconcilers.SecurityConfig

open Api Data Effects

variable {second first : SecretData}

abbrev SecretData := Finmap fun _ : Bytes => Bytes

def writes (data : SecretData) : List Bytes :=
  data.keys.sort.flatMap fun key => [key, (data.lookup key).getD []]

def stream (data : SecretData) : Bytes := (writes data).flatten

def checksum (hash : Bytes → String) (data : SecretData) : String := hash (stream data)

theorem writes_singleton {key value : Bytes} :
    writes (Finmap.singleton key value) = [key, value] := by
  simp [writes, Finmap.keys_singleton, Finmap.lookup_singleton_eq]

theorem pairs_inj {f g : Bytes → Bytes} : ∀ {keys others : List Bytes},
    (keys.flatMap fun key => [key, f key]) = (others.flatMap fun key => [key, g key]) →
      keys = others ∧ ∀ key ∈ keys, f key = g key
  | [], [], _ => by simp
  | [], _ :: _, same => by simp at same
  | _ :: _, [], same => by simp at same
  | key :: keys, other :: others, same => by
    simp only [List.flatMap_cons, List.cons_append, List.nil_append, List.cons.injEq] at same
    obtain ⟨rfl, value, rest⟩ := same
    obtain ⟨rfl, values⟩ := pairs_inj rest
    simpa using ⟨value, values⟩

theorem writes_inj (same : writes first = writes second) : first = second := by
  obtain ⟨keys, values⟩ := pairs_inj same
  have members : ∀ key, key ∈ first.keys ↔ key ∈ second.keys := by
    intro key
    rw [← Finset.mem_sort (· ≤ ·), keys, Finset.mem_sort]
  apply Finmap.ext_lookup
  intro key
  by_cases inside : key ∈ first.keys
  · have value := values key ((Finset.mem_sort _).mpr inside)
    obtain ⟨one, held⟩ := Finmap.mem_iff.mp (Finmap.mem_keys.mp inside)
    obtain ⟨two, holds⟩ := Finmap.mem_iff.mp (Finmap.mem_keys.mp ((members key).mp inside))
    simpa [held, holds] using value
  · have outside := mt (members key).mpr inside
    rw [Finmap.lookup_eq_none.mpr (mt Finmap.mem_keys.mpr inside),
      Finmap.lookup_eq_none.mpr (mt Finmap.mem_keys.mpr outside)]

theorem stream_inj (uncut : ¬Recut (writes first) (writes second))
    (same : stream first = stream second) : first = second :=
  writes_inj ((flatten_eq_iff.mp same).resolve_right uncut)

theorem creates_job (lingers : Bool) (components : List ComponentStatus) {checksumval : String}
    {s : ConfigWorld} {job : Job} (there : s.job = some job)
    (other : job.checksum ≠ some checksumval) :
    Call.createJob (newJob checksumval) ∈ followCalls (S := configServer) { lingers }
      (reconcile components checksumval) s := by
  simp [reconcile, replaceJob, startJob, updateSecurityConfigComponentStatus, followCalls,
    Program.ask, answerCall, serveCall, found, there, other]

/-- Only equal configurations have equal streams, and a change makes another checksum and, in
a pass in which every request is served, a new job. -/
structure Notices (hash : Bytes → String) (first second : SecretData) : Prop where
  exact_stream : stream first = stream second ↔ first = second
  other_checksum : first ≠ second → checksum hash first ≠ checksum hash second
  new_job : first ≠ second → ∀ lingers components (s : ConfigWorld) (job : Job),
    s.job = some job → job.checksum = some (checksum hash first) →
      Call.createJob (newJob (checksum hash second)) ∈ followCalls (S := configServer) { lingers }
        (reconcile components (checksum hash second)) s

/-- A change is noticed exactly if it is not a cut of the same bytes at other places. -/
theorem checksum_notices_iff (hash : Bytes → String) (first second : SecretData)
    (no_collision : checksum hash first = checksum hash second → stream first = stream second) :
    Notices hash first second ↔ ¬Recut (writes first) (writes second) := by
  constructor
  · intro notices recut
    obtain ⟨same, differ⟩ := recut_iff.mp recut
    rw [notices.exact_stream.mp same] at differ
    exact differ rfl
  · intro uncut
    have noticed : first ≠ second → checksum hash first ≠ checksum hash second :=
      fun changed same => changed (stream_inj uncut (no_collision same))
    refine ⟨⟨stream_inj uncut, congrArg stream⟩, noticed, ?_⟩
    intro changed lingers components s job there annotated
    apply creates_job lingers components there
    simpa [annotated] using noticed changed

/-- Every change is noticed where the keys and values have the lengths that they had. -/
theorem notices_of_lengths {hash : Bytes → String}
    (no_collision : checksum hash first = checksum hash second → stream first = stream second)
    (lengths : (writes first).map List.length = (writes second).map List.length)
    (changed : first ≠ second) : checksum hash first ≠ checksum hash second := by
  intro same
  have uncut : ¬Recut (writes first) (writes second) := fun recut => (recut_iff.mp recut).2 lengths
  exact changed (stream_inj uncut (no_collision same))

/-- The file `a` with the content `b`, and an empty file `ab`. -/
def oneFile : SecretData := Finmap.singleton [97] [98]

def emptyFile : SecretData := Finmap.singleton [97, 98] []

/-- Files of the same names and lengths, where the hash is the text of the bytes. -/
theorem two_files_noticed :
    Notices (fun bytes => String.ofList (bytes.map fun byte => Char.ofNat byte.toNat))
      oneFile (Finmap.singleton [97] [99]) :=
  (checksum_notices_iff _ oneFile (Finmap.singleton [97] [99]) (by
    simp only [checksum, stream, oneFile, writes_singleton]
    decide)).mpr (by simp [recut_iff, oneFile, writes_singleton])

theorem oneFile_ne_emptyFile : oneFile ≠ emptyFile := by
  intro same
  have written := congrArg writes same
  simp [oneFile, emptyFile, writes_singleton] at written

/-- The change of the one into the other is not noticed, whatever the hash is. -/
theorem moved_byte_unnoticed : oneFile ≠ emptyFile ∧ stream oneFile = stream emptyFile ∧
      ∀ hash components, Call.createJob (newJob (checksum hash emptyFile)) ∉
        followCalls (S := configServer) {} (reconcile components (checksum hash emptyFile))
          ⟨0, components, some ⟨some (checksum hash oneFile), 1, 0, 0, false⟩⟩ := by
  have same : stream oneFile = stream emptyFile := by
    simp [stream, oneFile, emptyFile, writes_singleton]
  refine ⟨oneFile_ne_emptyFile, same, fun hash components => ?_⟩
  simp [reconcile, handleExistingSecurityConfigJob, updateSecurityConfigComponentStatus,
    followCalls, Program.ask, answerCall, serveCall, found, checksum, same, settle]

end OpenSearchOperator.Reconcilers.SecurityConfig
