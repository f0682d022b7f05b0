import OpenSearchOperator.Security.SharedRoles

/-! What one update leaves of a role mapping, written with sets. -/

namespace OpenSearchOperator.Security.SharedRoles

open Api Effects

/-- The mapping has these users, hosts and backend roles, and is gone if there are none. -/
structure Stores (stored : Option RoleMapping) (users : String → Prop) (hosts : List String)
    (backendRoles : String → Prop) : Prop where
  absent : stored = none ↔ (∀ name, ¬ users name) ∧ hosts = [] ∧ ∀ name, ¬ backendRoles name
  present : ∀ mapping ∈ stored, (∀ name, name ∈ mapping.users ↔ users name) ∧
    mapping.hosts = hosts ∧ ∀ name, name ∈ mapping.backendRoles ↔ backendRoles name

variable {role : String} {mapping : RoleMapping} {users backendRoles : String → Prop}

theorem stores_kept (inUsers : ∀ name, name ∈ mapping.users ↔ users name)
    (inRoles : ∀ name, name ∈ mapping.backendRoles ↔ backendRoles name) :
    Stores (kept mapping) users mapping.hosts backendRoles := by
  have empty : ∀ names : List String, (∀ name, name ∉ names) ↔ names = [] := fun names =>
    List.eq_nil_iff_forall_not_mem.symm
  constructor
  · simp only [← inUsers, ← inRoles, empty, kept, List.length_pos_iff]
    grind
  · simp only [kept]
    grind

theorem stores_same (inUsers : ∀ name, name ∈ mapping.users ↔ users name)
    (inRoles : ∀ name, name ∈ mapping.backendRoles ↔ backendRoles name)
    (filled : ∃ name, users name ∨ backendRoles name) :
    Stores (some mapping) users mapping.hosts backendRoles :=
  ⟨by grind, by grind⟩

theorem setMapping_here {mappings : Mappings} {stored : Option RoleMapping} :
    setMapping mappings role stored role = stored := if_pos rfl

/-- The stored mapping after an update that succeeds while nobody else writes: what was
there without what was provisioned and is no longer specified, and what is specified;
and after a removal, what was there without what is removed. -/
theorem mapping_update_equation (binding : UserRoleBinding) (role : String) (old : RoleMapping)
    (start : BindingWorld) (stored : start.mappings role = some old)
    (specified : binding.spec.users ≠ [] ∨ binding.spec.backendRoles ≠ [])
    (outcomes : List Outcome) :
    let choices : List BindingChoice := outcomes.map fun outcome => { outcome := outcome }
    (let run := exec (S := bindingServer) (reconcileExistingMapping binding role
        (diffSlice binding.status.provisionedUsers binding.spec.users)
        (diffSlice binding.status.provisionedBackendRoles binding.spec.backendRoles))
        choices ⟨start, []⟩
     run.1 = some none → Stores (run.2.state.mappings role)
        (fun name => (name ∈ old.users ∧ ¬ (name ∈ binding.status.provisionedUsers ∧
          name ∉ binding.spec.users)) ∨ name ∈ binding.spec.users) old.hosts
        (fun name => (name ∈ old.backendRoles ∧ ¬ (name ∈ binding.status.provisionedBackendRoles ∧
          name ∉ binding.spec.backendRoles)) ∨ name ∈ binding.spec.backendRoles)) ∧
    ∀ users backendRoles : List String,
      let run := exec (S := bindingServer) (removeObjectsFromMapping role users backendRoles)
        choices ⟨start, []⟩
      run.1 = some none → Stores (run.2.state.mappings role)
        (fun name => name ∈ old.users ∧ name ∉ users) old.hosts
        (fun name => name ∈ old.backendRoles ∧ name ∉ backendRoles) := by
  intro choices
  have alone : ∀ {α : Type} (program : BindingProg α),
      ∀ e ∈ (exec (S := bindingServer) program choices ⟨start, []⟩).2.past, Alone e := by
    intro α program e happened
    rcases exec_choices _ choices _ e happened with impossible | driven
    · cases impossible
    · obtain ⟨outcome, _, same⟩ := List.mem_map.mp driven
      rw [Alone, ← same]
  constructor
  · intro run success
    obtain ⟨mapping, fetched, either⟩ := ((safe_reconcileExistingMapping binding _ _ _).outcome
      choices (alone _)).1 none success rfl
    cases stored.symm.trans fetched
    have inUsers : ∀ name, name ∈ (granted binding old).users ↔ (name ∈ old.users ∧
        ¬ (name ∈ binding.status.provisionedUsers ∧ name ∉ binding.spec.users)) ∨
          name ∈ binding.spec.users := by
      intro name
      simp only [List.mem_append, mem_diffSlice]
      tauto
    have inRoles : ∀ name, name ∈ (granted binding old).backendRoles ↔
        (name ∈ old.backendRoles ∧ ¬ (name ∈ binding.status.provisionedBackendRoles ∧
          name ∉ binding.spec.backendRoles)) ∨ name ∈ binding.spec.backendRoles := by
      intro name
      simp only [List.mem_append, mem_diffSlice]
      tauto
    rcases either with saved | ⟨left, equal⟩
    · rw [saved, setMapping_here]
      exact stores_kept inUsers inRoles
    change granted binding old = old at equal
    rw [equal] at inUsers inRoles
    rw [left, stored]
    refine stores_same inUsers inRoles ?_
    rcases specified with some | some
    · exact (List.exists_mem_of_ne_nil _ some).imp fun _ member => Or.inl (Or.inr member)
    · exact (List.exists_mem_of_ne_nil _ some).imp fun _ member => Or.inr (Or.inr member)
  · intro users backendRoles run success
    obtain ⟨mapping, fetched, saved⟩ :=
      ((safe_removeObjectsFromMapping users backendRoles _).outcome
      choices (alone _)).1 none success rfl
    cases stored.symm.trans fetched
    rw [saved, setMapping_here]
    exact stores_kept (fun _ => mem_diffSlice) fun _ => mem_diffSlice

def adminsMapping : BindingWorld where
  binding := none
  cluster := none
  mappings := fun role => if role = "admin" then some ⟨["ops"], [], ["ann", "bob", "bob"]⟩ else none

def bobRevoked : UserRoleBinding :=
  { resourceVersion := 1, finalizer := true, deleting := false
    spec := ⟨["admin"], ["eve"], []⟩
    status := ⟨.created, "", none, ["admin"], ["bob"], []⟩ }

theorem bob_replaced_by_eve :
    ((exec (S := bindingServer) (reconcileExistingMapping bobRevoked "admin" ["bob"] [])
      [{}, {}] ⟨adminsMapping, []⟩).2.state.mappings "admin").map RoleMapping.users =
        some ["ann", "eve"] ∧
    Stores ((exec (S := bindingServer) (reconcileExistingMapping bobRevoked "admin" ["bob"] [])
      [{}, {}] ⟨adminsMapping, []⟩).2.state.mappings "admin")
      (fun name => (name ∈ ["ann", "bob", "bob"] ∧ ¬ (name ∈ ["bob"] ∧ name ∉ ["eve"])) ∨
        name ∈ ["eve"]) []
      (fun name => (name ∈ ["ops"] ∧ ¬ (name ∈ [] ∧ name ∉ [])) ∨ name ∈ []) :=
  ⟨by decide, (mapping_update_equation bobRevoked "admin" ⟨["ops"], [], ["ann", "bob", "bob"]⟩
    adminsMapping rfl (Or.inl (by decide)) [.served, .served]).1 (by decide)⟩

end OpenSearchOperator.Security.SharedRoles
