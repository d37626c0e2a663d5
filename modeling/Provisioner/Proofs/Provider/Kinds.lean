import Provisioner.Provider
/-!
# The kinds of the standard provider

The standard provider serves four kinds of resources, each under a type name of its own, and one
data source. Whatever it is asked, its task is that of the adapter of the kind, run on states that
fit; all other calls are refused without a call of the workspace. `Provider.task_cases` says this
once, so that a property of all tasks of the provider is one of the adapters' tasks.
-/

namespace Provisioner

open Space (IdSupply)

inductive Kind where
  | genieSpace
  | appDeployment
  | metricView
  | sqlExecution
deriving DecidableEq, Repr

namespace Kind

def name : Kind → String
  | genieSpace => "genie_space"
  | appDeployment => "app_deployment"
  | metricView => "metric_view"
  | sqlExecution => "sql_execution"

def all : List Kind := [genieSpace, appDeployment, metricView, sqlExecution]

abbrev State : Kind → Type
  | genieSpace => GenieSpace.State
  | appDeployment => AppDeployment.State
  | metricView => MetricView.State
  | sqlExecution => SqlExecution.State

def adapter (wait : Nat) : (k : Kind) → Adapter k.State
  | genieSpace => GenieSpace.adapter
  | appDeployment => AppDeployment.adapter
  | metricView => MetricView.adapter wait
  | sqlExecution => SqlExecution.adapter wait

theorem mem_all (k : Kind) : k ∈ all := by
  cases k <;> decide

theorem name_inj {k k' : Kind} : k.name = k'.name ↔ k = k' := by
  cases k <;> cases k' <;> decide

end Kind

/-! ### Type names -/

theorem qualifiedName_inj {typeNamePrefix a b : String} :
    qualifiedName typeNamePrefix a = qualifiedName typeNamePrefix b ↔ a = b := by
  constructor
  · intro h
    have hlists := congrArg String.toList h
    simp only [qualifiedName, String.toList_append, List.append_assoc,
      List.append_cancel_left_eq] at hlists
    exact String.toList_inj.mp hlists
  · rintro rfl
    rfl

def Options.typeName (o : Options) (k : Kind) : String := qualifiedName o.typeNamePrefix k.name

/-- The kind that is served under a type name. -/
def Options.kind? (o : Options) (t : String) : Option Kind :=
  Kind.all.find? fun k => t == o.typeName k

variable {o : Options} {t : String} {k k' : Kind}

theorem Options.typeName_inj : o.typeName k = o.typeName k' ↔ k = k' :=
  qualifiedName_inj.trans Kind.name_inj

theorem Options.kind?_eq_some_iff : o.kind? t = some k ↔ t = o.typeName k := by
  constructor
  · intro h
    simpa using List.find?_some h
  · intro h
    cases hfound : o.kind? t with
    | none =>
      have hnone := List.find?_eq_none.mp hfound k k.mem_all
      exact absurd h (by simpa using hnone)
    | some k' =>
      have hname : t = o.typeName k' := by simpa using List.find?_some hfound
      have heq : o.typeName k' = o.typeName k := hname.symm.trans h
      rw [Options.typeName_inj.mp heq]

namespace Provider

theorem resource_typeName (o : Options) (k : Kind) :
    (standard o).resource (o.typeName k) = .ok (k.adapter o.waitTimeout).erase := by
  have hget : (standard o).resources.get? (o.typeName k) =
      some (k.adapter o.waitTimeout).erase := by
    cases k <;>
      simp [standard, withDataSource, withResource, empty, Dict.get?_insert, Options.typeName,
        qualifiedName_inj, Kind.name, Kind.adapter, Adapter.erase, GenieSpace.adapter,
        AppDeployment.adapter, MetricView.adapter, SqlExecution.adapter]
  rw [resource, lookUp, hget]

theorem resource_of_kind?_eq_none (h : o.kind? t = none) :
    (standard o).resource t = .error (.unknownResource t) := by
  have hne (k : Kind) : t ≠ o.typeName k := by
    intro ht
    rw [Options.kind?_eq_some_iff.mpr ht] at h
    cases h
  have hgenie := hne .genieSpace
  have happ := hne .appDeployment
  have hview := hne .metricView
  have hsql := hne .sqlExecution
  have hget : (standard o).resources.get? t = none := by
    simp only [Options.typeName, Kind.name] at hgenie happ hview hsql
    simp [standard, withDataSource, withResource, empty, Dict.get?_insert, Adapter.erase,
      GenieSpace.adapter, AppDeployment.adapter, MetricView.adapter, SqlExecution.adapter,
      hgenie, happ, hview, hsql]
  rw [resource, lookUp, hget]

theorem resource_standard (o : Options) (t : String) :
    (standard o).resource t =
      match o.kind? t with
      | some k => .ok (k.adapter o.waitTimeout).erase
      | none => .error (.unknownResource t) := by
  cases hkind : o.kind? t with
  | none => exact resource_of_kind?_eq_none hkind
  | some k =>
    obtain rfl := Options.kind?_eq_some_iff.mp hkind
    exact resource_typeName o k

theorem dataSource_standard (o : Options) (t : String) :
    (standard o).dataSource t =
      if t = o.typeName .genieSpace then .ok GenieSpace.lookupAdapter.erase
      else .error (.unknownResource t) := by
  have hget : (standard o).dataSources.get? t =
      if t = o.typeName .genieSpace then some GenieSpace.lookupAdapter.erase else none :=
    Dict.get?_insert .empty (o.typeName .genieSpace) t GenieSpace.lookupAdapter.erase
  rw [dataSource, lookUp, hget]
  by_cases ht : t = o.typeName .genieSpace
  · rw [if_pos ht, if_pos ht]
  · rw [if_neg ht, if_neg ht]

/-! ### Tasks -/

variable {α β : Type}

theorem serving_cases {P : Task α → Prop} {next : Resource → Task α}
    (unknown : P (.fail (.unknownResource t)))
    (known : ∀ k, t = o.typeName k → P (next (k.adapter o.waitTimeout).erase)) :
    P (serving ((standard o).resource t) next) := by
  rw [resource_standard]
  cases hkind : o.kind? t with
  | none => exact unknown
  | some k => exact known k (Options.kind?_eq_some_iff.mp hkind)

theorem reading_cases {P : Task α → Prop} {value : Except Json.Error β} {next : β → Task α}
    (misfit : ∀ e, value = .error e → P (.fail (.serialization e)))
    (fits : ∀ b, value = .ok b → P (next b)) : P (.reading value next) := by
  cases value with
  | error e => exact misfit e rfl
  | ok b => exact fits b rfl

section Fits

variable {ids : IdSupply} {state : Json} {q : k.State}

theorem task_create (h : (k.adapter o.waitTimeout).codec.ofValue state = .ok q) :
    (standard o).task ids (.create (o.typeName k) state) =
      ((k.adapter o.waitTimeout).create ids q).map (k.adapter o.waitTimeout).codec.toValue := by
  simp only [task, resource_typeName, serving, Adapter.erase, h]
  rfl

theorem task_read (h : (k.adapter o.waitTimeout).codec.ofValue state = .ok q) :
    (standard o).task ids (.read (o.typeName k) state) =
      ((k.adapter o.waitTimeout).read q).map fun refreshed =>
        refreshed.toOption.map (k.adapter o.waitTimeout).codec.toValue := by
  simp only [task, resource_typeName, serving, Adapter.erase, h]
  rfl

theorem task_read_misfit {e : Json.Error}
    (h : (k.adapter o.waitTimeout).codec.ofValue state = .error e) :
    (standard o).task ids (.read (o.typeName k) state) = .fail (.serialization e) := by
  simp only [task, resource_typeName, serving, Adapter.erase, h]
  rfl

end Fits

/-- What holds of refusals and, for states that fit, of the tasks of the adapters holds of every task
    of the standard provider. -/
theorem task_cases {ids : IdSupply} {P : (call : Call Json) → Task call.Reply → Prop}
    (unknown : ∀ call t, P call (.fail (.unknownResource t)))
    (misfit : ∀ call e, P call (.fail (.serialization e)))
    (create : ∀ (k : Kind) plan p, (k.adapter o.waitTimeout).codec.ofValue plan = .ok p →
      P (.create (o.typeName k) plan)
        (((k.adapter o.waitTimeout).create ids p).map (k.adapter o.waitTimeout).codec.toValue))
    (read : ∀ (k : Kind) state q, (k.adapter o.waitTimeout).codec.ofValue state = .ok q →
      P (.read (o.typeName k) state)
        (((k.adapter o.waitTimeout).read q).map fun refreshed =>
          refreshed.toOption.map (k.adapter o.waitTimeout).codec.toValue))
    (update : ∀ (k : Kind) prior plan q p, (k.adapter o.waitTimeout).codec.ofValue prior = .ok q →
      (k.adapter o.waitTimeout).codec.ofValue plan = .ok p →
      P (.update (o.typeName k) prior plan)
        (((k.adapter o.waitTimeout).update ids q p).map (k.adapter o.waitTimeout).codec.toValue))
    (delete : ∀ (k : Kind) state q, (k.adapter o.waitTimeout).codec.ofValue state = .ok q →
      P (.delete (o.typeName k) state) ((k.adapter o.waitTimeout).delete q))
    (importResource : ∀ (k : Kind) id, P (.importResource (o.typeName k) id)
      (.done ((((k.adapter o.waitTimeout).importState id).map
        (k.adapter o.waitTimeout).codec.toValue).map fun state => ⟨o.typeName k, state⟩)))
    (lookup : ∀ config c, GenieSpace.Lookup.codec.ofValue config = .ok c →
      P (.readDataSource (o.typeName .genieSpace) config)
        ((GenieSpace.lookup c).map GenieSpace.Lookup.codec.toValue))
    (call : Call Json) : P call ((standard o).task ids call) := by
  cases call with
  | create t plan =>
    apply serving_cases (unknown _ t)
    rintro k rfl
    exact reading_cases (fun e _ => misfit _ e) (create k plan)
  | read t state =>
    apply serving_cases (unknown _ t)
    rintro k rfl
    exact reading_cases (fun e _ => misfit _ e) (read k state)
  | update t prior plan =>
    apply serving_cases (unknown _ t)
    rintro k rfl
    apply reading_cases (fun e _ => misfit _ e)
    intro q hprior
    exact reading_cases (fun e _ => misfit _ e) fun p => update k prior plan q p hprior
  | delete t state =>
    apply serving_cases (unknown _ t)
    rintro k rfl
    exact reading_cases (fun e _ => misfit _ e) (delete k state)
  | importResource t id =>
    apply serving_cases (unknown _ t)
    rintro k rfl
    exact importResource k id
  | readDataSource t config =>
    rw [task, dataSource_standard]
    by_cases ht : t = o.typeName .genieSpace
    · rw [if_pos ht]
      subst ht
      exact reading_cases (fun e _ => misfit _ e) (lookup config)
    · rw [if_neg ht]
      exact unknown _ t

end Provider

end Provisioner
