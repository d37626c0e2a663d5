import Mathlib.Data.List.Induction
import Provisioner.Proofs.Provider.Fitting
import Provisioner.Proofs.Text.ByteOrder
import Provisioner.Resource.Echo
/-!
# What is registered is what is served

A provider comes about by registrations, one after the other (`Provider.registered`). Its two
registries are dictionaries of what was registered, in which the last registration under a type name
counts (`Provider.registered_eq`). What it means to be served out of such a dictionary is the same
for both (`Provider.Dispatches`). So what the provider lists and what it serves are the same type
names, and who serves one of them does not depend on any other name, nor on the other registry
(`Provider.dispatch_registered`).
-/

namespace Provisioner

open Space (IdSupply)

variable {α β σ : Type} {o : Options} {t : String}

/-! ### Registrations -/

inductive Registration where
  | resource (r : Resource)
  | dataSource (d : DataSource)

namespace Registration

def resource? : Registration → Option Resource
  | resource r => some r
  | dataSource _ => none

def dataSource? : Registration → Option DataSource
  | resource _ => none
  | dataSource d => some d

@[simp] theorem resource?_eq_some_iff {registration : Registration} {r : Resource} :
    registration.resource? = some r ↔ registration = resource r := by
  cases registration <;> simp [resource?]

@[simp] theorem dataSource?_eq_some_iff {registration : Registration} {d : DataSource} :
    registration.dataSource? = some d ↔ registration = dataSource d := by
  cases registration <;> simp [dataSource?]

end Registration

/-- What goes by its own name, listed by type names. -/
def Options.named (o : Options) (name : α → String) (as : List α) : List (String × α) :=
  as.map fun a => (qualifiedName o.typeNamePrefix (name a), a)

/-- Those of some resources or data sources that have a type name, in order. -/
def Options.under (o : Options) (name : α → String) (t : String) (as : List α) : List α :=
  as.filter fun a => qualifiedName o.typeNamePrefix (name a) = t

/-- The resources that were registered under a type name, in order. -/
def resourcesUnder (o : Options) (t : String) (history : List Registration) : List Resource :=
  o.under Resource.typeName t (history.filterMap Registration.resource?)

/-- The data sources that were registered under a type name, in order. -/
def dataSourcesUnder (o : Options) (t : String) (history : List Registration) : List DataSource :=
  o.under DataSource.typeName t (history.filterMap Registration.dataSource?)

/-! ### Registries -/

theorem ofList_named_append (name : α → String) (as : List α) (a : α) :
    Dict.ofList (o.named name (as ++ [a])) =
      (Dict.ofList (o.named name as)).insert (qualifiedName o.typeNamePrefix (name a)) a := by
  rw [Options.named, List.map_append]
  exact Dict.ofList_append_singleton ..

theorem get?_ofList_named (name : α → String) (as : List α) :
    (Dict.ofList (o.named name as)).get? t = (o.under name t as).getLast? := by
  rw [Dict.get?_ofList, Options.named, List.filter_map, List.getLast?_map, Option.map_map]
  exact congrFun Option.map_id _

theorem mem_keys_named (name : α → String) (as : List α) :
    t ∈ (Dict.ofList (o.named name as)).keys ↔
      ∃ a ∈ as, qualifiedName o.typeNamePrefix (name a) = t := by
  rw [Dict.mem_keys_ofList, Options.named, List.map_map, List.mem_map]
  rfl

theorem mem_of_getLast?_under {name : α → String} {as : List α} {a : α}
    (h : (o.under name t as).getLast? = some a) : a ∈ as :=
  (List.mem_filter.mp (List.mem_of_getLast? h)).1

/-- The order of the keys is that of their bytes. -/
theorem pairwise_keys (d : Dict α) :
    d.keys.Pairwise fun a b => Text.bytes a < Text.bytes b :=
  d.keys_increasing.imp Text.bytes_lt_bytes_iff.mpr

namespace Provider

def register (p : Provider) : Registration → Provider
  | .resource r => p.withResource r
  | .dataSource d => p.withDataSource d

/-- The provider with some registrations and nothing else. -/
def registered (o : Options) (history : List Registration) : Provider :=
  history.foldl register (empty o)

/-- The standard provider comes about in this way too. -/
theorem standard_eq_registered (o : Options) : standard o = registered o
    [.resource GenieSpace.adapter.erase, .resource AppDeployment.adapter.erase,
     .resource (MetricView.adapter o.waitTimeout).erase,
     .resource (SqlExecution.adapter o.waitTimeout).erase,
     .dataSource GenieSpace.lookupAdapter.erase] := rfl

/-- The two registries hold what was registered in the one and in the other. -/
theorem registered_eq (o : Options) (history : List Registration) :
    registered o history =
      { options := o
        resources := Dict.ofList <|
          o.named Resource.typeName (history.filterMap Registration.resource?)
        dataSources := Dict.ofList <|
          o.named DataSource.typeName (history.filterMap Registration.dataSource?) } := by
  induction history using List.reverseRecOn with
  | nil => rfl
  | append_singleton earlier last ih =>
    have hstep : registered o (earlier ++ [last]) = (registered o earlier).register last := by
      rw [registered, List.foldl_append]
      rfl
    rw [hstep, ih, List.filterMap_append, List.filterMap_append]
    cases last with
    | resource r =>
      have hresource : [Registration.resource r].filterMap Registration.resource? = [r] := rfl
      have hnone : [Registration.resource r].filterMap Registration.dataSource? = [] := rfl
      rw [hresource, hnone, List.append_nil, ofList_named_append]
      rfl
    | dataSource d =>
      have hnone : [Registration.dataSource d].filterMap Registration.resource? = [] := rfl
      have hsource : [Registration.dataSource d].filterMap Registration.dataSource? = [d] := rfl
      rw [hnone, hsource, List.append_nil, ofList_named_append]
      rfl

variable {history : List Registration}

theorem get?_resources_registered :
    (registered o history).resources.get? t = (resourcesUnder o t history).getLast? := by
  rw [registered_eq]
  exact get?_ofList_named ..

theorem get?_dataSources_registered :
    (registered o history).dataSources.get? t = (dataSourcesUnder o t history).getLast? := by
  rw [registered_eq]
  exact get?_ofList_named ..

end Provider

/-! ### Replies about type names -/

/-- The reply does not say that a type name is unknown. -/
def NoDenial (reply : Except Failure α) : Prop := ∀ t, reply ≠ .error (.unknownResource t)

/-- A resource leaves it to the provider which type names there are. -/
structure Resource.NeverDenies (r : Resource) : Prop where
  create : ∀ ids plan, (r.create ids plan).Ends NoDenial
  read : ∀ state, (r.read state).Ends NoDenial
  update : ∀ ids prior plan, (r.update ids prior plan).Ends NoDenial
  delete : ∀ state, (r.delete state).Ends NoDenial
  importState : ∀ id, NoDenial (r.importState id)

/-- A data source leaves it to the provider which type names there are. -/
def DataSource.NeverDenies (d : DataSource) : Prop := ∀ config, (d.read config).Ends NoDenial

theorem ByAdapter.noDenial {reply : Except Failure α} (h : ByAdapter reply) : NoDenial reply := by
  rintro t rfl
  exact h _ rfl trivial

theorem NoDenial.map {reply : Except Failure α} (h : NoDenial reply) (f : α → β) :
    NoDenial (reply.map f) := by
  cases reply with
  | ok a =>
    intro t ht
    cases ht
  | error e =>
    intro t ht
    cases ht
    exact h t rfl

theorem noDenial_map {t : Task α} (h : t.Ends ByAdapter) (f : α → β) :
    (t.map f).Ends NoDenial :=
  h.map fun _ hreply => (byAdapter_map.mpr hreply).noDenial

/-- A state that does not fit is another matter. -/
theorem noDenial_reading {value : Except Json.Error β} {next : β → Task α}
    (h : ∀ b, (next b).Ends NoDenial) : (Task.reading value next).Ends NoDenial := by
  cases value with
  | error e =>
    intro t ht
    cases ht
  | ok b => exact h b

/-- What is known of all replies of an adapter is known of the resource made of it. -/
theorem Adapter.Answers.neverDenies {a : Adapter β} (h : a.Answers) : a.erase.NeverDenies where
  create ids _ := noDenial_reading fun p => noDenial_map (h.create ids p) _
  read _ := noDenial_reading fun q => noDenial_map (h.read q) _
  update ids _ _ := noDenial_reading fun q => noDenial_reading fun p =>
    noDenial_map (h.update ids q p) _
  delete _ := noDenial_reading fun q => (h.delete q).mono fun _ => ByAdapter.noDenial
  importState id := (byAdapter_map.mpr (h.importState id)).noDenial

theorem LookupAdapter.neverDenies {a : LookupAdapter β}
    (h : ∀ config, (a.read config).Ends ByAdapter) : a.erase.NeverDenies := fun _ =>
  noDenial_reading fun config => noDenial_map (h config) _

namespace Echo

theorem adapter_answers (name : String) : (adapter name).Answers where
  create ids plan := byAdapter_ok plan
  read state := byAdapter_ok (refresh state)
  update ids prior plan := byAdapter_ok plan
  delete state := byAdapter_ok ()
  importState id := by simp [adapter, importUnsupported]

theorem byAdapter_lookup (name : String) (config : Json) :
    ((lookupAdapter name).read config).Ends ByAdapter :=
  byAdapter_ok config

end Echo

namespace Registration

def NeverDenies : Registration → Prop
  | resource r => r.NeverDenies
  | dataSource d => d.NeverDenies

/-- A registration of one of the kinds, of the look-up or of an echo. -/
inductive BuiltIn (wait : Nat) : Registration → Prop where
  | kind (k : Kind) : BuiltIn wait (.resource (k.adapter wait).erase)
  | lookup : BuiltIn wait (.dataSource GenieSpace.lookupAdapter.erase)
  | echo (name : String) : BuiltIn wait (.resource (Echo.adapter name).erase)
  | echoLookup (name : String) : BuiltIn wait (.dataSource (Echo.lookupAdapter name).erase)

theorem BuiltIn.neverDenies {wait : Nat} {registration : Registration}
    (h : registration.BuiltIn wait) : registration.NeverDenies := by
  cases h with
  | kind k => exact k.adapter_answers.neverDenies
  | lookup => exact LookupAdapter.neverDenies GenieSpace.byAdapter_lookup
  | echo name => exact (Echo.adapter_answers name).neverDenies
  | echoLookup name => exact LookupAdapter.neverDenies (Echo.byAdapter_lookup name)

end Registration

/-! ### Serving -/

namespace Provider

/-- What serving out of a registry comes to, when these were registered under a type name, in
    order. -/
structure Dispatches (registry : Dict β) (t : String) (bs : List β) : Prop where
  listed : t ∈ registry.keys ↔ bs ≠ []
  unknown : lookUp registry t = .error (.unknownResource t) ↔ t ∉ registry.keys
  found : t ∈ registry.keys → ∃ b, bs.getLast? = some b ∧ lookUp registry t = .ok b
  refuses : t ∉ registry.keys → ∀ (α : Type) (next : β → Task α),
    serving (lookUp registry t) next = .fail (.unknownResource t)
  denies : ∀ (α : Type) (next : β → Task α),
    (∀ b, bs.getLast? = some b → (next b).Ends NoDenial) →
      ∀ (σ : Type) (client : Client σ) (c : σ),
        ((serving (lookUp registry t) next).run client c).1 = .error (.unknownResource t) ↔
          t ∉ registry.keys

variable {registry registry' : Dict β} {bs : List β}

theorem dispatches (h : registry.get? t = bs.getLast?) : Dispatches registry t bs := by
  have hlisted : t ∈ registry.keys ↔ bs ≠ [] := by
    rw [Dict.mem_keys_iff, h, List.getLast?_isSome]
  have hfound (hmem : t ∈ registry.keys) :
      ∃ b, bs.getLast? = some b ∧ lookUp registry t = .ok b := by
    have hlast := List.getLast?_eq_some_getLast (hlisted.mp hmem)
    refine ⟨_, hlast, ?_⟩
    rw [lookUp, h, hlast]
  have hunknown (hnot : t ∉ registry.keys) : lookUp registry t = .error (.unknownResource t) := by
    rw [Dict.mem_keys_iff, Option.not_isSome_iff_eq_none] at hnot
    rw [lookUp, hnot]
  have hrefuses (hnot : t ∉ registry.keys) (α : Type) (next : β → Task α) :
      serving (lookUp registry t) next = .fail (.unknownResource t) := by
    rw [hunknown hnot]
    rfl
  refine ⟨hlisted, ⟨?unknown, hunknown⟩, hfound, hrefuses, ?denies⟩
  case unknown =>
    intro herror hmem
    obtain ⟨b, -, hb⟩ := hfound hmem
    rw [hb] at herror
    cases herror
  case denies =>
    intro α next hnever σ client c
    constructor
    · intro hdenied hmem
      -- What is served does not deny, so a denial is the refusal of a name that is not listed.
      obtain ⟨b, hlast, hb⟩ := hfound hmem
      rw [hb] at hdenied
      exact (hnever b hlast).run client c t hdenied
    · intro hnot
      rw [hrefuses hnot]
      rfl

theorem lookUp_congr (h : registry.get? t = registry'.get? t) :
    lookUp registry t = lookUp registry' t := by
  rw [lookUp, lookUp, h]

/-! ### Dispatch -/

/-- The calls for resources of a type are the operations of one resource. -/
structure Serves (p : Provider) (t : String) (r : Resource) : Prop where
  create ids plan : p.task ids (.create t plan) = r.create ids plan
  read ids state : p.task ids (.read t state) = r.read state
  update ids prior plan : p.task ids (.update t prior plan) = r.update ids prior plan
  delete ids state : p.task ids (.delete t state) = r.delete state
  importResource ids id :
    p.task ids (.importResource t id) = .done ((r.importState id).map fun state => ⟨t, state⟩)

/-- What calls for resources of a type come to, when these resources were registered under its name,
    in order. -/
structure DispatchesResources (p : Provider) (t : String) (rs : List Resource) : Prop where
  listed : t ∈ p.metadata.resources ↔ rs ≠ []
  unknown : p.resource t = .error (.unknownResource t) ↔ t ∉ p.metadata.resources
  refuses : t ∉ p.metadata.resources → ∀ ids (call : Call Json), call.looksUp = false →
    call.typeName = t → p.task ids call = .fail (.unknownResource t)
  serves : t ∈ p.metadata.resources → ∃ r, rs.getLast? = some r ∧ p.Serves t r
  denies : (∀ r, rs.getLast? = some r → r.NeverDenies) → ∀ ids (call : Call Json),
    call.looksUp = false → call.typeName = t → ∀ (σ : Type) (client : Client σ) (c : σ),
      ((p.task ids call).run client c).1 = .error (.unknownResource t) ↔ t ∉ p.metadata.resources

/-- What look-ups of a type come to, when these data sources were registered under its name, in
    order. -/
structure DispatchesLookups (p : Provider) (t : String) (ds : List DataSource) : Prop where
  listed : t ∈ p.metadata.dataSources ↔ ds ≠ []
  unknown : p.dataSource t = .error (.unknownResource t) ↔ t ∉ p.metadata.dataSources
  refuses : t ∉ p.metadata.dataSources → ∀ ids config,
    p.task ids (.readDataSource t config) = .fail (.unknownResource t)
  serves : t ∈ p.metadata.dataSources → ∃ d, ds.getLast? = some d ∧
    ∀ ids config, p.task ids (.readDataSource t config) = d.read config
  denies : (∀ d, ds.getLast? = some d → d.NeverDenies) → ∀ ids config (σ : Type)
    (client : Client σ) (c : σ),
      ((p.task ids (.readDataSource t config)).run client c).1 = .error (.unknownResource t) ↔
        t ∉ p.metadata.dataSources

variable {p : Provider} {rs : List Resource} {ds : List DataSource} {ids : IdSupply}
  {call : Call Json}

/-- A call for a resource is served out of the registry of resources, in the same way whatever the
    provider. -/
theorem exists_serving (ids : IdSupply) (hresource : call.looksUp = false) :
    ∃ next : Resource → Task call.Reply,
      (∀ p : Provider, p.task ids call = serving (lookUp p.resources call.typeName) next) ∧
      ∀ r : Resource, r.NeverDenies → (next r).Ends NoDenial := by
  cases call with
  | create t plan => exact ⟨fun r => r.create ids plan, fun _ => rfl, fun _ h => h.create ids plan⟩
  | read t state => exact ⟨fun r => r.read state, fun _ => rfl, fun _ h => h.read state⟩
  | update t prior plan =>
    exact ⟨fun r => r.update ids prior plan, fun _ => rfl, fun _ h => h.update ids prior plan⟩
  | delete t state => exact ⟨fun r => r.delete state, fun _ => rfl, fun _ h => h.delete state⟩
  | importResource t id =>
    exact ⟨fun r => .done ((r.importState id).map fun state => ⟨t, state⟩), fun _ => rfl,
      fun _ h => (h.importState id).map _⟩
  | readDataSource t config => cases hresource

theorem dispatchesResources (h : Dispatches p.resources t rs) : p.DispatchesResources t rs where
  listed := h.listed
  unknown := h.unknown
  refuses hnot ids call hresource hname := by
    obtain ⟨next, hnext, -⟩ := exists_serving ids hresource
    rw [hnext, hname]
    exact h.refuses hnot _ next
  serves hmem := by
    obtain ⟨r, hlast, hr⟩ := h.found hmem
    refine ⟨r, hlast, ?_⟩
    constructor <;> intros <;> simp only [task, resource, hr, serving]
  denies hnever ids call hresource hname σ client c := by
    obtain ⟨next, hnext, hends⟩ := exists_serving ids hresource
    rw [hnext, hname]
    exact h.denies _ next (fun r hlast => hends r (hnever r hlast)) σ client c

theorem dispatchesLookups (h : Dispatches p.dataSources t ds) : p.DispatchesLookups t ds where
  listed := h.listed
  unknown := h.unknown
  refuses hnot _ config := h.refuses hnot _ fun d => d.read config
  serves hmem := by
    obtain ⟨d, hlast, hd⟩ := h.found hmem
    refine ⟨d, hlast, fun ids config => ?_⟩
    simp only [task, dataSource, hd, serving]
  denies hnever _ config := h.denies _ (fun d => d.read config) fun d hlast => hnever d hlast config

/-- With what there is registered, in whatever order, the names that are denied are the names that
    are not listed. -/
theorem denied_iff_of_builtIn {history : List Registration} {wait : Nat} {client : Client σ} {c : σ}
    (h : ∀ registration ∈ history, registration.BuiltIn wait) :
    (∀ ids (call : Call Json), call.looksUp = false →
      ((((registered o history).task ids call).run client c).1 =
          .error (.unknownResource call.typeName) ↔
        call.typeName ∉ (registered o history).metadata.resources)) ∧
    ∀ ids t config,
      (((registered o history).task ids (.readDataSource t config)).run client c).1 =
          .error (.unknownResource t) ↔
        t ∉ (registered o history).metadata.dataSources := by
  constructor
  · intro ids call hresource
    apply (dispatchesResources (dispatches get?_resources_registered)).denies _ ids call hresource rfl
    intro r hlast
    obtain ⟨registration, hmem, hr⟩ := List.mem_filterMap.mp (mem_of_getLast?_under hlast)
    obtain rfl := Registration.resource?_eq_some_iff.mp hr
    exact (h _ hmem).neverDenies
  · intro ids t config
    apply (dispatchesLookups (dispatches get?_dataSources_registered)).denies _ ids config
    intro d hlast
    obtain ⟨registration, hmem, hd⟩ := List.mem_filterMap.mp (mem_of_getLast?_under hlast)
    obtain rfl := Registration.dataSource?_eq_some_iff.mp hd
    exact (h _ hmem).neverDenies

/-- An echo and then the spaces under one name, and an echo as a data source under another. -/
def echoedHistory : List Registration :=
  [.resource (Echo.adapter "genie_space").erase, .dataSource (Echo.lookupAdapter "mirror").erase,
   .resource GenieSpace.adapter.erase]

/-- The lists hold the type names of what was registered, in the order of their bytes and none
    twice. Calls of a type that is not in the list of its registry are refused, and all others go to
    what was registered last under the name, whatever else was registered before or after. -/
theorem dispatch_registered (o : Options) (history : List Registration) :
    let p := registered o history
    (p.metadata.resources.Pairwise fun a b => Text.bytes a < Text.bytes b) ∧
    (p.metadata.dataSources.Pairwise fun a b => Text.bytes a < Text.bytes b) ∧
    (∀ t, t ∈ p.metadata.resources ↔
      ∃ r, .resource r ∈ history ∧ qualifiedName o.typeNamePrefix r.typeName = t) ∧
    (∀ t, t ∈ p.metadata.dataSources ↔
      ∃ d, .dataSource d ∈ history ∧ qualifiedName o.typeNamePrefix d.typeName = t) ∧
    (∀ t, p.DispatchesResources t (resourcesUnder o t history)) ∧
    (∀ t, p.DispatchesLookups t (dataSourcesUnder o t history)) ∧
    (∀ t other, (resourcesUnder o t other).getLast? = (resourcesUnder o t history).getLast? →
      ∀ ids (call : Call Json), call.looksUp = false → call.typeName = t →
        (registered o other).task ids call = p.task ids call) ∧
    (∀ t other, (dataSourcesUnder o t other).getLast? = (dataSourcesUnder o t history).getLast? →
      ∀ ids config, (registered o other).task ids (.readDataSource t config) =
        p.task ids (.readDataSource t config)) := by
  refine ⟨pairwise_keys _, pairwise_keys _, ?resources, ?dataSources, ?dispatches, ?looksUp,
    ?sameResource, ?sameDataSource⟩
  case resources =>
    intro t
    rw [registered_eq, metadata, mem_keys_named]
    simp only [List.mem_filterMap, Registration.resource?_eq_some_iff, exists_eq_right]
  case dataSources =>
    intro t
    rw [registered_eq, metadata, mem_keys_named]
    simp only [List.mem_filterMap, Registration.dataSource?_eq_some_iff, exists_eq_right]
  case dispatches => exact fun t => dispatchesResources (dispatches get?_resources_registered)
  case looksUp => exact fun t => dispatchesLookups (dispatches get?_dataSources_registered)
  case sameResource =>
    intro t other hlast ids call hresource hname
    subst hname
    obtain ⟨next, hnext, -⟩ := exists_serving ids hresource
    have hget : (registered o other).resources.get? call.typeName =
        (registered o history).resources.get? call.typeName := by
      rw [get?_resources_registered, get?_resources_registered, hlast]
    rw [hnext, hnext, lookUp_congr hget]
  case sameDataSource =>
    intro t other hlast ids config
    have hget : (registered o other).dataSources.get? t =
        (registered o history).dataSources.get? t := by
      rw [get?_dataSources_registered, get?_dataSources_registered, hlast]
    rw [task, task, dataSource, dataSource, lookUp_congr hget]

/-- The spaces are served and never denied, as if the echo had not been there, and each name is
    known to its own registry alone. -/
theorem dispatch_echoedHistory :
    let p := registered .standard echoedHistory
    let ids : IdSupply := fun _ => ⟨0, 0, 0, 0⟩
    p.task ids (.create "databricks_genie_space" .null) =
      GenieSpace.adapter.erase.create ids .null ∧
    (∀ (σ : Type) (client : Client σ) (c : σ),
      ((p.task ids (.create "databricks_genie_space" .null)).run client c).1 ≠
        .error (.unknownResource "databricks_genie_space")) ∧
    (registered .standard [.resource GenieSpace.adapter.erase]).task ids
        (.create "databricks_genie_space" .null) =
      p.task ids (.create "databricks_genie_space" .null) ∧
    p.task ids (.create "databricks_mirror" .null) = .fail (.unknownResource "databricks_mirror") ∧
    p.task ids (.readDataSource "databricks_mirror" .null) = .done (.ok .null) ∧
    (registered .standard [.dataSource (Echo.lookupAdapter "mirror").erase]).task ids
        (.readDataSource "databricks_mirror" .null) =
      p.task ids (.readDataSource "databricks_mirror" .null) ∧
    p.task ids (.readDataSource "databricks_genie_space" .null) =
      .fail (.unknownResource "databricks_genie_space") := by
  intro p ids
  obtain ⟨-, -, -, -, hresources, hlookups, hresource, hlookup⟩ :=
    dispatch_registered .standard echoedHistory
  have hspaces : (resourcesUnder .standard "databricks_genie_space" echoedHistory).getLast? =
      some GenieSpace.adapter.erase := rfl
  have hmirror : (dataSourcesUnder .standard "databricks_mirror" echoedHistory).getLast? =
      some (Echo.lookupAdapter "mirror").erase := rfl
  have hlisted : "databricks_genie_space" ∈ p.metadata.resources :=
    (hresources _).listed.mpr (List.cons_ne_nil _ _)
  have hlookedUp : "databricks_mirror" ∈ p.metadata.dataSources :=
    (hlookups _).listed.mpr (List.cons_ne_nil _ _)
  refine ⟨?served, ?notDenied, ?alone, ?unknownMirror, ?echoed, ?mirrorAlone, ?unknownLookup⟩
  case served =>
    obtain ⟨r, hlast, hserves⟩ := (hresources _).serves hlisted
    obtain rfl := Option.some.inj (hspaces.symm.trans hlast)
    exact hserves.create ids .null
  case notDenied =>
    intro σ client c hdenied
    refine ((hresources _).denies ?never ids _ rfl rfl σ client c).mp hdenied hlisted
    intro r hlast
    obtain rfl := Option.some.inj (hspaces.symm.trans hlast)
    exact GenieSpace.adapter_answers.neverDenies
  case alone =>
    exact hresource "databricks_genie_space" [.resource GenieSpace.adapter.erase] rfl ids
      (.create "databricks_genie_space" .null) rfl rfl
  case unknownMirror =>
    exact (hresources _).refuses (mt (hresources _).listed.mp (not_not.mpr rfl)) ids _ rfl rfl
  case echoed =>
    obtain ⟨d, hlast, hserves⟩ := (hlookups _).serves hlookedUp
    obtain rfl := Option.some.inj (hmirror.symm.trans hlast)
    exact (hserves ids .null).trans rfl
  case mirrorAlone =>
    exact hlookup "databricks_mirror" [.dataSource (Echo.lookupAdapter "mirror").erase] rfl ids
      .null
  case unknownLookup =>
    exact (hlookups _).refuses (mt (hlookups _).listed.mp (not_not.mpr rfl)) ids _

end Provider

end Provisioner
