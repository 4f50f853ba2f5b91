import EnergyCore.Foundations.DepthFirstSearch
import EnergyCore.Modules.ModuleRegistry
import EnergyCore.Packages.PackageTypes

/-!
# The order in which modules start

`startup_order` of the module resolver and `detect_cycles` of the package resolver: two depth-first searches,
the one over the dependencies of the registered modules under their canonical ids, the other over a graph as it
is given.

* `startupOrder_ok`, `startupOrder_raised_iff` — the order is right, and it fails exactly at a cycle;
* `detectCycles_raised_iff` — the other search finds exactly the cycles of its graph;
* `startup_order_right` — both, and that they agree where no id is a legacy one.
-/

namespace EnergyCore.Modules

open DepthFirstSearch KeywordFields Relation
open Packages (Raised)

/-! ### The searches -/

/-- The order in which a set is iterated, which the language leaves open. -/
structure SetOrder where
  toList : List String → List String
  mem_toList : ∀ items x, x ∈ toList items ↔ x ∈ items
  nodup_toList : ∀ items, (toList items).Nodup

/-- The dependencies of a module, none if it is not registered. -/
def moduleDependencies (registry : ModuleRegistry) (sets : SetOrder) (moduleId : String) : List String :=
  (registry.get moduleId).elim [] fun descriptor =>
    sets.toList (descriptor.dependencies.map resolveModuleId)

/-- The graph of `startup_order`. -/
def startupGraph (registry : ModuleRegistry) (sets : SetOrder) (moduleIds : List String) :
    Fields String (List String) :=
  moduleIds.foldl
    (fun graph moduleId =>
      match registry.get (resolveModuleId moduleId) with
      | none => graph
      | some descriptor => Fields.assign graph (resolveModuleId moduleId)
          (sets.toList (descriptor.dependencies.map resolveModuleId)))
    (moduleIds.foldl (fun graph moduleId => Fields.assign graph (resolveModuleId moduleId) []) [])

/-- `graph.get(node, ())`. -/
def edges (graph : Fields String (List String)) (node : String) : List String :=
  (Fields.get graph node).getD []

def circularModuleDependency (node : String) : String :=
  "Circular module dependency detected involving " ++ node

/-- `startup_order`: the text of a `ValueError`, or the order. -/
def startupOrder (registry : ModuleRegistry) (sets : SetOrder) (moduleIds : List String) :
    Except (Stop String) (List String) :=
  let graph := startupGraph registry sets moduleIds
  let next := fun node => (edges graph node).filter fun dep => decide (dep ∈ Fields.keys graph)
  match visitEach (visit next ((Fields.keys graph).length + 1)) (Fields.keys graph) {} with
  | .ok m => .ok m.ordered
  | .error stop => .error (stop.map circularModuleDependency)

def dependencyCycle (node : String) : Raised :=
  .packageError ("dependency cycle at " ++ node) "DEPENDENCY_CYCLE"

/-- The nodes that `detect_cycles` can meet. -/
def graphNodes (graph : Fields String (List String)) : List String :=
  Fields.keys graph ++ (Fields.keys graph).flatMap (edges graph)

/-- `detect_cycles`. -/
def detectCycles (graph : Fields String (List String)) : Except (Stop Raised) Unit :=
  match visitEach (visit (edges graph) ((graphNodes graph).length + 1)) (Fields.keys graph) {} with
  | .ok _ => .ok ()
  | .error stop => .error (stop.map dependencyCycle)

/-! ### The graph of the selected modules -/

/-- The modules that a selection stands for. -/
def selected (moduleIds : List String) : List String := moduleIds.map resolveModuleId

theorem mem_selected_cons {k moduleId : String} {moduleIds : List String} :
    k ∈ selected (moduleId :: moduleIds) ↔ k = resolveModuleId moduleId ∨ k ∈ selected moduleIds :=
  List.mem_cons

/-- Both modules are selected, and the one depends on the other. -/
def Needs (registry : ModuleRegistry) (moduleIds : List String) (x y : String) : Prop :=
  x ∈ selected moduleIds ∧ y ∈ selected moduleIds ∧
    ∃ descriptor, registry.get x = some descriptor ∧ y ∈ descriptor.dependencies.map resolveModuleId

section

variable {registry : ModuleRegistry} {sets : SetOrder} {moduleIds : List String}

/-- The entry of a module is empty at first. -/
theorem get_empty_entries (moduleIds : List String) (graph : Fields String (List String)) (k : String) :
    Fields.get (moduleIds.foldl (fun graph moduleId => Fields.assign graph (resolveModuleId moduleId) []) graph) k =
      if k ∈ selected moduleIds then some [] else Fields.get graph k := by
  induction moduleIds generalizing graph with
  | nil => rfl
  | cons moduleId moduleIds ih =>
    rw [List.foldl_cons, ih, Fields.get_assign]
    by_cases hrest : k ∈ selected moduleIds
    · rw [if_pos hrest, if_pos (mem_selected_cons.mpr (Or.inr hrest))]
    · rw [if_neg hrest]
      by_cases hfirst : resolveModuleId moduleId = k
      · rw [if_pos hfirst, if_pos (mem_selected_cons.mpr (Or.inl hfirst.symm))]
      · rw [if_neg hfirst, if_neg]
        exact fun h => (mem_selected_cons.mp h).elim (fun h => hfirst h.symm) hrest

/-- The entries of the registered modules are written over. -/
theorem get_registered_entries (moduleIds : List String) (graph : Fields String (List String)) (k : String) :
    Fields.get (moduleIds.foldl (fun graph moduleId =>
          match registry.get (resolveModuleId moduleId) with
          | none => graph
          | some descriptor => Fields.assign graph (resolveModuleId moduleId)
              (sets.toList (descriptor.dependencies.map resolveModuleId))) graph) k =
      if k ∈ selected moduleIds ∧ (registry.get k).isSome then
        some (moduleDependencies registry sets k)
      else Fields.get graph k := by
  induction moduleIds generalizing graph with
  | nil => rfl
  | cons moduleId moduleIds ih =>
    rw [List.foldl_cons, ih]
    by_cases hrest : k ∈ selected moduleIds ∧ (registry.get k).isSome
    · rw [if_pos hrest, if_pos ⟨mem_selected_cons.mpr (Or.inr hrest.1), hrest.2⟩]
    · rw [if_neg hrest]
      by_cases hfirst : resolveModuleId moduleId = k
      · subst hfirst
        cases hget : registry.get (resolveModuleId moduleId) with
        | none =>
          rw [if_neg]
          exact fun h => absurd h.2 (by decide)
        | some descriptor =>
          rw [if_pos ⟨mem_selected_cons.mpr (Or.inl rfl), rfl⟩, Fields.get_assign_self, moduleDependencies, hget]
          rfl
      · have hnot : ¬ (k ∈ selected (moduleId :: moduleIds) ∧ (registry.get k).isSome) := fun h =>
          (mem_selected_cons.mp h.1).elim (fun h' => hfirst h'.symm) fun h' => hrest ⟨h', h.2⟩
        rw [if_neg hnot]
        cases registry.get (resolveModuleId moduleId) with
        | none => rfl
        | some descriptor => exact Fields.get_assign_of_ne _ (Ne.symm hfirst) _

variable (registry sets moduleIds) in
theorem get_startupGraph (k : String) : Fields.get (startupGraph registry sets moduleIds) k =
      if k ∈ selected moduleIds then some (moduleDependencies registry sets k) else none := by
  rw [startupGraph, get_registered_entries, get_empty_entries]
  by_cases hk : k ∈ selected moduleIds
  · rw [if_pos hk, if_pos hk]
    cases hget : registry.get k with
    | none =>
      rw [if_neg fun h => absurd h.2 (by decide), moduleDependencies, hget]
      rfl
    | some descriptor => rw [if_pos ⟨hk, rfl⟩]
  · rw [if_neg fun h => hk h.1, if_neg hk, if_neg hk]
    rfl

theorem mem_keys_startupGraph {k : String} :
    k ∈ Fields.keys (startupGraph registry sets moduleIds) ↔ k ∈ selected moduleIds := by
  have hget := get_startupGraph registry sets moduleIds k
  constructor
  · intro h
    obtain ⟨v, hv⟩ := Fields.get_of_mem h
    by_contra hnot
    rw [hv, if_neg hnot] at hget
    cases hget
  · intro h
    by_contra hnot
    rw [Fields.get_of_notMem hnot, if_pos h] at hget
    cases hget

/-- The edges that `startup_order` follows. -/
theorem mem_next_iff {x y : String} : y ∈ (edges (startupGraph registry sets moduleIds) x).filter
        (fun dep => decide (dep ∈ Fields.keys (startupGraph registry sets moduleIds))) ↔
      Needs registry moduleIds x y := by
  rw [List.mem_filter, decide_eq_true_eq, mem_keys_startupGraph, edges, get_startupGraph]
  by_cases hx : x ∈ selected moduleIds
  · rw [if_pos hx, Option.getD_some, moduleDependencies]
    cases hget : registry.get x with
    | none =>
      refine iff_of_false (fun h => absurd h.1 List.not_mem_nil) ?_
      rintro ⟨-, -, descriptor, h, -⟩
      rw [hget] at h
      cases h
    | some descriptor =>
      show y ∈ sets.toList (descriptor.dependencies.map resolveModuleId) ∧ _ ↔ _
      rw [sets.mem_toList]
      constructor
      · rintro ⟨hdep, hy⟩
        exact ⟨hx, hy, descriptor, hget, hdep⟩
      · rintro ⟨-, hy, descriptor', hget', hdep⟩
        rw [hget] at hget'
        cases hget'
        exact ⟨hdep, hy⟩
  · rw [if_neg hx]
    exact iff_of_false (fun h => absurd h.1 List.not_mem_nil) fun h => hx h.1

/-! ### The order -/

/-- What `startup_order` follows from a module. -/
def startupNext (registry : ModuleRegistry) (sets : SetOrder) (moduleIds : List String) (node : String) :
    List String :=
  (edges (startupGraph registry sets moduleIds) node).filter fun dep =>
    decide (dep ∈ Fields.keys (startupGraph registry sets moduleIds))

theorem closed_startupNext : Closed (startupNext registry sets moduleIds)
    (Fields.keys (startupGraph registry sets moduleIds)) where
  next_mem := fun _ _ _ hy => of_decide_eq_true (List.mem_filter.mp hy).2

theorem needs_eq : (fun x y => y ∈ startupNext registry sets moduleIds x) = Needs registry moduleIds :=
  funext fun _ => funext fun _ => propext mem_next_iff

/-- A search of the selected modules that ends, and what is listed then. -/
theorem startupOrder_cases (registry : ModuleRegistry) (sets : SetOrder) (moduleIds : List String) :
    (∃ m, startupOrder registry sets moduleIds = .ok m.ordered ∧ Listed (startupNext registry sets moduleIds) m ∧
      ∀ x, x ∈ m.ordered ↔ x ∈ selected moduleIds) ∨
    ∃ x, startupOrder registry sets moduleIds = .error (.raised (circularModuleDependency x)) ∧
      TransGen (Needs registry moduleIds) x x := by
  have hnodes : ∀ x ∈ Fields.keys (startupGraph registry sets moduleIds),
      x ∈ Fields.keys (startupGraph registry sets moduleIds) := fun _ h => h
  cases hsearch : visitEach (visit (startupNext registry sets moduleIds)
      ((Fields.keys (startupGraph registry sets moduleIds)).length + 1))
      (Fields.keys (startupGraph registry sets moduleIds)) {} with
  | ok m =>
    obtain ⟨hlisted, -, hall⟩ := visitEach_spec hsearch
    have hinside : ∀ x ∈ m.ordered, x ∈ Fields.keys (startupGraph registry sets moduleIds) := visitEach_ordered_subset
        (fun node m m' => visit_ordered_subset closed_startupNext _ node m m') hnodes
        (fun x hx => absurd hx List.not_mem_nil) hsearch
    refine Or.inl ⟨m, ?_, hlisted, fun x => ?_⟩
    · unfold startupNext at hsearch
      simp only [startupOrder, hsearch]
    · exact ⟨fun hx => mem_keys_startupGraph.mp (hinside x hx),
        fun hx => hall x (mem_keys_startupGraph.mpr hx)⟩
  | error stop =>
    cases stop with
    | tooDeep =>
      exact absurd hsearch (visitEach_ne_tooDeep closed_startupNext hnodes (Nat.lt_succ_self _))
    | raised x =>
      have hcycle := visitEach_raised hsearch
      rw [needs_eq] at hcycle
      refine Or.inr ⟨x, ?_, hcycle⟩
      unfold startupNext at hsearch
      simp only [startupOrder, hsearch, Stop.map]

/-- **The order is right**: every selected module once, after all that it needs. -/
theorem startupOrder_ok {order : List String} (h : startupOrder registry sets moduleIds = .ok order) :
    order.Nodup ∧ (∀ x, x ∈ order ↔ x ∈ selected moduleIds) ∧
      ∀ earlier x later, order = earlier ++ x :: later → ∀ y, Needs registry moduleIds x y → y ∈ earlier := by
  rcases startupOrder_cases registry sets moduleIds with ⟨m, hok, hlisted, hmem⟩ | ⟨x, herror, -⟩
  · rw [hok] at h
    cases h
    exact ⟨hlisted.nodup, hmem, fun earlier x later hsplit y hy =>
      hlisted.before earlier x later hsplit y (mem_next_iff.mpr hy)⟩
  · rw [herror] at h
    cases h

theorem startupOrder_ne_tooDeep : startupOrder registry sets moduleIds ≠ .error .tooDeep := by
  intro h
  rcases startupOrder_cases registry sets moduleIds with ⟨m, hok, -, -⟩ | ⟨x, herror, -⟩
  · rw [hok] at h
    cases h
  · rw [herror] at h
    cases h

/-- **It raises exactly at a cycle.** -/
theorem startupOrder_raised_iff : (∃ message, startupOrder registry sets moduleIds = .error (.raised message)) ↔
      ∃ x, TransGen (Needs registry moduleIds) x x := by
  rcases startupOrder_cases registry sets moduleIds with ⟨m, hok, hlisted, hmem⟩ | ⟨x, herror, hcycle⟩
  · rw [hok]
    refine iff_of_false (fun ⟨_, h⟩ => nomatch h) ?_
    rintro ⟨x, hcycle⟩
    have hselected : x ∈ selected moduleIds := by
      cases hcycle with
      | single h => exact h.1
      | tail _ h => exact h.2.1
    rw [← needs_eq] at hcycle
    exact not_transGen_of_listed hlisted ((hmem x).mpr hselected) hcycle
  · exact iff_of_true ⟨_, herror⟩ ⟨x, hcycle⟩

/-! ### Cycles of a graph -/

/-- An edge of a graph as it is given. -/
def Edge (graph : Fields String (List String)) (x y : String) : Prop := y ∈ edges graph x

theorem mem_keys_of_edge {graph : Fields String (List String)} {x y : String} (h : Edge graph x y) :
    x ∈ Fields.keys graph := by
  by_contra hnot
  rw [Edge, edges, Fields.get_of_notMem hnot] at h
  exact absurd h List.not_mem_nil

theorem closed_edges (graph : Fields String (List String)) : Closed (edges graph) (graphNodes graph) where
  next_mem := fun x _ _ hy => List.mem_append_right _
    (List.mem_flatMap.mpr ⟨x, mem_keys_of_edge hy, hy⟩)

/-- **The other search finds exactly the cycles of its graph.** -/
theorem detectCycles_raised_iff (graph : Fields String (List String)) :
    (∃ e, detectCycles graph = .error (.raised e)) ↔ ∃ x, TransGen (Edge graph) x x := by
  have hnodes : ∀ x ∈ Fields.keys graph, x ∈ graphNodes graph := fun x hx =>
    List.mem_append_left _ hx
  cases hsearch : visitEach (visit (edges graph) ((graphNodes graph).length + 1))
      (Fields.keys graph) {} with
  | ok m =>
    obtain ⟨hlisted, -, hall⟩ := visitEach_spec hsearch
    have hresult : detectCycles graph = .ok () := by simp only [detectCycles, hsearch]
    rw [hresult]
    refine iff_of_false (fun ⟨_, h⟩ => nomatch h) ?_
    rintro ⟨x, hcycle⟩
    have hkey : x ∈ Fields.keys graph := by
      obtain ⟨_, hxy, -⟩ := TransGen.head'_iff.mp hcycle
      exact mem_keys_of_edge hxy
    exact not_transGen_of_listed hlisted (hall x hkey) hcycle
  | error stop =>
    cases stop with
    | tooDeep =>
      exact absurd hsearch (visitEach_ne_tooDeep (closed_edges graph) hnodes (Nat.lt_succ_self _))
    | raised x =>
      have hresult : detectCycles graph = .error (.raised (dependencyCycle x)) := by
        simp only [detectCycles, hsearch, Stop.map]
      exact iff_of_true ⟨_, hresult⟩ ⟨x, visitEach_raised hsearch⟩

/-! ### Agreement -/

/-- The graph has the registered modules of the selection with their dependencies. -/
structure Describes (registry : ModuleRegistry) (moduleIds : List String)
    (graph : Fields String (List String)) : Prop where
  selected : ∀ x, x ∈ moduleIds ↔ x ∈ Fields.keys graph
  registered : ∀ x ∈ Fields.keys graph, ∃ descriptor, registry.get x = some descriptor ∧
    descriptor.dependencies = edges graph x

/-- No id of the graph is a legacy one. -/
structure Canonical (graph : Fields String (List String)) : Prop where
  modules : ∀ x ∈ Fields.keys graph, resolveModuleId x = x
  dependencies : ∀ x ∈ Fields.keys graph, ∀ y ∈ edges graph x, resolveModuleId y = y

theorem selected_of_canonical {graph : Fields String (List String)}
    (hgraph : Describes registry moduleIds graph) (h : Canonical graph) (x : String) :
    x ∈ selected moduleIds ↔ x ∈ Fields.keys graph := by
  constructor
  · intro hx
    obtain ⟨moduleId, hmem, rfl⟩ := List.mem_map.mp hx
    have hkey := (hgraph.selected moduleId).mp hmem
    rwa [h.modules moduleId hkey]
  · intro hx
    exact List.mem_map.mpr ⟨x, (hgraph.selected x).mpr hx, h.modules x hx⟩

/-- Without legacy ids, the modules need what the graph says. -/
theorem needs_iff_edge {graph : Fields String (List String)}
    (hgraph : Describes registry moduleIds graph) (h : Canonical graph) {x y : String} :
    Needs registry moduleIds x y ↔ Edge graph x y ∧ y ∈ Fields.keys graph := by
  rw [Needs, selected_of_canonical hgraph h, selected_of_canonical hgraph h]
  constructor
  · rintro ⟨hx, hy, descriptor, hget, hdep⟩
    obtain ⟨descriptor', hget', hdeps⟩ := hgraph.registered x hx
    rw [hget] at hget'
    cases hget'
    obtain ⟨dep, hmem, rfl⟩ := List.mem_map.mp hdep
    rw [hdeps] at hmem
    rw [h.dependencies x hx dep hmem] at hy ⊢
    exact ⟨hmem, hy⟩
  · rintro ⟨hedge, hy⟩
    have hx := mem_keys_of_edge hedge
    obtain ⟨descriptor, hget, hdeps⟩ := hgraph.registered x hx
    refine ⟨hx, hy, descriptor, hget, List.mem_map.mpr ⟨y, ?_, h.dependencies x hx y hedge⟩⟩
    rw [hdeps]
    exact hedge

/-- The cycles of the graph are those of the selected modules. -/
theorem cycle_iff {graph : Fields String (List String)}
    (hgraph : Describes registry moduleIds graph) (h : Canonical graph) (x : String) :
    TransGen (Needs registry moduleIds) x x ↔ TransGen (Edge graph) x x := by
  constructor
  · exact TransGen.mono (fun _ _ hneeds => ((needs_iff_edge hgraph h).mp hneeds).1) x x
  · intro hcycle
    -- every node of the cycle has an edge, and so is a key of the graph
    have hpath : ∀ y, TransGen (Edge graph) x y → y ∈ Fields.keys graph →
        TransGen (Needs registry moduleIds) x y := by
      intro y hy
      induction hy with
      | single hxy => exact fun hkey => TransGen.single ((needs_iff_edge hgraph h).mpr ⟨hxy, hkey⟩)
      | tail _ hyz ih =>
        exact fun hkey => (ih (mem_keys_of_edge hyz)).tail ((needs_iff_edge hgraph h).mpr ⟨hyz, hkey⟩)
    obtain ⟨_, hxy, -⟩ := TransGen.head'_iff.mp hcycle
    exact hpath x hcycle (mem_keys_of_edge hxy)

/-- **Startup order.** The order is right, it fails exactly at a cycle of the selected modules, and the other
search agrees on every graph of selected modules without legacy ids. -/
theorem startup_order_right (registry : ModuleRegistry) (sets : SetOrder) (moduleIds : List String) :
    (∀ order, startupOrder registry sets moduleIds = .ok order →
      order.Nodup ∧ (∀ x, x ∈ order ↔ x ∈ selected moduleIds) ∧
        ∀ earlier x later, order = earlier ++ x :: later → ∀ y, Needs registry moduleIds x y → y ∈ earlier) ∧
    ((∃ message, startupOrder registry sets moduleIds = .error (.raised message)) ↔
      ∃ x, TransGen (Needs registry moduleIds) x x) ∧ startupOrder registry sets moduleIds ≠ .error .tooDeep ∧
    ∀ graph, Describes registry moduleIds graph → Canonical graph → ((∃ e, detectCycles graph = .error (.raised e)) ↔
        ∃ message, startupOrder registry sets moduleIds = .error (.raised message)) := by
  refine ⟨fun order h => startupOrder_ok h, startupOrder_raised_iff, startupOrder_ne_tooDeep, ?_⟩
  intro graph hgraph hcanonical
  rw [detectCycles_raised_iff, startupOrder_raised_iff]
  exact exists_congr fun x => (cycle_iff hgraph hcanonical x).symm

end

namespace LegacyDependency

/-- A module that names itself by its legacy id. -/
def vehicles : ModuleDescriptor where
  moduleId := "feature.vehicles"
  dependencies := ["vehicles"]

def registry : ModuleRegistry where
  modules := [vehicles]
  nodup := List.nodup_singleton _

def sets : SetOrder where
  toList := List.dedup
  mem_toList := fun _ _ => List.mem_dedup
  nodup_toList := List.nodup_dedup

def graph : Fields String (List String) := [("feature.vehicles", ["vehicles"])]

/-- The one search finds the cycle, the other does not. -/
theorem searches_disagree : Describes registry ["feature.vehicles"] graph ∧
    startupOrder registry sets ["feature.vehicles"] =
      .error (.raised "Circular module dependency detected involving feature.vehicles") ∧
    detectCycles graph = .ok () := by
  refine ⟨⟨fun x => Iff.rfl, ?_⟩, by decide +kernel, by decide +kernel⟩
  intro x hx
  cases List.mem_singleton.mp hx
  exact ⟨vehicles, by decide +kernel, by decide +kernel⟩

def spaEnergy : ModuleDescriptor where
  moduleId := "feature.spa-energy"
  dependencies := ["core.site"]

def site : ModuleDescriptor where
  moduleId := "core.site"

def siteRegistry : ModuleRegistry where
  modules := [spaEnergy, site]
  nodup := by decide +kernel

def siteGraph : Fields String (List String) :=
  [("feature.spa-energy", ["core.site"]), ("core.site", [])]

/-- Without legacy ids the searches agree. -/
theorem searches_agree : ["core.site", "feature.spa-energy"].Nodup ∧
    ((∃ e, detectCycles siteGraph = .error (.raised e)) ↔ ∃ message,
      startupOrder siteRegistry sets ["feature.spa-energy", "core.site"] = .error (.raised message)) := by
  have h := startup_order_right siteRegistry sets ["feature.spa-energy", "core.site"]
  have horder := h.1 ["core.site", "feature.spa-energy"] (by decide +kernel)
  refine ⟨horder.1, h.2.2.2 siteGraph ⟨fun x => Iff.rfl, ?_⟩ ⟨by decide +kernel, by decide +kernel⟩⟩
  intro x hx
  rcases List.mem_cons.mp hx with rfl | hx
  · exact ⟨spaEnergy, by decide +kernel, by decide +kernel⟩
  · cases List.mem_singleton.mp hx
    exact ⟨site, by decide +kernel, by decide +kernel⟩

end LegacyDependency

end EnergyCore.Modules
