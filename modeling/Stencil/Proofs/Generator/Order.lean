import Stencil.Proofs.Generator.Accounting
import Stencil.Proofs.Schematic.Gating

/-!
# The order of the nodes

Sources list the nodes of a schematic in any order. If no path is listed twice, the order does not
count for the outcome of a run (`stage_relisted`): selected are the same files, in the order of
their paths, and all that follows, the first error included, is decided by these.
-/
namespace Stencil

namespace Node
variable {nodes nodes' : List Node}

/-- If no path is listed twice, the conditions of all directories prevail. -/
theorem prevails_iff_mem (distinct : (nodes.map (·.path)).Nodup) {dir : Node} :
    Prevails nodes dir ↔ dir ∈ nodes ∧ dir.isFile = false := by
  refine ⟨fun h => ⟨h.mem, h.1⟩, ?_⟩
  rintro ⟨hdir, hfile⟩
  obtain ⟨before, after, rfl⟩ := List.append_of_mem hdir
  refine ⟨hfile, before, after, rfl, fun n hn _ hpath => ?_⟩
  rw [List.map_append, List.map_cons] at distinct
  have later := (List.nodup_cons.1 (List.nodup_append.1 distinct).2.1).1
  exact later (hpath ▸ List.mem_map_of_mem hn)

theorem isSelected_perm (distinct : (nodes.map (·.path)).Nodup) (h : nodes'.Perm nodes)
    (o : Options) (n : Node) : isSelected nodes' o n = isSelected nodes o n := by
  have distinct' : (nodes'.map (·.path)).Nodup := (h.map _).nodup_iff.2 distinct
  rw [Bool.eq_iff_iff, isSelected_iff_prevailing, isSelected_iff_prevailing]
  simp only [prevails_iff_mem distinct, prevails_iff_mem distinct', h.mem_iff]

/-- If no path is listed twice, the same files are selected in the same order, whatever the order of
the nodes. -/
theorem select_perm (distinct : (nodes.map (·.path)).Nodup) (h : nodes'.Perm nodes) (o : Options) :
    select nodes' o = select nodes o := by
  have selected : isSelected nodes' o = isSelected nodes o :=
    funext (isSelected_perm distinct h o)
  have same : (select nodes' o).Perm (select nodes o) := by
    refine (List.mergeSort_perm _ _).trans (.trans ?_ (List.mergeSort_perm _ _).symm)
    rw [selected]
    exact h.filter _
  -- sorted by paths they are equal, as a path is that of one node only
  refine same.eq_of_pairwise (fun a b ha hb hab hba => ?_) (select_ordered nodes' o)
    (select_ordered nodes o)
  have ha := (mem_select.1 (same.mem_iff.1 ha)).1
  exact List.inj_on_of_nodup_map distinct ha (mem_select.1 hb).1 (String.le_antisymm hab hba)

end Node

namespace Generator
variable {g : Generator} {library : Library} {schematic : String} {source : Schematic}
  {nodes : List Node}

/-- A run on a schematic with other nodes. -/
theorem stage_of_get (h : library.get schematic = .ok { source with nodes }) (raw : RawOptions) :
    ({ g with library }).stage schematic raw =
      Options.normalize (g.settings source) raw >>= stageNodes g.renderer nodes :=
  stage_of_source (g := { g with library }) h raw

/-- **The order in which a schematic lists its nodes does not count.** If no path is listed twice,
runs stage the same or fail with the same error. -/
theorem stage_relisted (hsource : g.library.get schematic = .ok source)
    (distinct : (source.nodes.map (·.path)).Nodup) (relisted : nodes.Perm source.nodes)
    (hlibrary : library.get schematic = .ok { source with nodes }) (raw : RawOptions) :
    ({ g with library }).stage schematic raw = g.stage schematic raw := by
  have stages : stageNodes g.renderer nodes = stageNodes g.renderer source.nodes := by
    funext o
    simp only [stageNodes, Node.select_perm distinct relisted]
  rw [stage_of_get hlibrary, stages, stage_of_source hsource]

/-- Listed in reverse, the nodes fail over the same path. -/
theorem clashingNodes_reversed : (ofNodes clashingNodes.reverse).stage "pair" userOptions =
      (ofNodes clashingNodes).stage "pair" userOptions ∧
    ((ofNodes clashingNodes).stage "pair" userOptions).map (·.files.entries) =
      .error (.duplicatePath "a.txt") := by
  have hsource : (ofNodes clashingNodes).library.get "pair" =
      .ok (schematicOf clashingNodes) := rfl
  refine ⟨stage_relisted hsource (by decide) (List.reverse_perm _) rfl userOptions, ?_⟩
  rw [ofNodes_stage_eq]
  unfold stageNodes
  simp only [select_clashingNodes]
  decide +kernel

end Generator
end Stencil
