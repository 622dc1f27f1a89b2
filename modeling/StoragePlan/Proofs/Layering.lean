import StoragePlan.Proofs.Traversal
import StoragePlan.Viewer.Graph

/-!
# The layers of the graph

The `height` of a device is the length of the longest chain of parent edges from it.  Layers are
looked for with a memory that all devices share, which is filled from searches of different depth,
and a search that may follow no more edges remembers `0`.  This is wrong only where a chain goes on,
so what is remembered is right as long as no chain is longer than the first search is deep.

* `findLayer_eq`: **a search that is deep enough finds the height**, and the memory stays `Exact`.
* `layout_height`: so the order in which devices are placed makes no difference.
* `layering`: every device stands as many layers down as it is high, and **edges lead down**.
-/

namespace StoragePlan

namespace DeviceTree

variable {t : DeviceTree} {d p : ObjectId} {b n : Nat}

/-! ## Heights -/

/-- The length of the longest chain of parent edges from a device. -/
noncomputable def height (t : DeviceTree) (d : ObjectId) : Nat := sSup {n | ∃ x, t.Climbs n d x}

/-- No chain of parent edges from a device has more than `b` edges. -/
def Short (t : DeviceTree) (d : ObjectId) (b : Nat) : Prop := ∀ n x, t.Climbs n d x → n ≤ b

theorem Short.parent (h : t.Short d (b + 1)) (hp : t.BuiltOn d p) : t.Short p b := by
  intro n x hWay
  have := h (n + 1) x (.head hp hWay)
  omega

theorem Short.isGreatest (h : t.Short d b) : IsGreatest {n | ∃ x, t.Climbs n d x} (t.height d) := by
  have hBound : BddAbove {n | ∃ x, t.Climbs n d x} := ⟨b, fun n ⟨x, hWay⟩ => h n x hWay⟩
  exact ⟨Nat.sSup_mem ⟨0, d, .refl d⟩ hBound, fun n hn => le_csSup hBound hn⟩

theorem Short.height_le_iff (h : t.Short d b) :
    t.height d ≤ n ↔ ∀ k x, t.Climbs k d x → k ≤ n := by
  constructor
  · intro hn k x hWay
    exact (h.isGreatest.2 ⟨x, hWay⟩).trans hn
  · intro hn
    obtain ⟨x, hWay⟩ := h.isGreatest.1
    exact hn _ x hWay

theorem Short.height_lt (h : t.Short d (b + 1)) (hp : t.BuiltOn d p) : t.height p < t.height d := by
  obtain ⟨x, hWay⟩ := (h.parent hp).isGreatest.1
  exact h.isGreatest.2 ⟨x, .head hp hWay⟩

theorem foldl_max_le_iff {α : Type} (f : α → Nat) (l : List α) (a : Nat) :
    l.foldl (fun m x => max m (f x)) a ≤ n ↔ a ≤ n ∧ ∀ x ∈ l, f x ≤ n := by
  induction l generalizing a with
  | nil => simp
  | cons x l ih => rw [List.foldl_cons, ih, max_le_iff, List.forall_mem_cons, and_assoc]

/-- **A device is one higher than the highest of its parents.** -/
theorem Short.height_eq (h : t.Short d (b + 1)) :
    t.height d = (t.parentsOf d).foldl (fun m p => max m (t.height p + 1)) 0 := by
  refine eq_of_forall_ge_iff fun n => ?_
  rw [h.height_le_iff, foldl_max_le_iff]
  constructor
  · intro hn
    refine ⟨Nat.zero_le n, fun p hp => ?_⟩
    obtain ⟨x, hWay⟩ := (h.parent hp).isGreatest.1
    exact hn _ x (.head hp hWay)
  · rintro ⟨_, hn⟩ k x hWay
    cases hWay with
    | refl => exact Nat.zero_le n
    | head hp hWay =>
      have := (h.parent hp).isGreatest.2 ⟨x, hWay⟩
      have := hn _ hp
      omega

theorem Short.height_eq_zero (h : t.Short d 0) : t.height d = 0 :=
  Nat.le_zero.mp (h.height_le_iff.mpr h)

end DeviceTree

namespace Viewer

variable {t : DeviceTree} {d : ObjectId} {known : Layers} {depth : Nat}

/-! ## The memory -/

/-- Every layer that is remembered is the height of its device. -/
def Exact (t : DeviceTree) (known : Layers) : Prop :=
  ∀ d layer, known.lookup d = some layer → layer = t.height d

theorem exact_nil (t : DeviceTree) : Exact t [] := by
  intro d layer h
  cases h

theorem Exact.cons (h : Exact t known) (d : ObjectId) : Exact t ((d, t.height d) :: known) := by
  intro e layer hLookup
  rw [List.lookup_cons] at hLookup
  split at hLookup
  · rename_i hSame
    rw [← Option.some.inj hLookup, beq_iff_eq.mp hSame]
  · exact h e layer hLookup

/-- The memory goes through the searches of all parents. -/
theorem foldl_layers {find : Layers → ObjectId → Nat × Layers} {parents : List ObjectId}
    (hFind : ∀ known, ∀ p ∈ parents, Exact t known →
      (find known p).1 = t.height p ∧ Exact t (find known p).2)
    (layer : Nat) (hExact : Exact t known) :
    let found := parents.foldl
      (fun (layer, known) parent =>
        let (above, known) := find known parent
        (max layer (above + 1), known))
      (layer, known)
    found.1 = parents.foldl (fun m p => max m (t.height p + 1)) layer ∧ Exact t found.2 := by
  induction parents generalizing layer known with
  | nil => exact ⟨rfl, hExact⟩
  | cons p parents ih =>
    obtain ⟨hLayer, hKnown⟩ := hFind known p List.mem_cons_self hExact
    have hRest := ih (fun known q hq => hFind known q (List.mem_cons_of_mem p hq))
      (max layer ((find known p).1 + 1)) hKnown
    refine ⟨hRest.1.trans ?_, hRest.2⟩
    rw [hLayer]
    rfl

/-- **A search that is deep enough finds the height of a device**, whatever was remembered before,
and it remembers heights only. -/
theorem findLayer_eq (hShort : t.Short d depth) (hExact : Exact t known) :
    (findLayer t depth known d).1 = t.height d ∧ Exact t (findLayer t depth known d).2 := by
  induction depth generalizing d known with
  | zero =>
    unfold findLayer
    cases hLookup : known.lookup d with
    | some layer => exact ⟨hExact d layer hLookup, hExact⟩
    | none =>
      refine ⟨hShort.height_eq_zero.symm, ?_⟩
      have hHere := hExact.cons d
      rwa [hShort.height_eq_zero] at hHere
  | succ depth ih =>
    unfold findLayer
    cases hLookup : known.lookup d with
    | some layer => exact ⟨hExact d layer hLookup, hExact⟩
    | none =>
      obtain ⟨hLayer, hKnown⟩ := foldl_layers
        (fun known p hp hExact => ih (hShort.parent hp) hExact) 0 hExact
      rw [← hShort.height_eq] at hLayer
      refine ⟨hLayer, ?_⟩
      have hHere := hKnown.cons d
      rw [← hLayer] at hHere
      exact hHere

/-! ## Places -/

/-- What was placed so far: the devices in their order, each in the layer of its height. -/
structure Placed (t : DeviceTree) (ids : List ObjectId) (placed : List Place × Layers) : Prop where
  devices : placed.1.map Place.device = ids
  layer : ∀ p ∈ placed.1, p.layer = t.height p.device
  exact : Exact t placed.2

theorem Placed.next {ids : List ObjectId} {placed : List Place × Layers} (h : Placed t ids placed)
    (hShort : t.Short d maxDepth) : Placed t (ids ++ [d]) (placeNext t placed d) := by
  obtain ⟨hLayer, hExact⟩ := findLayer_eq hShort h.exact
  refine ⟨?_, fun p hp => ?_, hExact⟩
  · show (placed.1 ++ [_]).map Place.device = ids ++ [d]
    rw [List.map_append, h.devices]
    rfl
  · rcases List.mem_append.mp hp with hp | hp
    · exact h.layer p hp
    · rw [List.mem_singleton.mp hp]
      exact hLayer

theorem Placed.foldl {before ids : List ObjectId} {placed : List Place × Layers}
    (h : Placed t before placed) (hShort : ∀ d ∈ ids, t.Short d maxDepth) :
    Placed t (before ++ ids) (ids.foldl (placeNext t) placed) := by
  induction ids generalizing before placed with
  | nil => rwa [List.append_nil]
  | cons d ids ih =>
    rw [List.append_cons]
    exact ih (h.next (hShort d List.mem_cons_self))
      fun e he => hShort e (List.mem_cons_of_mem d he)

/-- **Whatever the order, every device is placed in the layer of its height.** -/
theorem layout_height {ids : List ObjectId} (hShort : ∀ d ∈ ids, t.Short d maxDepth) :
    (layout t ids).map Place.device = ids ∧
    ∀ p ∈ layout t ids, p.layer = t.height p.device := by
  have hStart : Placed t [] ([], []) :=
    ⟨rfl, fun _ hp => absurd hp List.not_mem_nil, exact_nil t⟩
  have hPlaced := hStart.foldl hShort
  exact ⟨hPlaced.devices, hPlaced.layer⟩

/-! ## Edges -/

variable {s : Session} {panels : PanelState} {x y toX toY thickness : Nat} {color : Color}

/-- Every line of the graph is an edge from a placed parent to its child. -/
theorem edge_of_line (h : Shape.line x y toX toY thickness color ∈ shapes s panels) :
    ∃ p ∈ places s, ∃ q ∈ places s, s.tree.BuiltOn p.device q.device ∧
      x = q.middle ∧ y = q.bottom ∧ toX = p.middle ∧ toY = p.y := by
  rcases List.mem_append.mp h with h | h
  · obtain ⟨p, hp, h⟩ := List.mem_flatMap.mp h
    obtain ⟨parent, hParent, h⟩ := List.mem_filterMap.mp h
    obtain ⟨q, hq, hLine⟩ := Option.map_eq_some_iff.mp h
    obtain rfl : q.device = parent := by simpa using List.find?_some hq
    cases hLine
    exact ⟨p, hp, q, List.mem_of_find?_eq_some hq, hParent, rfl, rfl, rfl, rfl⟩
  · -- the node of a device has no lines
    obtain ⟨p, hp, h⟩ := List.mem_flatMap.mp h
    cases hd : s.tree.device? p.device with
    | none => simp [hd] at h
    | some device =>
      simp only [hd, Option.map_some, Option.getD_some, node] at h
      split at h <;> split at h <;> simp at h

/-- The bottom of a node lies above the top of every node in a lower layer. -/
theorem bottom_lt_y {p q : Place} (h : q.layer < p.layer) : q.bottom < p.y := by
  have hDown : (q.layer + 1) * grid.layerSpacing ≤ p.layer * grid.layerSpacing :=
    Nat.mul_le_mul_right _ h
  have hNode : grid.nodeHeight < grid.layerSpacing := by decide
  rw [Nat.succ_mul] at hDown
  unfold Place.bottom Place.y
  omega

/-- **The graph is drawn downward.**  While no chain of parent edges from a shown device has more
than `maxDepth` edges, so that there are no cycles above it either, the layer of a shown device is
the length of its longest chain of parents, whatever was remembered before, and in whatever order
devices are placed.  Every edge therefore starts, at the bottom of the parent, above the top of the
child. -/
theorem layering (s : Session) (panels : PanelState)
    (hShort : ∀ d ∈ shownIds s, ∀ n x, s.tree.Climbs n d x → n ≤ maxDepth) :
    (∀ d ∈ shownIds s, IsGreatest {n | ∃ x, s.tree.Climbs n d x} (s.tree.height d) ∧
      ∀ known, Exact s.tree known →
        (findLayer s.tree maxDepth known d).1 = s.tree.height d ∧
        Exact s.tree (findLayer s.tree maxDepth known d).2) ∧
    (∀ ids, (∀ d ∈ ids, d ∈ shownIds s) →
      (layout s.tree ids).map Place.device = ids ∧
      ∀ p ∈ layout s.tree ids, p.layer = s.tree.height p.device) ∧
    ∀ x y toX toY thickness color, Shape.line x y toX toY thickness color ∈ shapes s panels →
      ∃ p ∈ places s, ∃ q ∈ places s, s.tree.BuiltOn p.device q.device ∧
        x = q.middle ∧ y = q.bottom ∧ toX = p.middle ∧ toY = p.y ∧ y < toY := by
  refine ⟨fun d hd => ⟨DeviceTree.Short.isGreatest (hShort d hd),
    fun known => findLayer_eq (hShort d hd)⟩,
    fun ids hIds => layout_height fun d hd => hShort d (hIds d hd), ?_⟩
  intro x y toX toY thickness color hLine
  obtain ⟨p, hp, q, hq, hBuilt, rfl, rfl, rfl, rfl⟩ := edge_of_line hLine
  obtain ⟨hDevices, hLayers⟩ := layout_height hShort
  have hShown : p.device ∈ shownIds s := hDevices ▸ List.mem_map_of_mem hp
  have hLower : q.layer < p.layer := by
    rw [hLayers p hp, hLayers q hq]
    exact DeviceTree.Short.height_lt (hShort _ hShown) hBuilt
  exact ⟨p, hp, q, hq, hBuilt, rfl, rfl, rfl, rfl, bottom_lt_y hLower⟩

/-- An array takes in another one that was built after it. -/
theorem layering_of_later_member :
    let s := ({} : Session).performAll [
      .adoptDevice { name := "sda", kind := .disk } "" "",
      .adoptDevice { name := "md0", kind := .raidArray, parents := [2] } "" "",
      .adoptDevice { name := "sdb", kind := .disk } "" "",
      .adoptDevice { name := "md1", kind := .raidArray, parents := [6] } "" "",
      .schedule (.addMember 4 8)]
    (∀ d ∈ shownIds s, ∀ n x, s.tree.Climbs n d x → n ≤ maxDepth) ∧
    (places s).map (fun p => (p.device, p.layer)) = [(2, 0), (4, 2), (6, 0), (8, 1)] ∧
    (∀ p ∈ places s, p.layer = s.tree.height p.device) ∧
    ∀ x y toX toY thickness color, Shape.line x y toX toY thickness color ∈ shapes s {} →
      y < toY := by
  intro s
  have hAcyclic : s.tree.Acyclic := by decide +kernel
  have hDepth : ((shownIds s).all fun d => s.tree.depth d ≤ maxDepth) = true := by decide +kernel
  have hShort : ∀ d ∈ shownIds s, ∀ n x, s.tree.Climbs n d x → n ≤ maxDepth := by
    intro d hd n x hWay
    have hLow := of_decide_eq_true (List.all_eq_true.mp hDepth d hd)
    exact (hAcyclic.le_depth hWay).trans hLow
  obtain ⟨_, hLayout, hEdges⟩ := layering s {} hShort
  refine ⟨hShort, by decide +kernel, (hLayout (shownIds s) fun d hd => hd).2, ?_⟩
  intro x y toX toY thickness color hLine
  obtain ⟨_, _, _, _, _, _, _, _, _, hDown⟩ := hEdges x y toX toY thickness color hLine
  exact hDown

end Viewer

end StoragePlan
