import Mathlib.Data.List.Find
import Mathlib.Data.List.Pairwise
import Mathlib.Algebra.Order.Ring.Rat
import Mathlib.Data.Nat.Cast.Order.Ring
import StoragePlan.Proofs.Dismantling
import StoragePlan.Proofs.Layering
import StoragePlan.Proofs.Panels

/-!
# Picking in the device graph

A click selects the first node that it hits.  Which one comes first does not matter: every shown
device has one node, and no point lies on two nodes.  In a layer each device is put behind those
placed before, so two devices of one layer never share a column, whatever layers were found for
them; cycles of parents and chains that are too long to be followed do no harm.

* `Session.Reached`: the sessions that calls lead to.  `Reached.filed`: they list every present
  device once, and `reached_handleAll`: the viewer stays among them.
* `apart_of_mem_layout`: two placed devices differ in their layer or in their column.
* `eq_of_hits`: no point lies on two nodes, not even with all edges counted in.
* `pick_any_order`: **the order in which nodes are looked at does not change what is picked**.
-/

namespace StoragePlan

/-! ## Reachable sessions -/

namespace Session

variable {s : Session}

/-- The sessions that calls lead to, also those that write straight into what is stored. -/
inductive Reached : Session → Prop
  | start : Reached {}
  | perform {s : Session} (h : Reached s) (command : Command) : Reached (s.perform command).2

theorem Reached.performAll (h : s.Reached) (commands : List Command) :
    (s.performAll commands).Reached := by
  unfold Session.performAll
  induction commands generalizing s with
  | nil => exact h
  | cons command commands ih => exact ih (h.perform command)

/-- The present devices are stored, each once. -/
theorem Reached.filed (h : s.Reached) : s.tree.Filed := by
  induction h with
  | start => exact ⟨fun _ h => absurd h List.not_mem_nil, DeviceTree.inStep_empty⟩
  | perform _ command ih => exact filed_perform ih command

end Session

namespace Viewer

open Session

variable {t : DeviceTree} {s : Session}

/-! ## What is shown -/

/-- The devices shown are those in the tree and those that a registered action destroys. -/
theorem mem_shownIds {d : ObjectId} :
    d ∈ shownIds s ↔
      d ∈ s.tree.order ∨ ∃ a ∈ s.plan, a.kind = .destroyDevice ∧ a.device = d := by
  have hFold : ∀ (actions : List Action) (ids : List ObjectId),
      d ∈ actions.foldl
          (fun ids a => if ids.contains a.device then ids else ids ++ [a.device]) ids ↔
        d ∈ ids ∨ ∃ a ∈ actions, a.device = d := by
    intro actions
    induction actions with
    | nil => simp
    | cons a actions ih =>
      intro ids
      rw [List.foldl_cons, ih]
      by_cases hIn : a.device ∈ ids
      · grind
      · grind
  rw [shownIds, hFold]
  simp [and_assoc]

/-- Every device is shown once. -/
theorem nodup_shownIds (h : s.tree.order.Nodup) : (shownIds s).Nodup := by
  unfold shownIds
  generalize s.plan.filter (fun a => a.kind == .destroyDevice) = actions
  generalize s.tree.order = ids at h ⊢
  induction actions generalizing ids with
  | nil => exact h
  | cons a actions ih =>
    refine ih _ ?_
    by_cases hIn : a.device ∈ ids
    · simpa [hIn] using h
    · simpa [hIn] using List.nodup_append.mpr ⟨h, List.nodup_singleton a.device, by grind⟩

/-! ## Places -/

/-- Two places that differ in their layer or in their column. -/
def Place.Apart (p q : Place) : Prop := p.layer = q.layer → p.column ≠ q.column

instance : Std.Symm Place.Apart := ⟨fun _ _ h hLayer hColumn => h hLayer.symm hColumn.symm⟩

/-- What was placed so far: each device stands in front of those counted in its layer, and no two
share a layer and a column. -/
structure Spread (placed : List Place) : Prop where
  column_lt : ∀ p ∈ placed, p.column < placed.countP fun q => q.layer == p.layer
  apart : placed.Pairwise Place.Apart

/-- A device is put behind those of its layer. -/
theorem Spread.append {placed : List Place} (h : Spread placed) (d : ObjectId) (layer : Nat) :
    Spread (placed ++ [{ device := d, layer, column := placed.countP fun q => q.layer == layer }])
    where
  column_lt := by
    intro p hp
    rw [List.countP_append]
    rcases List.mem_append.mp hp with hp | hp
    · exact Nat.lt_add_right _ (h.column_lt p hp)
    · obtain rfl := List.mem_singleton.mp hp
      simp
  apart := by
    refine List.pairwise_append.mpr ⟨h.apart, List.pairwise_singleton _ _, fun p hp q hq => ?_⟩
    obtain rfl := List.mem_singleton.mp hq
    rintro rfl
    exact (h.column_lt p hp).ne

/-- Placing devices keeps those placed before spread, and places each device once. -/
theorem spread_foldl (ids : List ObjectId) {placed : List Place × Layers} (h : Spread placed.1) :
    Spread (ids.foldl (placeNext t) placed).1 ∧
    (ids.foldl (placeNext t) placed).1.map Place.device = placed.1.map Place.device ++ ids := by
  induction ids generalizing placed with
  | nil => exact ⟨h, (List.append_nil _).symm⟩
  | cons d ids ih =>
    obtain ⟨hSpread, hDevices⟩ := @ih (placeNext t placed d) (h.append d _)
    refine ⟨hSpread, hDevices.trans ?_⟩
    simp [placeNext]

theorem map_device_layout (t : DeviceTree) (ids : List ObjectId) :
    (layout t ids).map Place.device = ids :=
  (spread_foldl ids ⟨by simp, .nil⟩).2

/-- **Two placed devices differ in their layer or in their column**, whatever the layers are. -/
theorem apart_of_mem_layout {ids : List ObjectId} {p q : Place} (hp : p ∈ layout t ids)
    (hq : q ∈ layout t ids) (h : p ≠ q) : p.Apart q :=
  (spread_foldl ids ⟨by simp, .nil⟩).1.apart.forall hp hq h

/-! ## Points on nodes -/

/-- Whether a point lies on a node.  The left and top edges belong to it; `closed` says whether the
right and bottom edges do. -/
def Place.hits (closed : Bool) (p : Place) (x y : ℚ) : Bool :=
  let upTo (a b : ℚ) : Bool := if closed then a ≤ b else a < b
  (p.x : ℚ) ≤ x && upTo x (p.x + grid.nodeWidth : Nat) && (p.y : ℚ) ≤ y && upTo y p.bottom

/-- A point on a node lies between its edges. -/
theorem Place.bounds_of_hits {closed : Bool} {p : Place} {x y : ℚ} (h : p.hits closed x y = true) :
    (p.x : ℚ) ≤ x ∧ x ≤ (p.x + grid.nodeWidth : Nat) ∧ (p.y : ℚ) ≤ y ∧ y ≤ p.bottom := by
  cases closed with
  | true => simpa [hits, and_assoc] using h
  | false =>
    have h : (p.x : ℚ) ≤ x ∧ x < (p.x + grid.nodeWidth : Nat) ∧ (p.y : ℚ) ≤ y ∧ y < p.bottom := by
      simpa [hits, and_assoc] using h
    exact ⟨h.1, h.2.1.le, h.2.2.1, h.2.2.2.le⟩

/-- At a whole point the half-open node is the one that the graph looks for. -/
theorem Place.hits_intCast (p : Place) (x y : Int) : p.hits false x y = p.covers x y := by
  simp only [hits, covers, Bool.false_eq_true, if_false]
  norm_cast

/-- The right edge of a node lies left of every node in a later column. -/
theorem right_lt_x {p q : Place} (h : q.column < p.column) : q.x + grid.nodeWidth < p.x := by
  have hRight : (q.column + 1) * grid.columnSpacing ≤ p.column * grid.columnSpacing :=
    Nat.mul_le_mul_right _ h
  have hNode : grid.nodeWidth < grid.columnSpacing := by decide
  rw [Nat.succ_mul] at hRight
  unfold Place.x
  omega

/-- A coordinate does not lie on both sides of a gap. -/
theorem not_le_of_gap {m n : Nat} {x : ℚ} (hGap : m < n) (h : x ≤ m) : ¬ (n : ℚ) ≤ x := fun hn =>
  absurd (Nat.cast_le.mp (hn.trans h)) (Nat.not_le.mpr hGap)

/-- Nodes that stand apart have no point in common. -/
theorem Place.Apart.not_hits {p q : Place} (h : p.Apart q) {closed closed' : Bool} {x y : ℚ}
    (hp : p.hits closed x y = true) : ¬ q.hits closed' x y = true := by
  intro hq
  obtain ⟨hpLeft, hpRight, hpTop, hpBottom⟩ := bounds_of_hits hp
  obtain ⟨hqLeft, hqRight, hqTop, hqBottom⟩ := bounds_of_hits hq
  rcases Nat.lt_trichotomy p.layer q.layer with hLayer | hLayer | hLayer
  · exact not_le_of_gap (bottom_lt_y hLayer) hpBottom hqTop
  · rcases Nat.lt_or_gt_of_ne (h hLayer) with hColumn | hColumn
    · exact not_le_of_gap (right_lt_x hColumn) hpRight hqLeft
    · exact not_le_of_gap (right_lt_x hColumn) hqRight hpLeft
  · exact not_le_of_gap (bottom_lt_y hLayer) hqBottom hpTop

/-- A point lies on one node at most, all edges counted in. -/
theorem eq_of_hits {ids : List ObjectId} {p q : Place} (hp : p ∈ layout t ids)
    (hq : q ∈ layout t ids) {closed closed' : Bool} {x y : ℚ} (hpHit : p.hits closed x y = true)
    (hqHit : q.hits closed' x y = true) : p = q := by
  by_contra hNe
  exact (apart_of_mem_layout hp hq hNe).not_hits hpHit hqHit

/-! ## Picking -/

namespace Frame

variable {f : Frame}

/-- Select the device of the first node under a point, with the nodes looked at in some order, and
offer its own size for a resize. -/
def selectAmong (closed : Bool) (order : List Place) (x y : ℚ) (f : Frame) : Frame :=
  match order.find? fun p => p.hits closed x y with
  | none => f.setPanels fun panels => { panels with selected := 0 }
  | some p =>
    match f.session.tree.device? p.device with
    | none => f.setPanels fun panels => { panels with selected := p.device }
    | some device =>
      f.setPanels fun panels => { panels with selected := p.device, mib := mibOf device.size }

/-- A click looks at the nodes in the order in which they were placed. -/
theorem pick_eq_selectAmong (click : Click) (f : Frame) :
    f.pick click = if click.captured || !click.pressed then f
      else f.selectAmong false (places f.session) click.x click.y := by
  unfold pick selectAmong deviceAt?
  simp only [Place.hits_intCast]
  cases (places f.session).find? fun p => p.covers click.x click.y with
  | none => rfl
  | some p => rfl

theorem selectAmong_of_perm {closed : Bool} {order : List Place} {x y : ℚ}
    (h : order.Perm (places f.session)) :
    f.selectAmong closed order x y = f.selectAmong closed (places f.session) x y := by
  have hFind : order.find? (fun p => p.hits closed x y)
      = (places f.session).find? fun p => p.hits closed x y := by
    refine (List.find?_eq_find?_of_perm h.symm ?_).symm
    rintro p ⟨hp, hpHit⟩ q ⟨hq, hqHit⟩
    exact eq_of_hits hp hq hpHit hqHit
  rw [selectAmong, hFind]
  rfl

/-! ## Runs of the viewer -/

/-- The panels act on the session through calls. -/
theorem kept_reached : Kept (fun s _ => s.Reached) fun _ _ => True where
  panels _ _ _ h _ := h
  call _ _ _ command h _ _ _ := h.perform command
  reset _ _ := Session.Reached.start.perform .adoptDemo
  partition _ _ _ _ h _ _ := h.perform (.newDevice _)
  known _ _ _ _ _ _ := trivial
  still _ _ _ _ _ := trivial
  group _ _ _ _ _ h _ _ _ := h.perform (.newDevice _)
  volume _ _ _ _ _ h _ := h.perform (.newDevice _)

/-- The viewer reaches no session that calls do not reach. -/
theorem reached_handleAll (events : List Event) : (({} : Frame).handleAll events).session.Reached :=
  kept_reached.handleAll_holds (f := {}) Session.Reached.start events

/-- **The order in which nodes are looked at does not change what is picked.**  In every session
that calls lead to, also calls that write cycles of parents into it: every shown device is shown and
placed once, and shown are the devices in the tree and those that a registered action destroys.  No
point lies on the nodes of two devices, not even with all edges counted in.  So whether the right
and bottom edges belong to a node or not, every two orders of the nodes select the same device at
every point, and offer the same size for a resize; a click selects what every order selects. -/
theorem pick_any_order (f : Frame) (hReached : f.session.Reached) :
    let s := f.session
    (shownIds s).Nodup ∧
    (∀ d, d ∈ shownIds s ↔
      d ∈ s.tree.order ∨ ∃ a ∈ s.plan, a.kind = .destroyDevice ∧ a.device = d) ∧
    (places s).map Place.device = shownIds s ∧
    (∀ p ∈ places s, ∀ q ∈ places s, p.device ≠ q.device →
      ∀ x y : ℚ, ¬ (p.hits true x y = true ∧ q.hits true x y = true)) ∧
    (∀ order order' : List Place, order.Perm (places s) → order'.Perm (places s) →
      ∀ closed, ∀ x y : ℚ, f.selectAmong closed order x y = f.selectAmong closed order' x y) ∧
    ∀ order : List Place, order.Perm (places s) → ∀ click, f.pick click =
      if click.captured || !click.pressed then f
      else f.selectAmong false order click.x click.y := by
  intro s
  refine ⟨nodup_shownIds hReached.filed.inStep.nodup, fun d => mem_shownIds,
    map_device_layout s.tree (shownIds s), ?_, ?_, ?_⟩
  · rintro p hp q hq hNe x y ⟨hpHit, hqHit⟩
    exact hNe (congrArg Place.device (eq_of_hits hp hq hpHit hqHit))
  · intro order order' h h' closed x y
    rw [selectAmong_of_perm h, selectAmong_of_perm h']
  · intro order h click
    rw [pick_eq_selectAmong, selectAmong_of_perm h]

/-- Two disks are made parents of each other, and one of two others is to be destroyed.  A point on
the right edge of its node picks it when edges count, whichever node is looked at first. -/
theorem pick_any_order_of_cycle :
    let s := ({} : Session).performAll [
      .adoptDevice { name := "sda", kind := .disk, size := gibibytes 100 } "" "",
      .adoptDevice { name := "sdb", kind := .disk, size := gibibytes 200 } "" "",
      .adoptDevice { name := "sdc", kind := .disk, size := gibibytes 300 } "" "",
      .adoptDevice { name := "sdd", kind := .disk, size := gibibytes 400 } "" "",
      .editDevice 2 { parents := some [4] }, .editDevice 4 { parents := some [2] },
      .schedule (.destroyDevice 6)]
    let f : Frame := { session := s }
    (s.Reached ∧ s.tree.order = [2, 4, 8] ∧ (places s).reverse.Perm (places s) ∧
      (places s).map (fun p => (p.device, p.column, p.layer))
        = [(2, 0, 32), (4, 0, 31), (8, 0, 0), (6, 1, 0)]) ∧
    (shownIds s).Nodup ∧
    (f.selectAmong true (places s).reverse 320 54).panels.selected = 6 ∧
    f.selectAmong true (places s).reverse 320 54 = f.selectAmong true (places s) 320 54 ∧
    f.pick { x := 319, y := 53 } = f.selectAmong false (places s).reverse 319 53 := by
  intro s f
  have hReached : f.session.Reached := Session.Reached.start.performAll _
  have hReverse : (places f.session).reverse.Perm (places f.session) := List.reverse_perm _
  obtain ⟨hNodup, -, -, -, hOrders, hClick⟩ := pick_any_order f hReached
  have hPick := hClick _ hReverse { x := 319, y := 53 }
  rw [if_neg (by decide), Int.cast_ofNat, Int.cast_ofNat] at hPick
  exact ⟨⟨hReached, by decide +kernel, hReverse, by decide +kernel⟩, hNodup, by decide +kernel,
    hOrders _ _ hReverse (.refl _) true 320 54, hPick⟩

end Frame

end Viewer

end StoragePlan
