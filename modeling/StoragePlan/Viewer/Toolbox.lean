import StoragePlan.Viewer.Autopart

/-!
# The toolbox

The panel with the calls on the whole session: a fresh demonstration layout, the teardown of a disk,
the layout of an empty disk, the membership of one partition, and pruning and sorting the plan.
-/

namespace StoragePlan.Viewer.Frame

/-- Start over with the demonstration layout. -/
def resetDemo (f : Frame) : Frame :=
  { f with session := {}, panels := { f.panels with selected := 0, autopartSerial := 0 } }.callOnly
    "populate demo layout" fun s => s.adoptDemo

/-- One entry of the opened list of disks; choosing it makes its disk the current one. -/
def diskEntry (g : Gesture) (f : Frame) (entry : Device × Nat) : Frame :=
  let label := shown entry.1.name
  let f := f.draw (.entry label (entry.2 == f.panels.diskIndex))
  if g.chosen = label then f.setPanels fun panels => { panels with diskIndex := entry.2 } else f

/-- Take down everything on a disk. -/
def removeEverything (disk : Device) (f : Frame) : Frame :=
  f.call ("recursive remove on " ++ disk.name) (fun s => s.removeStack disk.id false)
    fun removed f =>
      f.note ("[info] scheduled " ++ removed.length.repr ++ " actions")

/-- The choice of a disk and the button that takes down everything on it.  The button acts on the
disk that was current when the panel was entered. -/
def teardownSection (g : Gesture) (f : Frame) : Frame :=
  let f := f.draw (.disabled "Teardown")
  let disks := f.session.tree.ofKind .disk
  let f := if disks.isEmpty then f else
    f.setPanels fun panels => { panels with diskIndex := min panels.diskIndex (disks.length - 1) }
  match disks[f.panels.diskIndex]? with
  | none => f
  | some current =>
    let f := f.draw (.combo "Disk" (shown current.name))
    let f := if g.opened then disks.zipIdx.foldl (diskEntry g) f else f
    f.button g "Remove Everything On Disk" (removeEverything current)

/-- The button that lays out an empty disk. -/
def createSection (g : Gesture) (f : Frame) : Frame :=
  (f.draw (.disabled "Create")).button g "Autopart Chain On Empty Disk" autopart

/-- The button that moves the partition `sdb1` into `VolGroup` or out of it. -/
def membershipSection (g : Gesture) (f : Frame) : Frame :=
  let f := f.draw (.disabled "Membership")
  match f.session.tree.named? "VolGroup", f.session.tree.named? "sdb1" with
  | some group, some member =>
    if member.id ∈ group.parents then
      f.button g "Remove sdb1 From VolGroup" fun f =>
        f.schedule "remove member sdb1" (.removeMember group.id member.id)
    else
      f.button g "Add sdb1 To VolGroup" fun f =>
        f.schedule "add member sdb1" (.addMember group.id member.id)
  | _, _ => f.draw (.disabled "VolGroup or sdb1 is not in the tree")

/-- Prune the plan. -/
def prunePlan (f : Frame) : Frame :=
  f.call "prune" (fun s => s.prune) fun pruned f =>
    f.note ("[info] pruned " ++ pruned.length.repr ++ " actions")

/-- Sort the plan and show the result. -/
def sortPlan (f : Frame) : Frame :=
  f.call "sort" (fun s => s.sort) fun order f =>
    f.setPanels fun panels => { panels with sortedPlan := order, planValid := true }

/-- The buttons that prune and sort the plan. -/
def planSection (g : Gesture) (f : Frame) : Frame :=
  ((f.draw (.disabled "Plan")).button g "Prune" prunePlan).button g "Sort" sortPlan

/-- The toolbox. -/
def toolbox (g : Gesture) (f : Frame) : Frame :=
  (((f.button g "Reset Demo" resetDemo).teardownSection g).createSection g).membershipSection g
    |>.planSection g

end StoragePlan.Viewer.Frame
