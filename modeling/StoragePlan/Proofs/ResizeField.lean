import StoragePlan.Viewer.Event

/-!
# What the resize field asks for

A device that is picked puts its size into the resize field, in whole mebibytes, and the inspector
asks for as many bytes as the field says.  The field is a signed number of 32 bits, which holds the
mebibytes of a size below two pebibytes; a larger size wraps, and a field below one asks for one
mebibyte.

* `toInt_mibOf`, `toNat_bytesOfMib`: the way of a size into the field and back.
* `askedSize_mibOf_eq_iff`: the field gives a size back, down to a whole mebibyte, exactly below two
  pebibytes.
* `asks_own_size_iff`: **after a click an unedited field asks for the own size of the device that
  was picked exactly when that is below two pebibytes**.
-/

namespace StoragePlan.Viewer

/-! ## The field -/

/-- The number of bytes that the field asks for when it shows a number: at least one mebibyte. -/
def askedSize (mib : Int32) : ByteSize := bytesOfMib (max 1 mib)

/-- Of the mebibytes of a size the field keeps the residue nearest to zero. -/
theorem toInt_mibOf (size : ByteSize) :
    (mibOf size).toInt = ((size.toNat / 1048576 : Nat) : Int).bmod 4294967296 := by
  have hWord : (size / mebibytes 1).toUInt32.toBitVec.toNat
      = size.toNat / 1048576 % 4294967296 := by simp [mebibytes]
  show (size / mebibytes 1).toUInt32.toBitVec.toInt = _
  rw [BitVec.toInt_eq_toNat_bmod, hWord, Int.natCast_emod]
  exact Int.emod_bmod _ 4294967296

theorem toInt_max (a b : Int32) : (max a b).toInt = max a.toInt b.toInt := by
  show (if a ≤ b then b else a).toInt = _
  simp only [Int.max_def, Int32.le_iff_toInt_le]
  split <;> rfl

/-- What the field asks for fits into a machine word. -/
theorem toNat_bytesOfMib (mib : Int32) : (bytesOfMib mib).toNat = mib.toInt.toNat * 1048576 := by
  have hField := mib.toInt_lt
  have hUnit : (1048576 : UInt64).toNat = 1048576 := rfl
  rw [bytesOfMib, mebibytes, UInt64.toNat_mul, UInt64.toNat_ofNat', hUnit]
  omega

/-- A size without what is left over a whole mebibyte. -/
theorem toNat_sub_mod_mebibyte (size : ByteSize) :
    (size - size % mebibytes 1).toNat = size.toNat / 1048576 * 1048576 := by
  have hMod : (size % mebibytes 1).toNat = size.toNat % 1048576 := by simp [mebibytes]
  have hLe : size % mebibytes 1 ≤ size := by
    rw [UInt64.le_iff_toNat_le, hMod]
    exact Nat.mod_le _ _
  rw [UInt64.toNat_sub_of_le _ _ hLe, hMod]
  omega

/-- The field gives a size back, down to a whole mebibyte, exactly when the number of mebibytes is a
positive number of 32 bits. -/
theorem askedSize_mibOf_eq_iff {size : ByteSize} (hSize : mebibytes 1 ≤ size) :
    askedSize (mibOf size) = size - size % mebibytes 1 ↔ size < mebibytes 2147483648 := by
  have hLow : 1048576 ≤ size.toNat := hSize
  have hWord := size.toNat_lt
  have hAsked : (askedSize (mibOf size)).toNat
      = (max 1 (((size.toNat / 1048576 : Nat) : Int).bmod 4294967296)).toNat * 1048576 := by
    rw [askedSize, toNat_bytesOfMib, toInt_max, toInt_mibOf]
    rfl
  have hBound : size < mebibytes 2147483648 ↔ size.toNat < 2251799813685248 := Iff.rfl
  rw [← UInt64.toNat_inj, hAsked, toNat_sub_mod_mebibyte, hBound, Int.bmod_def]
  omega

namespace Frame

variable {g : Gesture} {f : Frame}

/-! ## The inspector down to the field -/

/-- The inspector of a device down to the resize field. -/
def aboveField (g : Gesture) (device : Device) (f : Frame) : Frame :=
  let t := f.session.tree
  let format := ((t.formatOf? device.id).map formatLines).getD []
  let f := f.drawAll ((deviceLines t device ++ format).map .text)
  ((f.draw (.disabled "Schedule")).destroySection g device).formatSection g device

/-- The resize field. -/
def sizeField (g : Gesture) (f : Frame) : Frame :=
  let typed := g.mib.getD f.panels.mib
  (f.draw (.input "MiB" typed)).setPanels fun panels => { panels with mib := max 1 typed }

/-- The buttons that ask for a size of a device and of what it holds. -/
def resizeButtons (g : Gesture) (device : Device) (size : ByteSize) (f : Frame) : Frame :=
  let f := f.button g "Resize Device" fun f =>
    f.schedule "resize device" (.resizeDevice device.id size)
  f.button g "Resize Format" fun f =>
    f.schedule "resize format" (.resizeFormat device.id size)

/-- The inspector asks for the size in its field. -/
theorem inspector_eq {device : Device}
    (h : f.session.tree.device? f.panels.selected = some device) :
    f.inspector g = (((f.aboveField g device).sizeField g).resizeButtons g device
      (askedSize (g.mib.getD (f.aboveField g device).panels.mib))).actionsSection := by
  unfold inspector
  rw [h]
  rfl

/-! ## What leaves the field alone -/

theorem mib_button {label : String} {act : Frame → Frame}
    (hAct : ∀ f : Frame, (act f).panels.mib = f.panels.mib) :
    (f.button g label act).panels.mib = f.panels.mib := by
  unfold button
  split
  · exact hAct _
  · rfl

theorem mib_call {α : Type} {what : String} {make : Session → Answer α} {next : α → Frame → Frame}
    (hNext : ∀ x (f : Frame), (next x f).panels.mib = f.panels.mib) :
    (f.call what make next).panels.mib = f.panels.mib := by
  have hReport : ∀ refusal, (f.panels.report what refusal).mib = f.panels.mib := by
    intro refusal
    cases refusal <;> rfl
  unfold call
  dsimp only
  split
  · exact (hNext _ _).trans (hReport _)
  · exact hReport _

theorem mib_schedule (what : String) (p : Proposal) :
    (f.schedule what p).panels.mib = f.panels.mib :=
  mib_call fun _ _ => rfl

theorem mib_chooseFormat : (f.chooseFormat g).panels.mib = f.panels.mib := by
  unfold chooseFormat
  split
  · split <;> rfl
  · rfl

theorem mib_aboveField (device : Device) : (f.aboveField g device).panels.mib = f.panels.mib := by
  have hDestroy : ∀ f : Frame, (f.destroySection g device).panels.mib = f.panels.mib := fun f =>
    (mib_button fun _ => mib_schedule _ _).trans (mib_button fun _ => mib_schedule _ _)
  have hFormat : ∀ f : Frame, (f.formatSection g device).panels.mib = f.panels.mib := fun f =>
    (mib_button fun _ => mib_call fun _ _ => mib_schedule _ _).trans mib_chooseFormat
  exact (hFormat _).trans (hDestroy _)

/-! ## Picking -/

/-- A click on a stored device selects it and puts its size into the field. -/
theorem pick_of_deviceAt? {click : Click} {device : Device}
    (hClick : click.captured = false ∧ click.pressed = true)
    (hPicked : f.deviceAt? click.x click.y = some device.id)
    (hStored : f.session.tree.device? device.id = some device) :
    f.pick click = f.setPanels fun panels =>
      { panels with selected := device.id, mib := mibOf device.size } := by
  unfold pick
  rw [hClick.1, hClick.2, hPicked]
  simp only [hStored]
  rfl

/-- **An unedited field asks for the own size of the device that was picked exactly when that is
below two pebibytes.**  A click picks a stored device of at least one mebibyte; the inspector then
shows that device, and both its buttons ask for one size.  This is the size of the device down to a
whole mebibyte exactly when the number of mebibytes fits into the field. -/
theorem asks_own_size_iff (f : Frame) (click : Click) (device : Device)
    (hClick : click.captured = false ∧ click.pressed = true)
    (hPicked : f.deviceAt? click.x click.y = some device.id)
    (hStored : f.session.tree.device? device.id = some device)
    (hSize : mebibytes 1 ≤ device.size) (g : Gesture) (hUnedited : g.mib = none) :
    let above := ({ f.handle (.pick click) with drawn := [] } : Frame).aboveField g device
    let size := askedSize above.panels.mib
    (f.handle (.pick click)).handle (.inspector g)
      = ((above.sizeField g).resizeButtons g device size).actionsSection ∧
    (size = device.size - device.size % mebibytes 1 ↔ device.size < mebibytes 2147483648) := by
  intro above size
  have hPick : f.handle (.pick click) = ({ f with drawn := [] } : Frame).setPanels fun panels =>
      { panels with selected := device.id, mib := mibOf device.size } :=
    pick_of_deviceAt? hClick hPicked hStored
  have hField : above.panels.mib = mibOf device.size := by
    refine (mib_aboveField device).trans ?_
    rw [hPick]
    rfl
  have hSelected : (f.handle (.pick click)).session.tree.device?
      (f.handle (.pick click)).panels.selected = some device := by
    rw [hPick]
    exact hStored
  refine ⟨?_, ?_⟩
  · refine (inspector_eq (f := { f.handle (.pick click) with drawn := [] }) hSelected).trans ?_
    rw [hUnedited]
    rfl
  · show askedSize above.panels.mib = _ ↔ _
    rw [hField]
    exact askedSize_mibOf_eq_iff hSize

/-- A partition one byte short of two pebibytes is picked, and both its buttons are pressed. -/
theorem asks_own_size_of_almost_two_pebibytes :
    let s := ({} : Session).performAll [
      .adoptDevice { name := "sda", kind := .disk, size := tebibytes 4096 } "disklabel" "",
      .adoptDevice
        { name := "sda1", kind := .partition, size := tebibytes 2048 - 1, parents := [2] }
        "ext4" "/"]
    let f : Frame := { session := s }
    let click : Click := { x := 75, y := 130 }
    let g : Gesture := { pressed := ["Resize Device", "Resize Format"] }
    let device := (s.tree.device? 5).getD default
    let above := ({ f.handle (.pick click) with drawn := [] } : Frame).aboveField g device
    (f.deviceAt? click.x click.y = some device.id ∧ s.tree.device? device.id = some device ∧
      mebibytes 1 ≤ device.size ∧ device.size < mebibytes 2147483648) ∧
    (f.handle (.pick click)).handle (.inspector g) = ((above.sizeField g).resizeButtons g device
      (askedSize above.panels.mib)).actionsSection ∧
    askedSize above.panels.mib = device.size - device.size % mebibytes 1 := by
  intro s f click g device above
  have hPicked : f.deviceAt? click.x click.y = some device.id := by decide +kernel
  have hStored : f.session.tree.device? device.id = some device := by decide +kernel
  have hSize : mebibytes 1 ≤ device.size := by decide +kernel
  have hBelow : device.size < mebibytes 2147483648 := by decide +kernel
  obtain ⟨hAsks, hOwn⟩ := asks_own_size_iff f click device ⟨rfl, rfl⟩ hPicked hStored hSize g rfl
  exact ⟨⟨hPicked, hStored, hSize, hBelow⟩, hAsks, hOwn.mpr hBelow⟩

/-- The mebibytes of two pebibytes do not fit: the field asks for a single one, and the harmless
press of the button schedules a shrink to it. -/
theorem asks_one_mebibyte_of_two_pebibytes :
    let s := ({} : Session).performAll [
      .adoptDevice { name := "sda", kind := .disk, size := tebibytes 4096 } "disklabel" "",
      .adoptDevice
        { name := "sda1", kind := .partition, size := tebibytes 2048, parents := [2] } "ext4" "/"]
    let f : Frame := { session := s }
    let click : Click := { x := 75, y := 130 }
    let g : Gesture := { pressed := ["Resize Device"] }
    let device := (s.tree.device? 5).getD default
    let above := ({ f.handle (.pick click) with drawn := [] } : Frame).aboveField g device
    let after := ((f.handle (.pick click)).handle (.inspector g)).session
    f.deviceAt? click.x click.y = some device.id ∧ s.tree.device? device.id = some device ∧
    mebibytes 1 ≤ device.size ∧ device.size % mebibytes 1 = 0 ∧
    askedSize above.panels.mib = mebibytes 1 ∧ askedSize above.panels.mib ≠ device.size ∧
    after.plan.map Action.operation = [.resizeDevice (mebibytes 1) 0 .shrink] := by
  decide +kernel

end Frame

end StoragePlan.Viewer
