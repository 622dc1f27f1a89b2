import StoragePlan.Session.Basic
import StoragePlan.Tree.Graph
import StoragePlan.Tree.Resize

/-!
# Constructing actions

A proposal names one of the eight operations and its arguments.  Constructing its action checks the
proposal against the tree, makes the changes that come at once (formats, target sizes and
memberships), and stores the action with an id and a display id of its own.
-/

namespace StoragePlan

/-- One of the eight operations, with its arguments. -/
inductive Proposal where
  | createDevice (device : ObjectId)
  | destroyDevice (device : ObjectId)
  | createFormat (device format : ObjectId)
  | destroyFormat (device : ObjectId)
  | resizeDevice (device : ObjectId) (size : ByteSize)
  | resizeFormat (device : ObjectId) (size : ByteSize)
  | addMember (container member : ObjectId)
  | removeMember (container member : ObjectId)
deriving DecidableEq, Repr, Inhabited

/-- A proposal that passed its checks: the action to store, the tree with the changes that come at
once, and the objects so changed. -/
structure Preparation where
  device : ObjectId
  operation : Operation
  tree : DeviceTree
  updated : List ObjectId := []

/-- Which way a change of size goes. -/
def ResizeDirection.between (current new : ByteSize) : ResizeDirection :=
  if current < new then .grow else .shrink

namespace DeviceTree

/-- The stored device with this id, or the refusal of a construction. -/
def target (t : DeviceTree) (id : ObjectId) : Except Refusal Device :=
  match t.device? id with
  | none => .error .unknownDevice
  | some device => .ok device

/-- Why a device cannot take a size, if it cannot. -/
def deviceSizeRefusal? (t : DeviceTree) (device : Device) (size : ByteSize) : Option Refusal :=
  if device.onMedia = false then some (.notThere device.name)
  else if t.canResize device.id = false then some (.deviceFixedSize device.name)
  else if size = device.currentSize then some .sameSize
  else if size < t.minSize device.id ∨ t.maxSize device.id < size then
    some (.deviceSizeOutOfBounds size device.name)
  else none

/-- Why a format that measures `current` cannot take a size, if it cannot. -/
def formatSizeRefusal? (format : Format) (current size : ByteSize) : Option Refusal :=
  if format.resizable = false then some (.formatFixedSize format.typeName)
  else if size = current then some .sameSize
  else if size = 0 ∨ size < format.minSize ∨ (format.maxSize ≠ 0 ∧ format.maxSize < size) then
    some (.formatSizeOutOfBounds size)
  else none

/-- Prepare the change of a device's size. -/
def prepareResizeDevice (t : DeviceTree) (device : Device) (size : ByteSize) :
    Except Refusal Preparation :=
  match t.deviceSizeRefusal? device size with
  | some cause => .error cause
  | none =>
    .ok {
      device := device.id
      operation := .resizeDevice size device.targetSize (.between device.currentSize size)
      tree := t.setTarget device.id size
      updated := [device.id] }

/-- Prepare the change of the size of what a device holds. -/
def prepareResizeFormat (t : DeviceTree) (device : Device) (size : ByteSize) :
    Except Refusal Preparation :=
  match (t.content? device.id).filter Format.onMedia with
  | none => .error .formatNotThere
  | some format =>
    let current := t.contentSize device.id
    match formatSizeRefusal? format current size with
    | some cause => .error cause
    | none =>
      .ok {
        device := device.id
        operation := .resizeFormat format.id size format.targetSize (.between current size)
        tree := t.setFormatTarget format.id size
        updated := [format.id] }

/-- Prepare the addition of a member to a container. -/
def prepareAddMember (t : DeviceTree) (container member : Device) : Except Refusal Preparation :=
  if container.id = member.id ∨ t.dependsOn member.id container.id then .error .memberCycle
  else if member.id ∈ container.parents then .error (.alreadyMember container.name)
  else
    .ok {
      device := member.id
      operation := .addMember container.id
      tree := t.changeParents container.id fun parents => parents ++ [member.id]
      updated := [container.id] }

/-- Prepare the removal of a member from a container. -/
def prepareRemoveMember (t : DeviceTree) (container member : Device) :
    Except Refusal Preparation :=
  if member.id ∉ container.parents then .error (.notMember container.name)
  else
    .ok {
      device := member.id
      operation := .removeMember container.id (container.parents.idxOf member.id)
      tree := t.changeParents container.id fun parents => parents.erase member.id
      updated := [container.id] }

/-- Check a proposal and make the changes that come at once. -/
def prepare (t : DeviceTree) : Proposal → Except Refusal Preparation
  | .createDevice device => do
    let device ← t.target device
    if device.onMedia then throw (.alreadyThere device.name)
    return { device := device.id, operation := .createDevice, tree := t }
  | .destroyDevice device => do
    let device ← t.target device
    return { device := device.id, operation := .destroyDevice, tree := t }
  | .createFormat device format => do
    let device ← t.target device
    if (t.format? format).isNone then throw .unknownFormat
    return {
      device := device.id
      operation := .createFormat format device.formatId
      tree := t.setFormat device.id format
      updated := [device.id] }
  | .destroyFormat device => do
    let device ← t.target device
    let (blank, t) := t.storeFormat .blank "" false
    return {
      device := device.id
      operation := .destroyFormat device.formatId blank
      tree := t.setFormat device.id blank
      updated := [device.id] }
  | .resizeDevice device size => do
    let device ← t.target device
    t.prepareResizeDevice device size
  | .resizeFormat device size => do
    let device ← t.target device
    t.prepareResizeFormat device size
  | .addMember container member => do
    let container ← t.target container
    let member ← t.target member
    t.prepareAddMember container member
  | .removeMember container member => do
    let container ← t.target container
    let member ← t.target member
    t.prepareRemoveMember container member

/-! ## What a preparation tells -/

theorem target_ok {t : DeviceTree} {id : ObjectId} {device : Device}
    (h : t.target id = .ok device) : t.device? id = some device := by
  unfold target at h
  split at h
  · cases h
  · cases h; assumption

theorem prepare_destroyDevice_ok {t : DeviceTree} {id : ObjectId} {p : Preparation}
    (h : t.prepare (.destroyDevice id) = .ok p) :
    ∃ device, t.device? id = some device
      ∧ p = { device := device.id, operation := .destroyDevice, tree := t } := by
  cases target : t.target id with
  | error cause => simp [prepare, target, bind, Except.bind] at h
  | ok device =>
    simp only [prepare, target, bind, Except.bind, pure, Except.pure, Except.ok.injEq] at h
    exact ⟨device, target_ok target, h.symm⟩

theorem prepare_destroyFormat_ok {t : DeviceTree} {id : ObjectId} {p : Preparation}
    (h : t.prepare (.destroyFormat id) = .ok p) :
    ∃ device blank, t.device? id = some device ∧ p.device = device.id
      ∧ p.operation = .destroyFormat device.formatId blank ∧ p.tree.order = t.order := by
  cases target : t.target id with
  | error cause => simp [prepare, target, bind, Except.bind] at h
  | ok device =>
    simp only [prepare, target, bind, Except.bind, pure, Except.pure, Except.ok.injEq] at h
    subst h
    exact ⟨device, _, target_ok target, rfl, rfl, rfl⟩

end DeviceTree

namespace Session

/-- The action that a prepared proposal stores. -/
def actionOf (s : Session) (p : Preparation) : Action where
  id := p.tree.ids.next
  displayId := serialText "A" s.nextSerial
  device := p.device
  operation := p.operation

/-- The session once a preparation is carried out and its id and serial number are used up. -/
def carryOut (s : Session) (p : Preparation) : Session :=
  { s with tree := { p.tree with ids := p.tree.ids.take.2 }, nextSerial := s.nextSerial + 1 }

/-- Store the action of a prepared proposal.  When its id is taken the action is refused; the
changes of the preparation and the serial number stay used. -/
def construct (s : Session) (p : Preparation) : Answer ObjectId :=
  let a := s.actionOf p
  let s := s.carryOut p
  match s.actions.insert? a with
  | none => ({ value := 0, refusal := some .idCollision, changes := { updated := p.updated } }, s)
  | some actions =>
    ({ value := a.id, changes := { created := [a.id], updated := p.updated } },
      { s with actions }.record .info .construct a.id (s.tree.describe a))

/-- Construct the action of a proposal. -/
def propose (s : Session) (p : Proposal) : Answer ObjectId :=
  match s.tree.prepare p with
  | .error cause => (.refused cause, s)
  | .ok preparation => s.construct preparation

end Session

end StoragePlan
