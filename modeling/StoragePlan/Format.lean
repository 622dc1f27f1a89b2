import StoragePlan.Arena
import StoragePlan.Size

/-!
# Formats

A format is what occupies a device: a filesystem, swap space, a volume group member and so on.  A
device that holds nothing carries a format of kind `blank`.  A format is made from an entry of the
table of format types and copies that entry's capabilities, which may be overridden afterwards.
-/

namespace StoragePlan

/-- What a format is for. -/
inductive FormatKind where
  /-- The device holds nothing. -/
  | blank
  | filesystem
  | swap
  | physicalVolume
  | raidMember
  | partitionTable
  | encryption
deriving DecidableEq, Repr, Inhabited

namespace FormatKind

/-- Every kind, in order. -/
def all : List FormatKind :=
  [blank, filesystem, swap, physicalVolume, raidMember, partitionTable, encryption]

/-- The word that names a kind. -/
def label : FormatKind → String
  | blank => "none"
  | filesystem => "filesystem"
  | swap => "swap"
  | physicalVolume => "lvmpv"
  | raidMember => "mdmember"
  | partitionTable => "disklabel"
  | encryption => "luks"

/-- The word for the kind with this number. -/
def labelOfNumber (n : Nat) : String := (all[n]?.map label).getD "unknown"

/-- The kind that a word names. -/
def ofLabel? (word : String) : Option FormatKind := all.find? fun kind => kind.label == word

/-- The words tell the kinds apart. -/
theorem ofLabel?_label (kind : FormatKind) : ofLabel? kind.label = some kind := by
  cases kind <;> decide

end FormatKind

/-- An entry of the table of format types. -/
structure FormatType where
  name : String
  kind : FormatKind
  /-- Whether a format of this type can change its size in place. -/
  resizable : Bool := false
  minSize : ByteSize := 0
  /-- The largest possible size; `0` stands for no bound. -/
  maxSize : ByteSize := 0
deriving DecidableEq, Repr, Inhabited

namespace FormatType

/-- The type of a device that holds nothing. -/
def blank : FormatType := { name := "", kind := .blank }

/-- One generation of the extended filesystem. -/
def extended (name : String) : FormatType :=
  { name, kind := .filesystem, resizable := true, maxSize := tebibytes 16 }

/-- Every known format type, ordered by name. -/
def table : List FormatType :=
  [ blank,
    { name := "disklabel", kind := .partitionTable },
    extended "ext2",
    extended "ext3",
    extended "ext4",
    { name := "gpt", kind := .partitionTable },
    { name := "luks", kind := .encryption },
    { name := "lvmpv", kind := .physicalVolume },
    { name := "mdmember", kind := .raidMember },
    { name := "msdos", kind := .partitionTable },
    { name := "swap", kind := .swap },
    { name := "vfat", kind := .filesystem, maxSize := tebibytes 2 },
    { name := "xfs", kind := .filesystem } ]

/-- The format type of a given name; the empty name is that of the blank type. -/
def named? (name : String) : Option FormatType := table.find? fun type => type.name == name

end FormatType

/-- What occupies a device. -/
structure Format where
  id : ObjectId
  typeName : String
  kind : FormatKind
  mountPoint : String
  /-- Whether the format is already written to its device. -/
  onMedia : Bool
  resizable : Bool
  /-- The size on the device; `0` stands for the size of the device. -/
  currentSize : ByteSize := 0
  /-- The size that a pending resize asks for; `0` when there is none. -/
  targetSize : ByteSize := 0
  minSize : ByteSize
  /-- The largest possible size; `0` stands for no bound. -/
  maxSize : ByteSize
deriving DecidableEq, Repr, Inhabited

namespace Format

instance : Identified Format := ⟨Format.id⟩

/-- A new format of a given type. -/
def ofType (type : FormatType) (id : ObjectId) (mountPoint : String) (onMedia : Bool) : Format where
  id := id
  typeName := type.name
  kind := type.kind
  mountPoint := mountPoint
  onMedia := onMedia
  resizable := type.resizable
  minSize := type.minSize
  maxSize := type.maxSize

/-- A format as one line of text: its type, and its mount point when it has one. -/
def summary (format : Format) : String :=
  if format.kind = .blank then "none"
  else if format.mountPoint = "" then format.typeName
  else format.typeName ++ " (" ++ format.mountPoint ++ ")"

end Format

/-- Values written straight into a stored format; a field left out stays as it is. -/
structure FormatPatch where
  typeName : Option String := none
  kind : Option FormatKind := none
  onMedia : Option Bool := none
  resizable : Option Bool := none
  currentSize : Option ByteSize := none
  targetSize : Option ByteSize := none
  minSize : Option ByteSize := none
  maxSize : Option ByteSize := none
  mountPoint : Option String := none
deriving DecidableEq, Repr, Inhabited

/-- A format with the given values written into it. -/
def FormatPatch.apply (patch : FormatPatch) (format : Format) : Format :=
  { format with
    typeName := patch.typeName.getD format.typeName
    kind := patch.kind.getD format.kind
    onMedia := patch.onMedia.getD format.onMedia
    resizable := patch.resizable.getD format.resizable
    currentSize := patch.currentSize.getD format.currentSize
    targetSize := patch.targetSize.getD format.targetSize
    minSize := patch.minSize.getD format.minSize
    maxSize := patch.maxSize.getD format.maxSize
    mountPoint := patch.mountPoint.getD format.mountPoint }

/-- Values written into a format do not change its id. -/
theorem FormatPatch.id_apply (patch : FormatPatch) (format : Format) :
    (patch.apply format).id = format.id := rfl

end StoragePlan
