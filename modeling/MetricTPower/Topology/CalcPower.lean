import MetricTPower.Library.Outcome
import Mathlib.Data.UInt
import Std.Data.TreeMap.Lemmas
import Std.Data.TreeSet.Lemmas

/-!
# Power sources of the containers

The functions of `src/calc_power.cc`, which read the power topology of every rack or datacenter
from the database and compute the devices whose power is summed up. The database is outside the
repository: `Database` holds the answers of its queries, and `Persist` the functions and numbers
of the asset types. `std::map` and `std::set` are Lean's ordered maps and sets; a set of links is
a list, since neither the order nor a repeated link matters.

The loop of `compute_total_power_v2` need not end. `computeTotalPowerV2` runs it for at most
`rounds` rounds and is `none` when it is not done by then.

## Main definitions

* `DeviceInfo`, `ContainerDevices`: a device, and the devices of a container by their ids.
* `updateBorderDevices`, `isPoweringOtherRack`, `selectable`, `computeTotalPowerV2`: the search.
* `borderDevices`: the starting points of the search.
* `selectDevicesTotalPowerContainer`: the lists of power sources of all containers of a type.
-/

open Std (TreeMap TreeSet)

namespace MetricTPower

/-! ### Devices and links -/

/-- `device_info_t`: the asset id, the name, the name of the device type and its id. -/
structure DeviceInfo where
  id : UInt32
  name : String
  deviceTypeName : String
  deviceTypeId : UInt32
  deriving DecidableEq

namespace DeviceInfo

/-- The lexicographic order of `std::tuple`. -/
def compareTuple : DeviceInfo → DeviceInfo → Ordering :=
  compareLex (compareOn id) (compareLex (compareOn name)
    (compareLex (compareOn deviceTypeName) (compareOn deviceTypeId)))

instance : Ord DeviceInfo := ⟨compareTuple⟩

instance : Std.TransOrd DeviceInfo :=
  inferInstanceAs (Std.TransCmp (compareLex (compareOn id) (compareLex (compareOn name)
    (compareLex (compareOn deviceTypeName) (compareOn deviceTypeId)))))

instance : Std.LawfulEqOrd DeviceInfo where
  eq_of_compare {a b} h := by
    obtain ⟨i, n, t, k⟩ := a
    obtain ⟨i', n', t', k'⟩ := b
    have h' : compareTuple ⟨i, n, t, k⟩ ⟨i', n', t', k'⟩ = .eq := h
    simpa [compareTuple, compareLex_eq_eq, compareOn] using h'

end DeviceInfo

/-- `container_devices`: the devices of a container, each under its own id. -/
structure ContainerDevices where
  devices : TreeMap UInt32 DeviceInfo
  id_eq : ∀ (id : UInt32) (d : DeviceInfo), devices[id]? = some d → d.id = id

namespace ContainerDevices

/-- `container_devices{}` -/
def empty : ContainerDevices where
  devices := ∅
  id_eq := by simp

/-- `container_devices.emplace(asset_id, ...)`: the first device of an id stays. -/
def emplace (c : ContainerDevices) (d : DeviceInfo) : ContainerDevices where
  devices := c.devices.insertIfNew d.id d
  id_eq id d' h := by
    rw [TreeMap.getElem?_insertIfNew] at h
    split at h
    · rename_i hid
      obtain rfl := Option.some.inj h
      simpa using hid.1
    · exact c.id_eq id d' h

/-- `container_devices.find(id)` -/
def find (c : ContainerDevices) (id : UInt32) : Option DeviceInfo :=
  c.devices[id]?

theorem id_of_find {c : ContainerDevices} {id : UInt32} {d : DeviceInfo} (h : c.find id = some d) :
    d.id = id :=
  c.id_eq id d h

end ContainerDevices

/-- A link `from`, `to`. -/
abbrev Link := UInt32 × UInt32

/-- What the code uses of the libraries of the database: which type ids of a device are epdus and
upses, the type ids of devices, datacenters and racks, and two error numbers. -/
structure Persist where
  isEpdu : Int32 → Bool
  isUps : Int32 → Bool
  /-- `asset_type::DEVICE` -/
  device : UInt16
  /-- `asset_type::DATACENTER` -/
  datacenter : Int8
  /-- `asset_type::RACK` -/
  rack : Int8
  /-- `DB_ERR` -/
  dbErr : ℤ
  /-- `DB_ERROR_NOTFOUND` -/
  dbErrorNotFound : ℤ

/-- `find_dests`: the destinations of the links of an element. -/
def findDests (links : List Link) (elementId : UInt32) : TreeSet UInt32 :=
  links.foldl (fun dests oneLink =>
    if oneLink.1 = elementId then dests.insert oneLink.2 else dests) ∅

/-- The inner loop body of `update_border_devices`: a destination in the container is added. -/
def addDest (containerDevices : ContainerDevices) (newBorderDevices : TreeSet DeviceInfo)
    (adevice : UInt32) : TreeSet DeviceInfo :=
  match containerDevices.find adevice with
  | some it => newBorderDevices.insert it
  | none => newBorderDevices

/-- `update_border_devices`: the devices of the container that the border devices power. -/
def updateBorderDevices (containerDevices : ContainerDevices) (links : List Link)
    (borderDevices : TreeSet DeviceInfo) : TreeSet DeviceInfo :=
  borderDevices.foldl (fun newBorderDevices borderDevice =>
    (findDests links borderDevice.id).foldl (addDest containerDevices) newBorderDevices) ∅

/-- `is_powering_other_rack`: some destination is out of the container. -/
def isPoweringOtherRack (borderDevice : DeviceInfo) (devicesInContainer : ContainerDevices)
    (links : List Link) : Bool :=
  (findDests links borderDevice.id).toList.any fun adevice =>
    (devicesInContainer.find adevice).isNone

variable (persist : Persist)

/-- `is_epdu` -/
def isEpdu (device : DeviceInfo) : Bool :=
  persist.isEpdu device.deviceTypeId.toInt32

/-- `is_ups` -/
def isUps (device : DeviceInfo) : Bool :=
  persist.isUps device.deviceTypeId.toInt32

/-- The test of `compute_total_power_v2` that takes a device as a power source. -/
def selectable (devicesInContainer : ContainerDevices) (links : List Link) (device : DeviceInfo) :
    Bool :=
  isEpdu persist device ||
    (isUps persist device && !isPoweringOtherRack device devicesInContainer links)

/-- The `while` loop of `compute_total_power_v2`, for at most `rounds` rounds. The selected devices
of the border are added to `dvc` and to `todelete`, which is never cleared; the devices of
`todelete` leave the border, and the border moves along the links. -/
def computeLoop (devicesInContainer : ContainerDevices) (links : List Link) (rounds : ℕ)
    (borderDevices todelete : TreeSet DeviceInfo) (dvc : List String) : Option (List String) :=
  if borderDevices.isEmpty then some dvc
  else
    match rounds with
    | 0 => none
    | rounds + 1 =>
      let selected := borderDevices.toList.filter (selectable persist devicesInContainer links)
      let dvc := dvc ++ selected.map DeviceInfo.name
      let todelete := todelete.insertMany selected
      let borderDevices := borderDevices.filter fun d => !todelete.contains d
      computeLoop devicesInContainer links rounds
        (updateBorderDevices devicesInContainer links borderDevices) todelete dvc

/-- `compute_total_power_v2`, for at most `rounds` rounds of its loop. -/
def computeTotalPowerV2 (rounds : ℕ) (devicesInContainer : ContainerDevices) (links : List Link)
    (borderDevices : TreeSet DeviceInfo) : Option (List String) :=
  computeLoop persist devicesInContainer links rounds borderDevices ∅ []

/-- A link from out of the container makes its destination a border device. -/
def addFed (containerDevices : ContainerDevices) (border : TreeSet DeviceInfo) (oneLink : Link) :
    TreeSet DeviceInfo :=
  if (containerDevices.find oneLink.1).isNone then addDest containerDevices border oneLink.2
  else border

/-- A link to a device of the container adds its destination to `dest_dvcs`. -/
def addDestDvc (containerDevices : ContainerDevices) (destDvcs : TreeSet UInt32)
    (oneLink : Link) : TreeSet UInt32 :=
  if (containerDevices.find oneLink.2).isSome then destDvcs.insert oneLink.2 else destDvcs

/-- The border devices `select_devices_total_power_container` starts from: the devices fed from
out of the container, and the devices that are not the destination of any link. -/
def borderDevices (containerDevices : ContainerDevices) (links : List Link) : TreeSet DeviceInfo :=
  let border := links.foldl (addFed containerDevices) ∅
  let destDvcs := links.foldl (addDestDvc containerDevices) ∅
  containerDevices.devices.toList.foldl (fun border oneDevice =>
    if destDvcs.contains oneDevice.1 then border else border.insert oneDevice.2) border

/-! ### The database -/

/-- `db_reply<T>`: `status` is `0` when the query failed. -/
structure DbReply (α : Type) where
  status : ℤ
  item : α
  msg : String := ""
  errtype : ℤ := 0
  errsubtype : ℤ := 0

/-- `db_reply_new` -/
def DbReply.new {α : Type} (item : α) : DbReply α where
  status := 1
  item := item

/-- A container, as `select_asset_elements_by_type` lists it. -/
structure AssetElement where
  id : UInt32
  name : String

/-- A row of `select_assets_by_container`. -/
structure Row where
  typeId : UInt16
  name : String
  assetId : UInt32
  subtypeId : UInt16
  subtypeName : String

/-- The answers of the database to one `configure()`, each of which may be an exception: the
connection, the containers of a type, the return value and the rows for the assets of a container,
the links of a container, and the end of the connection. -/
structure Database where
  connectCached : Except String Unit
  selectAssetElementsByType : UInt16 → Except String (DbReply (List AssetElement))
  selectAssetsByContainer : UInt32 → Except String (ℤ × List Row)
  selectLinksByContainer : UInt32 → Except String (DbReply (List Link))
  close : Except String Unit

/-- `func`, which collects the devices among the rows of the assets of a container. -/
def addRow (containerDevices : ContainerDevices) (row : Row) : ContainerDevices :=
  if row.typeId = persist.device then
    containerDevices.emplace ⟨row.assetId, row.name, row.subtypeName, row.subtypeId.toUInt32⟩
  else containerDevices

/-- The body of the loop over the containers: the power sources of one container. A failed query
and a container without devices or links give none. -/
def powerSources (rounds : ℕ) (db : Database) (container : AssetElement) :
    Outcome (List String) := do
  let rv ← .ofExcept (db.selectAssetsByContainer container.id)
  let containerDevices := rv.2.foldl (addRow persist) .empty
  if rv.1 ≠ 0 then return []
  else if containerDevices.devices.isEmpty then return []
  else do
    let links ← .ofExcept (db.selectLinksByContainer container.id)
    if links.status = 0 then return []
    else if links.item.isEmpty then return []
    else
      .ofOption (computeTotalPowerV2 persist rounds containerDevices links.item
        (borderDevices containerDevices links.item))

/-- `select_devices_total_power_container`: the names of the power sources of each container. The
first container of a name stays. -/
def selectDevicesTotalPowerContainer (rounds : ℕ) (db : Database) (containerTypeId : Int8) :
    Outcome (DbReply (TreeMap String (List String))) := do
  let allContainers ← .ofExcept (db.selectAssetElementsByType containerTypeId.toInt16.toUInt16)
  if allContainers.status = 0 then
    return { status := 0, item := ∅, msg := allContainers.msg, errtype := allContainers.errtype,
             errsubtype := allContainers.errsubtype }
  else if allContainers.item.isEmpty then
    return { status := 0, item := ∅, msg := "there is no containers of requested type",
             errtype := persist.dbErr, errsubtype := persist.dbErrorNotFound }
  else do
    let item ← allContainers.item.foldlM (fun item container => do
      let result ← powerSources persist rounds db container
      return item.insertIfNew container.name result) ∅
    return .new item

/-- `select_devices_total_power_racks` -/
def selectDevicesTotalPowerRacks (rounds : ℕ) (db : Database) :
    Outcome (DbReply (TreeMap String (List String))) :=
  selectDevicesTotalPowerContainer persist rounds db persist.rack

/-- `select_devices_total_power_dcs` -/
def selectDevicesTotalPowerDcs (rounds : ℕ) (db : Database) :
    Outcome (DbReply (TreeMap String (List String))) :=
  selectDevicesTotalPowerContainer persist rounds db persist.datacenter

end MetricTPower
