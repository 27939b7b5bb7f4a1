/-
`crates/edge-agent/src/hardware.rs`: the accelerators of a node, as the files of `/sys`, `/proc`
and `/dev` show them.

Detection reads and never fails, so it is a function of the files. They are taken as they stand
while it reads them. What it looks at in a name is the text the name decodes to, and two names
that are not text may decode to the same; the accelerators are told apart by their paths where
that does not happen (`device_paths_nodup`).

The texts of the log (the `Display`s and the sensors) are left out.
-/
import SovereignEdgeTee.Text
import Mathlib.Data.List.Nodup

set_option autoImplicit false

namespace SovereignEdgeTee

/-! ## The files

Names are bytes, since a name on Linux need not be text; the paths are put together from them
as `Path::join` does. Two decodings of the source lose something: `to_string_lossy` on names
and `str::lines` on the contents, and both are modelled as they are. -/

/-- The files. A name is its bytes. The path of an entry is that of its directory, a slash and
its name; an entry that cannot be read is `none`. -/
structure FileSystem where
  read_dir : List UInt8 → Option (List (Option (List UInt8)))
  read_to_string : List UInt8 → Option String
  /-- The names in a directory differ. -/
  read_dir_nodup : ∀ {path entries}, read_dir path = some entries → (entries.filterMap id).Nodup

/-- `path.join(name)`, for a name. -/
def path_join (path name : List UInt8) : List UInt8 := path ++ as_bytes "/" ++ name

def starts_with (s start : String) : Bool := start.toList.isPrefixOf s.toList

/-- What follows `start` in a line that starts with it. -/
def text_behind (start line : String) : Option String :=
  if starts_with line start then some (String.ofList (line.toList.drop start.toList.length))
  else none

/-- The lines of a text, behind the characters `line`, newest first. A line ends with `\n` or
`\r\n`, or with the text. -/
def lines_from : List Char → List Char → List String
  | [], [] => []
  | c :: line, [] => [String.ofList (c :: line).reverse]
  | line, '\n' :: rest =>
    String.ofList ((if line.head? = some '\r' then line.tail else line).reverse) ::
      lines_from [] rest
  | line, c :: rest => lines_from (c :: line) rest

/-- `str::lines`. -/
def lines (text : String) : List String := lines_from [] text.toList

example : lines "DRIVER=amdgpu\r\n\nPCI_ID=1002:744C\r" =
    ["DRIVER=amdgpu", "", "PCI_ID=1002:744C\r"] := by
  decide

/-! ## Accelerators

The three detectors, in the order of the source: the cards of `/sys/class/drm`, the NPUs of
`/sys/class/accel`, and the nodes of `/dev` that belong to the drivers outside either. Each is
a `filter_map` over the entries of a directory; the round of its loop is a definition of its
own. -/

inductive AcceleratorKind where
  | Gpu
  | Npu
deriving DecidableEq

inductive Vendor where
  | Nvidia
  | Amd
  | Intel
  | Qualcomm
  | Rockchip
  | Hailo
  | Habana
  | Other (name : String)
deriving DecidableEq

structure Accelerator where
  kind : AcceleratorKind
  vendor : Vendor
  name : String
  device_path : String
  driver : Option String
  sysfs_device : Option String
deriving DecidableEq

def Accelerator.supports_llama_offload (self : Accelerator) : Bool :=
  self.kind = .Gpu ∧ (self.vendor = .Nvidia ∨ self.vendor = .Amd ∨ self.vendor = .Intel)

def vendor_from_pci_id (vendor_id : String) : Vendor :=
  if vendor_id = "0x10de" then .Nvidia
  else if vendor_id = "0x1002" ∨ vendor_id = "0x1022" then .Amd
  else if vendor_id = "0x8086" then .Intel
  else if vendor_id = "0x17cb" then .Qualcomm
  else .Other vendor_id

namespace FileSystem

variable (fs : FileSystem)

/-- The names of the entries that can be read: none in a directory that cannot. -/
def entries (path : String) : List (List UInt8) :=
  match fs.read_dir (as_bytes path) with
  | none => []
  | some entries => entries.filterMap id

def sysfs_read (path : List UInt8) : Option String := (fs.read_to_string path).map Utf8.trim

def uevent_value (uevent_path : List UInt8) (key : String) : Option String :=
  (fs.read_to_string uevent_path).bind fun content =>
    (lines content).findSome? (text_behind (key ++ "="))

/-- The model of the first entry of `names` that has one. An entry with no information ends
the search. -/
def first_model : List (List UInt8) → Option String
  | [] => none
  | name :: names =>
    let gpu := path_join (as_bytes "/proc/driver/nvidia/gpus") name
    match fs.read_to_string (path_join gpu (as_bytes "information")) with
    | none => none
    | some info =>
      match (lines info).findSome? (text_behind "Model:") with
      | some model => some (Utf8.trim model)
      | none => first_model names

def nvidia_model_name : Option String := fs.first_model (fs.entries "/proc/driver/nvidia/gpus")

/-- The directory of the device of an entry of `/sys/class`. -/
def device_dir (dir : String) (file_name : List UInt8) : List UInt8 :=
  path_join (path_join (as_bytes dir) file_name) (as_bytes "device")

/-- The entry is a device of this class by its name, and not one of its connectors. -/
def class_name (start : String) (file_name : List UInt8) : Bool :=
  starts_with (Utf8.from_utf8_lossy file_name) start &&
    !(Utf8.from_utf8_lossy file_name).toList.contains '-'

/-- One round of the loop of `detect_drm_gpus`. -/
def drm_gpu (file_name : List UInt8) : Option Accelerator :=
  if class_name "card" file_name then
    let device_dir := device_dir "/sys/class/drm" file_name
    match fs.sysfs_read (path_join device_dir (as_bytes "vendor")) with
    | none => none
    | some vendor_id =>
      let vendor := vendor_from_pci_id vendor_id
      let device_id := (fs.sysfs_read (path_join device_dir (as_bytes "device"))).getD ""
      some
        { kind := .Gpu
          vendor := vendor
          name :=
            if vendor = .Nvidia then fs.nvidia_model_name.getD ("GPU " ++ device_id)
            else "GPU " ++ device_id
          device_path := "/dev/dri/" ++ Utf8.from_utf8_lossy file_name
          driver := fs.uevent_value (path_join device_dir (as_bytes "uevent")) "DRIVER"
          sysfs_device := some (Utf8.from_utf8_lossy device_dir) }
  else none

def detect_drm_gpus : List Accelerator := (fs.entries "/sys/class/drm").filterMap fs.drm_gpu

/-- The vendor and the name of an NPU with this driver, or with this id where it has none. -/
def npu_identity (driver vendor_id : Option String) : Vendor × String :=
  match driver with
  | some driver =>
    if driver = "amdxdna" then (.Amd, "XDNA NPU (Ryzen AI)")
    else if driver = "intel_vpu" then (.Intel, "NPU (VPU)")
    else if driver = "qaic" then (.Qualcomm, "Cloud AI accelerator")
    else if driver = "habanalabs" then (.Habana, "Gaudi accelerator")
    else (.Other driver, "accelerator (" ++ driver ++ ")")
  | none => ((vendor_id.map vendor_from_pci_id).getD (.Other "unknown"), "accelerator (unbound)")

/-- One round of the loop of `detect_accel_npus`. -/
def accel_npu (file_name : List UInt8) : Option Accelerator :=
  if class_name "accel" file_name then
    let device_dir := device_dir "/sys/class/accel" file_name
    let driver := fs.uevent_value (path_join device_dir (as_bytes "uevent")) "DRIVER"
    let identity :=
      npu_identity driver (fs.sysfs_read (path_join device_dir (as_bytes "vendor")))
    some
      { kind := .Npu
        vendor := identity.1
        name := identity.2
        device_path := "/dev/accel/" ++ Utf8.from_utf8_lossy file_name
        driver := driver
        sysfs_device := some (Utf8.from_utf8_lossy device_dir) }
  else none

def detect_accel_npus : List Accelerator := (fs.entries "/sys/class/accel").filterMap fs.accel_npu

/-- One round of the inner loop of `detect_misc_npus`. -/
def misc_npu (glob_dir start : String) (vendor : Vendor) (name : String)
    (file_name : List UInt8) : Option Accelerator :=
  if starts_with (Utf8.from_utf8_lossy file_name) start then
    some
      { kind := .Npu
        vendor := vendor
        name := name
        device_path := glob_dir ++ "/" ++ Utf8.from_utf8_lossy file_name
        driver := none
        sysfs_device := none }
  else none

def detect_misc_npus : List Accelerator :=
  (fs.entries "/dev").filterMap (misc_npu "/dev" "rknpu" .Rockchip "RKNPU") ++
    (fs.entries "/dev").filterMap (misc_npu "/dev" "hailo" .Hailo "Hailo NPU")

def detect_accelerators : List Accelerator :=
  fs.detect_drm_gpus ++ (fs.detect_accel_npus ++ fs.detect_misc_npus)

/-! ## What is found

One lemma for each kind of round: where it pushes an accelerator, which one. They are what
every proof below uses of the detectors. -/

section Found

variable {fs : FileSystem} {file_name : List UInt8} {a : Accelerator}

/-- A card is a GPU of the vendor its id says, under the path of its name. -/
theorem drm_gpu_some (h : fs.drm_gpu file_name = some a) :
    class_name "card" file_name = true ∧
      a.kind = .Gpu ∧ a.device_path = "/dev/dri/" ++ Utf8.from_utf8_lossy file_name ∧
      ∃ vendor_id device_id,
        fs.sysfs_read (path_join (device_dir "/sys/class/drm" file_name) (as_bytes "vendor")) =
          some vendor_id ∧
        a.vendor = vendor_from_pci_id vendor_id ∧
        a.name = if a.vendor = .Nvidia then fs.nvidia_model_name.getD ("GPU " ++ device_id)
          else "GPU " ++ device_id := by
  unfold drm_gpu at h
  dsimp only at h
  split at h
  · rename_i hname
    split at h
    · cases h
    · rename_i vendor_id hvendor
      obtain rfl := Option.some.inj h
      exact ⟨hname, rfl, rfl, vendor_id, _, hvendor, rfl, rfl⟩
  · cases h

/-- A card with a readable vendor id is found. -/
theorem drm_gpu_of_vendor {vendor_id : String} (hname : class_name "card" file_name = true)
    (hvendor : fs.sysfs_read
      (path_join (device_dir "/sys/class/drm" file_name) (as_bytes "vendor")) = some vendor_id) :
    ∃ a, fs.drm_gpu file_name = some a ∧ a.kind = .Gpu ∧
      a.vendor = vendor_from_pci_id vendor_id := by
  unfold drm_gpu
  dsimp only
  rw [if_pos hname, hvendor]
  exact ⟨_, rfl, rfl, rfl⟩

theorem accel_npu_some (h : fs.accel_npu file_name = some a) :
    a.kind = .Npu ∧ a.device_path = "/dev/accel/" ++ Utf8.from_utf8_lossy file_name ∧
      ∃ driver vendor_id, a.name = (npu_identity driver vendor_id).2 := by
  unfold accel_npu at h
  dsimp only at h
  split at h
  · obtain rfl := Option.some.inj h
    exact ⟨rfl, rfl, _, _, rfl⟩
  · cases h

theorem misc_npu_some {glob_dir start name : String} {vendor : Vendor}
    (h : misc_npu glob_dir start vendor name file_name = some a) :
    starts_with (Utf8.from_utf8_lossy file_name) start = true ∧ a.kind = .Npu ∧ a.name = name ∧
      a.device_path = glob_dir ++ "/" ++ Utf8.from_utf8_lossy file_name := by
  unfold misc_npu at h
  split at h
  · rename_i hstart
    obtain rfl := Option.some.inj h
    exact ⟨hstart, rfl, rfl, rfl⟩
  · cases h

end Found

/-! ## Paths

In one directory the paths differ because the names do, as long as decoding is injective on
them; that is what `Utf8Names` is for. Accelerators from different places have paths that
begin differently, and `apart_of_under` turns that into a comparison of four constant strings. -/

/-- The names of all directories are text. -/
def Utf8Names : Prop := ∀ path, ∀ name ∈ fs.entries path, ∃ s, as_bytes s = name

variable {fs}

theorem entries_nodup (path : String) : (fs.entries path).Nodup := by
  unfold entries
  split
  · exact List.nodup_nil
  · rename_i hread
    exact fs.read_dir_nodup hread

/-- Entries of one directory that are named in their paths are told apart by them. -/
theorem paths_nodup (h : fs.Utf8Names) {path dir : String} {found : List UInt8 → Option Accelerator}
    (hfound : ∀ name a, found name = some a →
      a.device_path = dir ++ Utf8.from_utf8_lossy name) :
    (((fs.entries path).filterMap found).map Accelerator.device_path).Nodup := by
  rw [List.Nodup, List.pairwise_map, List.pairwise_filterMap]
  refine (entries_nodup path).imp_of_mem ?_
  intro name name' hname hname' hne a ha a' ha' hpath
  obtain ⟨s, rfl⟩ := h path name hname
  obtain ⟨s', rfl⟩ := h path name' hname'
  rw [hfound _ a ha, hfound _ a' ha', from_utf8_lossy_as_bytes, from_utf8_lossy_as_bytes] at hpath
  exact hne (congrArg as_bytes (String.append_right_inj dir |>.mp hpath))

/-- All paths begin so. -/
def Under (start : String) (accelerators : List Accelerator) : Prop :=
  ∀ a ∈ accelerators, start.toList <+: a.device_path.toList

/-- No path of one list is in the other. -/
def Apart (l l' : List Accelerator) : Prop :=
  ∀ a ∈ l, ∀ a' ∈ l', a.device_path ≠ a'.device_path

/-- Paths that begin differently are apart. -/
theorem apart_of_under {start start' : String} {l l' : List Accelerator}
    (hstart : ¬ start.toList <+: start'.toList) (hstart' : ¬ start'.toList <+: start.toList)
    (hl : Under start l) (hl' : Under start' l') : Apart l l' := by
  intro a ha a' ha' heq
  have hunder := hl a ha
  rw [heq] at hunder
  -- two prefixes of one text are comparable, and these are not
  rcases List.prefix_or_prefix_of_prefix hunder (hl' a' ha') with h | h
  · exact hstart h
  · exact hstart' h

theorem Apart.append {l l' l'' : List Accelerator} (h : Apart l l') (h' : Apart l l'') :
    Apart l (l' ++ l'') := by
  intro a ha a' ha'
  rcases List.mem_append.mp ha' with ha' | ha'
  · exact h a ha a' ha'
  · exact h' a ha a' ha'

theorem nodup_append_of_apart {l l' : List Accelerator}
    (hnodup : (l.map Accelerator.device_path).Nodup)
    (hnodup' : (l'.map Accelerator.device_path).Nodup) (h : Apart l l') :
    ((l ++ l').map Accelerator.device_path).Nodup := by
  rw [List.map_append, List.nodup_append]
  refine ⟨hnodup, hnodup', ?_⟩
  intro path hpath path' hpath' heq
  obtain ⟨a, ha, rfl⟩ := List.mem_map.mp hpath
  obtain ⟨a', ha', rfl⟩ := List.mem_map.mp hpath'
  exact h a ha a' ha' heq

theorem under_drm : Under "/dev/dri/" fs.detect_drm_gpus := by
  intro a ha
  obtain ⟨file_name, -, ha⟩ := List.mem_filterMap.mp ha
  obtain ⟨-, -, hpath, -⟩ := drm_gpu_some ha
  rw [hpath, String.toList_append]
  exact List.prefix_append _ _

theorem under_accel : Under "/dev/accel/" fs.detect_accel_npus := by
  intro a ha
  obtain ⟨file_name, -, ha⟩ := List.mem_filterMap.mp ha
  obtain ⟨-, hpath, -⟩ := accel_npu_some ha
  rw [hpath, String.toList_append]
  exact List.prefix_append _ _

/-- Nodes that are found by the beginning of their names. -/
theorem under_misc (glob_dir start : String) (vendor : Vendor) (name : String) :
    Under (glob_dir ++ "/" ++ start)
      ((fs.entries glob_dir).filterMap (misc_npu glob_dir start vendor name)) := by
  intro a ha
  obtain ⟨file_name, -, ha⟩ := List.mem_filterMap.mp ha
  obtain ⟨hstart, -, -, hpath⟩ := misc_npu_some ha
  have hlist : ∀ s, (glob_dir ++ "/" ++ s).toList = (glob_dir ++ "/").toList ++ s.toList :=
    fun s => String.toList_append
  rw [hpath, hlist, hlist]
  exact (List.prefix_append_right_inj _).mpr (List.isPrefixOf_iff_prefix.mp hstart)

/-- Accelerators are told apart by their paths, where the names of files are text. -/
theorem device_paths_nodup (h : fs.Utf8Names) :
    (fs.detect_accelerators.map Accelerator.device_path).Nodup := by
  have hdrm : (fs.detect_drm_gpus.map Accelerator.device_path).Nodup :=
    paths_nodup h fun _ _ ha => (drm_gpu_some ha).2.2.1
  have haccel : (fs.detect_accel_npus.map Accelerator.device_path).Nodup :=
    paths_nodup h fun _ _ ha => (accel_npu_some ha).2.1
  -- both kinds of `misc` nodes are in `/dev`, and are told apart by how their names begin
  have hmisc : ∀ start vendor name, (((fs.entries "/dev").filterMap
      (misc_npu "/dev" start vendor name)).map Accelerator.device_path).Nodup := by
    intro start vendor name
    exact paths_nodup h fun _ _ ha => (misc_npu_some ha).2.2.2
  refine nodup_append_of_apart hdrm (nodup_append_of_apart haccel
    (nodup_append_of_apart (hmisc _ _ _) (hmisc _ _ _) ?_) (Apart.append ?_ ?_))
    (Apart.append ?_ (Apart.append ?_ ?_))
  · exact apart_of_under (by decide) (by decide) (under_misc _ _ _ _) (under_misc _ _ _ _)
  · exact apart_of_under (by decide) (by decide) under_accel (under_misc _ _ _ _)
  · exact apart_of_under (by decide) (by decide) under_accel (under_misc _ _ _ _)
  · exact apart_of_under (by decide) (by decide) under_drm under_accel
  · exact apart_of_under (by decide) (by decide) under_drm (under_misc _ _ _ _)
  · exact apart_of_under (by decide) (by decide) under_drm (under_misc _ _ _ _)

/-! ## Names

A name is empty in one case only. The names of NPUs are never empty, and those of cards begin
with `GPU `, unless the vendor is NVIDIA and the driver's information file names the model:
that text is taken after trimming, and a blank one leaves nothing. -/

theorem append_ne_empty {s t : String} (h : s ≠ "") : s ++ t ≠ "" := by
  intro happend
  exact h (String.append_eq_empty_iff.mp happend).1

theorem npu_name_ne_empty (driver vendor_id : Option String) :
    (npu_identity driver vendor_id).2 ≠ "" := by
  unfold npu_identity
  split
  · split_ifs
    · decide
    · decide
    · decide
    · decide
    · exact append_ne_empty (append_ne_empty (by decide))
  · exact (by decide : "accelerator (unbound)" ≠ "")

/-- Every accelerator has a name, but for NVIDIA cards where the driver's model is blank. -/
theorem named_iff (fs : FileSystem) :
    (∀ a ∈ fs.detect_accelerators, a.name ≠ "") ↔
      ((∃ a ∈ fs.detect_drm_gpus, a.vendor = .Nvidia) → fs.nvidia_model_name ≠ some "") := by
  constructor
  · rintro h ⟨a, ha, hvendor⟩ hmodel
    obtain ⟨file_name, -, hgpu⟩ := List.mem_filterMap.mp ha
    obtain ⟨-, -, -, vendor_id, device_id, -, -, hname⟩ := drm_gpu_some hgpu
    rw [if_pos hvendor, hmodel] at hname
    exact h a (List.mem_append_left _ ha) hname
  · intro h a ha
    rw [detect_accelerators, detect_misc_npus, List.mem_append, List.mem_append,
      List.mem_append] at ha
    rcases ha with ha | ha | ha | ha
    · obtain ⟨file_name, -, hgpu⟩ := List.mem_filterMap.mp ha
      obtain ⟨-, -, -, vendor_id, device_id, -, -, hname⟩ := drm_gpu_some hgpu
      rw [hname]
      split
      · rename_i hvendor
        cases hmodel : fs.nvidia_model_name with
        | none => exact append_ne_empty (by decide)
        | some model =>
            -- a blank is a model too, and is taken for the name
            rintro (rfl : model = "")
            exact h ⟨a, ha, hvendor⟩ hmodel
      · exact append_ne_empty (by decide)
    · obtain ⟨file_name, -, hnpu⟩ := List.mem_filterMap.mp ha
      obtain ⟨-, -, driver, vendor_id, hname⟩ := accel_npu_some hnpu
      rw [hname]
      exact npu_name_ne_empty driver vendor_id
    · obtain ⟨file_name, -, hnpu⟩ := List.mem_filterMap.mp ha
      rw [(misc_npu_some hnpu).2.2.1]
      decide
    · obtain ⟨file_name, -, hnpu⟩ := List.mem_filterMap.mp ha
      rw [(misc_npu_some hnpu).2.2.1]
      decide

/-- **What is found has a path and a name.** Where the names of files are text, no two
accelerators have one path, and none is without a name unless there is an NVIDIA card and the
driver has a blank for its model. -/
theorem accelerators_identified (fs : FileSystem) (h : fs.Utf8Names) :
    (fs.detect_accelerators.map Accelerator.device_path).Nodup ∧
      ((∀ a ∈ fs.detect_accelerators, a.name ≠ "") ↔
        ((∃ a ∈ fs.detect_drm_gpus, a.vendor = .Nvidia) → fs.nvidia_model_name ≠ some "")) :=
  ⟨device_paths_nodup h, named_iff fs⟩

/-- A node with one card and one of its connectors. -/
def one_card : FileSystem where
  read_dir path :=
    if path = as_bytes "/sys/class/drm" then
      some [some (as_bytes "card0"), none, some (as_bytes "card0-DP-1")]
    else none
  read_to_string path :=
    if path = as_bytes "/sys/class/drm/card0/device/vendor" then some "0x10de\n" else none
  read_dir_nodup := by
    intro path entries h
    split at h
    · obtain rfl := Option.some.inj h
      have hne : as_bytes "card0" ≠ as_bytes "card0-DP-1" := as_bytes_injective.ne (by decide)
      simp [hne]
    · cases h

theorem accelerators_identified_one_card :
    (one_card.detect_accelerators.map Accelerator.device_path).Nodup ∧
      ((∀ a ∈ one_card.detect_accelerators, a.name ≠ "") ↔
        ((∃ a ∈ one_card.detect_drm_gpus, a.vendor = .Nvidia) →
          one_card.nvidia_model_name ≠ some "")) := by
  apply accelerators_identified
  intro path name hname
  unfold entries one_card at hname
  dsimp only at hname
  split at hname
  · cases hname
  · rename_i hread
    split at hread
    · obtain rfl := Option.some.inj hread
      simp only [List.filterMap_cons, id, List.filterMap_nil, List.mem_cons, List.not_mem_nil,
        or_false] at hname
      rcases hname with rfl | rfl
      · exact ⟨_, rfl⟩
      · exact ⟨_, rfl⟩
    · cases hread

/-! ## Offloading layers

`supports_llama_offload` asks for a GPU of one of three vendors, so whether any accelerator
supports it is a question about the vendor ids of the cards. -/

/-- The vendor ids of the cards that layers can be offloaded to. -/
def OFFLOAD_IDS : List String := ["0x10de", "0x1002", "0x1022", "0x8086"]

theorem vendor_supported_iff (vendor_id : String) :
    (vendor_from_pci_id vendor_id = .Nvidia ∨ vendor_from_pci_id vendor_id = .Amd ∨
      vendor_from_pci_id vendor_id = .Intel) ↔ vendor_id ∈ OFFLOAD_IDS := by
  unfold vendor_from_pci_id OFFLOAD_IDS
  split_ifs with h h h h
  · simp [h]
  · rcases h with h | h <;> simp [h]
  · simp [h]
  · simp [h]
  · simp_all

/-- A card that layers can be offloaded to. -/
def OffloadCard (fs : FileSystem) (file_name : List UInt8) : Prop :=
  class_name "card" file_name = true ∧ ∃ vendor_id ∈ OFFLOAD_IDS, fs.sysfs_read
    (path_join (device_dir "/sys/class/drm" file_name) (as_bytes "vendor")) = some vendor_id

/-- No NPU supports it, so it is the cards that decide. -/
theorem offload_available_iff (fs : FileSystem) :
    (∃ a ∈ fs.detect_accelerators, a.supports_llama_offload = true) ↔
      ∃ file_name ∈ fs.entries "/sys/class/drm", OffloadCard fs file_name := by
  constructor
  · rintro ⟨a, ha, hoffload⟩
    obtain ⟨hkind, hvendor⟩ := of_decide_eq_true hoffload
    rw [detect_accelerators, detect_misc_npus, List.mem_append, List.mem_append,
      List.mem_append] at ha
    -- by where it was found: a card, or one of three kinds of NPU, of which none supports it
    rcases ha with ha | ha | ha | ha
    · obtain ⟨file_name, hfile, hgpu⟩ := List.mem_filterMap.mp ha
      obtain ⟨hname, -, -, vendor_id, -, hread, hid, -⟩ := drm_gpu_some hgpu
      rw [hid, vendor_supported_iff] at hvendor
      exact ⟨file_name, hfile, hname, vendor_id, hvendor, hread⟩
    · obtain ⟨file_name, -, hnpu⟩ := List.mem_filterMap.mp ha
      rw [(accel_npu_some hnpu).1] at hkind
      cases hkind
    · obtain ⟨file_name, -, hnpu⟩ := List.mem_filterMap.mp ha
      rw [(misc_npu_some hnpu).2.1] at hkind
      cases hkind
    · obtain ⟨file_name, -, hnpu⟩ := List.mem_filterMap.mp ha
      rw [(misc_npu_some hnpu).2.1] at hkind
      cases hkind
  · -- a card with such an id is found, and its vendor is one of the three
    rintro ⟨file_name, hfile, hname, vendor_id, hvendor, hread⟩
    obtain ⟨a, hgpu, hkind, hid⟩ := drm_gpu_of_vendor hname hread
    refine ⟨a, List.mem_append_left _ (List.mem_filterMap.mpr ⟨file_name, hfile, hgpu⟩), ?_⟩
    rw [← vendor_supported_iff, ← hid] at hvendor
    exact decide_eq_true ⟨hkind, hvendor⟩

end FileSystem

end SovereignEdgeTee
