import PostgresqlK8s.Lib.Dict
import PostgresqlK8s.Resources.Quantities
import Mathlib.Order.Lattice

/-!
# Resources.Available

The CPU cores and the memory that the container of the database may use: what
its node has, within the limits of the container.

* `getAvailableResources` — what the charm calculates;
* `Capacity.available` — what it is for: the lesser of capacity and limit,
  where there is a limit.

The capacity of CPU is read by `anyCpuToCores`, and its limit by `int`.  The two
differ on thousandths of a core.
-/

namespace PostgresqlK8s.Resources

open IntText (readInt)

/-! ## what the API server has -/

structure Container where
  name : String
  /-- `resources.limits` -/
  limits : Option (Dict String String)

structure Pod where
  nodeName : String
  containers : List Container

/-- The limits of the first container of the name. -/
def Pod.resourcesLimits (pod : Pod) (containerName : String) : Dict String String :=
  match pod.containers.find? (·.name == containerName) with
  | none => ∅
  | some container => container.limits.getD ∅

structure Node where
  allocatable : Dict String String

inductive Failure where
  | apiError (code : Nat)
  | keyError (key : String)
  /-- `int` refuses the text. -/
  | notInt (text : String)
  /-- `any_memory_to_bytes` refuses it. -/
  | valueError (message : String)
  deriving DecidableEq, Repr

/-- The answers of the API server. -/
structure Client where
  pod : String → Except Failure Pod
  node : String → Except Failure Node

/-! ## the calculation -/

def getItem (quantities : Dict String String) (key : String) : Except Failure String :=
  match quantities.get? key with
  | none => .error (.keyError key)
  | some text => .ok text

def int (text : String) : Except Failure Int :=
  match readInt text with
  | none => .error (.notInt text)
  | some num => .ok num

/-- `any_cpu_to_cores`, with its exception. -/
def cores (cpuStr : String) : Except Failure Int :=
  match anyCpuToCores cpuStr with
  | none => .error (.notInt cpuStr)
  | some num => .ok num

/-- `any_memory_to_bytes`, with its exception. -/
def bytes (chars : Characters) (memStr : String) : Except Failure Int :=
  (anyMemoryToBytes chars memStr).mapError .valueError

section

variable (client : Client) (podName : String)

/-- `_get_node_name_for_pod` -/
def getNodeNameForPod : Except Failure String := return (← client.pod podName).nodeName

def getResourcesLimits (containerName : String) : Except Failure (Dict String String) :=
  return (← client.pod podName).resourcesLimits containerName

def getNodeAllocableMemory (chars : Characters) : Except Failure Int := do
  let node ← client.node (← getNodeNameForPod client podName)
  bytes chars (← getItem node.allocatable "memory")

def getNodeCpuCores : Except Failure Int := do
  let node ← client.node (← getNodeNameForPod client podName)
  cores (← getItem node.allocatable "cpu")

/-- A quantity within its limit, read by `read`. -/
def constrain (read : String → Except Failure Int) (limit : Option String) (quantity : Int) :
    Except Failure Int :=
  match limit with
  | none => .ok quantity
  | some text => do
      let constrained ← read text
      return if constrained < quantity then constrained else quantity

/-- `get_available_resources` -/
def getAvailableResources (chars : Characters) : Except Failure (Int × Int) := do
  let cpuCores ← getNodeCpuCores client podName
  let allocableMemory ← getNodeAllocableMemory client podName chars
  let containerLimits ← getResourcesLimits client podName "postgresql"
  let cpuCores ← constrain int (containerLimits.get? "cpu") cpuCores
  let allocableMemory ← constrain (bytes chars) (containerLimits.get? "memory") allocableMemory
  return (cpuCores, allocableMemory)

end

/-! ## what it is for -/

/-- What a node has, and the limits of a container on it. -/
structure Capacity where
  cores : Int
  memory : Int
  cpuLimit : Option Int
  memoryLimit : Option Int

/-- A quantity within its limit.  A missing limit does not constrain. -/
def least (quantity : Int) : Option Int → Int
  | none => quantity
  | some limit => min quantity limit

def Capacity.available (capacity : Capacity) : Int × Int :=
  (least capacity.cores capacity.cpuLimit, least capacity.memory capacity.memoryLimit)

/-- The texts of a pod and of its node are read by the two parsers. -/
structure Reads (client : Client) (podName : String) (chars : Characters) (pod : Pod) (node : Node)
    (capacity : Capacity) : Prop where
  getPod : client.pod podName = .ok pod
  getNode : client.node pod.nodeName = .ok node
  nodeCpu : ∃ text, node.allocatable.get? "cpu" = some text ∧ cores text = .ok capacity.cores
  nodeMemory : ∃ text, node.allocatable.get? "memory" = some text ∧
    bytes chars text = .ok capacity.memory
  cpuLimit : ((pod.resourcesLimits "postgresql").get? "cpu").map cores = capacity.cpuLimit.map .ok
  memoryLimit : ((pod.resourcesLimits "postgresql").get? "memory").map (bytes chars) =
    capacity.memoryLimit.map .ok

/-! ## one quantity -/

/-- A quantity that the node has is found. -/
theorem getItem_eq_ok {quantities : Dict String String} {key text : String}
    (h : quantities.get? key = some text) : getItem quantities key = .ok text := by
  rw [getItem, h]

/-- A limit that is read constrains the quantity. -/
theorem constrain_of_read {read : String → Except Failure Int} {text : Option String}
    {limit : Option Int} (h : text.map read = limit.map .ok) (quantity : Int) :
    constrain read text quantity = .ok (least quantity limit) := by
  cases text with
  | none =>
      obtain rfl := Option.map_eq_none_iff.mp h.symm
      rfl
  | some text =>
      obtain ⟨limit, rfl, hread⟩ := Option.map_eq_some_iff.mp h.symm
      have hmin : (if limit < quantity then limit else quantity) = min quantity limit := by
        rw [min_comm, min_def_lt]
      rw [constrain, ← hread, least, ← hmin]
      rfl

/-- Off thousandths, `int` reads what `any_cpu_to_cores` reads. -/
theorem int_eq_cores {text : String} (h : text.toList.getLast? ≠ some 'm') :
    int text = cores text := by
  rw [int, cores, anyCpuToCores, if_neg h]

/-- Thousandths of a core are no text of a number. -/
theorem int_of_millicores {text : String} (h : text.toList.getLast? = some 'm') :
    int text = .error (.notInt text) := by
  have hread : readInt (String.ofList text.toList) = none :=
    IntText.readInt_eq_none (List.mem_of_getLast? h) (by decide) (by decide) (by decide)
  rw [String.ofList_toList] at hread
  rw [int, hread]

/-- A limit of whole cores is read by `int` as by the parser. -/
theorem constrain_int {text : Option String} {limit : Option Int}
    (hwhole : ∀ t, text = some t → t.toList.getLast? ≠ some 'm')
    (h : text.map cores = limit.map .ok) (quantity : Int) :
    constrain int text quantity = .ok (least quantity limit) := by
  apply constrain_of_read
  rw [← h]
  exact Option.map_congr fun t ht => int_eq_cores (hwhole t ht)

/-- `int` raises on millicores. -/
theorem constrain_int_of_millicores {text : String} (h : text.toList.getLast? = some 'm')
    (quantity : Int) : constrain int (some text) quantity = .error (.notInt text) := by
  rw [constrain, int_of_millicores h]
  rfl

/-! ## the whole -/

section

variable {client : Client} {podName : String} {chars : Characters} {pod : Pod} {node : Node}
  {capacity : Capacity}

/-- What the client answers for the node of the pod. -/
theorem getNodeNameForPod_eq (h : Reads client podName chars pod node capacity) :
    getNodeNameForPod client podName = .ok pod.nodeName := by
  rw [getNodeNameForPod, h.getPod]
  rfl

/-- What it answers for the cores of the node. -/
theorem getNodeCpuCores_eq (h : Reads client podName chars pod node capacity) :
    getNodeCpuCores client podName = .ok capacity.cores := by
  obtain ⟨text, htext, hcores⟩ := h.nodeCpu
  rw [getNodeCpuCores, getNodeNameForPod_eq h]
  simp only [bind, Except.bind, h.getNode, getItem_eq_ok htext, hcores]

/-- What it answers for the memory of the node. -/
theorem getNodeAllocableMemory_eq (h : Reads client podName chars pod node capacity) :
    getNodeAllocableMemory client podName chars = .ok capacity.memory := by
  obtain ⟨text, htext, hbytes⟩ := h.nodeMemory
  rw [getNodeAllocableMemory, getNodeNameForPod_eq h]
  simp only [bind, Except.bind, h.getNode, getItem_eq_ok htext, hbytes]

/-- What it answers for the limits of the container. -/
theorem getResourcesLimits_eq (h : Reads client podName chars pod node capacity)
    (containerName : String) :
    getResourcesLimits client podName containerName = .ok (pod.resourcesLimits containerName) := by
  rw [getResourcesLimits, h.getPod]
  rfl

/-- With the capacity read, only the limit of CPU decides. -/
theorem getAvailableResources_eq (h : Reads client podName chars pod node capacity) :
    getAvailableResources client podName chars =
      (constrain int ((pod.resourcesLimits "postgresql").get? "cpu") capacity.cores).map
        fun cpuCores => (cpuCores, least capacity.memory capacity.memoryLimit) := by
  rw [getAvailableResources, getNodeCpuCores_eq h, getNodeAllocableMemory_eq h,
    getResourcesLimits_eq h]
  simp only [bind, Except.bind, constrain_of_read h.memoryLimit]
  cases constrain int ((pod.resourcesLimits "postgresql").get? "cpu") capacity.cores <;> rfl

/-- The result is the lesser of capacity and limit, exactly where the limit of
CPU is not in thousandths of a core. -/
theorem getAvailableResources_eq_available_iff
    (h : Reads client podName chars pod node capacity) :
    getAvailableResources client podName chars = .ok capacity.available ↔
      ∀ text, (pod.resourcesLimits "postgresql").get? "cpu" = some text →
        text.toList.getLast? ≠ some 'm' := by
  rw [getAvailableResources_eq h]
  constructor
  · intro hok text htext hmilli
    rw [htext, constrain_int_of_millicores hmilli] at hok
    cases hok
  · intro hwhole
    rw [constrain_int hwhole h.cpuLimit]
    rfl

end

/-- A container with a limit of CPU and one of 1 GiB. -/
def podLimitedTo (cpuStr : String) : Pod where
  nodeName := "node"
  containers := [⟨"charm", none⟩,
    ⟨"postgresql", some ((∅ : Dict String String).update [("cpu", cpuStr), ("memory", "1Gi")])⟩]

def fourCores : Node where
  allocatable := (∅ : Dict String String).update [("cpu", "4"), ("memory", "16Gi")]

/-- The container on a node of four cores and 16 GiB. -/
def clientLimitedTo (cpuStr : String) : Client where
  pod _ := .ok (podLimitedTo cpuStr)
  node _ := .ok fourCores

def capacityLimitedTo (cpuLimit : Int) : Capacity where
  cores := 4
  memory := 17179869184
  cpuLimit := some cpuLimit
  memoryLimit := some 1073741824

/-- A cluster of one pod on a node with four cores. -/
theorem reads_clientLimitedTo {cpuStr : String} {cpuLimit : Int} (h : cores cpuStr = .ok cpuLimit) :
    Reads (clientLimitedTo cpuStr) "postgresql-k8s-0" .ascii (podLimitedTo cpuStr) fourCores
      (capacityLimitedTo cpuLimit) where
  getPod := rfl
  getNode := rfl
  nodeCpu := by
    change ∃ text, fourCores.allocatable.get? "cpu" = some text ∧ cores text = .ok 4
    exact ⟨"4", by decide, by decide⟩
  nodeMemory := by
    change ∃ text, fourCores.allocatable.get? "memory" = some text ∧
      bytes .ascii text = .ok 17179869184
    exact ⟨"16Gi", by decide, by decide⟩
  cpuLimit := congrArg some h
  memoryLimit := by
    change some (bytes .ascii "1Gi") = some (.ok 1073741824)
    decide

/-- With a limit of two cores. -/
theorem getAvailableResources_wholeCores :
    getAvailableResources (clientLimitedTo "2") "postgresql-k8s-0" .ascii = .ok (2, 1073741824) := by
  have hcores : cores "2" = .ok 2 := by decide
  refine (getAvailableResources_eq_available_iff (reads_clientLimitedTo hcores)).mpr ?_
  intro text htext
  obtain rfl : "2" = text := Option.some.inj htext
  decide

/-- Half a core is a limit that `any_cpu_to_cores` reads; the calculation raises. -/
theorem getAvailableResources_millicores :
    Reads (clientLimitedTo "500m") "postgresql-k8s-0" .ascii (podLimitedTo "500m") fourCores
        (capacityLimitedTo 0) ∧
      getAvailableResources (clientLimitedTo "500m") "postgresql-k8s-0" .ascii =
        .error (.notInt "500m") := by
  have hreads := reads_clientLimitedTo (show cores "500m" = .ok 0 by decide)
  refine ⟨hreads, ?_⟩
  rw [getAvailableResources_eq hreads]
  change (constrain int (some "500m") 4).map _ = _
  rw [constrain_int_of_millicores (by decide)]
  rfl

end PostgresqlK8s.Resources
