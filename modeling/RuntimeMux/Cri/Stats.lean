import RuntimeMux.Cri.Container

/-!
# Messages about resource usage

The usage of containers, and of the filesystems that hold images.
-/

namespace RuntimeMux.Cri

open Wire

/-- A filesystem, by the place where it is mounted. -/
structure FilesystemIdentifier where
  mountpoint : String := ""

instance : Message FilesystemIdentifier where
  name := "FilesystemIdentifier"
  blank := {}
  fields := [.one 1 "mountpoint" (·.mountpoint) fun x m => { m with mountpoint := x }]

/-- How much of a filesystem is in use. -/
structure FilesystemUsage where
  timestamp : Int64 := 0
  fsId : Option FilesystemIdentifier := none
  usedBytes : Option UInt64Value := none
  inodesUsed : Option UInt64Value := none

instance : Message FilesystemUsage where
  name := "FilesystemUsage"
  blank := {}
  fields := [.one 1 "timestamp" (·.timestamp) fun x m => { m with timestamp := x },
    .message 2 "fs_id" (·.fsId) fun x m => { m with fsId := x },
    .message 3 "used_bytes" (·.usedBytes) fun x m => { m with usedBytes := x },
    .message 4 "inodes_used" (·.inodesUsed) fun x m => { m with inodesUsed := x }]

/-- The container that statistics are about. -/
structure ContainerAttributes where
  id : String := ""
  metadata : Option ContainerMetadata := none
  labels : TextMap := .empty
  annotations : TextMap := .empty

instance : Message ContainerAttributes where
  name := "ContainerAttributes"
  blank := {}
  fields := [.one 1 "id" (·.id) fun x m => { m with id := x },
    .message 2 "metadata" (·.metadata) fun x m => { m with metadata := x },
    .map 3 "labels" (·.labels) fun x m => { m with labels := x },
    .map 4 "annotations" (·.annotations) fun x m => { m with annotations := x }]

/-- How much processor time a container used. -/
structure CpuUsage where
  timestamp : Int64 := 0
  usageCoreNanoSeconds : Option UInt64Value := none

instance : Message CpuUsage where
  name := "CpuUsage"
  blank := {}
  fields := [.one 1 "timestamp" (·.timestamp) fun x m => { m with timestamp := x },
    .message 2 "usage_core_nano_seconds" (·.usageCoreNanoSeconds)
      fun x m => { m with usageCoreNanoSeconds := x }]

/-- How much memory a container uses. -/
structure MemoryUsage where
  timestamp : Int64 := 0
  workingSetBytes : Option UInt64Value := none

instance : Message MemoryUsage where
  name := "MemoryUsage"
  blank := {}
  fields := [.one 1 "timestamp" (·.timestamp) fun x m => { m with timestamp := x },
    .message 2 "working_set_bytes" (·.workingSetBytes) fun x m => { m with workingSetBytes := x }]

/-- The statistics of a container. -/
structure ContainerStats where
  attributes : Option ContainerAttributes := none
  cpu : Option CpuUsage := none
  memory : Option MemoryUsage := none
  writableLayer : Option FilesystemUsage := none

instance : Message ContainerStats where
  name := "ContainerStats"
  blank := {}
  fields := [.message 1 "attributes" (·.attributes) fun x m => { m with attributes := x },
    .message 2 "cpu" (·.cpu) fun x m => { m with cpu := x },
    .message 3 "memory" (·.memory) fun x m => { m with memory := x },
    .message 4 "writable_layer" (·.writableLayer) fun x m => { m with writableLayer := x }]

/-- Asks for the statistics of a container. -/
structure ContainerStatsRequest where
  containerId : String := ""

instance : Message ContainerStatsRequest where
  name := "ContainerStatsRequest"
  blank := {}
  fields := [.one 1 "container_id" (·.containerId) fun x m => { m with containerId := x }]

/-- The statistics of a container that was asked for. -/
structure ContainerStatsResponse where
  stats : Option ContainerStats := none

instance : Message ContainerStatsResponse where
  name := "ContainerStatsResponse"
  blank := {}
  fields := [.message 1 "stats" (·.stats) fun x m => { m with stats := x }]

/-- Which containers to list statistics of. An empty field selects all. -/
structure ContainerStatsFilter where
  id : String := ""
  podSandboxId : String := ""
  labelSelector : TextMap := .empty

instance : Message ContainerStatsFilter where
  name := "ContainerStatsFilter"
  blank := {}
  fields := [.one 1 "id" (·.id) fun x m => { m with id := x },
    .one 2 "pod_sandbox_id" (·.podSandboxId) fun x m => { m with podSandboxId := x },
    .map 3 "label_selector" (·.labelSelector) fun x m => { m with labelSelector := x }]

/-- Asks for the statistics of the containers that a filter selects. -/
structure ListContainerStatsRequest where
  filter : Option ContainerStatsFilter := none

instance : Message ListContainerStatsRequest where
  name := "ListContainerStatsRequest"
  blank := {}
  fields := [.message 1 "filter" (·.filter) fun x m => { m with filter := x }]

/-- A list of container statistics. -/
structure ListContainerStatsResponse where
  stats : List ContainerStats := []

instance : Message ListContainerStatsResponse where
  name := "ListContainerStatsResponse"
  blank := {}
  fields := [.messages 1 "stats" (·.stats) fun x m => { m with stats := x }]

/-- Asks about the filesystems that hold images. -/
structure ImageFsInfoRequest where

instance : Message ImageFsInfoRequest where
  name := "ImageFsInfoRequest"
  blank := {}
  fields := []

/-- The filesystems that hold images. -/
structure ImageFsInfoResponse where
  imageFilesystems : List FilesystemUsage := []

instance : Message ImageFsInfoResponse where
  name := "ImageFsInfoResponse"
  blank := {}
  fields := [.messages 1 "image_filesystems" (·.imageFilesystems)
      fun x m => { m with imageFilesystems := x }]

end RuntimeMux.Cri
