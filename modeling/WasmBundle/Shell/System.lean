import WasmBundle.Disk.Devices

/-!
# The disk of a system

What a disk holds before anything is put on it: the usual directories, the devices, and the tools
of the system.
-/

namespace WasmBundle.Shell
open Disk

/-- The directories that every system has. -/
def usualDirectories : List Location :=
  [["boot"], ["dev"], ["etc"], ["home"], ["media"], ["mnt"], ["opt"], ["proc"], ["root"], ["run"],
    ["srv"], ["sys"], ["tmp"], ["usr"], ["usr", "bin"], ["usr", "games"], ["usr", "include"],
    ["usr", "lib"], ["usr", "lib64"], ["usr", "libexec"], ["usr", "local"],
    ["usr", "local", "bin"], ["usr", "local", "lib"], ["usr", "local", "sbin"], ["usr", "sbin"],
    ["usr", "share"], ["usr", "src"], ["var"], ["var", "cache"], ["var", "lib"], ["var", "log"],
    ["var", "tmp"]].map locationOf

/-- The links to some of them. -/
def usualLinks : List (String × String) :=
  [("bin", "usr/bin"), ("lib", "usr/lib"), ("lib64", "usr/lib64"), ("sbin", "usr/sbin")]

def deviceMode : Nat := 0o666

/-- The directory that holds the tools. -/
def toolDirectory : Location := locationOf ["usr", "bin"]

def deviceFile (kind : FileKind) : DiskFile := { attributes := { mode := deviceMode }, kind }

def toolFile (name : String) : DiskFile :=
  { attributes := { mode := directoryMode }, tool := some name }

def systemFiles (tools : List String) : List (Location × DiskFile) :=
  devices.map (fun d => (d.1, deviceFile d.2)) ++
    tools.map fun name => (toolDirectory ++ locationOf [name], toolFile name)

/-- A disk with nothing on it but what belongs to the system. The tools have links as names that
stand for others. -/
def systemDisk (tools : List String) (aliases : List (String × String)) : Disk :=
  let directories := usualDirectories.map fun l => (l, Entry.directory { mode := directoryMode })
  let links := usualLinks.map fun e => (locationOf [e.1], Entry.link e.2)
  let others := aliases.map fun e => (toolDirectory ++ locationOf [e.1], Entry.link e.2)
  let start : Disk := (directories ++ links ++ others).foldl (fun d e => d.setEntry e.1 e.2) {}
  (systemFiles tools).foldl (fun d e => d.addFile e.1 e.2) start

end WasmBundle.Shell
