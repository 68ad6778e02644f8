import Passthrough.Files.Tree
import Passthrough.Kernel.AddressSpace
import Passthrough.Kernel.Basic
import Passthrough.Kernel.Record
import Std.Data.ExtTreeMap

set_option autoImplicit false

/-! A kernel over a tree of files whose requests on descriptors are answered by a
script and recorded. Opening, closing and mapping follow the usual rules: the lowest
free descriptor number is issued, and the checks of a mapping come in a fixed order.
Memory that was never stored to reads as zero; mapped files are read through the
content that is kept with each mapping. -/

namespace Passthrough.Kernel

/-- How requests on descriptors are answered: a negative result fails with an error number,
any other one first puts bytes into the record at given offsets. -/
structure Script where
  result : Int
  errno : Errno
  puts : List (Nat × List UInt8)
  deriving DecidableEq

namespace Script

def unsupported : Script :=
  { result := -1, errno := .notSupportedByDevice, puts := [] }

def fill (script : Script) (record : List UInt8) : List UInt8 :=
  script.puts.foldl (fun record (offset, bytes) => Record.putAt offset bytes record) record

end Script

structure RecordedRequest where
  descriptor : Int
  request : Request
  argument : Argument
  deriving DecidableEq

structure OpenFile where
  entry : Files.Entry
  writable : Bool
  deriving DecidableEq

structure Mapping where
  length : Nat
  content : Files.Content
  deriving DecidableEq

structure Scripted where
  files : Files.FileTree
  script : Script
  /-- The requests so far, the last one first. -/
  requests : List RecordedRequest
  openFiles : Std.ExtTreeMap Nat OpenFile compare
  mapped : Std.ExtTreeMap Nat Mapping compare
  words : Std.ExtTreeMap Nat UInt64 compare

namespace Scripted

def firstDescriptor : Nat := 3

/-- The memory of the machine, which a mapping with a copy of its own has to fit into. -/
def memorySize : Nat := 0x800000000

/-- The last offset at which a mapping of an entry may end. Other entries than regular files have
unsigned offsets. -/
def offsetLimit : Files.Entry → Nat
  | .regular _ _ => 0x7ffffffffffff000
  | .directory => 0xfffffffffffff000
  | .link _ => 0xfffffffffffff000
  | .device => 0xfffffffffffff000

def ofFiles (files : Files.FileTree) : Scripted :=
  { files := files
    script := Script.unsupported
    requests := []
    openFiles := ∅
    mapped := ∅
    words := ∅ }

def withScript (state : Scripted) (script : Script) : Scripted :=
  { state with script := script }

def forgetRequests (state : Scripted) : Scripted :=
  { state with requests := [] }

def recordOf : Argument → List UInt8
  | .record bytes => bytes
  | .nothing => []
  | .number _ => []
  | .descriptor _ => []
  | .text _ => []

def control (descriptor : Int) (request : Request) (argument : Argument) :
    Call Scripted Answer :=
  fun state =>
    let made : RecordedRequest :=
      { descriptor := descriptor, request := request, argument := argument }
    let state := { state with requests := made :: state.requests }
    if state.script.result < 0 then (.error (.numbered state.script.errno), state)
    else
      (.ok { value := state.script.result, record := state.script.fill (recordOf argument) },
        state)

def freeDescriptor (state : Scripted) : Nat :=
  let candidates := (List.range (state.openFiles.size + 1)).map (firstDescriptor + ·)
  (candidates.find? fun number => !state.openFiles.contains number).getD firstDescriptor

def issue (state : Scripted) (file : OpenFile) : Nat × Scripted :=
  let number := state.freeDescriptor
  (number, { state with openFiles := state.openFiles.insert number file })

def accessFault? (entry : Files.Entry) (access : Access) : Option Errno :=
  match entry, access with
  | .directory, .readWrite => some .isDirectory
  | entry, _ => if Files.FileTree.isReadable entry then none else some .accessDenied

def openPath (path : String) (access : Access) : Call Scripted Int :=
  fun state =>
    if Files.FileTree.hasNul path then (.error (.numbered .invalidArgument), state)
    else match state.files.lookup path with
      | .error errno => (.error (.numbered errno), state)
      | .ok entry =>
          match accessFault? entry access with
          | some errno => (.error (.numbered errno), state)
          | none =>
              let (number, state) :=
                state.issue { entry := entry, writable := access == .readWrite }
              (.ok number, state)

def openDevice (length : Nat) (state : Scripted) : Nat × Scripted :=
  state.issue
    { entry := .regular { leading := [], length := length } true, writable := true }

def openFile? (state : Scripted) (descriptor : Int) : Option OpenFile :=
  match descriptor with
  | .ofNat number => state.openFiles[number]?
  | .negSucc _ => none

def close (descriptor : Int) : Call Scripted Unit :=
  fun state =>
    match state.openFile? descriptor with
    | some _ => (.ok (), { state with openFiles := state.openFiles.erase descriptor.toNat })
    | none => (.error (.numbered .badDescriptor), state)

def contentFrom (offset : Nat) : Files.Entry → Files.Content
  | .regular content _ =>
      { leading := content.leading.drop offset, length := content.length - offset }
  | .directory => { leading := [], length := 0 }
  | .link _ => { leading := [], length := 0 }
  | .device => { leading := [], length := 0 }

def taken (state : Scripted) : List AddressSpace.Range :=
  let lengths := (state.mapped.map fun _ mapping => mapping.length).insert
    AddressSpace.program.start AddressSpace.program.length
  lengths.toList.reverse.map fun (start, length) => { start := start, length := length }

/-- Where a mapping comes to lie, or the first reason to refuse it: the offset, the descriptor,
the length, the addresses, the end in the file, then whether the file can be shared and mapped at
all, and last the memory for a copy. -/
def place (state : Scripted) (request : MappingRequest) : Except Errno (Nat × Mapping) := do
  if request.offset % AddressSpace.pageSize ≠ 0 then
    throw .invalidArgument
  let some file := state.openFile? request.descriptor | throw .badDescriptor
  if request.length = 0 then
    throw .invalidArgument
  let length := AddressSpace.wholePages request.length
  let some address := AddressSpace.highestFree length AddressSpace.highest state.taken
    | throw .noMemory
  if request.offset + length > offsetLimit file.entry then
    throw .overflow
  if request.sharing = .shared ∧ !file.writable then
    throw .accessDenied
  match file.entry with
  | .regular _ _ => pure ()
  | .directory => throw .noDevice
  | .link _ => throw .noDevice
  | .device => throw .noDevice
  if request.sharing = .copied ∧ length > memorySize then
    throw .noMemory
  return (address, { length := length, content := contentFrom request.offset file.entry })

def map (request : MappingRequest) : Call Scripted HostAddress :=
  fun state =>
    match state.place request with
    | .error errno => (.error (.numbered errno), state)
    | .ok (address, mapping) =>
        (.ok ⟨address⟩, { state with mapped := state.mapped.insert address mapping })

/-- Unmapping asks for whole pages of the process's addresses; whether anything is mapped there
does not matter. -/
def unmap (address : HostAddress) (length : Nat) : Call Scripted Unit :=
  fun state =>
    if address.value % AddressSpace.pageSize ≠ 0 ∨ length = 0 ∨
        address.value + length > AddressSpace.limit then
      (.error (.numbered .invalidArgument), state)
    else
      let outside (place : Nat) : Bool :=
        place < address.value || address.value + length ≤ place
      (.ok (),
        { state with
          mapped := state.mapped.filter fun place _ => outside place
          words := state.words.filter fun place _ => outside place })

def load (address : HostAddress) (state : Scripted) : UInt64 × Scripted :=
  ((state.words[address.value]?).getD 0, state)

def store (address : HostAddress) (value : UInt64) (state : Scripted) : Scripted :=
  { state with words := state.words.insert address.value value }

/-- The first bytes of a mapping; past the end of its file they are zero. -/
def bytesAt (state : Scripted) (address : HostAddress) (count : Nat) : List UInt8 :=
  let leading := match state.mapped[address.value]? with
    | some mapping => mapping.content.leading.take count
    | none => []
  leading ++ List.replicate (count - leading.length) 0

def kernel : Kernel Scripted :=
  { control := control
    openPath := openPath
    close := close
    readLink := fun path state => (state.files.readLink path, state)
    list := fun path state => (state.files.list path, state)
    map := map
    unmap := unmap
    load := load
    store := store }

end Scripted

end Passthrough.Kernel
