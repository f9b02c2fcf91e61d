import Mathlib.Data.List.Basic
import Mathlib.Logic.Function.Basic

/-!
# The FAT image tool

`fatfs_mkimage` walks through a directory of the host and copies it into a file system.
A tree of the host carries the outcomes of the calls that are made on the way: what a
successful call does to the file system is given here, and whether it succeeds is not.
-/

namespace FwkRtos.FatfsMkimage

/-- An 8.3 name, as the host has it. -/
abbrev Name := List Char

/-- FatFs does not distinguish upper and lower case. -/
def fatName (name : Name) : Name :=
  name.map Char.toUpper

abbrev Path := List Name

/-! ## FatFs -/

inductive Node
  | dir
  | file (bytes : List UInt8)
  deriving DecidableEq

/-- The file system of the image, and the current directory. -/
structure Volume where
  node : Path → Option Node
  cwd : Path

/-- What `f_write` returns: with `FR_OK` it has written some of the bytes. -/
inductive WriteResult
  | ok (bw : Nat)
  | error
  deriving DecidableEq

namespace Volume

/-- The path of a name in the current directory. -/
def path (volume : Volume) (name : Name) : Path :=
  volume.cwd ++ [fatName name]

def set (volume : Volume) (name : Name) (node : Node) : Volume :=
  { volume with node := Function.update volume.node (volume.path name) (some node) }

/-- `f_open` with `FA_CREATE_ALWAYS`, which empties a file that exists. -/
def fOpen (volume : Volume) (outcome : Bool) (name : Name) : Bool × Volume :=
  if outcome = false ∨ volume.node (volume.path name) = some .dir then
    (false, volume)
  else
    (true, volume.set name (.file []))

/-- `f_mkdir`, which fails on a name that exists. -/
def fMkdir (volume : Volume) (outcome : Bool) (name : Name) : Bool × Volume :=
  if outcome = false ∨ volume.node (volume.path name) ≠ none then
    (false, volume)
  else
    (true, volume.set name .dir)

/-- `f_chdir` to a name. -/
def fChdir (volume : Volume) (outcome : Bool) (name : Name) : Bool × Volume :=
  if outcome = false ∨ volume.node (volume.path name) ≠ some .dir then
    (false, volume)
  else
    (true, { volume with cwd := volume.path name })

/-- `f_chdir` to `..`. -/
def fChdirUp (volume : Volume) (outcome : Bool) : Bool × Volume :=
  if outcome = false then (false, volume) else (true, { volume with cwd := volume.cwd.dropLast })

end Volume

/-! ## The tree of the host -/

/-- The calls for a regular file. -/
structure FileCalls (content : List UInt8) where
  /-- `tinydir_readfile` -/
  readfile : Bool
  fopen : Bool
  fOpen : Bool
  /-- What the calls of `fread` return, up to the first that returns nothing. -/
  freads : List (List UInt8)
  freads_prefix : freads.flatten <+: content
  /-- What the calls of `f_write` return. -/
  fWrite : Nat → WriteResult
  fClose : Bool
  /-- `fclose` of the file that was read, whose result `dir_recurse` does not look at. -/
  fclose : Bool

/-- The calls for a directory. -/
structure DirCalls where
  readfile : Bool
  tinydirOpen : Bool
  fMkdir : Bool
  fChdir : Bool
  fChdirUp : Bool

/-- A directory of the host, as `readdir` goes through it.  At a call of `readdir` that
fails, `tinydir` takes the directory for finished. -/
inductive Listing
  | done (readdir : Bool)
  | file (readdir : Bool) (name : Name) (content : List UInt8) (calls : FileCalls content)
      (rest : Listing)
  | dir (readdir : Bool) (name : Name) (calls : DirCalls) (sub rest : Listing)
  /-- `.`, `..`, or what is neither a directory nor a regular file. -/
  | skip (readdir readfile : Bool) (rest : Listing)

/-! ## `fatfs_ops.c` -/

/-- The loop of `fatfs_file_copy`, with the bytes that are in the file. -/
def copyLoop (fWrite : Nat → WriteResult) : Nat → List (List UInt8) → List UInt8 →
    Int × List UInt8
  | _, [], written => (0, written)
  | i, data :: freads, written =>
      match fWrite i with
      | .error => (-1, written)
      | .ok bw =>
          if data.length ≠ bw then (-1, written ++ data.take bw)
          else copyLoop fWrite (i + 1) freads (written ++ data)

def fatfsFileCopy (volume : Volume) (name : Name) {content : List UInt8}
    (calls : FileCalls content) : Int × Volume :=
  let opened := volume.fOpen calls.fOpen name
  if opened.1 = true then
    let copied := copyLoop calls.fWrite 0 calls.freads []
    (if calls.fClose = true then copied.1 else -1, opened.2.set name (.file copied.2))
  else
    (-1, opened.2)

def fatfsDirEnter (volume : Volume) (name : Name) (calls : DirCalls) : Int × Volume :=
  let made := volume.fMkdir calls.fMkdir name
  if made.1 = true then
    let entered := made.2.fChdir calls.fChdir name
    (if entered.1 = true then 0 else -1, entered.2)
  else
    (-1, made.2)

def fatfsDirUp (volume : Volume) (calls : DirCalls) : Int × Volume :=
  let left := volume.fChdirUp calls.fChdirUp
  (if left.1 = true then 0 else -1, left.2)

/-! ## `directory_add.c` -/

def dirRecurse : Listing → Volume → Int × Volume
  | .done _, volume => (0, volume)
  | .skip readdir readfile rest, volume =>
      if readdir = false then (0, volume)
      else if readfile = false then (-1, volume)
      else dirRecurse rest volume
  | .file readdir name _ calls rest, volume =>
      if readdir = false then (0, volume)
      else if calls.readfile = false then (-1, volume)
      else if calls.fopen = false then (-1, volume)
      else
        let copied := fatfsFileCopy volume name calls
        if copied.1 ≠ 0 then copied else dirRecurse rest copied.2
  | .dir readdir name calls sub rest, volume =>
      if readdir = false then (0, volume)
      else if calls.readfile = false then (-1, volume)
      else if calls.tinydirOpen = false then (-1, volume)
      else
        let entered := fatfsDirEnter volume name calls
        if entered.1 ≠ 0 then (-1, entered.2)
        else
          let added := dirRecurse sub entered.2
          if added.1 ≠ 0 then (-1, added.2)
          else
            let left := fatfsDirUp added.2 calls
            if left.1 ≠ 0 then (-1, left.2) else dirRecurse rest left.2

/-! ## `fatfs_mkimage.c` -/

/-- The calls of `main`. -/
structure MainCalls where
  fatfsInit : Bool
  tinydirOpen : Bool
  fopen : Bool
  /-- `fwrite` writes the whole image. -/
  fwrite : Bool
  fclose : Bool

def directoryAdd (calls : MainCalls) (tree : Listing) (volume : Volume) : Int × Volume :=
  if calls.tinydirOpen = true then dirRecurse tree volume else (-1, volume)

/-- The file system that `fatfs_init` makes. -/
def fatfsInit : Volume where
  node path := if path = [] then some .dir else none
  cwd := []

/-- What `main` returns behind its arguments, and the file system of the image that is
then in the output file; there is none if a call that puts it there fails. -/
def fatfsMkimage (calls : MainCalls) (tree : Listing) : Int × Option (Path → Option Node) :=
  let added := directoryAdd calls tree fatfsInit
  if calls.fatfsInit = true ∧ added.1 = 0 then
    if calls.fopen = true then
      (if calls.fwrite = true then 0 else 1,
        if calls.fwrite = true ∧ calls.fclose = true then some added.2.node else none)
    else
      (1, none)
  else
    (1, none)

/-! ## What is claimed of the tool -/

/-- What is in a directory under a name and the path behind it. -/
def Listing.find : Listing → Name → Path → Option Node
  | .done _, _, _ => none
  | .skip _ _ rest, name, path => rest.find name path
  | .file _ other content _ rest, name, path =>
      if fatName other = name then
        if path = [] then some (.file content) else none
      else
        rest.find name path
  | .dir _ other _ sub rest, name, path =>
      if fatName other = name then
        match path with
        | [] => some .dir
        | name :: path => sub.find name path
      else
        rest.find name path

/-- The tree as a file system. -/
def Listing.node (tree : Listing) : Path → Option Node
  | [] => some .dir
  | name :: path => tree.find name path

/-- The names in the directory itself, as FatFs has them. -/
def Listing.names : Listing → List Name
  | .done _ => []
  | .skip _ _ rest => rest.names
  | .file _ name _ _ rest => fatName name :: rest.names
  | .dir _ name _ _ rest => fatName name :: rest.names

/-- FatFs can tell all names of each directory apart. -/
def Listing.Distinct : Listing → Prop
  | .done _ => True
  | .skip _ _ rest => rest.Distinct
  | .file _ name _ _ rest => fatName name ∉ rest.names ∧ rest.Distinct
  | .dir _ name _ sub rest => fatName name ∉ rest.names ∧ sub.Distinct ∧ rest.Distinct

/-- The calls of `f_write` write all of what was read. -/
def WritesAll (fWrite : Nat → WriteResult) : Nat → List (List UInt8) → Prop
  | _, [] => True
  | i, data :: freads => fWrite i = .ok data.length ∧ WritesAll fWrite (i + 1) freads

/-- The calls for a file whose results are checked succeed. -/
structure FileCalls.Checked {content : List UInt8} (calls : FileCalls content) : Prop where
  readfile : calls.readfile = true
  fopen : calls.fopen = true
  fOpen : calls.fOpen = true
  fWrite : WritesAll calls.fWrite 0 calls.freads
  fClose : calls.fClose = true

structure DirCalls.Checked (calls : DirCalls) : Prop where
  readfile : calls.readfile = true
  tinydirOpen : calls.tinydirOpen = true
  fMkdir : calls.fMkdir = true
  fChdir : calls.fChdir = true
  fChdirUp : calls.fChdirUp = true

/-- The calls of `fread` return the whole file, and `fclose` succeeds. -/
structure FileCalls.UncheckedSucceed {content : List UInt8} (calls : FileCalls content) :
    Prop where
  readsAll : calls.freads.flatten = content
  fclose : calls.fclose = true

/-- No call fails or falls short. -/
def Listing.Succeeds : Listing → Prop
  | .done readdir => readdir = true
  | .skip readdir readfile rest => readdir = true ∧ readfile = true ∧ rest.Succeeds
  | .file readdir _ _ calls rest =>
      readdir = true ∧ calls.Checked ∧ calls.UncheckedSucceed ∧ rest.Succeeds
  | .dir readdir _ calls sub rest =>
      readdir = true ∧ calls.Checked ∧ sub.Succeeds ∧ rest.Succeeds

structure MainCalls.Succeeds (calls : MainCalls) : Prop where
  fatfsInit : calls.fatfsInit = true
  tinydirOpen : calls.tinydirOpen = true
  fopen : calls.fopen = true
  fwrite : calls.fwrite = true
  fclose : calls.fclose = true

/-- The tool returns 0 only if the image holds the tree, no call failed and FatFs can tell
the names apart. -/
def Faithful (calls : MainCalls) (tree : Listing) : Prop :=
  (fatfsMkimage calls tree).1 = 0 →
    (fatfsMkimage calls tree).2 = some tree.node ∧
      calls.Succeeds ∧ tree.Succeeds ∧ tree.Distinct

/-! ## When it is true -/

/-- What a name stands for. -/
inductive Kind
  | dir
  | file
  deriving DecidableEq

/-- The calls whose results are checked succeed, up to where `readdir` fails.  A directory
cannot have a name that exists, nor a file the name of a directory. -/
def Listing.Checked : Listing → (Name → Option Kind) → Prop
  | .done _, _ => True
  | .skip readdir readfile rest, seen => readdir = true → readfile = true ∧ rest.Checked seen
  | .file readdir name _ calls rest, seen =>
      readdir = true →
        calls.Checked ∧ seen (fatName name) ≠ some .dir ∧
          rest.Checked (Function.update seen (fatName name) (some .file))
  | .dir readdir name calls sub rest, seen =>
      readdir = true →
        calls.Checked ∧ seen (fatName name) = none ∧ sub.Checked (fun _ => none) ∧
          rest.Checked (Function.update seen (fatName name) (some .dir))

/-- All calls succeed whose results decide what `main` returns. -/
structure Checked (calls : MainCalls) (tree : Listing) : Prop where
  fatfsInit : calls.fatfsInit = true
  tinydirOpen : calls.tinydirOpen = true
  tree : tree.Checked fun _ => none
  fopen : calls.fopen = true
  fwrite : calls.fwrite = true

/-- The calls whose failures are not noticed succeed: `readdir`, `fread` and `fclose` of what was
read. -/
def Listing.UncheckedSucceed : Listing → Prop
  | .done readdir => readdir = true
  | .skip readdir _ rest => readdir = true ∧ rest.UncheckedSucceed
  | .file readdir _ _ calls rest =>
      readdir = true ∧ calls.UncheckedSucceed ∧ rest.UncheckedSucceed
  | .dir readdir _ _ sub rest =>
      readdir = true ∧ sub.UncheckedSucceed ∧ rest.UncheckedSucceed

def Listing.fileNames : Listing → List Name
  | .done _ => []
  | .skip _ _ rest => rest.fileNames
  | .file _ name _ _ rest => fatName name :: rest.fileNames
  | .dir _ _ _ _ rest => rest.fileNames

/-- FatFs can tell the regular files of each directory apart. -/
def Listing.FilesDistinct : Listing → Prop
  | .done _ => True
  | .skip _ _ rest => rest.FilesDistinct
  | .file _ name _ _ rest => fatName name ∉ rest.fileNames ∧ rest.FilesDistinct
  | .dir _ _ _ sub rest => sub.FilesDistinct ∧ rest.FilesDistinct

/-- No call fails unnoticed, `fclose` of the output file included, and no file is put over
another one. -/
structure NothingUnnoticed (calls : MainCalls) (tree : Listing) : Prop where
  unchecked : tree.UncheckedSucceed
  files : tree.FilesDistinct
  fclose : calls.fclose = true

end FwkRtos.FatfsMkimage
