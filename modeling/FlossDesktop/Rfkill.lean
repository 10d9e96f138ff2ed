import FlossDesktop.Transport
import Mathlib.Algebra.Group.Nat.Defs
import Mathlib.Data.List.Basic

/-! The kernel switch of one radio. A directory lists the switches of all radios, and the one
of an adapter is found by its name; what is not clear is not written to. A file that cannot be
opened or read has no content here, and the directory is a list in any order. -/

namespace FlossDesktop.Rfkill

def maxEntries : Nat := 256

def maxAttributeBytes : Nat := 64

def rfkillTypeBluetooth : UInt8 := 2

def rfkillOpChange : UInt8 := 2

structure Switch where
  index : UInt32
  hardBlocked : Bool
  softBlocked : Bool
deriving Repr, DecidableEq

/-- An entry of the directory, with the files that are read under it. -/
structure Entry where
  filename : Option String
  type : Option Bytes
  name : Option Bytes
  hard : Option Bytes
  soft : Option Bytes
deriving Repr, DecidableEq

/-- The characters that `trim` takes away. -/
def isWhitespace (c : Char) : Bool :=
  (9 ≤ c.toNat && c.toNat ≤ 13) || c.toNat == 0x20 || c.toNat == 0x85 || c.toNat == 0xA0 || c.toNat == 0x1680 ||
    (0x2000 ≤ c.toNat && c.toNat ≤ 0x200A) || c.toNat == 0x2028 || c.toNat == 0x2029 || c.toNat == 0x202F ||
    c.toNat == 0x205F || c.toNat == 0x3000

def trim (value : String) : String :=
  String.ofList ((value.toList.dropWhile isWhitespace).reverse.dropWhile isWhitespace).reverse

/-- At most one byte more than allowed is read. -/
def readAttribute (file : Option Bytes) : Option String := do
  let content ← file
  let value ← String.fromUTF8? ⟨(content.take (maxAttributeBytes + 1)).toArray⟩
  if value.utf8ByteSize > maxAttributeBytes then none else some (trim value)

def boolean (file : Option Bytes) : Option Bool := do
  let value ← readAttribute file
  if value = "0" then some false else if value = "1" then some true else none

def withoutPlus : List Char → List Char
  | '+' :: rest => rest
  | digits => digits

/-- A number of 32 bits in decimal, which may have a plus sign. -/
def parseU32 (s : List Char) : Option UInt32 :=
  let digits := withoutPlus s
  let value := Nat.ofDigitChars 10 digits 0
  if !digits.isEmpty && digits.all Char.isDigit && Nat.blt value (2 ^ 32) then some (UInt32.ofNat value) else none

/-- `rfkill` and the number as it is printed. -/
def canonical (index : UInt32) : String := "rfkill" ++ toString index

def stripPrefix (filename : String) : Option (List Char) :=
  if "rfkill".toList.isPrefixOf filename.toList then some (filename.toList.drop "rfkill".length) else none

/-- The number of a switch whose name is canonical. -/
def switchIndex (filename : String) : Option UInt32 :=
  match (stripPrefix filename).bind parseU32 with
  | some index => if filename = canonical index then some index else none
  | none => none

/-- The body of the loop: nothing when the search fails, and otherwise what is matched then. -/
def examine (name : String) (matched : Option Switch) (entry : Option Entry) : Option (Option Switch) := do
  let entry ← entry
  let filename ← entry.filename
  match switchIndex filename with
  | none => some matched
  | some index =>
    let type ← readAttribute entry.type
    if type ≠ "bluetooth" then some matched
    else
      let found ← readAttribute entry.name
      if found ≠ name then some matched
      else if matched.isSome then none
      else
        let hardBlocked ← boolean entry.hard
        let softBlocked ← boolean entry.soft
        some (some { index, hardBlocked, softBlocked })

def search (name : String) : Nat → Option Switch → List (Option Entry) → Option Switch
  | _, matched, [] => matched
  | count, matched, entry :: rest =>
    if count ≥ maxEntries then none
    else
      match examine name matched entry with
      | none => none
      | some matched => search name (count + 1) matched rest

/-- The switch of an adapter. The directory itself may not be readable. -/
def read (root : Option (List (Option Entry))) (realHci : Int) : Option Switch :=
  if realHci < 0 then none
  else
    match root with
    | none => none
    | some entries => search ("hci" ++ toString realHci) 0 none entries

/-- The bytes of a number in the order of the machine. -/
def toNeBytes (littleEndian : Bool) (value : UInt32) : Bytes :=
  let bytes := [value.toUInt8, (value >>> 8).toUInt8, (value >>> 16).toUInt8, (value >>> 24).toUInt8]
  if littleEndian then bytes else bytes.reverse

def changeEvent (littleEndian : Bool) (index : UInt32) (blocked : Bool) : Bytes :=
  toNeBytes littleEndian index ++ [rfkillTypeBluetooth, rfkillOpChange, if blocked then 1 else 0, 0]

/-- The result, and the events that were written. `writeEvent` says whether the kernel takes one. -/
def set (littleEndian : Bool) (root : Option (List (Option Entry))) (realHci : Int) (blocked : Bool) (writeEvent : Bytes → Bool) :
    Bool × List Bytes :=
  match read root realHci with
  | none => (false, [])
  | some switch =>
    if blocked = false ∧ switch.hardBlocked then (false, [])
    else if switch.softBlocked = blocked then (true, [])
    else (writeEvent (changeEvent littleEndian switch.index blocked), [changeEvent littleEndian switch.index blocked])

end FlossDesktop.Rfkill
