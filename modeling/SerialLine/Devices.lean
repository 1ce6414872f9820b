import SerialLine.Error
import SerialLine.Json.Value

/-!
# SerialLine.Devices — serial devices that the system knows

A system reports its ports in any order and may report a path more than once. `listDevices`
sorts them by path and keeps the first report of each path; `findDevice` finds that same report.
-/

namespace SerialLine

/-- How a device is attached. -/
inductive Transport where
  | usb | pci | bluetooth | unknown
deriving DecidableEq, Repr

/-- The word for a transport. -/
def Transport.word : Transport → String
  | .usb => "usb" | .pci => "pci" | .bluetooth => "bluetooth" | .unknown => "unknown"

/-- What a device on the universal serial bus says of itself. -/
structure UsbIdentity where
  vendor : Nat := 0
  product : Nat := 0
  serialNumber? : Option String := none
  manufacturer? : Option String := none
  productName? : Option String := none
deriving DecidableEq, Repr

/-- How the system says that a port is attached. -/
inductive Attachment where
  | usb (identity : UsbIdentity)
  | pci
  | bluetooth
  | unknown
deriving DecidableEq, Repr

/-- A device that may be a serial port. -/
structure DeviceInfo where
  path : String
  transport : Transport := .unknown
  vendor? : Option Nat := none
  product? : Option Nat := none
  serialNumber? : Option String := none
  manufacturer? : Option String := none
  productName? : Option String := none
deriving DecidableEq, Repr

namespace DeviceInfo

/-- A device of which only the path is known. -/
def bare (path : String) : DeviceInfo := { path }

/-- A device as the system reports it. -/
def ofAttachment (path : String) : Attachment → DeviceInfo
  | .usb identity =>
    { path, transport := .usb, vendor? := some identity.vendor,
      product? := some identity.product, serialNumber? := identity.serialNumber?,
      manufacturer? := identity.manufacturer?, productName? := identity.productName? }
  | .pci => { path, transport := .pci }
  | .bluetooth => { path, transport := .bluetooth }
  | .unknown => { path }

/-- A member that is left out where there is no value. -/
def member? {α : Type} (name : String) (write : α → Json.Value) :
    Option α → List (String × Json.Value)
  | none => []
  | some v => [(name, write v)]

/-- A device as a JSON value; what is not known is left out. -/
def toJson (d : DeviceInfo) : Json.Value :=
  .object <|
    [("path", .string d.path), ("transport", .string d.transport.word)] ++
    member? "vid" (fun (n : Nat) => .number n) d.vendor? ++
    member? "pid" (fun (n : Nat) => .number n) d.product? ++
    member? "serial_number" .string d.serialNumber? ++
    member? "manufacturer" .string d.manufacturer? ++
    member? "product" .string d.productName?

/-- Whether the path of a device does not come after that of another. Paths are ordered by
code points, which is the order of their bytes. -/
def notAfter (a b : DeviceInfo) : Bool := !decide (b.path < a.path)

end DeviceInfo

/-- Keeps the first of neighbours with the same path. -/
def keepFirst : List DeviceInfo → List DeviceInfo
  | [] => []
  | d :: rest =>
    d :: match keepFirst rest with
      | [] => []
      | e :: rest => if d.path = e.path then rest else e :: rest

/-- The reported devices, sorted by path, each path once. -/
def listDevices (report : Outcome (List DeviceInfo)) : Outcome (List DeviceInfo) := do
  return keepFirst ((← report).mergeSort DeviceInfo.notAfter)

/-- The first device reported for a path. -/
def findDevice (report : Outcome (List DeviceInfo)) (path : String) :
    Outcome (Option DeviceInfo) := do
  return (← report).find? (·.path == path)

end SerialLine
